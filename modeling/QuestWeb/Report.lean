import QuestWeb.Quest.Wire

/-!
Reports on a dataset: the findings, which fail it, and the warnings, which do not.
-/

namespace QuestWeb

inductive Finding where
  | parse (file message : String)
  | schema (location message : String)
  | referential (location message : String)
  /-- The quests depend on one another in a circle, which closes on its first member. -/
  | graph (quests : List String)
  deriving DecidableEq, Repr

namespace Finding

def kind : Finding → String
  | .parse .. => "parse"
  | .schema .. => "schema"
  | .referential .. => "referential"
  | .graph .. => "graph"

def kinds : List String := ["parse", "schema", "referential", "graph"]

def display : Finding → String
  | .parse file message => "parse error: " ++ file ++ ": " ++ message
  | .schema location message => "schema error: " ++ location ++ ": " ++ message
  | .referential location message => "referential error: " ++ location ++ ": " ++ message
  | .graph quests => "graph error: dependency cycle " ++ " -> ".intercalate quests

def members : Finding → List (String × Json)
  | .parse file message => [("file", .str file), ("message", .str message)]
  | .schema location message | .referential location message =>
      [("location", .str location), ("message", .str message)]
  | .graph quests => [("quests", Json.strings quests)]

def json (finding : Finding) : Json :=
  .obj (("kind", .str finding.kind) :: finding.members)

end Finding

structure Stats where
  quests : Nat
  questDialogs : Nat
  locationDialogs : Nat
  items : Nat
  encounters : Nat
  maps : Nat
  regions : Nat
  deriving DecidableEq, Repr

namespace Stats

def zero : Stats := ⟨0, 0, 0, 0, 0, 0, 0⟩

def json (stats : Stats) : Json :=
  .obj [
    ("quests", .num (.int stats.quests)),
    ("quest_dialogs", .num (.int stats.questDialogs)),
    ("location_dialogs", .num (.int stats.locationDialogs)),
    ("items", .num (.int stats.items)),
    ("encounters", .num (.int stats.encounters)),
    ("maps", .num (.int stats.maps)),
    ("regions", .num (.int stats.regions))]

end Stats

structure Report where
  errors : List Finding
  warnings : List String
  stats : Stats
  deriving DecidableEq, Repr

namespace Report

def empty : Report := ⟨[], [], Stats.zero⟩

def isOk (report : Report) : Bool :=
  report.errors.isEmpty

def add (report : Report) (findings : List Finding) : Report :=
  { report with errors := report.errors ++ findings }

/-- A warning stands once, where it was first given. -/
def warn (report : Report) (warning : String) : Report :=
  if report.warnings.contains warning then report
  else { report with warnings := report.warnings ++ [warning] }

def warnAll (report : Report) (warnings : List String) : Report :=
  warnings.foldl warn report

def count (report : Report) (kind : String) : Nat :=
  report.errors.countP (·.kind == kind)

def counts (report : Report) : List (String × Nat) :=
  Finding.kinds.map fun kind => (kind, report.count kind)

def summary (report : Report) : String :=
  "Summary: " ++ toString report.errors.length ++ " errors, " ++
    toString report.warnings.length ++ " warnings"

def json (report : Report) : Json :=
  .obj [
    ("errors", .arr (report.errors.map Finding.json)),
    ("warnings", Json.strings report.warnings),
    ("stats", report.stats.json)]

end Report

end QuestWeb
