import QuestWeb.Dataset
import QuestWeb.Pattern.Match

/-!
Scans of whole documents, whatever their form: the keys that name the location of a next quest, and
identifiers that are spelled out in prose. A place is given by the keys and indices that lead to it,
each behind a slash.
-/

namespace QuestWeb

mutual

/-- Every object of a document, outer ones first, with its place. -/
def Json.objects (pointer : String) : Json → List (String × List (String × Json))
  | .arr items => itemObjects pointer 0 items
  | .obj members => (pointer, members) :: memberObjects pointer members
  | _ => []

def Json.itemObjects (pointer : String) (index : Nat) :
    List Json → List (String × List (String × Json))
  | [] => []
  | item :: rest =>
      Json.objects (pointer ++ "/" ++ toString index) item ++
        Json.itemObjects pointer (index + 1) rest

def Json.memberObjects (pointer : String) :
    List (String × Json) → List (String × List (String × Json))
  | [] => []
  | (key, item) :: rest =>
      Json.objects (pointer ++ "/" ++ key) item ++ Json.memberObjects pointer rest

end

def startNextKey : String := "start_next_available_quest"

def proseKeys : List String :=
  ["text", "speaker", "name", "narrative_premise", "player_motivation"]

structure StartNextRef where
  file : String
  pointer : String
  key : String
  deriving DecidableEq, Repr

/-- The location that a value names; one that is no text by its JSON text. -/
def startNextLocation : Json → String
  | .null => ""
  | .str text => locationKey text
  | value => locationKey value.compact

def startNextRefs (document : Document) : List StartNextRef :=
  (document.value.objects "").filterMap fun (pointer, members) =>
    match Json.member? startNextKey members with
    | none => none
    | some value =>
        let key := startNextLocation value
        if key = "" then none else some ⟨document.file, pointer, key⟩

def questLocations (quests : List Quest) : Std.ExtTreeSet String :=
  Std.ExtTreeSet.ofList (quests.filterMap Quest.locationKey?)

structure DialogAudit where
  questLocations : Std.ExtTreeSet String
  used : Std.ExtTreeMap String (Std.ExtTreeSet String)
  unknown : List StartNextRef

namespace DialogAudit

def isOk (audit : DialogAudit) : Bool :=
  audit.unknown.isEmpty

def finding (ref : StartNextRef) : Finding :=
  .referential (ref.file ++ "#" ++ ref.pointer)
    (startNextKey ++ " '" ++ ref.key ++ "' is not a quest location")

def findings (audit : DialogAudit) : List Finding :=
  audit.unknown.map finding

def ofRefs (locations : Std.ExtTreeSet String) (refs : List StartNextRef) : DialogAudit where
  questLocations := locations
  used :=
    refs.foldl
      (fun used ref => used.insert ref.key (((used[ref.key]?).getD ∅).insert ref.file)) ∅
  unknown := refs.filter fun ref => !locations.contains ref.key

def ofDataset (dataset : Dataset) : DialogAudit :=
  ofRefs (QuestWeb.questLocations dataset.quests)
    ((dataset.questDialogs.values ++ dataset.locationDialogs.values).flatMap startNextRefs)

end DialogAudit

structure InlineIdHit where
  file : String
  pointer : String
  id : String
  deriving DecidableEq, Repr

def InlineIdHit.finding (hit : InlineIdHit) : Finding :=
  .referential (hit.file ++ "#" ++ hit.pointer)
    ("inline identifier '" ++ hit.id ++ "' outside the canonical definitions")

def inlineIds (pattern : Automaton) (document : Document) : List InlineIdHit :=
  (document.value.objects "").flatMap fun (pointer, members) =>
    proseKeys.flatMap fun key =>
      match Json.member? key members with
      | some (.str text) =>
          (pattern.findAll text).map fun id => ⟨document.file, pointer ++ "/" ++ key, id⟩
      | _ => []

end QuestWeb
