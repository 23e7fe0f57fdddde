import QuestWeb.Effect

/-!
Effects and conditions as JSON objects. The key that names the kind of an effect also holds its
first part, so `inc_flag` with a `delta` beside it adds to a flag. Kinds are tried in the order in
which they are declared, and further keys do not matter.
-/

namespace QuestWeb

namespace TeleportTarget

def json (target : TeleportTarget) : Json :=
  .obj (Json.optionalMember "map" (target.map.map .str) ++
    Json.optionalMember "scene" (target.scene.map .str))

def decoder : Decoder TeleportTarget :=
  .record "TeleportTarget" "TeleportTarget" (TeleportTarget.mk
    <$> .withDefault "map" (.optional .string) none
    <*> .withDefault "scene" (.optional .string) none)

end TeleportTarget

namespace Effect

def json : Effect → Json
  | .setFlag name value => .obj [("set_flag", .str name), ("value", value.json)]
  | .incFlag name delta => .obj [("inc_flag", .str name), ("delta", .num (.int delta.toInt))]
  | .startQuest quest => .obj [("start_quest", quest.json)]
  | .completeQuest quest => .obj [("complete_quest", quest.json)]
  | .grantSeal domain => .obj [("grant_seal", .str domain)]
  | .setClause clause => .obj [("set_clause", .str clause)]
  | .setCensureMode mode => .obj [("set_censure_mode", .str mode)]
  | .computeBossUnlock => .obj [("compute_boss_unlock", .bool true)]
  | .teleport target => .obj [("teleport", target.json)]

/-- The forms of an effect, in the order in which they are tried. -/
def forms : List (Fields Effect) := [
    Effect.setFlag <$> .required "set_flag" .string <*> .required "value" FlagValue.decoder,
    Effect.incFlag <$> .required "inc_flag" .string <*> .required "delta" .int64,
    Effect.startQuest <$> .required "start_quest" QuestNum.decoder,
    Effect.completeQuest <$> .required "complete_quest" QuestNum.decoder,
    Effect.grantSeal <$> .required "grant_seal" .string,
    Effect.setClause <$> .required "set_clause" .string,
    Effect.setCensureMode <$> .required "set_censure_mode" .string,
    (fun _ => Effect.computeBossUnlock) <$> .required "compute_boss_unlock" .bool,
    Effect.teleport <$> .required "teleport" TeleportTarget.decoder]

def ofJson? (value : Json) : Option Effect :=
  forms.findSome? (·.ofObject? value)

def decoder : Decoder Effect where
  shape := .any
  read value :=
    match if value.isReadable then ofJson? value else none with
    | some effect => .ok effect
    | none => .error (.noVariant "WireEffect")

end Effect

namespace Condition

mutual

def json : Condition → Json
  | .all conditions => .obj [("all", .arr (jsonList conditions))]
  | .countTrue flags op value =>
      .obj [("count_true", .arr (flags.map .str)), ("op", op.json),
        ("value", .num (.int value.toInt))]
  | .flag name op value => .obj [("flag", .str name), ("op", op.json), ("value", value.json)]

def jsonList : List Condition → List Json
  | [] => []
  | condition :: rest => condition.json :: jsonList rest

end

def plainForms : List (Fields Condition) := [
    Condition.countTrue <$> .required "count_true" (.list .string)
      <*> .required "op" CompareOp.decoder <*> .required "value" .int64,
    Condition.flag <$> .required "flag" .string
      <*> .required "op" CompareOp.decoder <*> .required "value" FlagValue.decoder]

mutual

def ofJson? : Json → Option Condition
  | .obj members =>
      match conjunctions members with
      | [some conditions] => some (.all conditions)
      | _ => plainForms.findSome? (·.ofObject? (.obj members))
  | _ => none

/-- What stands under each `all` of an object, where it is a list of conditions. -/
def conjunctions : List (String × Json) → List (Option (List Condition))
  | [] => []
  | (key, item) :: rest =>
      if key = "all" then listOfJson? item :: conjunctions rest else conjunctions rest

def listOfJson? : Json → Option (List Condition)
  | .arr items => ofItems? items
  | _ => none

def ofItems? : List Json → Option (List Condition)
  | [] => some []
  | item :: rest =>
      match ofJson? item, ofItems? rest with
      | some condition, some conditions => some (condition :: conditions)
      | _, _ => none

end

def decoder : Decoder Condition where
  shape := .any
  read value :=
    match if value.isReadable then ofJson? value else none with
    | some condition => .ok condition
    | none => .error (.noVariant "WireCondition")

end Condition

end QuestWeb
