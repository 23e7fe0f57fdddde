import QuestWeb.Dialog
import QuestWeb.Effect.Wire

/-!
Dialogs as JSON. Empty lists and the mark of a node that is not terminal are left out; `terminal` is
another name of the mark `end`.
-/

namespace QuestWeb

def Json.listMember (key : String) (items : List Json) : List (String × Json) :=
  if items.isEmpty then [] else [(key, .arr items)]

namespace Choice

def json (choice : Choice) : Json :=
  .obj ([("text", .str choice.text), ("next", .str choice.next)] ++
    Json.listMember "effects" (choice.effects.map Effect.json) ++
    Json.listMember "conditions" (choice.conditions.map Condition.json) ++
    Json.optionalMember "start_next_available_quest" (choice.startNext.map .str))

def decoder : Decoder Choice :=
  .record "Choice" "Choice" (Choice.mk
    <$> .required "text" .string
    <*> .required "next" .string
    <*> .withDefault "effects" (.list Effect.decoder) []
    <*> .withDefault "conditions" (.list Condition.decoder) []
    <*> .withDefault "start_next_available_quest" (.optional .string) none)

end Choice

namespace Node

def json (node : Node) : Json :=
  .obj ([("speaker", .str node.speaker), ("text", .str node.text)] ++
    Json.listMember "choices" (node.choices.map Choice.json) ++
    if node.terminal then [("end", .bool true)] else [])

def decoder : Decoder Node :=
  .record "Node" "Node" (Node.mk
    <$> .required "speaker" .string
    <*> .required "text" .string
    <*> .withDefault "choices" (.list Choice.decoder) []
    <*> .field "end" ["terminal"] .bool (some false))

end Node

namespace Dialog

def json (dialog : Dialog) : Json :=
  .obj (Json.optionalMember "quest_id" (dialog.quest.map QuestNum.json) ++
    [("start", .str dialog.start),
      ("nodes", .obj (dialog.nodes.toList.map fun (id, node) => (id, node.json)))])

def decoder : Decoder Dialog :=
  .record "DialogGraph" "DialogGraph" (Dialog.mk
    <$> .withDefault "quest_id" (.optional QuestNum.decoder) none
    <*> .withDefault "start" .string ""
    <*> .withDefault "nodes" (.dictionary Node.decoder) ∅)

end Dialog

end QuestWeb
