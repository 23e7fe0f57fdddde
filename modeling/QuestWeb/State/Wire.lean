import QuestWeb.Quest.Wire
import QuestWeb.State

/-!
Game states as JSON. A field that is left out is empty; only the seal threshold has another default.
-/

namespace QuestWeb.GameState

def orNull (value : Option Json) : Json :=
  value.getD .null

def json (state : GameState) : Json :=
  .obj [
    ("scores", .obj (state.scores.toList.map fun (name, value) => (name, .num (.int value.toInt)))),
    ("strings", .obj (state.strings.toList.map fun (name, text) => (name, .str text))),
    ("inventory", Json.strings state.inventory),
    ("active_quest", orNull (state.activeQuest.map QuestNum.json)),
    ("started_quests", state.started.json),
    ("completed_quests", state.completed.json),
    ("current_map", orNull (state.currentMap.map .str)),
    ("current_scene", orNull (state.currentScene.map .str)),
    ("boss_seal_threshold", .num (.int state.bossSealThreshold.toNat))]

def decoder : Decoder GameState :=
  .record "GameState" "GameState" (GameState.mk
    <$> .withDefault "scores" (.dictionary .int64) ∅
    <*> .withDefault "strings" (.dictionary .string) ∅
    <*> .withDefault "inventory" (.list .string) []
    <*> .withDefault "active_quest" (.optional QuestNum.decoder) none
    <*> .withDefault "started_quests" QuestSet.decoder ∅
    <*> .withDefault "completed_quests" QuestSet.decoder ∅
    <*> .withDefault "current_map" (.optional .string) none
    <*> .withDefault "current_scene" (.optional .string) none
    <*> .withDefault "boss_seal_threshold" .uint64 defaultBossSeals)

end QuestWeb.GameState
