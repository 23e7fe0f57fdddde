import QuestWeb.Effect
import QuestWeb.State
import QuestWeb.Text.Case

/-!
Effects applied to a state.
-/

namespace QuestWeb

def saturatingAdd (a b : Int64) : Int64 :=
  Int64.ofInt (max Int64.minValue.toInt (min Int64.maxValue.toInt (a.toInt + b.toInt)))

namespace GameState

def setScore (state : GameState) (name : String) (value : Int64) : GameState :=
  { state with scores := state.scores.insert name value }

def setText (state : GameState) (name : String) (value : String) : GameState :=
  { state with strings := state.strings.insert name value }

/-- A flag changes its kind when it is set to a value of the other kind. -/
def setFlag (state : GameState) (name : String) : FlagValue → GameState
  | .text value => { state with scores := state.scores.erase name }.setText name value
  | .bool value =>
      { state with strings := state.strings.erase name }.setScore name (boolScore value)
  | .int value => { state with strings := state.strings.erase name }.setScore name value

def start (state : GameState) (quest : QuestNum) : GameState :=
  { state with started := state.started.insert quest, activeQuest := some quest }

def complete (state : GameState) (quest : QuestNum) : GameState :=
  { state with
    started := state.started.insert quest
    completed := state.completed.insert quest
    activeQuest := if state.activeQuest = some quest then none else state.activeQuest }

def isBossUnlocked (state : GameState) : Bool :=
  state.bossSealThreshold.toNat ≤ state.sealCount

def apply (state : GameState) : Effect → GameState
  | .setFlag name value => state.setFlag name value
  | .incFlag name delta => state.setScore name (saturatingAdd (state.score name) delta)
  | .startQuest quest => state.start quest
  | .completeQuest quest => state.complete quest
  | .grantSeal domain => state.setScore (FlagName.sealOf (Text.upper domain)) 1
  | .setClause clause =>
      if state.text FlagName.clause = "" then state.setText FlagName.clause clause else state
  | .setCensureMode mode => state.setText FlagName.censureMode mode
  | .computeBossUnlock => state.setScore FlagName.bossUnlocked (boolScore state.isBossUnlocked)
  | .teleport target =>
      { state with
        currentMap := target.map <|> state.currentMap
        currentScene := target.scene <|> state.currentScene }

def applyAll (state : GameState) (effects : List Effect) : GameState :=
  effects.foldl apply state

end GameState

end QuestWeb
