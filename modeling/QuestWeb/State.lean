import QuestWeb.Flag
import QuestWeb.QuestNum

/-!
The state of a game: numeric and textual flags, the quests started and completed, and where the
player stands.
-/

namespace QuestWeb

namespace FlagName

def clause : String := "CLAUSE_SET"

def censureMode : String := "CENSURE_MODE"

def bossUnlocked : String := "BOSS_UNLOCKED"

def keystoneDone : String := "KEYSTONE_TRIAL_DONE"

def ending : String := "ENDING_ID"

def censureScore : String := "CENSURE"

def sealPrefix : String := "SEAL_"

def sealOf (domain : String) : String :=
  sealPrefix ++ domain

def domainScore (domain : String) : String :=
  "DOMAIN_" ++ domain ++ "_SCORE"

def isSeal (name : String) : Bool :=
  sealPrefix.toList.isPrefixOf name.toList

end FlagName

def censureUnresolved : String := "unresolved"

def defaultBossSeals : UInt64 := 3

structure GameState where
  /-- Numeric flags; a truth value is stored as nought or one. -/
  scores : Std.ExtTreeMap String Int64
  strings : Std.ExtTreeMap String String
  inventory : List String
  activeQuest : Option QuestNum
  started : QuestSet
  completed : QuestSet
  currentMap : Option String
  currentScene : Option String
  bossSealThreshold : UInt64
  deriving DecidableEq

namespace GameState

def initial : GameState where
  scores := ∅
  strings := (∅ : Std.ExtTreeMap String String)
    |>.insert FlagName.clause "" |>.insert FlagName.censureMode censureUnresolved
  inventory := []
  activeQuest := none
  started := ∅
  completed := ∅
  currentMap := none
  currentScene := none
  bossSealThreshold := defaultBossSeals

/-- A text flag hides a numeric one of the same name. -/
def flag? (state : GameState) (name : String) : Option FlagValue :=
  match state.strings[name]? with
  | some text => some (.text text)
  | none => (state.scores[name]?).map .int

def score (state : GameState) (name : String) : Int64 :=
  (state.scores[name]?).getD 0

def text (state : GameState) (name : String) : String :=
  (state.strings[name]?).getD ""

def isTrue (state : GameState) (name : String) : Bool :=
  match state.flag? name with
  | some (.int n) => n != 0
  | some (.bool b) => b
  | some (.text text) => text != ""
  | none => false

def sealCount (state : GameState) : Nat :=
  (state.scores.toList.filter fun (name, value) => FlagName.isSeal name && value != 0).length

def isStarted (state : GameState) (quest : QuestNum) : Bool :=
  state.started.contains quest

def isCompleted (state : GameState) (quest : QuestNum) : Bool :=
  state.completed.contains quest

end GameState

end QuestWeb
