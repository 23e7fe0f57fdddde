import QuestWeb.Effect
import QuestWeb.State

/-!
Conditions read in a state.
-/

namespace QuestWeb.GameState

/-- A flag as text: a number is spelled out, and a flag that is not set reads as the empty text. -/
def flagText (state : GameState) (name : String) : String :=
  match state.flag? name with
  | some (.text text) => text
  | some (.int n) => toString n.toInt
  | some (.bool b) => toString (boolScore b).toInt
  | none => ""

def compareText (state : GameState) (name : String) (op : CompareOp) (expected : String) : Bool :=
  op.isEquality && op.holds (compare (state.flagText name) expected)

/-- A flag that is not set, or empty, counts as zero; any other text differs from every number. -/
def compareNumber (state : GameState) (name : String) (op : CompareOp) (expected : Int64) : Bool :=
  match state.flag? name with
  | some (.text text) =>
      if text = "" then op.holds (compare 0 expected) else op = .ne
  | some (.int n) => op.holds (compare n expected)
  | some (.bool b) => op.holds (compare (boolScore b) expected)
  | none => op.holds (compare 0 expected)

def compareFlag (state : GameState) (name : String) (op : CompareOp) : FlagValue → Bool
  | .text expected => state.compareText name op expected
  | .int expected => state.compareNumber name op expected
  | .bool expected => state.compareNumber name op (boolScore expected)

/-- How many of the names, repetitions included, are true flags. -/
def countTrue (state : GameState) (names : List String) : Nat :=
  (names.filter state.isTrue).length

mutual

def holds (state : GameState) : Condition → Bool
  | .flag name op value => state.compareFlag name op value
  | .countTrue names op value => op.holds (compare (state.countTrue names : Int) value.toInt)
  | .all conditions => holdsAll state conditions

def holdsAll (state : GameState) : List Condition → Bool
  | [] => true
  | condition :: rest => holds state condition && holdsAll state rest

end

end QuestWeb.GameState
