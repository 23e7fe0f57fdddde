import QuestWeb.Pattern

/-!
The automaton of a pattern. Its states eat a character, ask for an assertion, or fork into others in
the order of preference. A repetition of something that can be empty is made so that every round is
entered once at a place: it goes round again behind its body, and what skips it altogether forks off
before.
-/

namespace QuestWeb

namespace Automaton

inductive State where
  | done
  | eat (set : CharSet) (next : Nat)
  | check (assertion : Assertion) (next : Nat)
  | fork (choices : List Nat)
  deriving DecidableEq, Repr

abbrev Making := StateM (Array State)

def add (state : State) : Making Nat :=
  modifyGet fun states => (states.size, states.push state)

def goOrStop (lazy : Bool) (go stop : Nat) : State :=
  .fork (if lazy then [stop, go] else [go, stop])

/-- A body that may be gone through again. Answers the entry of the body and the state behind it. -/
def again (body : Nat → Making Nat) (lazy : Bool) (next : Nat) : Making (Nat × Nat) := do
  let back ← add .done
  let entry ← body back
  modify fun states => states.setIfInBounds back (goOrStop lazy entry next)
  return (entry, back)

def copies (body : Nat → Making Nat) : Nat → Nat → Making Nat
  | 0, next => pure next
  | count + 1, next => do copies body count (← body next)

def upTo (body : Nat → Making Nat) (lazy : Bool) (next : Nat) : Nat → Making Nat
  | 0 => pure next
  | limit + 1 => do
      let entry ← body (← upTo body lazy next limit)
      add (goOrStop lazy entry next)

def enter : Pattern → Nat → Making Nat
  | .empty, next => pure next
  | .literal text, next =>
      text.foldrM (fun c next => add (.eat (CharSet.single c.toNat) next)) next
  | .oneOf set, next => add (.eat set next)
  | .assert assertion, next => add (.check assertion next)
  | .group _ p, next => enter p next
  | .seq first rest, next => do enter first (← enter rest next)
  | .alt left right, next => do
      let right ← enter right next
      let left ← enter left next
      add (.fork [left, right])
  | .repeated p 0 none lazy, next => do
      let (entry, back) ← again (enter p) lazy next
      if p.least?.any (0 < ·) then return back else add (goOrStop lazy entry next)
  | .repeated p (low + 1) none lazy, next => do
      let (entry, _) ← again (enter p) lazy next
      copies (enter p) low entry
  | .repeated p low (some high) lazy, next => do
      copies (enter p) low (← upTo (enter p) lazy next (high - low))

end Automaton

structure Automaton where
  states : Array Automaton.State
  start : Nat
  deriving Repr

def Pattern.automaton (p : Pattern) : Automaton :=
  let (start, states) := (Automaton.enter p 0).run #[.done]
  ⟨states, start⟩

end QuestWeb
