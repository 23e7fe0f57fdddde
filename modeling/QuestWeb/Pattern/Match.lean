import Std.Data.HashSet
import QuestWeb.Pattern.Automaton

/-!
Matching. Threads follow the automaton through a text, the most preferred first, and no state has
two of them at a place. As long as there is no match a thread begins at every place, after those
that began before it. A thread that is done ends all that come after it; the last one that is done
is the match.
-/

namespace QuestWeb.Automaton

structure Thread where
  state : Nat
  skipped : Nat
  deriving DecidableEq, Repr

/-- What can be eaten at a place, and where that leads, in the order of preference; and where the
match began that is done there. Nothing behind that is of use. -/
structure Front where
  moves : List (CharSet × Thread)
  done : Option Nat

/-- Follows the threads of a stack up to states that eat. Every state leads to two others at most,
so twice the number of states and the length of the stack are enough for `fuel`. -/
def reach (automaton : Automaton) (place : Place) :
    Nat → List Thread → Std.HashSet Nat → List (CharSet × Thread) → Front
  | 0, _, _, moves => ⟨moves.reverse, none⟩
  | _, [], _, moves => ⟨moves.reverse, none⟩
  | fuel + 1, thread :: stack, seen, moves =>
      if seen.contains thread.state then reach automaton place fuel stack seen moves
      else
        let seen := seen.insert thread.state
        let onward (state : Nat) : Thread := ⟨state, thread.skipped⟩
        match automaton.states[thread.state]? with
        | some .done => ⟨moves.reverse, some thread.skipped⟩
        | some (.eat set next) =>
            reach automaton place fuel stack seen ((set, onward next) :: moves)
        | some (.check assertion next) =>
            let stack := if assertion.holds place then onward next :: stack else stack
            reach automaton place fuel stack seen moves
        | some (.fork choices) =>
            reach automaton place fuel (choices.map onward ++ stack) seen moves
        | none => reach automaton place fuel stack seen moves

def front (automaton : Automaton) (place : Place) (threads : List Thread) : Front :=
  reach automaton place (threads.length + 2 * automaton.states.size + 1) threads ∅ []

def Front.eat (front : Front) (c : Char) : List Thread :=
  front.moves.filterMap fun (set, thread) => if set.has c.toNat then some thread else none

structure Found where
  skipped : Nat
  length : Nat
  deriving DecidableEq, Repr

def Front.best (front : Front) (eaten : Nat) (best : Option Found) : Option Found :=
  match front.done with
  | some skipped => some ⟨skipped, eaten - skipped⟩
  | none => best

def started (automaton : Automaton) (threads : List Thread) (eaten : Nat) (best : Option Found) :
    List Thread :=
  if best.isSome then threads else threads ++ [⟨automaton.start, eaten⟩]

/-- Follows the threads through the text behind `before`; `eaten` characters were eaten so far, and
`best` is the best match met on the way. -/
def follow (automaton : Automaton) (threads : List Thread) (before : Option Char) (eaten : Nat)
    (best : Option Found) : List Char → Option Found
  | [] => (automaton.front ⟨before, none⟩ (automaton.started threads eaten best)).best eaten best
  | c :: rest =>
      let front := automaton.front ⟨before, some c⟩ (automaton.started threads eaten best)
      match front.best eaten best, front.eat c with
      | some best, [] => some best
      | best, next => follow automaton next (some c) (eaten + 1) best rest

def search? (automaton : Automaton) (before : Option Char) (chars : List Char) : Option Found :=
  automaton.follow [] before 0 none chars

def isFound (automaton : Automaton) (text : String) : Bool :=
  (automaton.search? none text.toList).isSome

/-- All matches from left to right, none within another. An empty match may not stand directly
behind the match before it (`behind`). -/
def matchesIn (automaton : Automaton) (behind : Bool) (before : Option Char) :
    List Char → List (List Char)
  | [] => if (automaton.search? before []).isSome && !behind then [[]] else []
  | c :: rest =>
      match automaton.search? before (c :: rest) with
      | none => []
      | some found =>
          match found.skipped + found.length with
          | 0 =>
              let others := matchesIn automaton false (some c) rest
              if behind then others else [] :: others
          | n + 1 =>
              let passed := c :: rest.take n
              passed.drop found.skipped ::
                matchesIn automaton true passed.getLast? (rest.drop n)
  termination_by chars => chars.length

def findAll (automaton : Automaton) (text : String) : List String :=
  (automaton.matchesIn false none text.toList).map String.ofList

end QuestWeb.Automaton
