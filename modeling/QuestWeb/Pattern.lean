import QuestWeb.CharSet.Word

/-!
Patterns over texts: characters, sets of characters, assertions on a place, and their sequences,
choices and repetitions. A pattern prefers some of its matches to others: the left side of a choice,
and in a repetition going on (or, if it is lazy, stopping).

`sequence`, `choice` and `times` put patterns together. They keep a pattern in a simple form: no
sequence starts with a sequence, no choice with a choice, neighbouring characters are one text, a
choice between sets is a set, and what all sides of a choice start with stands before it.
-/

namespace QuestWeb

inductive WordPlace where
  | boundary
  | noBoundary
  | start
  | stop
  | startHalf
  | stopHalf
  deriving DecidableEq, Repr

inductive Assertion where
  | textStart
  | textEnd
  /-- Lines end with a line feed or, if `crlf`, with a carriage return, a line feed or both. -/
  | lineStart (crlf : Bool)
  | lineEnd (crlf : Bool)
  | word (place : WordPlace) (ascii : Bool)
  deriving DecidableEq, Repr

structure Place where
  before : Option Char
  after : Option Char
  deriving DecidableEq, Repr

def isWordChar (ascii : Bool) (c : Char) : Bool :=
  (if ascii then CharSet.asciiWord else CharSet.word).has c.toNat

def WordPlace.holds (before after : Bool) : WordPlace → Bool
  | .boundary => before != after
  | .noBoundary => before == after
  | .start => !before && after
  | .stop => before && !after
  | .startHalf => !before
  | .stopHalf => !after

def Assertion.holds (place : Place) : Assertion → Bool
  | .textStart => place.before.isNone
  | .textEnd => place.after.isNone
  | .lineStart false => place.before.all (· == '\n')
  | .lineEnd false => place.after.all (· == '\n')
  | .lineStart true =>
      place.before.all fun c => c == '\n' || (c == '\r' && place.after != some '\n')
  | .lineEnd true =>
      place.after.all fun c => c == '\r' || (c == '\n' && place.before != some '\r')
  | .word kind ascii =>
      kind.holds (place.before.any (isWordChar ascii)) (place.after.any (isWordChar ascii))

inductive Pattern where
  | empty
  | literal (text : List Char)
  | oneOf (set : CharSet)
  | assert (assertion : Assertion)
  | group (index : Nat) (p : Pattern)
  /-- At least `low` times, and at most `high` times if there is such a bound. -/
  | repeated (p : Pattern) (low : Nat) (high : Option Nat) (lazy : Bool)
  | seq (first rest : Pattern)
  | alt (left right : Pattern)
  deriving DecidableEq, Repr

namespace Pattern

def least? : Pattern → Option Nat
  | .empty => some 0
  | .literal text => some text.length
  | .oneOf set => if set.isEmpty then none else some 1
  | .assert _ => some 0
  | .group _ p => p.least?
  | .repeated p low _ _ => p.least?.map (low * ·)
  | .seq first rest =>
      match first.least?, rest.least? with
      | some a, some b => some (a + b)
      | _, _ => none
  | .alt left right =>
      match left.least?, right.least? with
      | some a, some b => some (min a b)
      | _, _ => none

def most? : Pattern → Option Nat
  | .empty => some 0
  | .literal text => some text.length
  | .oneOf set => if set.isEmpty then none else some 1
  | .assert _ => some 0
  | .group _ p => p.most?
  | .repeated p _ high _ =>
      match high, p.most? with
      | some high, some n => some (high * n)
      | _, _ => none
  | .seq first rest =>
      match first.most?, rest.most? with
      | some a, some b => some (a + b)
      | _, _ => none
  | .alt left right =>
      match left.most?, right.most? with
      | some a, some b => some (max a b)
      | _, _ => none

def size : Pattern → Nat
  | .group _ p => p.size + 1
  | .repeated p _ _ _ => p.size + 1
  | .seq first rest => first.size + rest.size + 1
  | .alt left right => left.size + right.size + 1
  | _ => 1

def ofSet (set : CharSet) : Pattern :=
  match set.only? with
  | some code => .literal [Char.ofNat code]
  | none => .oneOf set

def parts : Pattern → List Pattern
  | .empty => []
  | .seq first rest => first :: rest.parts
  | p => [p]

def ofParts : List Pattern → Pattern
  | [] => .empty
  | [p] => p
  | p :: rest => .seq p (ofParts rest)

def joinChars : List Pattern → List Pattern
  | [] => []
  | .literal a :: rest =>
      match joinChars rest with
      | .literal b :: rest => .literal (a ++ b) :: rest
      | rest => .literal a :: rest
  | p :: rest => p :: joinChars rest

def sequence (patterns : List Pattern) : Pattern :=
  ofParts (joinChars (patterns.flatMap parts))

def sides : Pattern → List Pattern
  | .alt left right => left :: right.sides
  | p => [p]

def ofSides : List Pattern → Pattern
  | [] => .oneOf .nothing
  | [p] => p
  | p :: rest => .alt p (ofSides rest)

def char? : Pattern → Option CharSet
  | .literal [c] => some (.single c.toNat)
  | _ => none

def set? : Pattern → Option CharSet
  | .oneOf set => some set
  | _ => none

def shared : List Pattern → List Pattern → List Pattern
  | a :: as, b :: bs => if a = b then a :: shared as bs else []
  | _, _ => []

def sharedByAll (rows : List (List Pattern)) : List Pattern :=
  match rows with
  | [] => []
  | first :: rest => if rows.all (2 ≤ ·.length) then rest.foldl shared first else []

/-- The first of some patterns that matches. Every round takes a part away from each side, so the
size of all is enough for `fuel`. -/
def choiceWithin : Nat → List Pattern → Pattern
  | 0, patterns => ofSides patterns
  | fuel + 1, patterns =>
      let patterns := patterns.flatMap sides
      if patterns.length ≤ 1 then ofSides patterns
      else
        match patterns.mapM char? <|> patterns.mapM set? with
        | some sets => ofSet (CharSet.unions sets)
        | none =>
            let rows := patterns.map parts
            match sharedByAll rows with
            | [] => ofSides patterns
            | first =>
                let rest := rows.map fun row => sequence (row.drop first.length)
                sequence (first ++ [choiceWithin fuel rest])

def choice (patterns : List Pattern) : Pattern :=
  choiceWithin (patterns.foldl (fun fuel p => fuel + p.size) 0) patterns

/-- A repetition. What matches the empty text only need not be repeated. -/
def times (p : Pattern) (low : Nat) (high : Option Nat) (lazy : Bool) : Pattern :=
  let (low, high) :=
    if p.most? = some 0 then (min low 1, some (min (high.getD 1) 1)) else (low, high)
  match low, high with
  | 0, some 0 => .empty
  | 1, some 1 => p
  | low, high => .repeated p low high lazy

end Pattern

end QuestWeb
