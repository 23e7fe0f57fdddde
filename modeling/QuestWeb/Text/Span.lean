/-!
Ranges of code points, the building blocks of the character tables.
-/

namespace QuestWeb.Text

structure Span where
  lo : Nat
  hi : Nat
  deriving DecidableEq, Repr

def Span.has (span : Span) (code : Nat) : Bool :=
  span.lo ≤ code && code ≤ span.hi

def inSpans (spans : List Span) (code : Nat) : Bool :=
  spans.any (·.has code)

/-- Every `step`-th code point from `lo` to `hi` is sent `delta` places on. -/
structure Shift where
  lo : Nat
  hi : Nat
  step : Nat
  delta : Int
  deriving DecidableEq, Repr

def Shift.moves (shift : Shift) (code : Nat) : Bool :=
  shift.lo ≤ code && code ≤ shift.hi && (code - shift.lo) % shift.step == 0

def Shift.target (shift : Shift) (code : Nat) : Nat :=
  ((code : Int) + shift.delta).toNat

/-- The first shift that moves `code` decides. -/
def shifted? (shifts : List Shift) (code : Nat) : Option Nat :=
  (shifts.find? (·.moves code)).map (·.target code)

def unshifted (shifts : List Shift) (target : Nat) : List Nat :=
  shifts.filterMap fun shift =>
    let code := ((target : Int) - shift.delta).toNat
    if shift.moves code && shift.target code == target then some code else none

end QuestWeb.Text
