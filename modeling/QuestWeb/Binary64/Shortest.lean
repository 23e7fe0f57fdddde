import QuestWeb.Binary64

/-!
The shortest decimal that reads back as a given double. The decimals of `count` digits form a grid
around the value; the first grid with a point in the interval that rounds to the value wins, and on
it the point nearest to the value. Of two that are as near the one with an even last digit wins.
-/

namespace QuestWeb.Binary64

structure Decimal where
  digits : Nat
  exponent : Int
  deriving DecidableEq, Repr

def tenScale (num den : Nat) (e : Int) : Nat × Nat :=
  if 0 ≤ e then (num, den * tenTo e.toNat) else (num * tenTo (-e).toNat, den)

def atLeastTen (num den : Nat) (e : Int) : Bool :=
  let (n, d) := tenScale num den e
  d ≤ n

def leadingExponent (num den : Nat) : Int :=
  let guess := ((num.log2 : Int) - den.log2) * 30103 / 100000
  if atLeastTen num den (guess + 1) then guess + 1
  else if atLeastTen num den guess then guess
  else guess - 1

/-- The reals that round to a double: `centre ± one half step`, all over `4 * 2 ^ -exponent`. The
lower half step is halved at a power of two, where the spacing below is finer. -/
structure Basin where
  low : Nat
  centre : Nat
  high : Nat
  closed : Bool

def basin (x : Binary64) : Basin :=
  let m := x.significand
  let narrow := m == twoTo 52 && twoTo 53 ≤ x.magnitude
  { low := 4 * m - (if narrow then 1 else 2), centre := 4 * m, high := 4 * m + 2,
    closed := m % 2 == 0 }

def Basin.has (b : Basin) (unit : Nat × Nat) (point : Nat × Nat) : Bool :=
  let at_ (n : Nat) := n * unit.1 * point.2
  let p := point.1 * unit.2
  if b.closed then at_ b.low ≤ p && p ≤ at_ b.high else at_ b.low < p && p < at_ b.high

def gridPoint? (b : Basin) (unit : Nat × Nat) (e : Int) : Option Decimal :=
  let (n, d) := tenScale (b.centre * unit.1) unit.2 e
  let below := n / d
  let point (k : Nat) : Nat × Nat :=
    if 0 ≤ e then (k * tenTo e.toNat, 1) else (k, tenTo (-e).toNat)
  let lowIn := b.has unit (point below)
  let highIn := b.has unit (point (below + 1))
  if lowIn && (!highIn || roundHalfEven n d == below) then some ⟨below, e⟩
  else if highIn then some ⟨below + 1, e⟩
  else none

def firstGrid (b : Basin) (unit : Nat × Nat) (leading : Int) : Nat → Nat → Option Decimal
  | _, 0 => none
  | count, fuel + 1 =>
      match gridPoint? b unit (leading - count) with
      | some point => some point
      | none => firstGrid b unit leading (count + 1) fuel

/-- A grid point may end in a zero only when it is a power of ten. -/
def Decimal.trimmed (d : Decimal) : Nat → Decimal
  | 0 => d
  | fuel + 1 =>
      if d.digits % 10 == 0 && d.digits != 0 then
        Decimal.trimmed ⟨d.digits / 10, d.exponent + 1⟩ fuel
      else d

def shortest (x : Binary64) : Decimal :=
  if x.isZero then ⟨0, 0⟩
  else
    let e := x.exponent - 2
    let unit : Nat × Nat := if 0 ≤ e then (twoTo e.toNat, 1) else (1, twoTo (-e).toNat)
    let b := x.basin
    let leading := leadingExponent (b.centre * unit.1) unit.2
    ((firstGrid b unit leading 0 17).getD ⟨0, 0⟩).trimmed 20

end QuestWeb.Binary64
