/-!
Double-precision numbers by their bits. Arithmetic is exact on ratios of naturals and rounds once,
to the nearest double, ties to the even significand; a result beyond the largest double is infinite.
-/

namespace QuestWeb

/-- A double, as the sign bit, the biased exponent and the fraction packed in one word. -/
structure Binary64 where
  bits : UInt64
  deriving DecidableEq, Repr

namespace Binary64

abbrev twoTo (k : Nat) : Nat := Nat.pow 2 k

abbrev tenTo (k : Nat) : Nat := Nat.pow 10 k

def infiniteMagnitude : Nat := 2047 * twoTo 52

def signBit : Nat := twoTo 63

def magnitude (x : Binary64) : Nat := x.bits.toNat % signBit

def isNegative (x : Binary64) : Bool := signBit ≤ x.bits.toNat

def isInfinite (x : Binary64) : Bool := infiniteMagnitude ≤ x.magnitude

def isZero (x : Binary64) : Bool := x.magnitude == 0

def ofMagnitude (magnitude : Nat) : Binary64 := ⟨magnitude.toUInt64⟩

def neg (x : Binary64) : Binary64 :=
  ⟨(if x.isNegative then x.magnitude else x.magnitude + signBit).toUInt64⟩

def significand (x : Binary64) : Nat :=
  let fraction := x.magnitude % twoTo 52
  if x.magnitude < twoTo 52 then fraction else fraction + twoTo 52

def exponent (x : Binary64) : Int :=
  (max (x.magnitude / twoTo 52) 1 : Nat) - 1075

def scale (num den : Nat) (e : Int) : Nat × Nat :=
  if 0 ≤ e then (num, den * twoTo e.toNat) else (num * twoTo (-e).toNat, den)

def roundHalfEven (num den : Nat) : Nat :=
  let floor := num / den
  let rest := num % den
  if 2 * rest < den then floor
  else if den < 2 * rest then floor + 1
  else floor + floor % 2

/-- The exponent at which `num / den` has a significand of 53 bits, or the least exponent there
is. -/
def ratioExponent (num den : Nat) : Int :=
  let low := max ((num.log2 : Int) - den.log2 - 53) (-1074)
  let (n, d) := scale num den low
  if n / d < twoTo 53 then low else low + 1

/-- The magnitude of the double nearest to `num / den`. A significand that rounds up to `2 ^ 53`
carries into the exponent by itself. -/
def ratioMagnitude (num den : Nat) : Nat :=
  if num = 0 then 0
  else
    let e := ratioExponent num den
    let (n, d) := scale num den e
    let m := roundHalfEven n d
    if m < twoTo 52 then m else min ((e + 1074).toNat * twoTo 52 + m) infiniteMagnitude

def ofRatio (num den : Nat) : Binary64 := ofMagnitude (ratioMagnitude num den)

def ofNat (n : Nat) : Binary64 := ofRatio n 1

def ofInt (n : Int) : Binary64 :=
  if n < 0 then (ofNat n.natAbs).neg else ofNat n.natAbs

def ratio (x : Binary64) : Nat × Nat :=
  let e := x.exponent
  if 0 ≤ e then (x.significand * twoTo e.toNat, 1) else (x.significand, twoTo (-e).toNat)

def mul (x y : Binary64) : Binary64 :=
  ofRatio (x.ratio.1 * y.ratio.1) (x.ratio.2 * y.ratio.2)

def div (x y : Binary64) : Binary64 :=
  ofRatio (x.ratio.1 * y.ratio.2) (x.ratio.2 * y.ratio.1)

end Binary64

end QuestWeb
