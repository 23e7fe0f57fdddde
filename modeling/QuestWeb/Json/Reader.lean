import QuestWeb.Json

/-!
Reading JSON text. `parse?` gives the tree as written, `parseFree?` its canonical form.

The grammar is the strict one: four blanks, no byte-order mark, no control character inside a
string. A container with 127 others around it, a number beyond every double and an unpaired
surrogate are well formed and unreadable.
-/

namespace QuestWeb.Json

def isSpace (c : Char) : Bool :=
  c == ' ' || c == '\t' || c == '\n' || c == '\r'

def skipSpace (chars : List Char) : List Char :=
  chars.dropWhile isSpace

def digit? (c : Char) : Option Nat :=
  if '0' ≤ c && c ≤ '9' then some (c.toNat - 0x30) else none

def largestWord : Nat := UInt64.size - 1

/-- A number being read: `kept * 10 ^ exponent`; `full` once a digit no longer fits. -/
structure Digits where
  kept : Nat
  exponent : Int
  full : Bool

/-- Digits before the point: one that does not fit, and all after it, only raise the exponent. -/
def wholeDigits (d : Digits) : List Char → Digits × List Char
  | [] => (d, [])
  | c :: rest =>
      match digit? c with
      | none => (d, c :: rest)
      | some n =>
          if d.full || largestWord < d.kept * 10 + n then
            wholeDigits ⟨d.kept, d.exponent + 1, true⟩ rest
          else wholeDigits ⟨d.kept * 10 + n, d.exponent, false⟩ rest

def fractionDigits (d : Digits) : List Char → Digits × List Char
  | [] => (d, [])
  | c :: rest =>
      match digit? c with
      | none => (d, c :: rest)
      | some n =>
          if d.full || largestWord < d.kept * 10 + n then
            fractionDigits ⟨d.kept, d.exponent, true⟩ rest
          else fractionDigits ⟨d.kept * 10 + n, d.exponent - 1, false⟩ rest

def exponentDigits (n : Nat) : List Char → Nat × List Char
  | [] => (n, [])
  | c :: rest =>
      match digit? c with
      | none => (n, c :: rest)
      | some k => exponentDigits (n * 10 + k) rest

def startsWithDigit : List Char → Bool
  | c :: _ => (digit? c).isSome
  | [] => false

def exponentPart (chars : List Char) : Option (Option Int × List Char) :=
  match chars with
  | e :: rest =>
      if e == 'e' || e == 'E' then
        let (negative, rest) :=
          match rest with
          | '+' :: rest => (false, rest)
          | '-' :: rest => (true, rest)
          | _ => (false, rest)
        if startsWithDigit rest then
          let (n, rest) := exponentDigits 0 rest
          some (some (if negative then -n else n), rest)
        else none
      else some (none, chars)
  | [] => some (none, [])

/-- `x * 10 ^ e`, by one product or quotient with a power of ten up to the 308th; a lower power is
reached in steps of 308, of which two bring every 64-bit word to zero. `none` beyond the doubles. -/
def scaleTen : Nat → Binary64 → Int → Option Binary64
  | fuel, x, e =>
      if e.natAbs ≤ 308 then
        let power := Binary64.ofNat (Binary64.tenTo e.natAbs)
        if 0 ≤ e then
          let y := x.mul power
          if y.isInfinite then none else some y
        else some (x.div power)
      else if x.isZero then some x
      else if 0 ≤ e then none
      else
        match fuel with
        | 0 => some (Binary64.ofNat 0)
        | fuel + 1 => scaleTen fuel (x.div (Binary64.ofNat (Binary64.tenTo 308))) (e + 308)

def floatValue (negative : Bool) (kept : Nat) (exponent : Int) : Json :=
  match scaleTen 3 (Binary64.ofNat kept) exponent with
  | some x => .num (.float (if negative then x.neg else x))
  | none => .unreadable

/-- Digits alone are an integer while they fit 64 bits. Minus zero is a double. -/
def wholeValue (negative : Bool) (d : Digits) : Json :=
  if d.full then floatValue negative d.kept d.exponent
  else if negative then
    if d.kept = 0 || UInt64.size / 2 < d.kept then floatValue true d.kept 0
    else .num (.int (-d.kept))
  else .num (.int d.kept)

def readNumber (negative : Bool) (chars : List Char) : Option (Json × List Char) :=
  if !startsWithDigit chars then none
  else
    let (whole, rest) :=
      match chars with
      | '0' :: rest => ((⟨0, 0, false⟩ : Digits), rest)
      | _ => wholeDigits ⟨0, 0, false⟩ chars
    if chars.head? == some '0' && startsWithDigit rest then none
    else
      match rest with
      | '.' :: rest =>
          if startsWithDigit rest then
            let (d, rest) := fractionDigits ⟨whole.kept, whole.exponent, false⟩ rest
            (exponentPart rest).map fun (e, rest) =>
              (floatValue negative d.kept (d.exponent + e.getD 0), rest)
          else none
      | _ =>
          (exponentPart rest).map fun (e, rest) =>
            match e with
            | some e => (floatValue negative whole.kept (whole.exponent + e), rest)
            | none => (wholeValue negative whole, rest)

def hexValue? (c : Char) : Option Nat :=
  if '0' ≤ c && c ≤ '9' then some (c.toNat - 0x30)
  else if 'a' ≤ c && c ≤ 'f' then some (c.toNat - 0x57)
  else if 'A' ≤ c && c ≤ 'F' then some (c.toNat - 0x37)
  else none

def hexUnit? (a b c d : Char) : Option Nat := do
  return (← hexValue? a) * 0x1000 + (← hexValue? b) * 0x100 + (← hexValue? c) * 0x10 +
    (← hexValue? d)

def isHighSurrogate (unit : Nat) : Bool := 0xD800 ≤ unit && unit ≤ 0xDBFF

def isLowSurrogate (unit : Nat) : Bool := 0xDC00 ≤ unit && unit ≤ 0xDFFF

def surrogatePair (high low : Nat) : Char :=
  Char.ofNat (0x10000 + (high - 0xD800) * 0x400 + (low - 0xDC00))

def plainEscape? : Char → Option Char
  | '"' => some '"'
  | '\\' => some '\\'
  | '/' => some '/'
  | 'b' => some '\x08'
  | 'f' => some '\x0c'
  | 'n' => some '\n'
  | 'r' => some '\r'
  | 't' => some '\t'
  | _ => none

/-- A string being read: the characters so far, last first, whether every surrogate was paired, and
a high surrogate that waits for its low one. -/
structure Spelling where
  before : List Char
  paired : Bool
  high : Option Nat

namespace Spelling

def start : Spelling := ⟨[], true, none⟩

def char (s : Spelling) (c : Char) : Spelling :=
  ⟨c :: s.before, s.paired && s.high.isNone, none⟩

def unit (s : Spelling) (unit : Nat) : Spelling :=
  if isHighSurrogate unit then ⟨s.before, s.paired && s.high.isNone, some unit⟩
  else if isLowSurrogate unit then
    match s.high with
    | some high => ⟨surrogatePair high unit :: s.before, s.paired, none⟩
    | none => ⟨s.before, false, none⟩
  else s.char (Char.ofNat unit)

def text? (s : Spelling) : Option String :=
  if s.paired && s.high.isNone then some (String.ofList s.before.reverse) else none

end Spelling

def readString (s : Spelling) : List Char → Option (Option String × List Char)
  | [] => none
  | '"' :: rest => some (s.text?, rest)
  | '\\' :: 'u' :: a :: b :: c :: d :: rest =>
      match hexUnit? a b c d with
      | some unit => readString (s.unit unit) rest
      | none => none
  | '\\' :: c :: rest =>
      match plainEscape? c with
      | some c => readString (s.char c) rest
      | none => none
  | c :: rest => if c.toNat < 0x20 then none else readString (s.char c) rest

def deepest : Nat := 127

def container (depth : Nat) (value : Json) : Json :=
  if depth < deepest then value else .unreadable

def object (depth : Nat) (members : List (Option String × Json)) : Json :=
  match members.mapM fun (key, value) => key.map (·, value) with
  | some members => container depth (.obj members)
  | none => .unreadable

mutual

/-- One value and what follows it. Every step eats a character or follows one that did, so fuel of
twice the length never runs out. -/
def readValue : Nat → Nat → List Char → Option (Json × List Char)
  | 0, _, _ => none
  | fuel + 1, depth, chars =>
      match skipSpace chars with
      | 'n' :: 'u' :: 'l' :: 'l' :: rest => some (.null, rest)
      | 't' :: 'r' :: 'u' :: 'e' :: rest => some (.bool true, rest)
      | 'f' :: 'a' :: 'l' :: 's' :: 'e' :: rest => some (.bool false, rest)
      | '"' :: rest =>
          (readString .start rest).map fun (text, rest) =>
            (match text with | some text => .str text | none => .unreadable, rest)
      | '[' :: rest =>
          match skipSpace rest with
          | ']' :: rest => some (container depth (.arr []), rest)
          | rest =>
              (readItems fuel (depth + 1) rest).map fun (items, rest) =>
                (container depth (.arr items), rest)
      | '\x7b' :: rest =>
          match skipSpace rest with
          | '\x7d' :: rest => some (container depth (.obj []), rest)
          | rest =>
              (readMembers fuel (depth + 1) rest).map fun (members, rest) =>
                (object depth members, rest)
      | '-' :: rest => readNumber true rest
      | rest => readNumber false rest

def readItems : Nat → Nat → List Char → Option (List Json × List Char)
  | 0, _, _ => none
  | fuel + 1, depth, chars =>
      match readValue fuel depth chars with
      | none => none
      | some (item, rest) =>
          match skipSpace rest with
          | ']' :: rest => some ([item], rest)
          | ',' :: rest =>
              (readItems fuel depth rest).map fun (items, rest) => (item :: items, rest)
          | _ => none

def readMembers : Nat → Nat → List Char → Option (List (Option String × Json) × List Char)
  | 0, _, _ => none
  | fuel + 1, depth, chars =>
      match skipSpace chars with
      | '"' :: rest =>
          match readString .start rest with
          | none => none
          | some (key, rest) =>
              match skipSpace rest with
              | ':' :: rest =>
                  match readValue fuel depth rest with
                  | none => none
                  | some (item, rest) =>
                      match skipSpace rest with
                      | '\x7d' :: rest => some ([(key, item)], rest)
                      | ',' :: rest =>
                          (readMembers fuel depth rest).map fun (members, rest) =>
                            ((key, item) :: members, rest)
                      | _ => none
              | _ => none
      | _ => none

end

def parse? (text : String) : Option Json :=
  let chars := text.toList
  match readValue (2 * chars.length + 2) 0 chars with
  | some (value, rest) => if (skipSpace rest).isEmpty then some value else none
  | none => none

def parseFree? (text : String) : Option Json :=
  (parse? text).bind free?

end QuestWeb.Json
