import QuestWeb.Ron

/-!
Reading RON text. Line comments and nested block comments count as blanks, a comma may follow the
last part of a container, and whole numbers may be grouped with `_` or written in base 2, 8 or 16.
-/

namespace QuestWeb.Ron

/-- Between two values: in blanks, in a line comment, or in a block comment with `around` others
around it. -/
inductive Gap where
  | blank
  | line
  | block (around : Nat)

def isSpace (c : Char) : Bool :=
  c == ' ' || c == '\t' || c == '\n' || c == '\r'

def skipGap : Gap → List Char → Option (List Char)
  | .blank, '/' :: '/' :: rest => skipGap .line rest
  | .blank, '/' :: '*' :: rest => skipGap (.block 0) rest
  | .blank, '/' :: _ => none
  | .blank, c :: rest => if isSpace c then skipGap .blank rest else some (c :: rest)
  | .blank, [] => some []
  | .line, '\n' :: rest => skipGap .blank rest
  | .line, _ :: rest => skipGap .line rest
  | .line, [] => some []
  | .block around, '/' :: '*' :: rest => skipGap (.block (around + 1)) rest
  | .block 0, '*' :: '/' :: rest => skipGap .blank rest
  | .block (around + 1), '*' :: '/' :: rest => skipGap (.block around) rest
  | .block around, _ :: rest => skipGap (.block around) rest
  | .block _, [] => none

def skip (chars : List Char) : Option (List Char) :=
  skipGap .blank chars

def isNameStart (c : Char) : Bool :=
  ('a' ≤ c && c ≤ 'z') || ('A' ≤ c && c ≤ 'Z') || c == '_'

def isNameChar (c : Char) : Bool :=
  isNameStart c || ('0' ≤ c && c ≤ '9')

def isRawNameChar (c : Char) : Bool :=
  isNameChar c || c == '.' || c == '+' || c == '-'

def beginsRaw : List Char → Bool
  | 'r' :: '#' :: _ => true
  | _ => false

def takeName (isPart : Char → Bool) (chars : List Char) : String × List Char :=
  (String.ofList (chars.takeWhile isPart), chars.dropWhile isPart)

/-- A name at the head of the text. An `r` before a quote opens a raw text instead. -/
def name? : List Char → Option (String × List Char)
  | 'r' :: '"' :: _ => none
  | 'r' :: '#' :: c :: rest =>
      if isRawNameChar c then some (takeName isRawNameChar (c :: rest)) else none
  | c :: rest => if isNameStart c then some (takeName isNameChar (c :: rest)) else none
  | [] => none

def hexDigit? (c : Char) : Option Nat :=
  if '0' ≤ c && c ≤ '9' then some (c.toNat - 0x30)
  else if 'a' ≤ c && c ≤ 'f' then some (c.toNat - 0x57)
  else if 'A' ≤ c && c ≤ 'F' then some (c.toNat - 0x37)
  else none

def charOf? (code : Nat) : Option Char :=
  if code.isValidChar then some (Char.ofNat code) else none

def unicodeEscape? (code : Nat) : Nat → List Char → Option (Char × List Char)
  | _, '\x7d' :: rest => (charOf? code).map (·, rest)
  | room + 1, c :: rest =>
      match hexDigit? c with
      | some digit => unicodeEscape? (code * 16 + digit) room rest
      | none => none
  | _, _ => none

def escape? : List Char → Option (Char × List Char)
  | '\'' :: rest => some ('\'', rest)
  | '"' :: rest => some ('"', rest)
  | '\\' :: rest => some ('\\', rest)
  | 'n' :: rest => some ('\n', rest)
  | 'r' :: rest => some ('\r', rest)
  | 't' :: rest => some ('\t', rest)
  | '0' :: rest => some ('\x00', rest)
  | 'x' :: a :: b :: rest =>
      match hexDigit? a, hexDigit? b with
      | some high, some low => some (Char.ofNat (high * 16 + low), rest)
      | _, _ => none
  | 'u' :: '\x7b' :: c :: rest =>
      if c = '\x7d' then none else unicodeEscape? 0 6 (c :: rest)
  | _ => none

/-- A text up to its closing quote; `before` holds its characters so far, last first. Fuel of the
length of the text never runs out. -/
def textFrom? : Nat → List Char → List Char → Option (String × List Char)
  | 0, _, _ => none
  | _, before, '"' :: rest => some (String.ofList before.reverse, rest)
  | fuel + 1, before, '\\' :: rest =>
      match escape? rest with
      | some (c, rest) => textFrom? fuel (c :: before) rest
      | none => none
  | fuel + 1, before, c :: rest => textFrom? fuel (c :: before) rest
  | _, _, [] => none

def rawTextFrom? (hashes : List Char) (before : List Char) :
    List Char → Option (String × List Char)
  | [] => none
  | '"' :: rest =>
      if hashes.isPrefixOf rest then
        some (String.ofList before.reverse, rest.drop hashes.length)
      else rawTextFrom? hashes ('"' :: before) rest
  | c :: rest => rawTextFrom? hashes (c :: before) rest

def rawText? (chars : List Char) : Option (String × List Char) :=
  match chars.dropWhile (· == '#') with
  | '"' :: rest => rawTextFrom? (chars.takeWhile (· == '#')) [] rest
  | _ => none

def letter? : List Char → Option (List Char)
  | '\\' :: rest =>
      match escape? rest with
      | some (_, '\'' :: rest) => some rest
      | _ => none
  | '\'' :: _ => none
  | _ :: '\'' :: rest => some rest
  | _ => none

def isWholeChar (c : Char) : Bool :=
  (hexDigit? c).isSome || c == '_'

def isRealChar (c : Char) : Bool :=
  ('0' ≤ c && c ≤ '9') || c == 'e' || c == 'E' || c == '.' || c == '+' || c == '-' || c == '_'

def wholeFrom? (base value : Nat) : List Char → Option Nat
  | [] => some value
  | '_' :: rest => wholeFrom? base value rest
  | c :: rest =>
      match hexDigit? c with
      | some digit => if digit < base then wholeFrom? base (value * base + digit) rest else none
      | none => none

def wholeIn? (base : Nat) (isHeld : Nat → Bool) (chars : List Char) : Option (Nat × List Char) :=
  match chars.takeWhile isWholeChar with
  | [] | '_' :: _ => none
  | digits =>
      ((wholeFrom? base 0 digits).filter isHeld).map (·, chars.dropWhile isWholeChar)

def whole? (isHeld : Nat → Bool) : List Char → Option (Nat × List Char)
  | '0' :: 'x' :: rest => wholeIn? 16 isHeld rest
  | '0' :: 'b' :: rest => wholeIn? 2 isHeld rest
  | '0' :: 'o' :: rest => wholeIn? 8 isHeld rest
  | chars => wholeIn? 10 isHeld chars

def integer? : List Char → Option (Ron × List Char)
  | '+' :: rest => (whole? (· < UInt64.size / 2) rest).map fun (_, rest) => (.other, rest)
  | '-' :: rest => (whole? (· ≤ UInt64.size / 2) rest).map fun (_, rest) => (.other, rest)
  | chars => (whole? (· < UInt64.size) chars).map fun (n, rest) => (.whole n, rest)

def isDigit (c : Char) : Bool :=
  '0' ≤ c && c ≤ '9'

def isReal (chars : List Char) : Bool :=
  let behind := chars.dropWhile isDigit
  let fraction := match behind with
    | '.' :: rest => rest.takeWhile isDigit
    | _ => []
  let tail := match behind with
    | '.' :: rest => rest.dropWhile isDigit
    | rest => rest
  (!(chars.takeWhile isDigit).isEmpty || !fraction.isEmpty) &&
    match tail with
    | [] => true
    | e :: '+' :: rest | e :: '-' :: rest =>
        (e == 'e' || e == 'E') && !rest.isEmpty && rest.all isDigit
    | e :: rest => (e == 'e' || e == 'E') && !rest.isEmpty && rest.all isDigit

def stripSign : List Char → List Char
  | '+' :: rest | '-' :: rest => rest
  | chars => chars

def word? (word : String) (chars : List Char) : Option (List Char) :=
  let rest := chars.drop word.length
  if word.toList.isPrefixOf chars && !rest.head?.any isNameChar then some rest else none

def real? (chars : List Char) : Option (List Char) :=
  match ["+inf", "-inf", "+NaN", "-NaN"].findSome? (word? · chars) with
  | some rest => some rest
  | none =>
      if isReal (stripSign (chars.takeWhile isRealChar)) then some (chars.dropWhile isRealChar)
      else none

/-- A number. It is a real if more of its characters fit a real than a whole number, or if it is no
whole number. -/
def number? (chars : List Char) : Option (Ron × List Char) :=
  let digits := stripSign chars
  let real := (real? chars).map fun rest => (.other, rest)
  if (digits.takeWhile isWholeChar).length < (digits.takeWhile isRealChar).length then real
  else integer? chars <|> real

def nextPart? (close : Char) (chars : List Char) : Option (Bool × List Char) :=
  match skip chars with
  | some (c :: rest) => if c = close then some (false, rest) else some (true, c :: rest)
  | _ => none

def endPart? (close : Char) (chars : List Char) : Option (Bool × List Char) :=
  match skip chars with
  | some (',' :: rest) => nextPart? close rest
  | some (c :: rest) => if c = close then some (false, rest) else none
  | _ => none

def beginsField (chars : List Char) : Bool :=
  match name? chars with
  | some (_, rest) =>
      match skip rest with
      | some (':' :: _) => true
      | _ => false
  | none => false

mutual

/-- One value, at the head of the text, with `depth` levels left for what stands inside it. No more
than five steps are taken for a character, so fuel of that many times the length never runs out. -/
def value? : Nat → Nat → List Char → Option (Ron × List Char)
  | 0, _, _ => none
  | fuel + 1, depth, chars =>
      match name? chars with
      | some (name, rest) => named? fuel depth (beginsRaw chars) name rest
      | none =>
          match chars with
          | '(' :: ')' :: rest => some (.record none [], rest)
          | '(' :: rest => parenthesis? fuel depth none rest
          | '[' :: rest =>
              match depth with
              | 0 => none
              | depth + 1 =>
                  (nextPart? ']' rest).bind fun part =>
                    (items? fuel depth ']' part).map fun (items, rest) => (.list items, rest)
          | '\x7b' :: rest =>
              match depth with
              | 0 => none
              | depth + 1 =>
                  (nextPart? '\x7d' rest).bind fun part =>
                    (entries? fuel depth part).map fun rest => (.other, rest)
          | '"' :: rest =>
              (textFrom? (rest.length + 1) [] rest).map fun (value, rest) => (.text value, rest)
          | 'r' :: rest => (rawText? rest).map fun (value, rest) => (.text value, rest)
          | '\'' :: rest => (letter? rest).map fun rest => (.other, rest)
          | chars => number? chars

def part? : Nat → Nat → List Char → Option (Ron × List Char)
  | fuel + 1, depth + 1, chars => value? fuel depth chars
  | _, _, _ => none

def named? : Nat → Nat → Bool → String → List Char → Option (Ron × List Char)
  | 0, _, _, _, _ => none
  | fuel + 1, depth, isRaw, name, rest =>
      match isRaw, name, skip rest with
      | false, "true", _ => some (.flag true, rest)
      | false, "false", _ => some (.flag false, rest)
      | false, "None", _ => some (.absent, rest)
      | false, "inf", _ | false, "NaN", _ => some (.other, rest)
      | false, "Some", some ('(' :: rest) =>
          match depth with
          | 0 => none
          | depth + 1 =>
              (skip rest).bind fun rest =>
                match value? fuel depth rest with
                | none => none
                | some (content, rest) =>
                    match endPart? ')' rest with
                    | some (false, rest) => some (.present content, rest)
                    | _ => none
      | false, "Some", _ => none
      | _, name, some ('(' :: rest) => parenthesis? fuel depth (some name) rest
      | _, _, some rest => some (.other, rest)
      | _, _, none => none

def parenthesis? : Nat → Nat → Option String → List Char → Option (Ron × List Char)
  | 0, _, _, _ => none
  | _, 0, _, _ => none
  | fuel + 1, depth + 1, name, rest =>
      match nextPart? ')' rest with
      | none => none
      | some (false, rest) => some (.record name [], rest)
      | some (true, rest) =>
          if beginsField rest then
            (fields? fuel depth (true, rest)).map fun (fields, rest) =>
              (.record name fields, rest)
          else (items? fuel depth ')' (true, rest)).map fun (_, rest) => (.other, rest)

def items? : Nat → Nat → Char → Bool × List Char → Option (List Ron × List Char)
  | 0, _, _, _ => none
  | _, _, _, (false, rest) => some ([], rest)
  | fuel + 1, depth, close, (true, chars) =>
      match part? fuel depth chars with
      | none => none
      | some (item, rest) =>
          (endPart? close rest).bind fun part =>
            (items? fuel depth close part).map fun (items, rest) => (item :: items, rest)

def fields? : Nat → Nat → Bool × List Char → Option (List (String × Ron) × List Char)
  | 0, _, _ => none
  | _, _, (false, rest) => some ([], rest)
  | fuel + 1, depth, (true, chars) =>
      match name? chars with
      | none => none
      | some (name, rest) =>
          match (skip rest) with
          | some (':' :: rest) =>
              (skip rest).bind fun rest =>
                match part? fuel depth rest with
                | none => none
                | some (value, rest) =>
                    (endPart? ')' rest).bind fun part =>
                      (fields? fuel depth part).map fun (fields, rest) =>
                        ((name, value) :: fields, rest)
          | _ => none

def entries? : Nat → Nat → Bool × List Char → Option (List Char)
  | 0, _, _ => none
  | _, _, (false, rest) => some rest
  | fuel + 1, depth, (true, chars) =>
      match part? fuel depth chars with
      | none => none
      | some (_, rest) =>
          match skip rest with
          | some (':' :: rest) =>
              (skip rest).bind fun rest =>
                match part? fuel depth rest with
                | none => none
                | some (_, rest) => (endPart? '\x7d' rest).bind (entries? fuel depth)
          | _ => none

end

def words? : List String → List Char → Option (List Char)
  | [], chars => some chars
  | word :: words, chars =>
      if word.toList.isPrefixOf chars then (skip (chars.drop word.length)).bind (words? words)
      else none

/-- The names of what a text switches on, up to what closes their list, and whether options may be
given bare because of them. The other two switches concern forms that no shape has. -/
def switches? : Nat → List Char → Option (Bool × List Char)
  | 0, _ => none
  | fuel + 1, chars =>
      match name? chars with
      | none => none
      | some (name, rest) =>
          if ["unwrap_newtypes", "implicit_some", "unwrap_variant_newtypes"].contains name then
            let isBare := name == "implicit_some"
            match skip rest with
            | some (',' :: rest) =>
                (skip rest).bind fun rest =>
                  if rest.head?.any isNameChar then
                    (switches? fuel rest).map fun (others, rest) => (isBare || others, rest)
                  else some (isBare, rest)
            | some rest => if rest.head?.any isNameChar then none else some (isBare, rest)
            | none => none
          else none

def attributes? : Nat → List Char → Option (Bool × List Char)
  | fuel + 1, '#' :: rest =>
      match (words? ["#", "!", "[", "enable", "("] ('#' :: rest)).bind (switches? rest.length) with
      | none => none
      | some (isBare, rest) =>
          ((words? [")", "]"] rest).bind (attributes? fuel)).map fun (others, rest) =>
            (isBare || others, rest)
  | _, chars => some (false, chars)

def deepest : Nat := 128

def parse? (text : String) : Option RonText :=
  let chars := text.toList
  match (skip chars).bind (attributes? chars.length) with
  | none => none
  | some (isBare, rest) =>
      match value? (5 * chars.length + 8) deepest rest with
      | some (value, rest) =>
          match skip rest with
          | some [] => some { bareOptions := isBare, value }
          | _ => none
      | none => none

end QuestWeb.Ron

namespace QuestWeb

def Decoder.ofRon? {α : Type} (d : Decoder α) (text : String) : Option α :=
  match (Ron.parse? text).bind (RonText.json? d.shape) with
  | some value => (d.read value).toOption
  | none => none

end QuestWeb
