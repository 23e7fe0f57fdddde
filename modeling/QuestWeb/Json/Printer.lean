import QuestWeb.Binary64.Shortest
import QuestWeb.Json

/-!
JSON text. Strings escape the quote, the backslash and the control characters, and nothing else.
A double is written with the fewest digits that read back: positionally, with a point, while its
leading digit stands between the sixteenth place before the point and the fifth behind it, and in
scientific notation otherwise. `compact` writes no blanks; `pretty` indents by two.
-/

namespace QuestWeb.Json

def hexDigit (n : Nat) : Char :=
  if n < 10 then Char.ofNat (0x30 + n) else Char.ofNat (0x57 + n)

def escapeChar (c : Char) : String :=
  if c = '"' then "\\\""
  else if c = '\\' then "\\\\"
  else if c = '\n' then "\\n"
  else if c = '\r' then "\\r"
  else if c = '\t' then "\\t"
  else if c.toNat = 8 then "\\b"
  else if c.toNat = 12 then "\\f"
  else if c.toNat < 0x20 then
    "\\u00" ++ String.singleton (hexDigit (c.toNat / 16)) ++
      String.singleton (hexDigit (c.toNat % 16))
  else String.singleton c

def quoted (text : String) : String :=
  text.foldl (fun out c => out ++ escapeChar c) "\"" ++ "\""

def digitsText (n : Nat) : String :=
  toString n

def zeros (n : Nat) : String :=
  String.ofList (List.replicate n '0')

/-- `leading` is the place of the first digit: `0` for the ones, negative behind the point. -/
def positionalText (digits : String) (leading : Int) : String :=
  if leading < 0 then "0." ++ zeros (-leading - 1).toNat ++ digits
  else
    let whole := leading.toNat + 1
    if digits.length ≤ whole then digits ++ zeros (whole - digits.length) ++ ".0"
    else
      String.ofList (digits.toList.take whole) ++ "." ++ String.ofList (digits.toList.drop whole)

def scientificText (digits : String) (leading : Int) : String :=
  let sign := if leading < 0 then "-" else "+"
  let head := String.ofList (digits.toList.take 1)
  let tail := String.ofList (digits.toList.drop 1)
  head ++ (if tail.isEmpty then "" else "." ++ tail) ++ "e" ++ sign ++ digitsText leading.natAbs

def floatText (x : Binary64) : String :=
  let sign := if x.isNegative then "-" else ""
  if x.isZero then sign ++ "0.0"
  else
    let decimal := x.shortest
    let digits := digitsText decimal.digits
    let leading := decimal.exponent + digits.length - 1
    sign ++
      if -5 ≤ leading && leading ≤ 15 then positionalText digits leading
      else scientificText digits leading

def numberText : JsonNumber → String
  | .int value => toString value
  | .float value => floatText value

mutual

def compact : Json → String
  | .null | .unreadable => "null"
  | .bool value => if value then "true" else "false"
  | .num value => numberText value
  | .str value => quoted value
  | .arr [] => "[]"
  | .arr (item :: rest) => "[" ++ compact item ++ compactItems rest ++ "]"
  | .obj [] => "\x7b\x7d"
  | .obj ((key, item) :: rest) =>
      "\x7b" ++ quoted key ++ ":" ++ compact item ++ compactMembers rest ++ "\x7d"

def compactItems : List Json → String
  | [] => ""
  | item :: rest => "," ++ compact item ++ compactItems rest

def compactMembers : List (String × Json) → String
  | [] => ""
  | (key, item) :: rest => "," ++ quoted key ++ ":" ++ compact item ++ compactMembers rest

end

def newline (depth : Nat) : String :=
  "\n" ++ String.ofList (List.replicate (2 * depth) ' ')

mutual

/-- `depth` is the number of containers around the value. -/
def prettyAt (depth : Nat) : Json → String
  | .null | .unreadable => "null"
  | .bool value => if value then "true" else "false"
  | .num value => numberText value
  | .str value => quoted value
  | .arr [] => "[]"
  | .arr (item :: rest) =>
      "[" ++ newline (depth + 1) ++ prettyAt (depth + 1) item ++ prettyItems (depth + 1) rest ++
        newline depth ++ "]"
  | .obj [] => "\x7b\x7d"
  | .obj ((key, item) :: rest) =>
      "\x7b" ++ newline (depth + 1) ++ quoted key ++ ": " ++ prettyAt (depth + 1) item ++
        prettyMembers (depth + 1) rest ++ newline depth ++ "\x7d"

def prettyItems (depth : Nat) : List Json → String
  | [] => ""
  | item :: rest => "," ++ newline depth ++ prettyAt depth item ++ prettyItems depth rest

def prettyMembers (depth : Nat) : List (String × Json) → String
  | [] => ""
  | (key, item) :: rest =>
      "," ++ newline depth ++ quoted key ++ ": " ++ prettyAt depth item ++ prettyMembers depth rest

end

def pretty (value : Json) : String :=
  prettyAt 0 value

end QuestWeb.Json
