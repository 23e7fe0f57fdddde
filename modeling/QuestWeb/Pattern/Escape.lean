import QuestWeb.CharSet.Property
import QuestWeb.Pattern.Flags

/-!
Signs of patterns that start with a backslash: characters by number, classes, properties and
assertions.
-/

namespace QuestWeb.Pattern

inductive Sign where
  | literal (code : Nat) (byte : Bool)
  | set (set : CharSet)
  | assertion (assertion : Assertion)

def digitValue? (c : Char) : Option Nat :=
  if '0' ≤ c && c ≤ '9' then some (c.toNat - 0x30)
  else if 'a' ≤ c && c ≤ 'f' then some (c.toNat - 0x57)
  else if 'A' ≤ c && c ≤ 'F' then some (c.toNat - 0x37)
  else none

def fixedHex? (flags : Flags) (code : Nat) : Nat → List Char → Option (Nat × List Char)
  | 0, rest => some (code, rest)
  | count + 1, c :: rest =>
      match digitValue? c with
      | some digit => fixedHex? flags (code * 16 + digit) count (flags.skip rest)
      | none => none
  | _ + 1, [] => none

def bracedHex? (code : Option Nat) : List Char → Option Nat
  | [] => code
  | c :: rest =>
      match digitValue? c with
      | some digit => bracedHex? (some (code.getD 0 * 16 + digit)) rest
      | none => none

def braced? (flags : Flags) (taken : List Char) : Nat → List Char → Option (List Char × List Char)
  | 0, _ => none
  | fuel + 1, chars =>
      match flags.skip chars with
      | [] => none
      | '\x7d' :: rest => some (taken.reverse, rest)
      | c :: rest => braced? flags (c :: taken) fuel rest

def hexSign? (flags : Flags) (count : Nat) (chars : List Char) : Option (Sign × List Char) :=
  match flags.skip chars with
  | '\x7b' :: rest =>
      match braced? flags [] (rest.length + 1) rest with
      | some (digits, rest) =>
          match bracedHex? none digits with
          | some code =>
              if code.isValidChar then some (.literal code false, flags.skip rest) else none
          | none => none
      | none => none
  | chars =>
      match fixedHex? flags 0 count chars with
      | some (code, rest) =>
          if code.isValidChar then some (.literal code (count == 2), rest) else none
      | none => none

/-- The set that a name between braces stands for: a property, or a property and a value with `:`,
`=` or `!=` between them. -/
def propertyNamed? (name : List Char) : Option CharSet :=
  match (String.ofList name).splitOn "!=" with
  | property :: first :: rest => CharSet.valued? property ("!=".intercalate (first :: rest))
  | _ =>
      let mark := if name.contains ':' then ':' else '='
      match name.dropWhile (· != mark) with
      | _ :: value =>
          CharSet.valued? (String.ofList (name.takeWhile (· != mark))) (String.ofList value)
      | [] => CharSet.property? (String.ofList name)

def propertySign? (flags : Flags) (negated : Bool) (chars : List Char) :
    Option (Sign × List Char) :=
  let found := match flags.skip chars with
    | [] => none
    | '\\' :: _ => none
    | '\x7b' :: rest =>
        match braced? flags [] (rest.length + 1) rest with
        | some (name, rest) => (propertyNamed? name).map (·, rest)
        | none => none
    | c :: rest => (CharSet.property? (String.singleton c)).map (·, flags.skip rest)
  match found with
  | some (set, rest) =>
      if flags.ascii then none else (flags.close? negated set).map (.set ·, rest)
  | none => none

def isBoundaryChar (c : Char) : Bool :=
  c.isAlpha || c == '-'

def boundaryName (flags : Flags) (taken : List Char) : Nat → List Char → List Char × List Char
  | 0, chars => (taken.reverse, chars)
  | fuel + 1, chars =>
      match chars with
      | c :: rest =>
          if isBoundaryChar c then boundaryName flags (c :: taken) fuel (flags.skip rest)
          else (taken.reverse, chars)
      | [] => (taken.reverse, [])

def boundaries : List (String × WordPlace) :=
  [("start", .start), ("end", .stop), ("start-half", .startHalf), ("end-half", .stopHalf)]

/-- A word boundary, behind its letter. Braces with a name say which; other braces behind it count
how often it stands. -/
def boundary? (flags : Flags) (chars : List Char) : Option (Sign × List Char) :=
  let plain := some (Sign.assertion (.word .boundary flags.ascii), chars)
  match chars with
  | '\x7b' :: rest =>
      match flags.skip rest with
      | [] => none
      | c :: rest =>
          if !isBoundaryChar c then plain
          else
            match boundaryName flags [] (rest.length + 1) (c :: rest) with
            | (name, '\x7d' :: rest) =>
                (boundaries.lookup (String.ofList name)).map fun place =>
                  (.assertion (.word place flags.ascii), rest)
            | _ => none
  | _ => plain

def isEscapable (c : Char) : Bool :=
  c.toNat < 0x80 && !c.isAlphanum && c != '<' && c != '>'

def escape? (flags : Flags) : List Char → Option (Sign × List Char)
  | [] => none
  | c :: rest =>
      let character (code : Nat) := some (Sign.literal code false, rest)
      let set (found : Option CharSet) := found.map fun found => (Sign.set found, rest)
      let word (place : WordPlace) := some (Sign.assertion (.word place flags.ascii), rest)
      match c with
      | 'a' => character 7
      | 'f' => character 12
      | 't' => character 9
      | 'n' => character 10
      | 'r' => character 13
      | 'v' => character 11
      | 'd' => set (some flags.digitSet)
      | 'D' => set (flags.except? flags.digitSet)
      | 's' => set (some flags.blankSet)
      | 'S' => set (flags.except? flags.blankSet)
      | 'w' => set (some flags.wordSet)
      | 'W' => set (flags.except? flags.wordSet)
      | 'A' => some (.assertion .textStart, rest)
      | 'z' => some (.assertion .textEnd, rest)
      | 'b' => boundary? flags rest
      | 'B' => word .noBoundary
      | '<' => word .start
      | '>' => word .stop
      | 'x' => hexSign? flags 2 rest
      | 'u' => hexSign? flags 4 rest
      | 'U' => hexSign? flags 8 rest
      | 'p' => propertySign? flags false rest
      | 'P' => propertySign? flags true rest
      | c => if isEscapable c then character c.toNat else none

end QuestWeb.Pattern
