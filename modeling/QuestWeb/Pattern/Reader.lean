import QuestWeb.CharSet.Letter
import QuestWeb.Pattern.Automaton
import QuestWeb.Pattern.Class
import QuestWeb.Pattern.Size

/-!
Reading patterns from their text. Letters match without regard to case unless the pattern says
otherwise. A pattern that is nested too deep, or whose automaton would be too large, is refused.
-/

namespace QuestWeb.Pattern

structure Bounds where
  low : Nat
  high : Option Nat
  deriving DecidableEq, Repr

def digits (flags : Flags) (n : Option Nat) : Nat → List Char → Option Nat × List Char
  | 0, chars => (n, chars)
  | fuel + 1, chars =>
      match chars with
      | c :: rest =>
          if c.isDigit then
            digits flags (some (n.getD 0 * 10 + (c.toNat - 0x30))) fuel (flags.skip rest)
          else (n, chars)
      | [] => (n, [])

/-- Blanks never count around a decimal, and comments sometimes do not. -/
def skipBlanks (flags : Flags) : Nat → List Char → List Char
  | 0, chars => chars
  | fuel + 1, chars =>
      match chars with
      | c :: rest =>
          if Text.isBlank c then skipBlanks flags fuel (flags.skip rest) else chars
      | [] => []

def decimal? (flags : Flags) (chars : List Char) : Option (Nat × List Char) :=
  match digits flags none chars.length (chars.dropWhile Text.isBlank) with
  | (some n, rest) => if n < UInt32.size then some (n, skipBlanks flags rest.length rest) else none
  | (none, _) => none

def counted? (flags : Flags) (chars : List Char) : Option (Bounds × List Char) :=
  match decimal? flags (flags.skip chars) with
  | none => none
  | some (low, '\x7d' :: rest) => some (⟨low, some low⟩, rest)
  | some (low, ',' :: rest) =>
      match flags.skip rest with
      | '\x7d' :: rest => some (⟨low, none⟩, rest)
      | rest =>
          match decimal? flags rest with
          | some (high, '\x7d' :: rest) =>
              if low ≤ high then some (⟨low, some high⟩, rest) else none
          | _ => none
  | _ => none

structure Repetition where
  bounds : Bounds
  marked : Bool

def mark (chars : List Char) : Bool × List Char :=
  match chars with
  | '?' :: rest => (true, rest)
  | rest => (false, rest)

/-- A repetition sign at the head of the text: nothing if there is none, and within, nothing if it
is faulty. Only behind braces may blanks stand before the mark. -/
def repetition? (flags : Flags) (chars : List Char) : Option (Option (Repetition × List Char)) :=
  let sign (low : Nat) (high : Option Nat) (rest : List Char) :=
    let (marked, rest) := mark rest
    some (some (⟨⟨low, high⟩, marked⟩, rest))
  match chars with
  | '*' :: rest => sign 0 none rest
  | '+' :: rest => sign 1 none rest
  | '?' :: rest => sign 0 (some 1) rest
  | '\x7b' :: rest =>
      match counted? flags rest with
      | some (bounds, rest) =>
          let (marked, after) := mark (flags.skip rest)
          some (some (⟨bounds, marked⟩, after))
      | none => some none
  | _ => none

inductive Opening where
  | flags (flags : Flags)
  | plain (flags : Flags)
  | counted (name : Option String)

def flags? (flags : Flags) (seen : List Char) (value : Bool) :
    List Char → Option (Opening × List Char)
  | ':' :: rest => if seen.head? = some '-' then none else some (.plain flags, rest)
  | ')' :: rest => if seen.head? = some '-' || seen.isEmpty then none else some (.flags flags, rest)
  | c :: rest =>
      if seen.contains c then none
      else if c = '-' then flags? flags ('-' :: seen) false rest
      else
        match flags.set c value with
        | some flags => flags? flags (c :: seen) value rest
        | none => none
  | [] => none

def isNameChar (first : Bool) (c : Char) : Bool :=
  c == '_' || CharSet.isLetter (!first) c.toNat ||
    (!first && (c == '.' || c == '[' || c == ']'))

def groupName? (chars : List Char) : Option (Opening × List Char) :=
  match chars.takeWhile (· != '>'), chars.dropWhile (· != '>') with
  | c :: name, '>' :: rest =>
      if isNameChar true c && name.all (isNameChar false) then
        some (.counted (String.ofList (c :: name)), rest)
      else none
  | _, _ => none

def opening? (flags : Flags) (chars : List Char) : Option (Opening × List Char) :=
  match flags.skip chars with
  | '?' :: 'P' :: '<' :: rest => groupName? rest
  | '?' :: '<' :: rest => groupName? rest
  | '?' :: rest => flags? flags [] true rest
  | rest => some (.counted none, rest)

structure Part where
  pattern : Pattern
  depth : Nat
  canRepeat : Bool

/-- A level of a pattern being read: the choices before and the parts since then, last first; the
number of groups so far, and their names. -/
structure Level where
  flags : Flags
  before : List Part
  parts : List Part
  groups : Nat
  names : List String

def depthOf (parts : List Part) : Nat :=
  let deepest := (parts.map (·.depth)).foldl max 0
  if parts.length ≤ 1 then deepest else deepest + 1

def Level.branch (level : Level) : Part :=
  ⟨sequence (level.parts.reverse.map (·.pattern)), depthOf level.parts, true⟩

def Level.whole (level : Level) : Part :=
  match level.before with
  | [] => level.branch
  | before =>
      let branches := (level.branch :: before).reverse
      ⟨choice (branches.map (·.pattern)), depthOf branches, true⟩

def Level.push (level : Level) (part : Part) : Level :=
  { level with parts := part :: level.parts }

def sign? (flags : Flags) : List Char → Option (Pattern × List Char)
  | '.' :: rest => flags.dot?.map fun set => (ofSet set, rest)
  | '^' :: rest =>
      some (.assert (if flags.multiLine then .lineStart flags.crlf else .textStart), rest)
  | '$' :: rest =>
      some (.assert (if flags.multiLine then .lineEnd flags.crlf else .textEnd), rest)
  | chars =>
      match classSign? flags chars with
      | some (.literal code byte, rest) => (flags.literal? code byte).map (·, rest)
      | some (.set set, rest) => some (ofSet set, rest)
      | some (.assertion assertion, rest) => some (.assert assertion, rest)
      | none => none

/-- Reads to the end of a level, which is the end of the text or a closing parenthesis. Every step
eats a character, so fuel of the length of the text suffices. -/
def level? : Nat → Level → List Char → Option (Level × List Char)
  | 0, _, _ => none
  | fuel + 1, level, chars =>
      match level.flags.skip chars with
      | [] => some (level, [])
      | ')' :: rest => some (level, ')' :: rest)
      | '|' :: rest =>
          level? fuel { level with before := level.branch :: level.before, parts := [] } rest
      | '(' :: rest =>
          let within (flags : Flags) (groups : Nat) (names : List String)
              (part : Pattern → Pattern) (rest : List Char) :=
            match level? fuel ⟨flags, [], [], groups, names⟩ rest with
            | some (inner, ')' :: rest) =>
                let whole := inner.whole
                level? fuel
                  { level.push ⟨part whole.pattern, whole.depth + 1, true⟩ with
                    groups := inner.groups
                    names := inner.names } rest
            | _ => none
          match opening? level.flags rest with
          | none => none
          | some (.flags flags, rest) =>
              level? fuel { level.push ⟨.empty, 0, false⟩ with flags := flags } rest
          | some (.plain flags, rest) => within flags level.groups level.names id rest
          | some (.counted name, rest) =>
              if name.any level.names.contains then none
              else
                within level.flags (level.groups + 1) (name.toList ++ level.names)
                  (.group (level.groups + 1)) rest
      | '[' :: rest =>
          match class? fuel level.flags rest with
          | some (inner, rest) =>
              level? fuel (level.push ⟨ofSet inner.set, inner.depth, true⟩) rest
          | none => none
      | chars =>
          match repetition? level.flags chars with
          | some none => none
          | some (some (repetition, rest)) =>
              match level.parts with
              | part :: parts =>
                  if part.canRepeat then
                    let lazy := repetition.marked != level.flags.swapLazy
                    let bounds := repetition.bounds
                    let pattern := part.pattern.times bounds.low bounds.high lazy
                    let part := ⟨pattern, part.depth + 1, true⟩
                    level? fuel { level with parts := part :: parts } rest
                  else none
              | [] => none
          | none =>
              match sign? level.flags chars with
              | some (pattern, rest) => level? fuel (level.push ⟨pattern, 0, true⟩) rest
              | none => none

def depthLimit : Nat := 250

def parse? (text : String) : Option Pattern :=
  let chars := text.toList
  match level? (2 * chars.length + 2) ⟨.initial, [], [], 0, []⟩ chars with
  | some (level, []) =>
      let whole := level.whole
      if whole.depth ≤ depthLimit && whole.pattern.isSmall then some whole.pattern else none
  | _ => none

end QuestWeb.Pattern

namespace QuestWeb

def Automaton.ofText? (text : String) : Option Automaton :=
  (Pattern.parse? text).map Pattern.automaton

end QuestWeb
