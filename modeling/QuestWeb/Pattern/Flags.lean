import QuestWeb.CharSet.Case
import QuestWeb.Pattern
import QuestWeb.Text.Blank

/-!
Flags of patterns, and what they make of characters, sets and blanks.
-/

namespace QuestWeb.Pattern

structure Flags where
  anyCase : Bool
  multiLine : Bool
  dotNewline : Bool
  swapLazy : Bool
  spaced : Bool
  crlf : Bool
  /-- Classes, boundaries and cases know ASCII only. What could match half a character is refused
  then. -/
  ascii : Bool
  deriving DecidableEq, Repr

namespace Flags

def initial : Flags := ⟨true, false, false, false, false, false, false⟩

def set (flags : Flags) (c : Char) (value : Bool) : Option Flags :=
  match c with
  | 'i' => some { flags with anyCase := value }
  | 'm' => some { flags with multiLine := value }
  | 's' => some { flags with dotNewline := value }
  | 'U' => some { flags with swapLazy := value }
  | 'x' => some { flags with spaced := value }
  | 'R' => some { flags with crlf := value }
  | 'u' => some { flags with ascii := !value }
  | _ => none

def skipSpaced (comment : Bool) : List Char → List Char
  | [] => []
  | c :: rest =>
      if comment then skipSpaced (c != '\n') rest
      else if Text.isBlank c then skipSpaced false rest
      else if c = '#' then skipSpaced true rest
      else c :: rest

def skip (flags : Flags) (chars : List Char) : List Char :=
  if flags.spaced then skipSpaced false chars else chars

def firstSign? (marked : Bool) : List Char → Option Char
  | [] => none
  | c :: rest =>
      if Text.isBlank c then firstSign? marked rest
      else if c = '#' && !marked then firstSign? true rest
      else some c

/-- The character that a dash looks at. The text of a comment counts here. -/
def ahead? (flags : Flags) (chars : List Char) : Option Char :=
  if flags.spaced then firstSign? false chars <|> chars.head? else chars.head?

def fold (flags : Flags) (set : CharSet) : CharSet :=
  if !flags.anyCase then set else if flags.ascii then set.anyAsciiCase else set.anyCase

/-- What is not in a set. Among bytes that would be halves of characters too. -/
def except? (flags : Flags) (set : CharSet) : Option CharSet :=
  if flags.ascii then none else some set.except

def close? (flags : Flags) (negated : Bool) (set : CharSet) : Option CharSet :=
  if negated then flags.except? (flags.fold set) else some (flags.fold set)

def literal? (flags : Flags) (code : Nat) (byte : Bool) : Option Pattern :=
  if flags.ascii && byte && code ≥ 0x80 then none
  else some (ofSet (flags.fold (.single code)))

def wordSet (flags : Flags) : CharSet := if flags.ascii then .asciiWord else .word

def digitSet (flags : Flags) : CharSet := if flags.ascii then .asciiDigit else .digit

def blankSet (flags : Flags) : CharSet := if flags.ascii then .asciiBlank else .blank

def dot? (flags : Flags) : Option CharSet :=
  if flags.dotNewline then flags.except? .nothing
  else if flags.crlf then flags.except? ((CharSet.single 10).union (.single 13))
  else flags.except? (.single 10)

end Flags

end QuestWeb.Pattern
