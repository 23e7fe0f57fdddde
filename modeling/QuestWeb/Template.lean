import QuestWeb.Decoder
import QuestWeb.Text.Blank

/-!
Texts with named slots. A slot is a name between braces; a doubled brace is a brace. Everything else
stands for itself.
-/

namespace QuestWeb

inductive Segment where
  | literal (text : String)
  | slot (name : String)
  deriving DecidableEq, Repr

structure Template where
  segments : List Segment
  deriving DecidableEq, Repr

namespace Template

inductive ParseError where
  | nestedBraces
  | unclosedBrace
  | emptyBraces
  | unmatchedClosingBrace
  deriving DecidableEq, Repr

def ParseError.message : ParseError → String
  | .nestedBraces => "template parse error: nested braces are not allowed"
  | .unclosedBrace => "template parse error: unclosed brace"
  | .emptyBraces => "template parse error: empty braces"
  | .unmatchedClosingBrace => "template parse error: unmatched closing brace"

structure UnknownSlot where
  name : String
  deriving DecidableEq, Repr

def UnknownSlot.message (slot : UnknownSlot) : String :=
  "unknown placeholder '\x7b" ++ slot.name ++ "\x7d'"

/-- Where the reader stands: in literal text or in a slot, with the characters since then, last
first. -/
inductive Scan where
  | literal (before : List Char)
  | slot (before : List Char)

def flush (before : List Char) : List Segment :=
  if before.isEmpty then [] else [.literal (String.ofList before.reverse)]

def prepend (front : List Segment) :
    Except ParseError (List Segment) → Except ParseError (List Segment)
  | .ok rest => .ok (front ++ rest)
  | .error e => .error e

def scan : Scan → List Char → Except ParseError (List Segment)
  | .literal before, [] => .ok (flush before)
  | .literal before, '{' :: '{' :: rest => scan (.literal ('{' :: before)) rest
  | .literal before, '{' :: rest => prepend (flush before) (scan (.slot []) rest)
  | .literal before, '}' :: '}' :: rest => scan (.literal ('}' :: before)) rest
  | .literal _, '}' :: _ => .error .unmatchedClosingBrace
  | .literal before, c :: rest => scan (.literal (c :: before)) rest
  | .slot _, [] => .error .unclosedBrace
  | .slot _, '{' :: _ => .error .nestedBraces
  | .slot before, '}' :: rest =>
      let name := Text.trimChars before.reverse
      if name.isEmpty then .error .emptyBraces
      else prepend [.slot (String.ofList name)] (scan (.literal []) rest)
  | .slot before, c :: rest => scan (.slot (c :: before)) rest

def parse (text : String) : Except ParseError Template :=
  match scan (.literal []) text.toList with
  | .ok segments => .ok ⟨segments⟩
  | .error e => .error e

def slots (template : Template) : List String :=
  template.segments.filterMap fun
    | .slot name => some name
    | .literal _ => none

def renderSegments (lookup : String → Option String) :
    List Segment → Except UnknownSlot String
  | [] => .ok ""
  | .literal text :: rest =>
      match renderSegments lookup rest with
      | .ok out => .ok (text ++ out)
      | .error e => .error e
  | .slot name :: rest =>
      match lookup name with
      | none => .error ⟨name⟩
      | some value =>
          match renderSegments lookup rest with
          | .ok out => .ok (value ++ out)
          | .error e => .error e

def render (template : Template) (lookup : String → Option String) : Except UnknownSlot String :=
  renderSegments lookup template.segments

/-- The text with every slot filled that has a value; any other stays as its name between
braces. -/
def fill (template : Template) (lookup : String → Option String) : String :=
  template.segments.foldl
    (fun out segment =>
      match segment with
      | .literal text => out ++ text
      | .slot name => out ++ (lookup name).getD ("\x7b" ++ name ++ "\x7d")) ""

def decoder : Decoder Template :=
  Decoder.string.refine fun text =>
    match parse text with
    | .ok template => .ok template
    | .error e => .error e.message

end Template

end QuestWeb
