import QuestWeb.Text.HiddenTable

/-!
A text between quotes in which nothing is invisible: the quote, the backslash and the usual controls
have short escapes, every other hidden character is spelled by its number.
-/

namespace QuestWeb.Text

def hexText (n : Nat) : String :=
  String.ofList (Nat.toDigits 16 n)

def isHidden (c : Char) : Bool :=
  if 0x20 ≤ c.toNat && c.toNat < 0x7F then false else inSpans hiddenSpans c.toNat

def visible (c : Char) : String :=
  match c with
  | '\x00' => "\\0"
  | '\t' => "\\t"
  | '\r' => "\\r"
  | '\n' => "\\n"
  | '"' => "\\\""
  | '\\' => "\\\\"
  | c => if isHidden c then "\\u\x7b" ++ hexText c.toNat ++ "\x7d" else String.singleton c

def quoted (text : String) : String :=
  text.foldl (fun out c => out ++ visible c) "\"" ++ "\""

end QuestWeb.Text
