/-!
Whole numbers written in decimal.
-/

namespace QuestWeb.Text

def digits? (chars : List Char) : Option Nat :=
  if !chars.isEmpty && chars.all Char.isDigit then
    some (chars.foldl (fun n c => n * 10 + (c.toNat - 0x30)) 0)
  else none

def natural? (text : String) : Option Nat :=
  match text.toList with
  | '+' :: chars => digits? chars
  | chars => digits? chars

def integer? (text : String) : Option Int :=
  match text.toList with
  | '-' :: chars => (digits? chars).map fun n => -(n : Int)
  | _ => (natural? text).map Int.ofNat

end QuestWeb.Text
