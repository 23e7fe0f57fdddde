import QuestWeb.Text.CasedTable
import QuestWeb.Text.LowerTable
import QuestWeb.Text.UpperTable

/-!
Upper and lower case of whole texts. A letter may grow (`ß` to `SS`), and a capital sigma that ends
a word becomes `ς` instead of `σ`.
-/

namespace QuestWeb.Text

def upperCode (code : Nat) : List Nat :=
  if code < 0x80 then [if 0x61 ≤ code && code ≤ 0x7A then code - 0x20 else code]
  else
    match upperExpansions.lookup code with
    | some codes => codes
    | none => [(shifted? upperShifts code).getD code]

def lowerCode (code : Nat) : List Nat :=
  if code < 0x80 then [if 0x41 ≤ code && code ≤ 0x5A then code + 0x20 else code]
  else if code = 0x130 then [0x69, 0x307]
  else [(shifted? lowerShifts code).getD code]

def upperChar (c : Char) : List Char :=
  (upperCode c.toNat).map Char.ofNat

def lowerChar (c : Char) : List Char :=
  (lowerCode c.toNat).map Char.ofNat

def upper (text : String) : String :=
  String.ofList (text.toList.flatMap upperChar)

def meetsCased (chars : List Char) : Bool :=
  match chars.find? fun c => !inSpans caseIgnorableSpans c.toNat with
  | some c => inSpans casedSpans c.toNat
  | none => false

/-- `before` holds the characters already passed, nearest first. -/
def lowerFrom (before : List Char) : List Char → List Char
  | [] => []
  | c :: after =>
      let here :=
        if c = 'Σ' then [if meetsCased before && !meetsCased after then 'ς' else 'σ']
        else lowerChar c
      here ++ lowerFrom (c :: before) after

def lower (text : String) : String :=
  String.ofList (lowerFrom [] text.toList)

end QuestWeb.Text
