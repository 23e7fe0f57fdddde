/-!
What is left of a text when a known beginning or end is taken off.
-/

namespace QuestWeb.Text

def stripStart? : List Char → List Char → Option (List Char)
  | [], chars => some chars
  | c :: start, d :: chars => if c = d then stripStart? start chars else none
  | _ :: _, [] => none

def stripEnd? (ending chars : List Char) : Option (List Char) :=
  (stripStart? ending.reverse chars.reverse).map List.reverse

end QuestWeb.Text
