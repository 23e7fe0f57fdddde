/-!
Lines of text. A newline ends a line, and the last line may lack it.
-/

namespace QuestWeb.Text

def linesFrom (line : List Char) : List Char → List String
  | [] => if line.isEmpty then [] else [String.ofList line.reverse]
  | c :: rest =>
      if c = '\n' then String.ofList line.reverse :: linesFrom [] rest
      else linesFrom (c :: line) rest

def lines (text : String) : List String :=
  linesFrom [] text.toList

def ofLines (lines : List String) : String :=
  String.join (lines.map (· ++ "\n"))

end QuestWeb.Text
