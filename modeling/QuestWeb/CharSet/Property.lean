import QuestWeb.CharSet.AgeTable
import QuestWeb.CharSet.Binary
import QuestWeb.CharSet.BreakTable
import QuestWeb.CharSet.Script

/-!
Properties of characters, asked for by name. Names may be spelled loosely.
-/

namespace QuestWeb.CharSet

def age? (version : String) : Option CharSet :=
  let newer := ageTable.dropWhile fun listing => !listing.names.contains version
  if newer.isEmpty then none
  else some (unions ((ageTable.take (ageTable.length - newer.length + 1)).map (·.set)))

/-- A property by its own name: one that a character has or has not, a category or a script. The
short names of three categories also name properties with values; as own names they are
categories. -/
def property? (name : String) : Option CharSet :=
  let name := looseName name
  binary? name <|> category? name <|> script? name

def valued? (property value : String) : Option CharSet :=
  let value := looseName value
  match looseName property with
  | "gc" | "generalcategory" => category? value
  | "sc" | "script" => script? value
  | "scx" | "scriptextensions" => scriptExtensions? value
  | "age" => age? value
  | "gcb" | "graphemeclusterbreak" => named? clusterTable value
  | "wb" | "wordbreak" => named? wordBreakTable value
  | "sb" | "sentencebreak" => named? sentenceTable value
  | _ => none

end QuestWeb.CharSet
