import QuestWeb.CharSet.CategoryTable

/-!
General categories, the groups that they make up, and the sets of all, of all ASCII and of all
assigned characters.
-/

namespace QuestWeb.CharSet

def categories (codes : List String) : CharSet :=
  unions (codes.map (named categoryTable))

def categoryGroups : List (List String × List String) := [
  (["lc", "casedletter"], ["lu", "ll", "lt"]),
  (["l", "letter"], ["lu", "ll", "lt", "lm", "lo"]),
  (["m", "mark", "combiningmark"], ["mn", "mc", "me"]),
  (["n", "number"], ["nd", "nl", "no"]),
  (["p", "punctuation", "punct"], ["pc", "pd", "ps", "pe", "pi", "pf", "po"]),
  (["s", "symbol"], ["sm", "sc", "sk", "so"]),
  (["z", "separator"], ["zs", "zl", "zp"]),
  (["c", "other"], ["cc", "cf", "co", "cn"])]

def category? (name : String) : Option CharSet :=
  match name with
  | "any" => some all
  | "ascii" => some (span 0 0x7F)
  | "assigned" => some (categories ["cn"]).except
  | name =>
      match categoryGroups.find? (·.1.contains name) with
      | some (_, codes) => some (categories codes)
      | none => named? categoryTable name

end QuestWeb.CharSet
