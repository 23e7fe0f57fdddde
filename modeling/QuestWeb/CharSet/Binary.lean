import QuestWeb.CharSet.BinaryTable
import QuestWeb.CharSet.Category

/-!
Properties that a character has or has not. Many follow from the general category and a few listed
exceptions.
-/

namespace QuestWeb.CharSet

def listed (name : String) : CharSet :=
  named binaryTable name

def lowercase : CharSet :=
  (categories ["ll"]).union (listed "otherlowercase")

def uppercase : CharSet :=
  (categories ["lu"]).union (listed "otheruppercase")

def alphabetic : CharSet :=
  unions [categories ["lu", "ll", "lt", "lm", "lo", "nl"], listed "otherlowercase",
    listed "otheruppercase", listed "otheralphabetic"]

def graphemeExtend : CharSet :=
  (categories ["me", "mn"]).union (listed "othergraphemeextend")

def outsidePatterns (set : CharSet) : CharSet :=
  (set.minus (listed "patternsyntax")).minus (listed "patternwhitespace")

def idStart : CharSet :=
  outsidePatterns
    ((categories ["lu", "ll", "lt", "lm", "lo", "nl"]).union (listed "otheridstart"))

def idContinue : CharSet :=
  outsidePatterns
    (unions [idStart, categories ["mn", "mc", "nd", "pc"], listed "otheridcontinue"])

def unstable : CharSet :=
  ofLines ["37A 309B-309C FC5E-FC63 FDFA-FDFB FE70-FE7E/2"]

def unstableStart : CharSet :=
  unstable.union (ofLines ["E33 EB3 FF9E-FF9F"])

def midWord : CharSet :=
  ofLines ["27 2E 3A B7 387 55F 5F4 2018-2019 2024 2027 FE13 FE52 FE55 FF07 FF0E FF1A"]

def derived : List (List String × (Unit → CharSet)) := [
  (["alpha", "alphabetic"], fun _ => alphabetic),
  (["cased"], fun _ => unions [lowercase, uppercase, categories ["lt"]]),
  (["ci", "caseignorable"], fun _ => (categories ["mn", "me", "cf", "lm", "sk"]).union midWord),
  (["grbase", "graphemebase"], fun _ =>
    (categories ["cc", "cf", "cn", "co", "zl", "zp"]).except.minus graphemeExtend),
  (["grext", "graphemeextend"], fun _ => graphemeExtend),
  (["idc", "idcontinue"], fun _ => idContinue),
  (["ids", "idstart"], fun _ => idStart),
  (["lower", "lowercase"], fun _ => lowercase),
  (["math"], fun _ => (categories ["sm"]).union (listed "othermath")),
  (["upper", "uppercase"], fun _ => uppercase),
  (["xidc", "xidcontinue"], fun _ => idContinue.minus unstable),
  (["xids", "xidstart"], fun _ => idStart.minus unstableStart)]

def binary? (name : String) : Option CharSet :=
  match derived.find? (·.1.contains name) with
  | some (_, set) => some (set ())
  | none => named? binaryTable name

end QuestWeb.CharSet
