import QuestWeb.CharSet.Binary

/-!
Letters and numerals of names. They are of a newer version of the character standard than the listed
properties.
-/

namespace QuestWeb.CharSet

def newLetters : List String := [
  "88F C5C CDC A7CE-A7CF A7D2 A7D4 A7F1 10940-10959 10EC5-10EC7 10EFA-10EFB 11B60-11B67",
  "11DB0-11DDB 16EA0-16EB8 16EBB-16ED3 16FF2-16FF6 187F8-187FF 18D09-18D1E 18D80-18DF2",
  "1E6C0-1E6DE 1E6E0-1E6F5 1E6FE-1E6FF 2B73A-2B73F 2CEA2-2CEAD 323B0-33479"]

def newNumerals : List String := ["11DE0-11DE9 16FF4-16FF6"]

def isLetter (numeral : Bool) (code : Nat) : Bool :=
  if code < 0x80 then
    (0x41 ≤ code && code ≤ 0x5A) || (0x61 ≤ code && code ≤ 0x7A) ||
      (numeral && 0x30 ≤ code && code ≤ 0x39)
  else
    (alphabetic.union (ofLines newLetters)).has code ||
      (numeral && ((categories ["nd", "nl", "no"]).union (ofLines newNumerals)).has code)

end QuestWeb.CharSet
