import QuestWeb.Decoder
import Std.Data.ExtTreeSet

/-!
Quest numbers: the place of a quest in the quest list, counted from one. The same number names the
quest's dialog file and stands in every reference to the quest.
-/

namespace QuestWeb

structure QuestNum where
  val : UInt32
  deriving DecidableEq, Repr

namespace QuestNum

instance : Ord QuestNum := ⟨compareOn QuestNum.val⟩

instance : Std.TransOrd QuestNum :=
  inferInstanceAs (Std.TransCmp (compareOn QuestNum.val))

instance : Std.LawfulEqOrd QuestNum where
  eq_of_compare {a b} h := by
    cases a
    cases b
    exact congrArg QuestNum.mk (Std.LawfulEqOrd.eq_of_compare h)

instance : ToString QuestNum := ⟨fun num => toString num.val.toNat⟩

def padded (num : QuestNum) : String :=
  let digits := toString num
  String.ofList (List.replicate (3 - digits.length) '0') ++ digits

def position? (num : QuestNum) : Option Nat :=
  if num.val = 0 then none else some (num.val.toNat - 1)

def ofPosition (position : Nat) : QuestNum :=
  ⟨(position + 1).toUInt32⟩

def json (num : QuestNum) : Json :=
  .num (.int num.val.toNat)

def decoder : Decoder QuestNum :=
  Decoder.uint32.map QuestNum.mk

end QuestNum

abbrev QuestSet := Std.ExtTreeSet QuestNum

def QuestSet.decoder : Decoder QuestSet :=
  (Decoder.list QuestNum.decoder).map (Std.ExtTreeSet.ofList ·)

def QuestSet.json (quests : QuestSet) : Json :=
  .arr (quests.toList.map QuestNum.json)

end QuestWeb
