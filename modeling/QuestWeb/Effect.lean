import QuestWeb.Flag
import QuestWeb.QuestNum

/-!
Effects, the changes a choice or a finished quest makes to the world, and conditions, which read it.
-/

namespace QuestWeb

structure TeleportTarget where
  map : Option String
  scene : Option String
  deriving DecidableEq, Repr

inductive Effect where
  | setFlag (name : String) (value : FlagValue)
  /-- Adds to a numeric flag, which starts at zero. -/
  | incFlag (name : String) (delta : Int64)
  | startQuest (quest : QuestNum)
  | completeQuest (quest : QuestNum)
  | grantSeal (domain : String)
  /-- Binds the player to a clause; only the first binding counts. -/
  | setClause (clause : String)
  | setCensureMode (mode : String)
  | computeBossUnlock
  | teleport (target : TeleportTarget)
  deriving DecidableEq, Repr

namespace Effect

def quest? : Effect → Option QuestNum
  | .startQuest quest | .completeQuest quest => some quest
  | _ => none

def completes (effect : Effect) (quest : QuestNum) : Bool :=
  match effect with
  | .completeQuest other => other == quest
  | _ => false

end Effect

inductive Condition where
  | flag (name : String) (op : CompareOp) (value : FlagValue)
  | countTrue (flags : List String) (op : CompareOp) (value : Int64)
  | all (conditions : List Condition)
  deriving Repr, Inhabited

namespace Condition

mutual

def decEq : (a b : Condition) → Decidable (a = b)
  | .flag a op x, .flag b op' y =>
      if h : a = b ∧ op = op' ∧ x = y then isTrue (by rw [h.1, h.2.1, h.2.2])
      else isFalse (by simpa using h)
  | .countTrue a op x, .countTrue b op' y =>
      if h : a = b ∧ op = op' ∧ x = y then isTrue (by rw [h.1, h.2.1, h.2.2])
      else isFalse (by simpa using h)
  | .all a, .all b =>
      match decEqList a b with
      | isTrue h => isTrue (h ▸ rfl)
      | isFalse h => isFalse (by simpa using h)
  | .flag .., .countTrue .. | .flag .., .all _ | .countTrue .., .flag ..
  | .countTrue .., .all _ | .all _, .flag .. | .all _, .countTrue .. => isFalse nofun

def decEqList : (a b : List Condition) → Decidable (a = b)
  | [], [] => isTrue rfl
  | a :: as, b :: bs =>
      match decEq a b, decEqList as bs with
      | isTrue h, isTrue t => isTrue (h ▸ t ▸ rfl)
      | isFalse h, _ => isFalse fun e => h (List.cons.inj e).1
      | _, isFalse t => isFalse fun e => t (List.cons.inj e).2
  | [], _ :: _ => isFalse nofun
  | _ :: _, [] => isFalse nofun

end

instance : DecidableEq Condition := decEq

end Condition

end QuestWeb
