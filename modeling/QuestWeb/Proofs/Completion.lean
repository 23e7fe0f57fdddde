import QuestWeb.State.Effect

/-!
Which quests count as started and completed after effects have been applied. No effect takes a quest
out of either set.
-/

namespace QuestWeb

def Effect.starts (effect : Effect) (quest : QuestNum) : Bool :=
  effect.quest? == some quest

theorem QuestSet.contains_insert (quests : QuestSet) (added quest : QuestNum) :
    (quests.insert added).contains quest = (added == quest || quests.contains quest) := by
  rw [Std.ExtTreeSet.contains_insert]
  congr 1
  rw [Bool.eq_iff_iff]
  simp [Std.LawfulEqCmp.compare_eq_iff_eq]

theorem Effect.completes_iff (effect : Effect) (quest : QuestNum) :
    effect.completes quest = true ↔ effect = .completeQuest quest := by
  cases effect <;> simp [Effect.completes]

namespace GameState

variable (state : GameState) (effect : Effect) (quest : QuestNum)

theorem apply_completed : (state.apply effect).completed =
    match effect with
    | .completeQuest done => state.completed.insert done
    | _ => state.completed := by
  cases effect with
  | setFlag name value => cases value <;> rfl
  | setClause clause =>
      simp only [apply]
      split <;> rfl
  | _ => rfl

theorem apply_started : (state.apply effect).started =
    match effect.quest? with
    | some begun => state.started.insert begun
    | none => state.started := by
  cases effect with
  | setFlag name value => cases value <;> rfl
  | setClause clause =>
      simp only [apply]
      split <;> rfl
  | _ => rfl

theorem isCompleted_apply :
    (state.apply effect).isCompleted quest =
      (state.isCompleted quest || effect.completes quest) := by
  unfold isCompleted
  rw [apply_completed]
  cases effect with
  | completeQuest done =>
      simp only [Effect.completes]
      rw [QuestSet.contains_insert, Bool.or_comm]
  | _ => simp [Effect.completes]

theorem isStarted_apply :
    (state.apply effect).isStarted quest =
      (state.isStarted quest || effect.starts quest) := by
  unfold isStarted Effect.starts
  rw [apply_started]
  cases named : effect.quest? with
  | none => simp
  | some begun =>
      simp only [Option.some_beq_some]
      rw [QuestSet.contains_insert, Bool.or_comm]

theorem isCompleted_applyAll (effects : List Effect) :
    (state.applyAll effects).isCompleted quest =
      (state.isCompleted quest || effects.any (·.completes quest)) := by
  induction effects generalizing state with
  | nil => simp [applyAll]
  | cons effect rest ih =>
      change ((state.apply effect).applyAll rest).isCompleted quest = _
      rw [ih, isCompleted_apply]
      simp [Bool.or_assoc]

theorem isStarted_applyAll (effects : List Effect) :
    (state.applyAll effects).isStarted quest =
      (state.isStarted quest || effects.any (·.starts quest)) := by
  induction effects generalizing state with
  | nil => simp [applyAll]
  | cons effect rest ih =>
      change ((state.apply effect).applyAll rest).isStarted quest = _
      rw [ih, isStarted_apply]
      simp [Bool.or_assoc]

end GameState

end QuestWeb
