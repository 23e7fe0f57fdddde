import QuestWeb.Proofs.Completion
import QuestWeb.Proofs.FlagKinds
import QuestWeb.Proofs.Playthrough

/-!
The quests of a game from its start. What was completed counts as started, and the active quest is
the one that was last started, until it is completed. Starting a quest does not ask whether it was
completed before, so a quest that is opened again is active and completed at once.
-/

namespace QuestWeb

def Effect.sparesActive (quest : QuestNum) : Effect → Bool
  | .startQuest _ => false
  | .completeQuest done => done != quest
  | _ => true

namespace GameState

/-- The quest was started behind these effects; no quest was started since, and this one was not
completed since. -/
def LastStarted (effects : List Effect) (quest : QuestNum) (before : List Effect) : Prop :=
  ∃ since, effects = before ++ .startQuest quest :: since ∧
    ∀ later ∈ since, later.sparesActive quest = true

variable (state : GameState) (effect : Effect) (quest : QuestNum)

theorem activeQuest_apply_eq_some : (state.apply effect).activeQuest = some quest ↔
    effect = .startQuest quest ∨
      state.activeQuest = some quest ∧ effect.sparesActive quest = true := by
  rw [activeQuest_apply]
  cases effect with
  | startQuest begun => simp [Effect.turn, Effect.sparesActive]
  | completeQuest done =>
      by_cases own : state.activeQuest = some done
      · by_cases same : done = quest <;> simp [Effect.turn, Effect.sparesActive, own, same]
      · simp only [Effect.turn, Effect.sparesActive, own, ↓reduceIte]
        have other (active : state.activeQuest = some quest) : done ≠ quest := by
          rintro rfl
          exact own active
        simpa using other
  | _ => simp [Effect.turn, Effect.sparesActive]

theorem activeQuest_eq_some (effects : List Effect) :
    (initial.applyAll effects).activeQuest = some quest ↔
      ∃ before, LastStarted effects quest before := by
  have lasting := initial.lasting_applyAll (fun state => state.activeQuest = some quest)
    (fun _ effect => effect = .startQuest quest)
    (fun effect => effect.sparesActive quest = true)
    (fun state effect => state.activeQuest_apply_eq_some effect quest) effects
  rw [lasting]
  constructor
  · rintro (⟨never, -⟩ | ⟨before, _, since, split, rfl, spared⟩)
    · cases never
    · exact ⟨before, since, split, spared⟩
  · rintro ⟨before, since, split, spared⟩
    exact .inr ⟨before, _, since, split, rfl, spared⟩

theorem isCompleted_iff (effects : List Effect) :
    (initial.applyAll effects).isCompleted quest = true ↔ .completeQuest quest ∈ effects := by
  have before : initial.isCompleted quest = false := by
    simp [isCompleted, initial]
  rw [isCompleted_applyAll, before, Bool.false_or, List.any_eq_true]
  simp [Effect.completes_iff]

theorem isStarted_iff (effects : List Effect) :
    (initial.applyAll effects).isStarted quest = true ↔
      ∃ effect ∈ effects, effect.quest? = some quest := by
  have before : initial.isStarted quest = false := by
    simp [isStarted, initial]
  rw [isStarted_applyAll, before, Bool.false_or, List.any_eq_true]
  simp [Effect.starts]

/-- A quest that was completed since it was last started is not active, so what is completed and
active was completed before. -/
theorem LastStarted.completed_iff {effects before : List Effect} {quest : QuestNum}
    (last : LastStarted effects quest before) :
    .completeQuest quest ∈ effects ↔ .completeQuest quest ∈ before := by
  obtain ⟨since, rfl, spared⟩ := last
  have open_ : .completeQuest quest ∉ since := fun completed => by
    simpa [Effect.sparesActive] using spared _ completed
  simp [open_]

/-- After any effects from the start of a game a completed quest is a started one. The active quest
is the one that was last started and not completed since; it is a started one, and it is a completed
one exactly if it was completed before it was last started. -/
theorem quest_lifecycle (effects : List Effect) (quest : QuestNum) :
    let state := initial.applyAll effects
    (state.isCompleted quest = true → state.isStarted quest = true) ∧
    (state.activeQuest = some quest ↔ ∃ before, LastStarted effects quest before) ∧
    ∀ before, LastStarted effects quest before → state.isStarted quest = true ∧
      (state.isCompleted quest = true ↔ .completeQuest quest ∈ before) := by
  intro state
  refine ⟨fun completed => ?_, activeQuest_eq_some quest effects, fun before last => ⟨?_, ?_⟩⟩
  · exact (isStarted_iff quest effects).mpr ⟨_, (isCompleted_iff quest effects).mp completed, rfl⟩
  · obtain ⟨since, rfl, -⟩ := last
    exact (isStarted_iff quest _).mpr ⟨.startQuest quest, by simp, rfl⟩
  · exact (isCompleted_iff quest effects).trans last.completed_iff

/-- Of two quests that are taken up in turn the second is active, and not completed. -/
theorem quest_lifecycle_ferry :
    let effects : List Effect :=
      [.startQuest ⟨4⟩, .completeQuest ⟨4⟩, .startQuest ⟨7⟩, .incFlag "TOLL" 1, .completeQuest ⟨9⟩]
    let state := initial.applyAll effects
    (state.isCompleted ⟨9⟩ = true ∧ state.isStarted ⟨9⟩ = true) ∧
      LastStarted effects ⟨7⟩ [.startQuest ⟨4⟩, .completeQuest ⟨4⟩] ∧
      state.isStarted ⟨7⟩ = true ∧ ¬ state.isCompleted ⟨7⟩ = true := by
  intro effects state
  have completed : state.isCompleted ⟨9⟩ = true := by decide +kernel
  have last : LastStarted effects ⟨7⟩ [.startQuest ⟨4⟩, .completeQuest ⟨4⟩] :=
    ⟨[.incFlag "TOLL" 1, .completeQuest ⟨9⟩], rfl, by decide⟩
  obtain ⟨started, done⟩ := (quest_lifecycle effects ⟨7⟩).2.2 _ last
  exact ⟨⟨completed, (quest_lifecycle effects ⟨9⟩).1 completed⟩, last, started,
    fun both => absurd (done.mp both) (by decide)⟩

/-- A quest that is completed and then started again is active while it is completed. -/
theorem reopened_quest_active :
    let state := initial.applyAll [.startQuest ⟨4⟩, .completeQuest ⟨4⟩, .startQuest ⟨4⟩]
    state.activeQuest = some ⟨4⟩ ∧ state.isCompleted ⟨4⟩ = true := by
  decide +kernel

end GameState

end QuestWeb
