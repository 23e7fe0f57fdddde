import QuestWeb.Proofs.Run
import QuestWeb.Proofs.WireForms

/-!
Playing quests as they are read back. What is read back may name another domain, which no rule of
the engine asks for, so a play of the quests that were read is the play of those that were written.
-/

namespace QuestWeb

namespace Quest

@[simp]
theorem reread_availability (quest : Quest) : quest.reread.availability = quest.availability := by
  simp only [reread]

@[simp]
theorem reread_location (quest : Quest) : quest.reread.location = quest.location := by
  simp only [reread]

theorem reread_locationKey? (quest : Quest) : quest.reread.locationKey? = quest.locationKey? := by
  simp only [locationKey?, reread_location]

theorem reread_isAvailable (quest : Quest) (state : GameState) :
    quest.reread.isAvailable state = quest.isAvailable state := by
  simp only [isAvailable, reread_num, reread_dependencies, reread_availability]

end Quest

theorem availableQuests_reread (quests : List Quest) (state : GameState) :
    availableQuests (quests.map Quest.reread) state =
      (availableQuests quests state).map Quest.reread := by
  have open_ : (quests.map Quest.reread).filter (·.isAvailable state) =
      (quests.filter (·.isAvailable state)).map Quest.reread := by
    simp [List.filter_map, Function.comp_def, Quest.reread_isAvailable]
  rw [availableQuests, open_, availableQuests]
  refine (List.map_mergeSort ?_).symm
  intro quest _ other _
  rw [Quest.reread_num, Quest.reread_num]

namespace Engine

theorem applyWithOutcomes_reread (quests : List Quest) (state : GameState) (effect : Effect) :
    applyWithOutcomes (quests.map Quest.reread) state effect =
      applyWithOutcomes quests state effect := by
  unfold applyWithOutcomes
  cases completesNow state effect with
  | none => rfl
  | some num =>
      have found : (quests.map Quest.reread).find? (·.num == num) =
          (quests.find? (·.num == num)).map Quest.reread := by
        rw [List.find?_map]
        simp only [Function.comp_def, Quest.reread_num]
      dsimp only
      rw [found]
      cases quests.find? (·.num == num) with
      | none => rfl
      | some quest => simp only [Option.map_some, Quest.reread_outcomes]

theorem nextQuest?_reread (quests : List Quest) (state : GameState) (choice : Choice) :
    nextQuest? (quests.map Quest.reread) state choice = nextQuest? quests state choice := by
  unfold nextQuest?
  cases choice.startNext with
  | none => rfl
  | some location =>
      simp only [availableQuests_reread, List.find?_map, Function.comp_def,
        Quest.reread_locationKey?, Option.map_map, Quest.reread_num]

variable {σ τ : Type}

/-- Two engines stand at the same place, the one with the quests of the other as they are read
back. -/
structure Mirrors (copy : Engine σ) (engine : Engine τ) : Prop where
  cache : copy.cache = engine.cache
  quests : copy.quests = engine.quests.map Quest.reread
  state : copy.state = engine.state
  active : copy.active = engine.active

def Agrees [DialogSource σ] [DialogSource τ] (copy : Engine σ) (engine : Engine τ)
    (key : DialogKey) : Prop :=
  (DialogSource.fetch copy.source key).toOption = (DialogSource.fetch engine.source key).toOption

theorem mirrors_new (copy : σ) (source : τ) (quests : List Quest) (state : GameState) :
    (Engine.new copy (quests.map Quest.reread) state).Mirrors (Engine.new source quests state) :=
  ⟨rfl, rfl, rfl, rfl⟩

theorem agrees_new [DialogSource σ] [DialogSource τ] (copy : σ) (source : τ)
    (reread quests : List Quest) (state : GameState) (key : DialogKey) (dialog : Dialog)
    (own : DialogSource.fetch copy key = .ok dialog)
    (other : DialogSource.fetch source key = .ok dialog) :
    (Engine.new copy reread state).Agrees (Engine.new source quests state) key :=
  congrArg Except.toOption (own.trans other.symm)

namespace Mirrors

variable {copy : Engine σ} {engine : Engine τ} (mirrors : copy.Mirrors engine)

include mirrors

theorem currentNode? : copy.currentNode? = engine.currentNode? := by
  unfold Engine.currentNode?
  rw [mirrors.active, mirrors.cache]

theorem offeredChoices : copy.offeredChoices = engine.offeredChoices := by
  unfold Engine.offeredChoices Engine.isFinished
  rw [mirrors.currentNode?, mirrors.active, mirrors.state]

theorem renderedText? : copy.renderedText? = engine.renderedText? := by
  unfold Engine.renderedText?
  rw [mirrors.currentNode?, mirrors.state]

theorem endDialog : copy.endDialog.Mirrors engine.endDialog where
  cache := mirrors.cache
  quests := mirrors.quests
  state := mirrors.state
  active := rfl

theorem choose (index : Nat) :
    (copy.choose index).1 = (engine.choose index).1 ∧
      (copy.choose index).2.Mirrors (engine.choose index).2 := by
  have resolved : copy.resolve index = engine.resolve index := by
    unfold Engine.resolve
    rw [mirrors.active, mirrors.cache, mirrors.state]
  have apply_ : applyWithOutcomes copy.quests = applyWithOutcomes engine.quests := by
    rw [mirrors.quests]
    exact funext fun state => funext fun effect => applyWithOutcomes_reread _ state effect
  unfold Engine.choose
  rw [resolved]
  cases engine.resolve index with
  | error e => exact ⟨rfl, mirrors⟩
  | ok found =>
      obtain ⟨position, choice, target⟩ := found
      have next (state : GameState) :
          nextQuest? copy.quests state choice = nextQuest? engine.quests state choice := by
        rw [mirrors.quests, nextQuest?_reread]
      dsimp only
      rw [apply_, mirrors.state, next]
      exact ⟨rfl, mirrors.cache, mirrors.quests, rfl, rfl⟩

variable [DialogSource σ] [DialogSource τ]

theorem load (key : DialogKey) (agrees : copy.Agrees engine key) :
    (copy.load key).1.toOption = (engine.load key).1.toOption ∧
      (copy.load key).2.Mirrors (engine.load key).2 := by
  unfold Engine.load
  rw [mirrors.cache]
  cases engine.cache.get? key with
  | some dialog => exact ⟨rfl, mirrors⟩
  | none =>
      unfold Agrees at agrees
      cases fetched : DialogSource.fetch engine.source key with
      | error e =>
          cases own : DialogSource.fetch copy.source key with
          | error e => exact ⟨rfl, mirrors⟩
          | ok dialog => simp [fetched, own, Except.toOption] at agrees
      | ok dialog =>
          cases own : DialogSource.fetch copy.source key with
          | error e => simp [fetched, own, Except.toOption] at agrees
          | ok other =>
              simp only [fetched, own, Except.toOption, Option.some.injEq] at agrees
              subst agrees
              dsimp only
              cases fatalDefect? other with
              | some reason => exact ⟨rfl, mirrors⟩
              | none => exact ⟨rfl, rfl, mirrors.quests, mirrors.state, mirrors.active⟩

theorem start (key : DialogKey) (agrees : copy.Agrees engine key) :
    (copy.start key).1 = (engine.start key).1 ∧
      (copy.start key).2.Mirrors (engine.start key).2 := by
  obtain ⟨answers, later⟩ := mirrors.endDialog.load key agrees
  unfold Engine.start
  rcases own : copy.endDialog.load key with ⟨_ | dialog, next⟩
  · rcases other : engine.endDialog.load key with ⟨_ | dialog, last⟩
    · rw [own, other] at later
      exact ⟨rfl, later⟩
    · simp [own, other, Except.toOption] at answers
  · rcases other : engine.endDialog.load key with ⟨_ | told, last⟩
    · simp [own, other, Except.toOption] at answers
    · simp only [own, other, Except.toOption, Option.some.injEq] at answers later
      subst answers
      exact ⟨rfl, later.cache, later.quests, later.state, rfl⟩

theorem move (m : Move) (agrees : ∀ key, m = .start key → copy.Agrees engine key) :
    (copy.move m).Mirrors (engine.move m) := by
  cases m with
  | start key => exact (mirrors.start key (agrees key rfl)).2
  | choose index => exact (mirrors.choose index).2

/-- Engines that stand at the same place do so after any moves, if the dialogs that are started are
the same. -/
theorem run (moves : List Move)
    (agrees : ∀ key, .start key ∈ moves → copy.Agrees engine key) :
    (copy.run moves).Mirrors (engine.run moves) := by
  induction moves generalizing copy engine with
  | nil => exact mirrors
  | cons m rest ih =>
      have first := mirrors.move m fun key same => agrees key (same ▸ List.mem_cons_self)
      refine ih first fun key listed => ?_
      unfold Agrees
      rw [move_source, move_source]
      exact agrees key (List.mem_cons_of_mem m listed)

end Mirrors

end Engine

end QuestWeb
