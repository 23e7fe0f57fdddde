import QuestWeb.Proofs.Run

/-!
Calls on an engine, in any order, and the outcomes that they apply. The outcomes of a quest are only
applied when a choice completes it, and a completed quest stays completed, so over any number of
calls they are applied once at most.
-/

namespace QuestWeb.Engine

inductive Call : Type → Type 1 where
  | start {σ : Type} (key : DialogKey) : Call σ
  | load {σ : Type} (key : DialogKey) : Call σ
  | choose {σ : Type} (index : Nat) : Call σ
  | invalidate {σ : Type} (key : DialogKey) : Call σ
  | endDialog {σ : Type} : Call σ
  | insert (key : DialogKey) (dialog : Dialog) : Call DialogTable

def call : {σ : Type} → [DialogSource σ] → Engine σ → Call σ → Engine σ
  | _, _, engine, .start key => (engine.start key).2
  | _, _, engine, .load key => (engine.load key).2
  | _, _, engine, .choose index => (engine.choose index).2
  | _, _, engine, .invalidate key => engine.invalidate key
  | _, _, engine, .endDialog => engine.endDialog
  | _, _, engine, .insert key dialog => engine.insertDialog key dialog

def Call.isPlay {σ : Type} : Call σ → Bool
  | .insert .. => false
  | _ => true

def after {σ : Type} [DialogSource σ] (engine : Engine σ) (calls : List (Call σ)) : Engine σ :=
  calls.foldl call engine

variable {σ : Type}

def reward? (quests : List Quest) (state : GameState) (effect : Effect) : Option Quest :=
  (completesNow state effect).bind fun num => quests.find? (·.num == num)

/-- The quests whose outcomes follow the effects of a choice, one for each time. -/
def rewards (quests : List Quest) : GameState → List Effect → List Quest
  | _, [] => []
  | state, effect :: rest =>
      (reward? quests state effect).toList ++
        rewards quests (applyWithOutcomes quests state effect) rest

def Call.applied (engine : Engine σ) : Call σ → List Applied
  | .choose index => engine.history index
  | _ => []

def Call.rewards (engine : Engine σ) : Call σ → List Quest
  | .choose index =>
      match engine.resolve index with
      | .error _ => []
      | .ok (_, choice, _) => Engine.rewards engine.quests engine.state choice.effects
  | _ => []

def rewarded [DialogSource σ] (engine : Engine σ) : List (Call σ) → List Quest
  | [] => []
  | c :: rest => c.rewards engine ++ (engine.call c).rewarded rest

theorem reward?_eq_some (quests : List Quest) (state : GameState) (effect : Effect) (quest : Quest)
    (rewarded : reward? quests state effect = some quest) :
    effect = .completeQuest quest.num ∧ state.isCompleted quest.num = false ∧
      quests.find? (·.num == quest.num) = some quest := by
  obtain ⟨num, now, found⟩ := Option.bind_eq_some_iff.mp rewarded
  obtain ⟨rfl, fresh⟩ := completesNow_eq_some state effect num now
  have same : quest.num = num := by simpa using List.find?_some found
  subst same
  exact ⟨rfl, fresh, found⟩

theorem following_eq (quests : List Quest) (state : GameState) (effect : Effect) :
    following quests state effect = (reward? quests state effect).toList.flatMap ownOutcomes := by
  unfold following reward?
  cases completesNow state effect with
  | none => rfl
  | some num =>
      cases found : quests.find? (·.num == num) <;> simp [found]

theorem ownOutcomes_owned (quests : List Quest) :
    (quests.flatMap ownOutcomes).filter (·.owner.isSome) = quests.flatMap ownOutcomes := by
  rw [List.filter_eq_self]
  intro entry member
  obtain ⟨quest, _, own⟩ := List.mem_flatMap.mp member
  simp [ownOutcomes_owner quest entry own]

theorem log_owned (quests : List Quest) (state : GameState) (effects : List Effect) :
    (log quests state effects).filter (·.owner.isSome) =
      (rewards quests state effects).flatMap ownOutcomes := by
  induction effects generalizing state with
  | nil => rfl
  | cons effect rest ih =>
      rw [log, rewards, following_eq, List.filter_append, ih, List.flatMap_append,
        List.filter_cons_of_neg (by simp), ownOutcomes_owned]

theorem isCompleted_applyWithOutcomes (quests : List Quest) (state : GameState) (effect : Effect)
    (num : QuestNum) (done : state.isCompleted num = true) :
    (applyWithOutcomes quests state effect).isCompleted num = true := by
  rw [applyWithOutcomes_eq, isCompleted_replay, done, Bool.true_or]

theorem isCompleted_foldl (quests : List Quest) (state : GameState) (effects : List Effect)
    (num : QuestNum) (done : state.isCompleted num = true) :
    (effects.foldl (applyWithOutcomes quests) state).isCompleted num = true := by
  rw [← replay_log, isCompleted_replay, done, Bool.true_or]

/-- A rewarded quest is not completed before the choice, and completed behind it. -/
theorem mem_rewards (quests : List Quest) (state : GameState) (effects : List Effect)
    (quest : Quest) (member : quest ∈ rewards quests state effects) :
    quests.find? (·.num == quest.num) = some quest ∧ state.isCompleted quest.num = false ∧
      (effects.foldl (applyWithOutcomes quests) state).isCompleted quest.num = true := by
  induction effects generalizing state with
  | nil => simp [rewards] at member
  | cons effect rest ih =>
      rcases List.mem_append.mp member with now | later
      · obtain ⟨rfl, fresh, found⟩ :=
          reward?_eq_some quests state effect quest (Option.mem_toList.mp now)
        refine ⟨found, fresh, isCompleted_foldl quests _ rest quest.num ?_⟩
        rw [applyWithOutcomes_eq, isCompleted_replay]
        simp [Effect.completes]
      · obtain ⟨found, fresh, done⟩ := ih _ later
        refine ⟨found, ?_, done⟩
        -- What is completed stays completed, so what is open later is open now.
        cases before : state.isCompleted quest.num with
        | false => rfl
        | true =>
            rw [isCompleted_applyWithOutcomes quests state effect _ before] at fresh
            simp at fresh

theorem nodup_append (state : GameState) (early late : List Quest)
    (done : ∀ quest ∈ early, state.isCompleted quest.num = true)
    (open_ : ∀ quest ∈ late, state.isCompleted quest.num = false)
    (first : (early.map (·.num)).Nodup) (second : (late.map (·.num)).Nodup) :
    ((early ++ late).map (·.num)).Nodup := by
  rw [List.map_append, List.nodup_append]
  refine ⟨first, second, ?_⟩
  intro num member other also same
  obtain ⟨quest, before, rfl⟩ := List.mem_map.mp member
  obtain ⟨rival, behind, rfl⟩ := List.mem_map.mp also
  have twice := done quest before
  rw [same, open_ rival behind] at twice
  simp at twice

theorem rewards_nodup (quests : List Quest) (state : GameState) (effects : List Effect) :
    ((rewards quests state effects).map (·.num)).Nodup := by
  induction effects generalizing state with
  | nil => simp [rewards]
  | cons effect rest ih =>
      apply nodup_append (applyWithOutcomes quests state effect)
      · intro quest now
        have alone : quest ∈ rewards quests state [effect] := by
          simpa [rewards] using now
        exact (mem_rewards quests state [effect] quest alone).2.2
      · exact fun quest later => (mem_rewards quests _ rest quest later).2.1
      · cases reward? quests state effect <;> simp
      · exact ih _

variable [DialogSource σ]

theorem call_quests (engine : Engine σ) (c : Call σ) : (engine.call c).quests = engine.quests := by
  cases c with
  | start key => exact move_quests engine (.start key)
  | load key =>
      obtain ⟨cache, same⟩ := load_frame engine key
      simp [call, same]
  | choose index => exact move_quests engine (.choose index)
  | invalidate | endDialog | insert => rfl

theorem call_source (engine : Engine σ) (c : Call σ) (play : c.isPlay = true) :
    (engine.call c).source = engine.source := by
  cases c with
  | start key => exact move_source engine (.start key)
  | load key =>
      obtain ⟨cache, same⟩ := load_frame engine key
      simp [call, same]
  | choose index => exact move_source engine (.choose index)
  | invalidate | endDialog => rfl
  | insert => simp [Call.isPlay] at play

theorem Attached.call {engine : Engine DialogTable} (attached : engine.Attached)
    (c : Call DialogTable) : (engine.call c).Attached := by
  cases c with
  | start key => exact attached.start key
  | load key =>
      cases loaded : engine.load key with
      | mk answer next =>
          cases answer with
          | error e =>
              have same := load_error engine next key e loaded
              subst same
              simpa [Engine.call, loaded] using attached
          | ok dialog => simpa [Engine.call, loaded] using (attached.load key dialog next loaded).1
  | choose index => exact attached.choose index
  | invalidate key => exact attached.invalidate key
  | endDialog => exact attached.endDialog
  | insert key dialog => exact attached.insertDialog key dialog

theorem call_state (engine : Engine σ) (c : Call σ) :
    (engine.call c).state = replay engine.state (c.applied engine) := by
  cases c with
  | start key => exact start_state engine key
  | load key =>
      obtain ⟨cache, same⟩ := load_frame engine key
      simp [call, same, Call.applied, replay, GameState.applyAll]
  | choose index =>
      cases chosen : engine.choose index with
      | mk answer next =>
          cases answer with
          | error e =>
              simp [call, chosen, Call.applied, history_nil engine next index e chosen,
                choose_error engine next index e chosen, replay, GameState.applyAll]
          | ok step => simp [call, chosen, Call.applied, choose_state engine next index step chosen]
  | invalidate | endDialog | insert => rfl

theorem isCompleted_call (engine : Engine σ) (c : Call σ) (num : QuestNum)
    (done : engine.state.isCompleted num = true) :
    (engine.call c).state.isCompleted num = true := by
  rw [call_state, isCompleted_replay, done, Bool.true_or]

theorem isStarted_call (engine : Engine σ) (c : Call σ) (num : QuestNum)
    (begun : engine.state.isStarted num = true) : (engine.call c).state.isStarted num = true := by
  rw [call_state, isStarted_replay, begun, Bool.true_or]

/-- What holds of a call that applies outcomes: it is a choice, and it completes every quest whose
outcomes it applies. Nothing else that it applies belongs to a quest. -/
structure Rewarding (engine : Engine σ) (c : Call σ) : Prop where
  state : (engine.call c).state = replay engine.state (c.applied engine)
  owned : (c.applied engine).filter (·.owner.isSome) = (c.rewards engine).flatMap ownOutcomes
  chosen : c.rewards engine ≠ [] → ∃ index step, c = .choose index ∧
    (engine.choose index).1 = .ok step
  completes : ∀ quest ∈ c.rewards engine,
    engine.quests.find? (·.num == quest.num) = some quest ∧
      engine.state.isCompleted quest.num = false ∧
      (engine.call c).state.isCompleted quest.num = true

theorem call_rewarding (engine : Engine σ) (c : Call σ) : engine.Rewarding c := by
  have state := call_state engine c
  cases c with
  | choose index =>
      cases resolved : engine.resolve index with
      | error e =>
          refine ⟨state, ?_, ?_, ?_⟩ <;> simp [Call.applied, Call.rewards, history, resolved]
      | ok taken =>
          obtain ⟨position, choice, target⟩ := taken
          refine ⟨state, ?_, fun _ => ⟨index, _, rfl, by rw [Engine.choose, resolved]⟩, ?_⟩
          -- A quest that the choice starts at a location is nobody's outcome.
          · simp [Call.applied, Call.rewards, history, resolved, log_owned, List.filter_map,
              Function.comp_def]
          · intro quest member
            simp only [Call.rewards, resolved] at member
            obtain ⟨found, fresh, done⟩ := mem_rewards _ _ _ quest member
            refine ⟨found, fresh, ?_⟩
            rw [← replay_log] at done
            simp only [state, Call.applied, history, resolved, replay_append]
            rw [isCompleted_replay, done, Bool.true_or]
  | start | load | invalidate | endDialog | insert =>
      exact ⟨state, rfl, by simp [Call.rewards], by simp [Call.rewards]⟩

theorem Call.rewards_nodup (engine : Engine σ) (c : Call σ) :
    ((c.rewards engine).map (·.num)).Nodup := by
  cases c with
  | choose index =>
      simp only [Call.rewards]
      split
      · simp
      · exact Engine.rewards_nodup _ _ _
  | start | load | invalidate | endDialog | insert => simp [Call.rewards]

theorem isCompleted_after (engine : Engine σ) (calls : List (Call σ)) (num : QuestNum)
    (done : engine.state.isCompleted num = true) :
    (engine.after calls).state.isCompleted num = true := by
  induction calls generalizing engine with
  | nil => exact done
  | cons c rest ih => exact ih _ (isCompleted_call engine c num done)

theorem isStarted_after (engine : Engine σ) (calls : List (Call σ)) (num : QuestNum)
    (begun : engine.state.isStarted num = true) :
    (engine.after calls).state.isStarted num = true := by
  induction calls generalizing engine with
  | nil => exact begun
  | cons c rest ih => exact ih _ (isStarted_call engine c num begun)

theorem rewarded_open (engine : Engine σ) (calls : List (Call σ)) (quest : Quest)
    (member : quest ∈ engine.rewarded calls) : engine.state.isCompleted quest.num = false := by
  induction calls generalizing engine with
  | nil => simp [rewarded] at member
  | cons c rest ih =>
      rcases List.mem_append.mp member with now | later
      · exact ((call_rewarding engine c).completes quest now).2.1
      · cases before : engine.state.isCompleted quest.num with
        | false => rfl
        | true =>
            have open_ := ih _ later
            rw [isCompleted_call engine c _ before] at open_
            simp at open_

theorem rewarded_nodup (engine : Engine σ) (calls : List (Call σ)) :
    ((engine.rewarded calls).map (·.num)).Nodup := by
  induction calls generalizing engine with
  | nil => simp [rewarded]
  | cons c rest ih =>
      apply nodup_append (engine.call c).state
      · exact fun quest now => ((call_rewarding engine c).completes quest now).2.2
      · exact fun quest later => rewarded_open _ rest quest later
      · exact c.rewards_nodup engine
      · exact ih _

/-- Over any calls whatever, the outcomes of a quest number are applied once at most, and not at all
if the quest was completed to begin with. Every time they are, it is by a choice that completes the
quest. No call takes a quest out of those started or completed. -/
theorem outcomes_at_most_once (engine : Engine σ) (calls : List (Call σ)) :
    ((engine.rewarded calls).map (·.num)).Nodup ∧
      (∀ quest ∈ engine.rewarded calls, engine.state.isCompleted quest.num = false) ∧
      (∀ front c back, calls = front ++ c :: back → (engine.after front).Rewarding c) ∧
      ∀ num,
        (engine.state.isCompleted num = true →
          (engine.after calls).state.isCompleted num = true) ∧
        (engine.state.isStarted num = true → (engine.after calls).state.isStarted num = true) := by
  refine ⟨rewarded_nodup engine calls, rewarded_open engine calls, ?_, fun num => ⟨?_, ?_⟩⟩
  · exact fun front c back _ => call_rewarding (engine.after front) c
  · exact isCompleted_after engine calls num
  · exact isStarted_after engine calls num

end QuestWeb.Engine
