import Mathlib
import QuestWeb.Proofs.Calls
import QuestWeb.Proofs.UpperCase

/-!
Quests that are started at a location. A choice that names a location starts the lowest of the
quests that wait there once its effects are applied. What was started never waits again, so over any
number of calls no quest is handed out twice.
-/

namespace QuestWeb

namespace Text

theorem lowerChar_ne_nil (c : Char) : lowerChar c ≠ [] := by
  unfold lowerChar lowerCode
  split
  · simp
  · split <;> simp

theorem lower_eq_empty (text : String) : lower text = "" ↔ text = "" := by
  rw [lower, String.ofList_eq_empty_iff, ← String.toList_eq_nil_iff]
  cases text.toList with
  | nil => simp [lowerFrom]
  | cons c rest =>
      unfold lowerFrom
      split <;> simp [lowerChar_ne_nil]

theorem trim_eq_empty (text : String) : trim text = "" ↔ isBlankText text = true := by
  rw [trim, String.ofList_eq_empty_iff, isBlankText, trimChars_eq_nil, List.all_eq_true]

end Text

theorem locationKey_eq_empty (location : String) :
    locationKey location = "" ↔ Text.isBlankText location = true := by
  rw [locationKey, Text.lower_eq_empty, Text.trim_eq_empty]

structure Quest.Waits (quest : Quest) (state : GameState) (key : String) : Prop where
  unstarted : state.isStarted quest.num = false
  open_ : state.isCompleted quest.num = false
  dependencies : ∀ num ∈ quest.dependencies, state.isCompleted num = true
  conditions : state.holdsAll quest.availability = true
  there : quest.locationKey? = some key

theorem Quest.waits_iff (quest : Quest) (state : GameState) (key : String) :
    quest.Waits state key ↔
      quest.isAvailable state = true ∧ quest.locationKey? = some key := by
  simp only [isAvailable, Bool.and_eq_true, Bool.not_eq_true', List.all_eq_true]
  constructor
  · rintro ⟨unstarted, open_, dependencies, conditions, there⟩
    exact ⟨⟨⟨⟨unstarted, open_⟩, dependencies⟩, conditions⟩, there⟩
  · rintro ⟨⟨⟨⟨unstarted, open_⟩, dependencies⟩, conditions⟩, there⟩
    exact ⟨unstarted, open_, dependencies, conditions, there⟩

namespace Engine

theorem availableQuests_sorted (quests : List Quest) (state : GameState) :
    (availableQuests quests state).Pairwise fun a b => a.num.val ≤ b.num.val := by
  have lowest : (availableQuests quests state).Pairwise fun a b =>
      decide (a.num.val ≤ b.num.val) = true := by
    apply List.pairwise_mergeSort
    · intro a b c first second
      rw [decide_eq_true_eq] at first second ⊢
      exact UInt32.le_trans first second
    · intro a b
      rw [Bool.or_eq_true, decide_eq_true_eq, decide_eq_true_eq]
      exact UInt32.le_total _ _
  simpa using lowest

structure First (quests : List Quest) (state : GameState) (key : String) (num : QuestNum) :
    Prop where
  waits : ∃ quest ∈ quests, quest.num = num ∧ quest.Waits state key
  lowest : ∀ other ∈ quests, other.Waits state key → num.val ≤ other.num.val

variable (quests : List Quest) (state : GameState)

theorem first_of_find? (key : String) (quest : Quest)
    (found : (availableQuests quests state).find? (·.locationKey? == some key) = some quest) :
    First quests state key quest.num := by
  obtain ⟨there, front, back, split, skipped⟩ := List.find?_eq_some_iff_append.mp found
  have member : quest ∈ availableQuests quests state := by simp [split]
  rw [mem_availableQuests] at member
  refine ⟨⟨quest, member.1, rfl, (quest.waits_iff state key).mpr ⟨member.2, by simpa using there⟩⟩,
    ?_⟩
  intro other listed waits
  obtain ⟨available, also⟩ := (other.waits_iff state key).mp waits
  have queued := (mem_availableQuests quests state other).mpr ⟨listed, available⟩
  have sorted := availableQuests_sorted quests state
  rw [split] at queued sorted
  -- What stands before the quest is elsewhere, and what stands behind it is not lower.
  rcases List.mem_append.mp queued with before | behind
  · have elsewhere := skipped other before
    simp [also] at elsewhere
  · rcases List.mem_cons.mp behind with rfl | later
    · exact UInt32.le_refl _
    · exact (List.pairwise_cons.mp (List.pairwise_append.mp sorted).2.1).1 other later

theorem nextQuest?_first (choice : Choice) (num : QuestNum)
    (next : nextQuest? quests state choice = some num) :
    ∃ location, choice.startNext = some location ∧ Text.isBlankText location = false ∧
      First quests state (locationKey location) num := by
  unfold nextQuest? at next
  cases named : choice.startNext with
  | none => simp [named] at next
  | some location =>
      rw [named] at next
      by_cases blank : locationKey location = ""
      · simp [blank] at next
      · simp only [blank, ↓reduceIte] at next
        obtain ⟨quest, found, rfl⟩ := Option.map_eq_some_iff.mp next
        refine ⟨location, rfl, ?_, first_of_find? quests state _ quest found⟩
        rwa [locationKey_eq_empty, Bool.not_eq_true] at blank

theorem nextQuest?_none (choice : Choice) (none : nextQuest? quests state choice = none)
    (location : String) (named : choice.startNext = some location)
    (visible : Text.isBlankText location = false) (quest : Quest) (listed : quest ∈ quests) :
    ¬ quest.Waits state (locationKey location) := by
  intro waits
  obtain ⟨available, there⟩ := (quest.waits_iff state _).mp waits
  have shown : locationKey location ≠ "" := by
    rw [Ne, locationKey_eq_empty, visible]
    exact Bool.false_ne_true
  unfold nextQuest? at none
  simp only [named, shown, ↓reduceIte, Option.map_eq_none_iff, List.find?_eq_none] at none
  exact none quest ((mem_availableQuests quests state quest).mpr ⟨listed, available⟩)
    (by simp [there])

variable {σ : Type}

def settled (engine : Engine σ) (choice : Choice) : GameState :=
  choice.effects.foldl (applyWithOutcomes engine.quests) engine.state

/-- The quest that a choice starts is the first that waits at its location, and it starts none only
where none waits. -/
structure HandsOut (engine : Engine σ) (choice : Choice) (started : Option QuestNum) : Prop where
  first : ∀ num, started = some num →
    ∃ location, choice.startNext = some location ∧ Text.isBlankText location = false ∧
      First engine.quests (engine.settled choice) (locationKey location) num
  none : started = none → ∀ location, choice.startNext = some location →
    Text.isBlankText location = false →
      ∀ quest ∈ engine.quests, ¬ quest.Waits (engine.settled choice) (locationKey location)

theorem choose_handsOut (engine next : Engine σ) (index : Nat) (step : Step)
    (chosen : engine.choose index = (.ok step, next)) :
    ∃ position choice target, engine.Resolves index position choice target ∧
      engine.HandsOut choice step.startedQuest ∧
        next.state =
          step.startedQuest.elim (engine.settled choice) (engine.settled choice).start := by
  obtain ⟨position, choice, target, resolved, rfl, rfl⟩ := choose_ok engine next index step chosen
  refine ⟨position, choice, target, (resolve_ok ..).mp resolved, ⟨?_, ?_⟩, ?_⟩
  · exact nextQuest?_first _ _ choice
  · exact nextQuest?_none _ _ choice
  · simp only [history, resolved, replay_append, replay_log, settled]
    cases nextQuest? engine.quests
      (choice.effects.foldl (applyWithOutcomes engine.quests) engine.state) choice <;> rfl

def Call.handedOut (engine : Engine σ) : Call σ → Option QuestNum
  | .choose index => (engine.choose index).1.toOption.bind (·.startedQuest)
  | _ => none

def handedOut [DialogSource σ] (engine : Engine σ) : List (Call σ) → List QuestNum
  | [] => []
  | c :: rest => (c.handedOut engine).toList ++ (engine.call c).handedOut rest

variable [DialogSource σ]

/-- A call only hands out what was not started before, and is then. -/
theorem call_handedOut (engine : Engine σ) (c : Call σ) (num : QuestNum)
    (handed : c.handedOut engine = some num) :
    engine.state.isStarted num = false ∧ (engine.call c).state.isStarted num = true := by
  cases c with
  | choose index =>
      cases chosen : engine.choose index with
      | mk answer next =>
          cases answer with
          | error e => simp [Call.handedOut, chosen, Except.toOption] at handed
          | ok step =>
              simp only [Call.handedOut, chosen, Except.toOption, Option.bind_some] at handed
              obtain ⟨_, choice, _, _, hands, same⟩ :=
                choose_handsOut engine next index step chosen
              obtain ⟨location, _, _, first⟩ := hands.first num handed
              obtain ⟨quest, _, rfl, waits⟩ := first.waits
              constructor
              -- Effects only add to the started quests.
              · have unstarted := waits.unstarted
                rw [settled, ← replay_log, isStarted_replay, Bool.or_eq_false_iff] at unstarted
                exact unstarted.1
              · simp only [call, chosen, same, handed, Option.elim_some]
                simp [GameState.isStarted, GameState.start]
  | start | load | invalidate | endDialog | insert => simp [Call.handedOut] at handed

theorem handedOut_unstarted (engine : Engine σ) (calls : List (Call σ)) (num : QuestNum)
    (handed : num ∈ engine.handedOut calls) : engine.state.isStarted num = false := by
  induction calls generalizing engine with
  | nil => simp [handedOut] at handed
  | cons c rest ih =>
      rcases List.mem_append.mp handed with now | later
      · exact (call_handedOut engine c num (Option.mem_toList.mp now)).1
      · cases before : engine.state.isStarted num with
        | false => rfl
        | true =>
            have still := ih (engine.call c) later
            rw [isStarted_call engine c num before] at still
            contradiction

theorem handedOut_nodup (engine : Engine σ) (calls : List (Call σ)) :
    (engine.handedOut calls).Nodup := by
  induction calls generalizing engine with
  | nil => exact .nil
  | cons c rest ih =>
      rw [handedOut, List.nodup_append]
      refine ⟨?_, ih _, ?_⟩
      · cases c.handedOut engine <;> simp
      · rintro num now other later rfl
        have started := (call_handedOut engine c num (Option.mem_toList.mp now)).2
        rw [handedOut_unstarted (engine.call c) rest num later] at started
        contradiction

/-- Over any calls whatever, every quest that a choice starts at a location is the first that waits
there when the effects of the choice and the outcomes behind them are applied; a choice starts none
only where none waits; and no quest is handed out twice, nor one that was started to begin with. -/
theorem handed_out_once (engine : Engine σ) (calls : List (Call σ)) :
    (engine.handedOut calls).Nodup ∧
      (∀ num ∈ engine.handedOut calls, engine.state.isStarted num = false) ∧
      ∀ front index back step next, calls = front ++ .choose index :: back →
        (engine.after front).choose index = (.ok step, next) →
          ∃ position choice target, (engine.after front).Resolves index position choice target ∧
            (engine.after front).HandsOut choice step.startedQuest ∧
            next.state = step.startedQuest.elim ((engine.after front).settled choice)
              ((engine.after front).settled choice).start := by
  refine ⟨handedOut_nodup engine calls, handedOut_unstarted engine calls, ?_⟩
  intro front index back step next _ chosen
  exact choose_handsOut (engine.after front) next index step chosen

def millEngine : Engine DialogTable :=
  let quest (num : UInt32) (location : String) (dependencies : List QuestNum)
      (availability : List Condition) (outcomes : List Effect) : Quest := {
    id := "", num := ⟨num⟩, name := "", region := "", location := some location
    domain := .unbound, dependencies, availability, outcomes, isTerminal := false, tags := []
    objectives := [], rewards := [], notes := none }
  let ask : Choice := ⟨"Anything to do?", "ask", [.completeQuest ⟨1⟩], [], some " The MILL"⟩
  .new
    (.ofEntries [(.ofLocation "mill", {
      quest := none
      start := "ask"
      nodes := (∅ : Std.ExtTreeMap String Node).insert "ask" ⟨"Miller", "Well?", [ask], false⟩ })])
    [quest 3 "the mill" [] [] [],
      quest 2 "The Mill " [⟨1⟩] [.flag "FERRY" .eq (.bool true)] [],
      quest 1 "ford" [] [] [.setFlag "FERRY" (.bool true)]]
    .initial

/-- The calls hand out both quests, the lower one first, and then none. -/
theorem handed_out_mill :
    let calls : List (Call DialogTable) :=
      [.start (.ofLocation "mill"), .choose 0, .choose 0, .choose 0]
    millEngine.handedOut calls = [⟨2⟩, ⟨3⟩] ∧ (millEngine.handedOut calls).Nodup := by
  intro calls
  exact ⟨by cbv, (handed_out_once millEngine calls).1⟩

end Engine

end QuestWeb
