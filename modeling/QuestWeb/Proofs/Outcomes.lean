import QuestWeb.Engine
import QuestWeb.Proofs.Completion

/-!
What one choice applies, effect by effect. The history of a choice names every effect in the order
in which it reached the state, and the quest whose outcome it was. The outcomes of a quest follow
the effect that completes it when that effect stands on the choice; a quest that is completed by
the outcomes of another one never has its own outcomes applied.
-/

namespace QuestWeb.Engine

variable {σ : Type}

/-- An effect that reached the state, with the quest that owns it as an outcome. An effect of the
choice itself has no owner. -/
structure Applied where
  effect : Effect
  owner : Option QuestNum
  deriving DecidableEq, Repr

def ownOutcomes (quest : Quest) : List Applied :=
  quest.outcomes.map (⟨·, some quest.num⟩)

def following (quests : List Quest) (state : GameState) (effect : Effect) : List Applied :=
  match completesNow state effect with
  | none => []
  | some num =>
      match quests.find? (·.num == num) with
      | some quest => ownOutcomes quest
      | none => []

def log (quests : List Quest) : GameState → List Effect → List Applied
  | _, [] => []
  | state, effect :: rest =>
      ⟨effect, none⟩ :: following quests state effect ++
        log quests (applyWithOutcomes quests state effect) rest

def history (engine : Engine σ) (index : Nat) : List Applied :=
  match engine.resolve index with
  | .error _ => []
  | .ok (_, choice, _) =>
      let state := choice.effects.foldl (applyWithOutcomes engine.quests) engine.state
      log engine.quests engine.state choice.effects ++
        (nextQuest? engine.quests state choice).toList.map (⟨.startQuest ·, none⟩)

def replay (state : GameState) (entries : List Applied) : GameState :=
  state.applyAll (entries.map (·.effect))

theorem replay_append (state : GameState) (front back : List Applied) :
    replay state (front ++ back) = replay (replay state front) back := by
  simp [replay, GameState.applyAll]

theorem isCompleted_replay (state : GameState) (entries : List Applied) (num : QuestNum) :
    (replay state entries).isCompleted num =
      (state.isCompleted num || entries.any (·.effect.completes num)) := by
  unfold replay
  rw [GameState.isCompleted_applyAll, List.any_map]
  rfl

theorem isStarted_replay (state : GameState) (entries : List Applied) (num : QuestNum) :
    (replay state entries).isStarted num =
      (state.isStarted num || entries.any (·.effect.starts num)) := by
  unfold replay
  rw [GameState.isStarted_applyAll, List.any_map]
  rfl

theorem completesNow_eq_some (state : GameState) (effect : Effect) (num : QuestNum)
    (now : completesNow state effect = some num) :
    effect = .completeQuest num ∧ state.isCompleted num = false := by
  cases effect with
  | completeQuest done =>
      by_cases before : state.isCompleted done
      · simp [completesNow, before] at now
      · simp [completesNow, before] at now
        subst num
        exact ⟨rfl, by simpa using before⟩
  | _ => simp [completesNow] at now

theorem applyWithOutcomes_eq (quests : List Quest) (state : GameState) (effect : Effect) :
    applyWithOutcomes quests state effect =
      replay state (⟨effect, none⟩ :: following quests state effect) := by
  unfold applyWithOutcomes following
  cases completesNow state effect with
  | none => rfl
  | some num =>
      cases found : quests.find? (·.num == num) with
      | none => simp [found, replay, GameState.applyAll]
      | some quest =>
          simp [found, replay, GameState.applyAll, ownOutcomes, Function.comp_def]

theorem following_owner (quests : List Quest) (state : GameState) (effect : Effect)
    (entry : Applied) (member : entry ∈ following quests state effect) :
    ∃ quest ∈ quests, entry ∈ ownOutcomes quest ∧ effect = .completeQuest quest.num ∧
      state.isCompleted quest.num = false := by
  unfold following at member
  cases now : completesNow state effect with
  | none => simp [now] at member
  | some num =>
      obtain ⟨named, fresh⟩ := completesNow_eq_some state effect num now
      cases found : quests.find? (·.num == num) with
      | none => simp [now, found] at member
      | some quest =>
          have same : quest.num = num := by simpa using List.find?_some found
          subst num
          exact ⟨quest, List.mem_of_find?_eq_some found, by simpa [now, found] using member,
            named, fresh⟩

theorem ownOutcomes_owner (quest : Quest) (entry : Applied)
    (member : entry ∈ ownOutcomes quest) : entry.owner = some quest.num := by
  simp only [ownOutcomes, List.mem_map] at member
  rcases member with ⟨effect, _, rfl⟩
  rfl

theorem find?_num (quests : List Quest) (distinct : (quests.map Quest.num).Nodup)
    (quest : Quest) (listed : quest ∈ quests) :
    quests.find? (·.num == quest.num) = some quest := by
  induction quests with
  | nil => simp at listed
  | cons first rest ih =>
      simp only [List.map_cons, List.nodup_cons] at distinct
      rcases List.mem_cons.mp listed with same | later
      · simp [same]
      · have differs : first.num ≠ quest.num := by
          intro same
          exact distinct.1 (same ▸ List.mem_map_of_mem later)
        rw [List.find?_cons_of_neg (by simpa using differs)]
        exact ih distinct.2 later

theorem following_completed (quests : List Quest) (distinct : (quests.map Quest.num).Nodup)
    (state : GameState) (quest : Quest) (listed : quest ∈ quests)
    (fresh : state.isCompleted quest.num = false) :
    following quests state (.completeQuest quest.num) = ownOutcomes quest := by
  unfold following completesNow
  simp [fresh, find?_num quests distinct quest listed]

theorem replay_log (quests : List Quest) (state : GameState) (effects : List Effect) :
    replay state (log quests state effects) =
      effects.foldl (applyWithOutcomes quests) state := by
  induction effects generalizing state with
  | nil => rfl
  | cons effect rest ih =>
      rw [log, replay_append, ← applyWithOutcomes_eq, ih]
      rfl

/-- A quest that is completed before a choice owns nothing of what the choice applies. -/
theorem log_owner_fresh (quests : List Quest) (state : GameState) (effects : List Effect)
    (entry : Applied) (member : entry ∈ log quests state effects) (num : QuestNum)
    (owned : entry.owner = some num) : state.isCompleted num = false := by
  induction effects generalizing state with
  | nil => simp [log] at member
  | cons effect rest ih =>
      simp only [log, List.cons_append, List.mem_cons, List.mem_append] at member
      rcases member with rfl | follows | later
      · simp at owned
      · obtain ⟨quest, _, own, _, fresh⟩ := following_owner quests state effect entry follows
        rw [ownOutcomes_owner quest entry own] at owned
        cases owned
        exact fresh
      -- No effect takes a quest out of the completed ones, so what is open later is open now.
      · have after := ih (applyWithOutcomes quests state effect) later
        rw [applyWithOutcomes_eq, isCompleted_replay] at after
        exact (Bool.or_eq_false_iff.mp after).1

theorem filter_log (quests : List Quest) (p : Effect → Bool)
    (outcomes : ∀ quest ∈ quests, ∀ effect ∈ quest.outcomes, p effect = false)
    (state : GameState) (effects : List Effect) :
    ((log quests state effects).map (·.effect)).filter p = effects.filter p := by
  induction effects generalizing state with
  | nil => rfl
  | cons effect rest ih =>
      have followed : ((following quests state effect).map (·.effect)).filter p = [] := by
        rw [List.filter_eq_nil_iff]
        intro outcome member
        obtain ⟨entry, follows, rfl⟩ := List.mem_map.mp member
        obtain ⟨quest, listed, own, _, _⟩ := following_owner quests state effect entry follows
        obtain ⟨outcome, inside, rfl⟩ := List.mem_map.mp own
        simp [outcomes quest listed outcome inside]
      simp only [log, List.cons_append, List.map_cons, List.map_append, List.filter_cons,
        List.filter_append, followed, List.nil_append, ih]

theorem any_log (quests : List Quest) (p : Effect → Bool)
    (outcomes : ∀ quest ∈ quests, ∀ effect ∈ quest.outcomes, p effect = false)
    (state : GameState) (effects : List Effect) :
    (log quests state effects).any (p ·.effect) = effects.any p := by
  have kept := congrArg (·.any fun _ => true) (filter_log quests p outcomes state effects)
  simpa [List.any_filter, List.any_map, Function.comp_def] using kept

/-- How a listed quest comes to be completed by what a choice applies. Either its own outcomes
stand right behind the effect that completes it, or that effect is an outcome of another quest and
none of the quest's outcomes is applied at all. -/
def Completed (quests : List Quest) (quest : Quest) (entries : List Applied) : Prop :=
  ∃ front entry back, entries = front ++ entry :: back ∧
    entry.effect = .completeQuest quest.num ∧
    (∀ earlier ∈ front, earlier.effect.completes quest.num = false) ∧
    ((entry.owner = none ∧ ownOutcomes quest <+: back) ∨
      (∃ other ∈ quests, other.num ≠ quest.num ∧ entry ∈ ownOutcomes other) ∧
        ∀ applied ∈ entries, applied.owner ≠ some quest.num)

theorem Completed.append {quests : List Quest} {quest : Quest} {entries : List Applied}
    (completed : Completed quests quest entries) (later : List Applied)
    (unowned : ∀ applied ∈ later, applied.owner ≠ some quest.num) :
    Completed quests quest (entries ++ later) := by
  obtain ⟨front, entry, back, rfl, effect, first, how⟩ := completed
  refine ⟨front, entry, back ++ later, by simp, effect, first, ?_⟩
  rcases how with ⟨chosen, prefixed⟩ | ⟨other, none⟩
  · exact .inl ⟨chosen, prefixed.trans (List.prefix_append back later)⟩
  · refine .inr ⟨other, ?_⟩
    intro applied member
    rcases List.mem_append.mp member with early | late
    · exact none applied early
    · exact unowned applied late

theorem Completed.prepend {quests : List Quest} {quest : Quest} {entries : List Applied}
    (completed : Completed quests quest entries) (earlier : List Applied)
    (unowned : ∀ applied ∈ earlier, applied.owner ≠ some quest.num)
    (incomplete : ∀ applied ∈ earlier, applied.effect.completes quest.num = false) :
    Completed quests quest (earlier ++ entries) := by
  obtain ⟨front, entry, back, rfl, effect, first, how⟩ := completed
  refine ⟨earlier ++ front, entry, back, by simp, effect, ?_, ?_⟩
  · intro applied member
    rcases List.mem_append.mp member with early | late
    · exact incomplete applied early
    · exact first applied late
  · rcases how with chosen | ⟨other, none⟩
    · exact .inl chosen
    · refine .inr ⟨other, ?_⟩
      intro applied member
      rcases List.mem_append.mp member with early | late
      · exact unowned applied early
      · exact none applied late

theorem completed_directly (quests : List Quest) (distinct : (quests.map Quest.num).Nodup)
    (state : GameState) (quest : Quest) (listed : quest ∈ quests)
    (fresh : state.isCompleted quest.num = false) (later : List Applied) :
    Completed quests quest
      (⟨.completeQuest quest.num, none⟩ ::
        following quests state (.completeQuest quest.num) ++ later) := by
  rw [following_completed quests distinct state quest listed fresh]
  exact ⟨[], ⟨.completeQuest quest.num, none⟩, ownOutcomes quest ++ later, rfl, rfl, by simp,
    .inl ⟨rfl, List.prefix_append _ _⟩⟩

theorem completed_by_outcome (quests : List Quest) (state : GameState) (effect : Effect)
    (quest : Quest) (other : effect.completes quest.num = false)
    (cascade : (following quests state effect).any (·.effect.completes quest.num)) :
    Completed quests quest (⟨effect, none⟩ :: following quests state effect) := by
  -- The first outcome that completes the quest. No other can stand before it.
  obtain ⟨entry, found⟩ := Option.isSome_iff_exists.mp (List.find?_isSome.mpr
    (List.any_eq_true.mp cascade))
  obtain ⟨completes, front, back, split, first⟩ := List.find?_eq_some_iff_append.mp found
  have member : entry ∈ following quests state effect := by simp [split]
  obtain ⟨owner, listed, own, named, _⟩ := following_owner quests state effect entry member
  have differs : owner.num ≠ quest.num := by
    intro same
    simp [named, Effect.completes, same] at other
  refine ⟨⟨effect, none⟩ :: front, entry, back, by simp [split],
    (Effect.completes_iff _ _).mp completes, ?_, .inr ⟨⟨owner, listed, differs, own⟩, ?_⟩⟩
  · intro applied early
    rcases List.mem_cons.mp early with rfl | early
    · exact other
    · simpa using first applied early
  · intro applied follows
    rcases List.mem_cons.mp follows with rfl | follows
    · simp
    -- All outcomes that follow belong to the one quest that the effect completes.
    · obtain ⟨source, _, own, again, _⟩ := following_owner quests state effect applied follows
      rw [ownOutcomes_owner source applied own]
      rw [named] at again
      simp only [Effect.completeQuest.injEq] at again
      simpa [← again] using differs

theorem log_completed (quests : List Quest) (distinct : (quests.map Quest.num).Nodup)
    (state : GameState) (effects : List Effect) (quest : Quest) (listed : quest ∈ quests)
    (before : state.isCompleted quest.num = false)
    (after : (log quests state effects).any (·.effect.completes quest.num)) :
    Completed quests quest (log quests state effects) := by
  induction effects generalizing state with
  | nil => simp [log] at after
  | cons effect rest ih =>
      unfold log
      -- The quest is completed by this effect, or by the outcomes that follow it, or only later on.
      by_cases direct : effect.completes quest.num
      · rw [(Effect.completes_iff _ _).mp direct]
        exact completed_directly quests distinct state quest listed before _
      · have other : effect.completes quest.num = false := by simpa using direct
        by_cases cascade : (following quests state effect).any (·.effect.completes quest.num)
        · refine (completed_by_outcome quests state effect quest other cascade).append _ ?_
          -- The quest is completed by now, so nothing of the rest can belong to it.
          intro applied later owned
          have fresh := log_owner_fresh quests _ rest applied later quest.num owned
          rw [applyWithOutcomes_eq, isCompleted_replay] at fresh
          simp [cascade] at fresh
        · have untouched : (following quests state effect).any
              (·.effect.completes quest.num) = false := by simpa using cascade
          refine (ih (applyWithOutcomes quests state effect) ?_ ?_).prepend _ ?_ ?_
          · rw [applyWithOutcomes_eq, isCompleted_replay]
            simp [before, other, untouched]
          · simpa [log, other, untouched] using after
          · intro applied member owned
            rcases List.mem_cons.mp member with rfl | follows
            · simp at owned
            · obtain ⟨source, _, own, named, _⟩ :=
                following_owner quests state effect applied follows
              rw [ownOutcomes_owner source applied own] at owned
              simp only [Option.some.injEq] at owned
              simp [named, Effect.completes, owned] at other
          · intro applied member
            rcases List.mem_cons.mp member with rfl | follows
            · exact other
            · simpa using List.any_eq_false.mp untouched applied follows

theorem choose_ok (engine next : Engine σ) (index : Nat) (step : Step)
    (chosen : engine.choose index = (.ok step, next)) :
    ∃ position choice target, engine.resolve index = .ok (position, choice, target) ∧
      step = ⟨choice.next, target.terminal, nextQuest? engine.quests
        (choice.effects.foldl (applyWithOutcomes engine.quests) engine.state) choice⟩ ∧
      next = { engine with
        state := replay engine.state (engine.history index)
        active := some { position with node := choice.next, finished := target.terminal } } := by
  unfold choose at chosen
  cases resolved : engine.resolve index with
  | error e => simp [resolved] at chosen
  | ok taken =>
      obtain ⟨position, choice, target⟩ := taken
      simp only [resolved, Prod.mk.injEq, Except.ok.injEq] at chosen
      refine ⟨position, choice, target, rfl, chosen.1.symm, ?_⟩
      rw [← chosen.2]
      simp only [history, resolved, replay_append, replay_log]
      cases nextQuest? engine.quests
        (choice.effects.foldl (applyWithOutcomes engine.quests) engine.state) choice <;> rfl

theorem choose_state (engine next : Engine σ) (index : Nat) (step : Step)
    (chosen : engine.choose index = (.ok step, next)) :
    next.state = replay engine.state (engine.history index) := by
  obtain ⟨_, _, _, _, _, rfl⟩ := choose_ok engine next index step chosen
  rfl

/-- A choice that completes a listed quest applies its outcomes right behind the completing effect
exactly when that effect stands on the choice. When it is an outcome of another quest, no outcome of
the quest it completes is applied. -/
theorem choose_outcomes (engine next : Engine σ) (index : Nat) (step : Step)
    (distinct : (engine.quests.map Quest.num).Nodup)
    (chosen : engine.choose index = (.ok step, next))
    (quest : Quest) (listed : quest ∈ engine.quests)
    (before : engine.state.isCompleted quest.num = false)
    (after : next.state.isCompleted quest.num = true) :
    next.state = replay engine.state (engine.history index) ∧
      Completed engine.quests quest (engine.history index) := by
  have replayed := choose_state engine next index step chosen
  refine ⟨replayed, ?_⟩
  obtain ⟨position, choice, target, resolved, _, _⟩ := choose_ok engine next index step chosen
  rw [replayed, isCompleted_replay, before, Bool.false_or] at after
  simp only [history, resolved] at after ⊢
  rw [List.any_append, Bool.or_eq_true] at after
  rcases after with logged | started
  · refine (log_completed engine.quests distinct engine.state choice.effects quest listed before
      logged).append _ ?_
    intro applied member
    simp only [List.mem_map] at member
    rcases member with ⟨num, _, rfl⟩
    simp
  · simp [Effect.completes] at started

def chainedQuests : List Quest :=
  [(1, [.completeQuest ⟨2⟩]), (2, [.setFlag "REWARDED" (.int 1)])].map fun (num, outcomes) =>
    { id := "", num := ⟨num⟩, name := "", region := "", location := none, domain := .unbound,
      dependencies := [], availability := [], outcomes, isTerminal := false, tags := [],
      objectives := [], rewards := [], notes := none }

def chainedDialog : Dialog where
  quest := some ⟨1⟩
  start := "ask"
  nodes := (∅ : Std.ExtTreeMap String Node)
    |>.insert "ask" ⟨"", "", [⟨"", "end", [.completeQuest ⟨1⟩], [], none⟩], false⟩
    |>.insert "end" ⟨"", "", [], true⟩

def chainedEngine : Engine DialogTable :=
  ((Engine.new (.ofQuestDialogs [(⟨1⟩, chainedDialog)]) chainedQuests .initial).start
    (.quest ⟨1⟩)).2

theorem chainedEngine_choose :
    chainedEngine.choose 0 = (.ok ⟨"end", true, none⟩, (chainedEngine.choose 0).2) := by
  have taken : (chainedEngine.choose 0).1.toOption = some ⟨"end", true, none⟩ := by decide +kernel
  cases answer : (chainedEngine.choose 0).1 with
  | error e => simp [answer, Except.toOption] at taken
  | ok step =>
      simp only [answer, Except.toOption, Option.some.injEq] at taken
      subst taken
      exact Prod.ext answer rfl

/-- The first quest of the chain is completed by the choice. -/
theorem choose_outcomes_chained :
    (chainedEngine.choose 0).2.state = replay chainedEngine.state (chainedEngine.history 0) ∧
      ∃ quest, chainedEngine.quests.head? = some quest ∧
        Completed chainedEngine.quests quest (chainedEngine.history 0) := by
  have listed : ∃ quest, chainedEngine.quests.head? = some quest := ⟨_, rfl⟩
  obtain ⟨quest, first⟩ := listed
  have num : quest.num = ⟨1⟩ := by
    simpa [first] using (by decide +kernel : chainedEngine.quests.head?.map (·.num) = some ⟨1⟩)
  have result := choose_outcomes chainedEngine (chainedEngine.choose 0).2 0 _ (by decide +kernel)
    chainedEngine_choose quest (List.mem_of_head? first)
    (by rw [num]; decide +kernel) (by rw [num]; decide +kernel)
  exact ⟨result.1, quest, first, result.2⟩

/-- The second quest of the chain is completed too, and its outcome does not follow. -/
theorem chained_outcome_skipped :
    ¬ ∀ (engine next : Engine DialogTable) (index : Nat) (step : Step),
      (engine.quests.map Quest.num).Nodup → engine.choose index = (.ok step, next) →
      ∀ quest ∈ engine.quests, engine.state.isCompleted quest.num = false →
        next.state.isCompleted quest.num = true →
        ∃ front entry back, engine.history index = front ++ entry :: back ∧
          entry.effect = .completeQuest quest.num ∧ ownOutcomes quest <+: back := by
  intro claim
  have listed : ∃ quest, chainedEngine.quests.getLast? = some quest := ⟨_, rfl⟩
  obtain ⟨quest, last⟩ := listed
  have num : quest.num = ⟨2⟩ := by
    simpa [last] using (by decide +kernel : chainedEngine.quests.getLast?.map (·.num) = some ⟨2⟩)
  have own : quest.outcomes = [.setFlag "REWARDED" (.int 1)] := by
    simpa [last] using (by decide +kernel :
      chainedEngine.quests.getLast?.map (·.outcomes) = some [.setFlag "REWARDED" (.int 1)])
  obtain ⟨front, entry, back, split, _, follows⟩ := claim chainedEngine
    (chainedEngine.choose 0).2 0 _ (by decide +kernel) chainedEngine_choose quest
    (List.mem_of_getLast? last) (by rw [num]; decide +kernel) (by rw [num]; decide +kernel)
  have history : chainedEngine.history 0 =
      [⟨.completeQuest ⟨1⟩, none⟩, ⟨.completeQuest ⟨2⟩, some ⟨1⟩⟩] := by decide +kernel
  have member : (⟨.setFlag "REWARDED" (.int 1), some ⟨2⟩⟩ : Applied) ∈
      chainedEngine.history 0 := by
    have owned : (⟨.setFlag "REWARDED" (.int 1), some ⟨2⟩⟩ : Applied) ∈ ownOutcomes quest := by
      simp [ownOutcomes, own, num]
    rw [split]
    exact List.mem_append_right _ (List.mem_cons_of_mem _ (follows.subset owned))
  rw [history] at member
  simp at member

end QuestWeb.Engine
