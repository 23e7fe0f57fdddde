import QuestWeb.Proofs.Ledger

/-!
The choices of generated dialogs, as they change the state. Taking one keeps the ledger; it starts
the quest of the dialog if it stands on the first node, and completes it if it leads to the end.
-/

namespace QuestWeb.Web

open Engine

theorem outcomes_quest? (catalog : Catalog) (role : Role) (effect : Effect)
    (outcome : effect ∈ outcomes catalog role) : effect.quest? = none := by
  cases role <;> simp only [outcomes, scoreEffect, List.not_mem_nil, List.mem_cons, or_false]
    at outcome
  case «seal» | keystone =>
    rcases outcome with rfl | rfl | rfl <;> rfl
  all_goals
    subst outcome
    rfl

namespace Made

variable {catalog : Catalog} {web : Web} (made : Made catalog web)

include made

theorem outcome_names_none (quest : Quest) (listed : quest ∈ web.quests) (effect : Effect)
    (outcome : effect ∈ quest.outcomes) : effect.quest? = none := by
  obtain ⟨role, _, recorded⟩ := made.recorded quest listed
  rw [recorded.outcomes] at outcome
  exact outcomes_quest? catalog role effect outcome

theorem applyWithOutcomes_complete (state : GameState) (role : Role)
    (has : catalog.layout.Has role) :
    applyWithOutcomes web.quests state (.completeQuest (catalog.layout.num role)) =
      if state.isCompleted (catalog.layout.num role) then
        state.apply (.completeQuest (catalog.layout.num role))
      else
        (state.apply (.completeQuest (catalog.layout.num role))).applyAll
          (outcomes catalog role) := by
  obtain ⟨quest, _, recorded, found⟩ := made.find?_num role has
  by_cases before : state.isCompleted (catalog.layout.num role)
  · simp [applyWithOutcomes, completesNow, before]
  · simp [applyWithOutcomes, completesNow, before, found, recorded.outcomes]

theorem ledger_complete {state : GameState} (ledger : Ledger catalog state) (role : Role)
    (has : catalog.layout.Has role) (judged : role = .hearing → Judged state)
    (crowned : role = .finale → Crowned catalog state) :
    Ledger catalog
      (applyWithOutcomes web.quests state (.completeQuest (catalog.layout.num role))) := by
  rw [made.applyWithOutcomes_complete state role has]
  split
  · rename_i before
    -- The quest is completed again, which changes nothing.
    have completed : (state.apply (.completeQuest (catalog.layout.num role))).completed =
        state.completed := by
      apply Std.ExtTreeSet.ext_contains
      intro num
      have after : (state.apply (.completeQuest (catalog.layout.num role))).isCompleted num =
          state.isCompleted num := by
        rw [GameState.isCompleted_apply]
        by_cases same : catalog.layout.num role = num
        · simp [← same, before]
        · simp [Effect.completes, same]
      exact after
    exact ledger.congr completed rfl rfl rfl
  · exact ledger.complete made.accepted made.fits role has judged crowned

end Made

theorem Harmless.applyWithOutcomes {catalog : Catalog} {effect : Effect}
    (harmless : Harmless catalog effect) (quests : List Quest) (state : GameState) :
    applyWithOutcomes quests state effect = state.apply effect := by
  cases harmless <;> rfl

theorem Made.ledger_harmless {catalog : Catalog} {web : Web} (made : Made catalog web)
    {effect : Effect} (harmless : Harmless catalog effect) {state : GameState}
    (ledger : Ledger catalog state) :
    Ledger catalog (Engine.applyWithOutcomes web.quests state effect) := by
  rw [harmless.applyWithOutcomes]
  exact harmless.ledger made.accepted ledger

namespace DialogPlan

variable {catalog : Catalog} {web : Web} {role : Role} {id : String} {c : Choice}

theorem judged_verdict (quests : List Quest) (state : GameState) (mode : String)
    (decided : mode = "reduced" ∨ mode = "defied") :
    Judged (applyWithOutcomes quests state (.setCensureMode mode)) := by
  rcases decided with rfl | rfl
  · exact .inl (by simp [Engine.applyWithOutcomes, completesNow, GameState.apply,
      GameState.setText])
  · exact .inr (by simp [Engine.applyWithOutcomes, completesNow, GameState.apply,
      GameState.setText])

theorem crowned_ending (quests : List Quest) (state : GameState) (domain : Catalog.Domain)
    (listed : domain ∈ catalog.domains) :
    Crowned catalog
      (applyWithOutcomes quests state (.setFlag FlagName.ending (.text domain.key))) :=
  ⟨domain, listed, by simp [Engine.applyWithOutcomes, completesNow, GameState.apply,
    GameState.setFlag, GameState.setText]⟩

theorem ledger_completeEffects (made : Made catalog web) (has : catalog.layout.Has role)
    {state : GameState} (ledger : Ledger catalog state) (judged : role = .hearing → Judged state)
    (crowned : role = .finale → Crowned catalog state) :
    Ledger catalog
      ((plan catalog role).completeEffects.foldl (applyWithOutcomes web.quests) state) := by
  have ready : Harmless catalog
      (.setFlag ("Q_READY_" ++ (plan catalog role).num.padded) (.bool true)) := .ready _
  refine made.ledger_complete (made.ledger_harmless ready ledger) role has (fun hearing => ?_)
    fun finale => ?_
  · rw [ready.applyWithOutcomes]
    exact ready.judged (judged hearing)
  · rw [ready.applyWithOutcomes]
    exact ready.crowned (crowned finale)

/-- A choice keeps the ledger. In the hearing, only a verdict leads on from the first node. -/
theorem Scene.ledger (scene : Scene (plan catalog role) id c) (made : Made catalog web)
    (has : catalog.layout.Has role) {state : GameState} (ledger : Ledger catalog state)
    (judged : role = .hearing → id ≠ "start" → Judged state) :
    Ledger catalog (c.effects.foldl (applyWithOutcomes web.quests) state) ∧
      (role = .hearing → c.next ≠ "end" →
        Judged (c.effects.foldl (applyWithOutcomes web.quests) state)) := by
  have started := made.ledger_harmless (.start (plan catalog role).num) ledger
  -- The scenes that leave the first node start the quest, those that reach the end complete it. A
  -- verdict is only asked for in the hearing, where no other scene leaves the first node.
  cases scene with
  | proceed text told => exact ⟨started, fun hearing => absurd hearing told.1⟩
  | bind text place told =>
      refine ⟨made.ledger_harmless (.clause _ (domainAt_mem catalog made.accepted _)) started,
        fun hearing => ?_⟩
      exact absurd (told.symm.trans hearing) (by simp)
  | answer text name delta conditions scored =>
      have untracked : ¬ Tracked name := by
        rcases scored with rfl | rfl
        · exact untracked_domainScore _
        · exact untracked_censureScore
      have scored : Harmless catalog (.incFlag name delta) := .score name delta untracked
      refine ⟨made.ledger_harmless scored ledger, fun hearing _ => ?_⟩
      rw [choice, List.foldl_cons, List.foldl_nil, scored.applyWithOutcomes]
      exact scored.judged (judged hearing (by simp))
  | enter text told =>
      exact ⟨started, fun hearing => absurd (told.symm.trans hearing) (by simp)⟩
  | judge text mode told decided =>
      exact ⟨made.ledger_harmless (.mode mode decided) started,
        fun _ _ => judged_verdict web.quests _ mode decided⟩
  | close text extra told ends =>
      have completed := ledger_completeEffects made has ledger
        (fun hearing => judged hearing (by simp)) fun finale => absurd finale told
      rcases ends with rfl | rfl
      · exact ⟨completed, fun _ further => absurd rfl further⟩
      · exact ⟨made.ledger_harmless .boss completed, fun _ further => absurd rfl further⟩
  | crown text crown told listed =>
      have ended := made.ledger_harmless (.ending crown listed) started
      refine ⟨ledger_completeEffects made has ended (fun hearing => ?_)
        fun _ => crowned_ending web.quests _ crown listed, fun _ further => absurd rfl further⟩
      exact absurd (told.symm.trans hearing) (by simp)

theorem Scene.completes_any (scene : Scene (plan catalog role) id c) (num : QuestNum) :
    c.effects.any (·.completes num) =
      (c.next == "end" && catalog.layout.num role == num) := by
  cases scene with
  | close text extra told ends =>
      rcases ends with rfl | rfl <;>
        simp [choice, completeEffects, Effect.completes, DialogPlan.num, plan]
  | _ => simp [choice, startEffects, completeEffects, Effect.completes, DialogPlan.num, plan]

theorem Scene.starts_any (scene : Scene (plan catalog role) id c) (num : QuestNum) :
    c.effects.any (·.starts num) =
      ((id == "start" || c.next == "end") && catalog.layout.num role == num) := by
  cases scene with
  | close text extra told ends =>
      rcases ends with rfl | rfl <;>
        simp [choice, completeEffects, Effect.starts, Effect.quest?, DialogPlan.num, plan]
  | _ =>
      simp [choice, startEffects, completeEffects, Effect.starts, Effect.quest?, DialogPlan.num,
        plan]

/-- A choice completes the quest of the dialog if it leads to the end, and no other quest. -/
theorem Scene.isCompleted (scene : Scene (plan catalog role) id c) (made : Made catalog web)
    (state : GameState) (num : QuestNum) :
    (c.effects.foldl (applyWithOutcomes web.quests) state).isCompleted num =
      (state.isCompleted num || (c.next == "end" && catalog.layout.num role == num)) := by
  rw [← replay_log, isCompleted_replay, any_log web.quests (·.completes num),
    scene.completes_any]
  intro quest listed effect outcome
  have none := made.outcome_names_none quest listed effect outcome
  cases effect <;> simp_all [Effect.quest?, Effect.completes]

/-- A choice starts the quest of the dialog at the first node and at the end, and no other. -/
theorem Scene.isStarted (scene : Scene (plan catalog role) id c) (made : Made catalog web)
    (state : GameState) (num : QuestNum) :
    (c.effects.foldl (applyWithOutcomes web.quests) state).isStarted num =
      (state.isStarted num ||
        ((id == "start" || c.next == "end") && catalog.layout.num role == num)) := by
  rw [← replay_log, isStarted_replay, any_log web.quests (·.starts num), scene.starts_any]
  intro quest listed effect outcome
  simp [Effect.starts, made.outcome_names_none quest listed effect outcome]

end DialogPlan

end QuestWeb.Web
