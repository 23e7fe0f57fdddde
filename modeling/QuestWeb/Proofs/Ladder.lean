import QuestWeb.Proofs.Bookkeeping

/-!
Playing a web by its rules. A quest dialog is only started while its quest is open, and everything
else is up to the player. A quest is then completed only behind the quests that it depends on, and
the finale only behind the other gates and enough domains.
-/

namespace QuestWeb

namespace WebLayout

variable (layout : WebLayout)

theorem dependencies_arcRole (domain step : Nat) (early : step < layout.arcLength) :
    layout.dependencies (layout.arcRole domain step) =
      match step with
      | 0 => [layout.num (.invitation domain)]
      | step + 1 => [layout.num (layout.arcRole domain step)] := by
  by_cases last : step + 1 = layout.arcLength
  · rw [arcRole, if_pos last]
    cases step with
    | zero => simp [dependencies, ← last]
    | succ step =>
        have longer : layout.arcLength ≠ 1 := by omega
        have before : layout.arcLength - 2 = step := by omega
        simp only [dependencies, longer, before, num_arcRole, ↓reduceIte]
  · rw [arcRole, if_neg last]
    cases step with
    | zero => rfl
    | succ step => simp only [dependencies, num_arcRole]

def Closed (done : QuestNum → Bool) : Prop :=
  ∀ role, layout.Has role → done (layout.num role) = true →
    ∀ num ∈ layout.dependencies role, done num = true

namespace Closed

variable {layout : WebLayout} {done : QuestNum → Bool} (closed : layout.Closed done)

include closed

theorem arc (domain : Nat) (inside : domain < layout.domains)
    (sealed : done (layout.num (.seal domain)) = true) (back step : Nat)
    (place : step + back + 1 = layout.arcLength) :
    done (layout.num (layout.arcRole domain step)) = true := by
  induction back generalizing step with
  | zero => simpa [arcRole, place] using sealed
  | succ back ih =>
      have next := ih (step + 1) (by omega)
      refine closed _ (layout.arcRole_has domain _ inside (by omega)) next _ ?_
      rw [layout.dependencies_arcRole domain _ (by omega)]
      exact List.mem_singleton_self _

/-- A domain whose seal quest is done is done altogether. -/
theorem domain (domain : Nat) (sealed : done (layout.num (.seal domain)) = true) (role : Role)
    (arc : 0 < layout.arcLength) (has : layout.Has role) (own : role.domain? = some domain) :
    done (layout.num role) = true := by
  cases role with
  | invitation other =>
      cases own
      refine closed _ (layout.arcRole_has domain 0 has arc)
        (closed.arc domain has sealed (layout.arcLength - 1) 0 (by omega)) _ ?_
      rw [layout.dependencies_arcRole domain 0 arc]
      exact List.mem_singleton_self _
  | arc other step =>
      cases own
      obtain ⟨inside, early⟩ := has
      have walked := closed.arc domain inside sealed (layout.arcLength - 1 - step) step (by omega)
      rwa [(layout.arcRole_step domain).1 step ⟨inside, early⟩] at walked
  | «seal» other =>
      cases own
      exact sealed
  | prologue | keystone | hearing | price | finale => simp [Role.domain?] at own

theorem gates (ended : done (layout.num .finale) = true) :
    done (layout.num .keystone) = true ∧ done (layout.num .hearing) = true ∧
      done (layout.num .price) = true := by
  have price := closed .finale trivial ended _ (List.mem_singleton_self _)
  have hearing := closed .price trivial price _ (List.mem_singleton_self _)
  exact ⟨closed .hearing trivial hearing _ (List.mem_singleton_self _), hearing, price⟩

end Closed

end WebLayout

namespace Engine

def Permits (engine : Engine DialogTable) : Call DialogTable → Prop
  | .start (.quest num) =>
      ∃ quest ∈ availableQuests engine.quests engine.state, quest.num = num
  | .insert .. => False
  | _ => True

def Orderly : Engine DialogTable → List (Call DialogTable) → Prop
  | _, [] => True
  | engine, c :: rest => engine.Permits c ∧ (engine.call c).Orderly rest

variable {engine : Engine DialogTable}

theorem Permits.isPlay {c : Call DialogTable} (permitted : engine.Permits c) :
    c.isPlay = true := by
  cases c with
  | insert => exact permitted.elim
  | start | load | choose | invalidate | endDialog => rfl

theorem permits_quest (engine : Engine DialogTable) (num : QuestNum) :
    engine.Permits (.start (.quest num)) ↔
      ∃ quest ∈ engine.quests, quest.isAvailable engine.state = true ∧ quest.num = num := by
  simp [Permits, mem_availableQuests, and_assoc]

instance (engine : Engine DialogTable) (c : Call DialogTable) : Decidable (engine.Permits c) :=
  match c with
  | .start (.quest num) => decidable_of_iff _ (permits_quest engine num).symm
  | .start (.location _) | .load _ | .choose _ | .invalidate _ | .endDialog => .isTrue trivial
  | .insert .. => .isFalse id

instance decidableOrderly : (engine : Engine DialogTable) → (calls : List (Call DialogTable)) →
    Decidable (engine.Orderly calls)
  | _, [] => .isTrue trivial
  | engine, c :: rest =>
      have := decidableOrderly (engine.call c) rest
      inferInstanceAs (Decidable (engine.Permits c ∧ (engine.call c).Orderly rest))

theorem Orderly.append {front back : List (Call DialogTable)} (first : engine.Orderly front)
    (second : (engine.after front).Orderly back) : engine.Orderly (front ++ back) := by
  induction front generalizing engine with
  | nil => exact second
  | cons c rest ih => exact ⟨first.1, ih first.2 second⟩

theorem PlaysOut.orderly {last : Engine DialogTable} (played : PlaysOut engine last) :
    ∃ calls, engine.Orderly calls ∧ engine.after calls = last := by
  induction played with
  | done engine finished => exact ⟨[], trivial, rfl⟩
  | pick engine last index choice playing offered rest ih =>
      obtain ⟨calls, orderly, ends⟩ := ih
      exact ⟨.choose index :: calls, ⟨trivial, orderly⟩, ends⟩

theorem Rounds.orderly {count : Nat} {last : Engine DialogTable}
    (played : Rounds count engine last) :
    ∃ calls, engine.Orderly calls ∧ engine.after calls = last := by
  induction played with
  | none engine => exact ⟨[], trivial, rfl⟩
  | more count engine middle last before round ih =>
      obtain ⟨front, orderly, rfl⟩ := ih
      obtain ⟨quest, listed, played⟩ := round
      obtain ⟨back, further, rfl⟩ := played.orderly
      refine ⟨front ++ .start (.quest quest.num) :: back, ?_, ?_⟩
      · exact orderly.append ⟨⟨quest, listed, rfl⟩, further⟩
      · exact List.foldl_append

end Engine

namespace Web

open Engine (Call)

variable {catalog : Catalog} {web : Web} {engine : Engine DialogTable} {state : GameState}

/-- What the quest of a role takes, the quests that it depends on and the seals for two gates. -/
structure Earned (catalog : Catalog) (state : GameState) (role : Role) : Prop where
  dependencies : ∀ num ∈ catalog.layout.dependencies role, state.isCompleted num = true
  keystone : role = .keystone → catalog.keystoneSeals ≤ (heldSeals catalog state).length
  finale : role = .finale → 3 ≤ (heldSeals catalog state).length

theorem heldSeals_length_le (catalog : Catalog) (state : GameState) :
    (heldSeals catalog state).length ≤ catalog.domains.length := by
  rw [heldSeals_countP]
  exact Nat.le_trans List.countP_le_length (Nat.le_of_eq List.length_range)

theorem heldSeals_mono (catalog : Catalog) (state next : GameState)
    (kept : ∀ num, state.isCompleted num = true → next.isCompleted num = true) :
    (heldSeals catalog state).length ≤ (heldSeals catalog next).length := by
  rw [heldSeals_countP, heldSeals_countP]
  exact List.countP_mono_left fun domain _ done => kept _ done

theorem Earned.mono {role : Role} (earned : Earned catalog state role) (next : GameState)
    (kept : ∀ num, state.isCompleted num = true → next.isCompleted num = true) :
    Earned catalog next role where
  dependencies num listed := kept num (earned.dependencies num listed)
  keystone gate := Nat.le_trans (earned.keystone gate) (heldSeals_mono catalog state next kept)
  finale gate := Nat.le_trans (earned.finale gate) (heldSeals_mono catalog state next kept)

/-- An open quest has everything that it takes. -/
theorem Made.earned (made : Made catalog web) (ledger : Ledger catalog state) (role : Role)
    (has : catalog.layout.Has role) (quest : Quest)
    (listed : quest ∈ availableQuests web.quests state)
    (num : quest.num = catalog.layout.num role) : Earned catalog state role := by
  obtain ⟨member, available⟩ := (mem_availableQuests _ _ _).mp listed
  obtain ⟨other, also, recorded⟩ := made.recorded quest member
  have same := catalog.layout.num_inj made.fits other role also has (recorded.num.symm.trans num)
  subst same
  simp only [Quest.isAvailable, Bool.and_eq_true, List.all_eq_true, recorded.dependencies,
    recorded.availability] at available
  obtain ⟨⟨_, dependencies⟩, holds⟩ := available
  refine ⟨dependencies, ?_, ?_⟩
  · rintro rfl
    rw [ledger.holdsAll_keystone made.accepted made.fits] at holds
    exact of_decide_eq_true holds
  · rintro rfl
    rw [ledger.holdsAll_finale] at holds
    exact of_decide_eq_true holds

structure Climbing (catalog : Catalog) (web : Web) (engine : Engine DialogTable) : Prop
    extends Playing catalog web engine where
  talked : ∀ position, engine.active = some position → ∃ role, catalog.layout.Has role ∧
    position.key = .quest (catalog.layout.num role) ∧ Earned catalog engine.state role
  earned : ∀ role, catalog.layout.Has role →
    engine.state.isCompleted (catalog.layout.num role) = true → Earned catalog engine.state role

theorem climbing_new (catalog : Catalog) (web : Web) :
    Climbing catalog web (web.engine .initial) where
  toPlaying := playing_new catalog web
  talked := by simp [Web.engine, Engine.new]
  earned := by simp [Web.engine, Engine.new, GameState.initial, GameState.isCompleted]

theorem InDialog.completed_choose {before : GameState} {role : Role} {id : String}
    (inside : InDialog catalog web before role id engine) (made : Made catalog web) (index : Nat)
    (choice : Choice) (offer : (index, choice) ∈ engine.offeredChoices) (num : QuestNum)
    (done : (engine.choose index).2.state.isCompleted num = true) :
    engine.state.isCompleted num = true ∨ catalog.layout.num role = num := by
  rw [(inside.choose made index choice offer).completed, Bool.or_eq_true, Bool.and_eq_true,
    beq_iff_eq, beq_iff_eq] at done
  rcases done with early | ⟨_, now⟩
  · rw [inside.completed, early, Bool.true_or]
    exact .inl rfl
  · exact .inr now

namespace Climbing

variable (climbing : Climbing catalog web engine) (made : Made catalog web)

include climbing made

theorem choose (index : Nat) : Climbing catalog web (engine.choose index).2 := by
  have kept := Engine.isCompleted_call engine (.choose index)
  have playing := climbing.toPlaying.choose made index
  rcases engine.choose_cases index with same | ⟨position, choice, target, resolves, same⟩
  · rw [same]
    exact climbing
  -- What the quest took when its dialog was started is still there when it is completed.
  · obtain ⟨role, has, key, earned⟩ := climbing.talked position resolves.active
    have further := earned.mono (engine.choose index).2.state kept
    refine ⟨playing, ?_, ?_⟩
    · intro next active
      rw [same] at active
      cases Option.some.inj active
      exact ⟨role, has, key, further⟩
    · intro other also done
      obtain ⟨before, own, id, inside⟩ :=
        climbing.toPlaying.taken index position choice target resolves
      have place := (inside.onNode.scene made index position choice target resolves).1
      rw [key, DialogKey.quest.injEq] at place
      cases catalog.layout.num_inj made.fits role own has inside.has place
      rcases inside.completed_choose made index choice resolves.mem_offered _ done with early | now
      · exact (climbing.earned other also early).mono _ kept
      · cases catalog.layout.num_inj made.fits role other has also now
        exact further

theorem call (c : Call DialogTable) (permitted : engine.Permits c) :
    Climbing catalog web (engine.call c) := by
  have playing := climbing.toPlaying.call made c permitted.isPlay
  -- All calls but a choice leave the state alone, so nothing that was earned is lost.
  cases c with
  | choose index => exact climbing.choose made index
  | start key =>
      have state : (engine.call (.start key)).state = engine.state := engine.start_state key
      refine ⟨playing, ?_, by rw [state]; exact climbing.earned⟩
      intro position active
      rcases climbing.toPlays.start made key with idle | ⟨role, rfl, inside⟩
      · rw [show (engine.call (.start key)).active = none from idle] at active
        simp at active
      · obtain ⟨quest, listed, num⟩ := permitted
        rw [climbing.quests] at listed
        obtain ⟨finished, here⟩ := inside.active
        cases Option.some.inj (active.symm.trans here)
        refine ⟨role, inside.has, rfl, ?_⟩
        rw [state]
        exact made.earned climbing.ledger role inside.has quest listed num
  | load key =>
      obtain ⟨cache, same⟩ := Engine.load_frame engine key
      refine ⟨playing, ?_, ?_⟩
      · simpa [Engine.call, same] using climbing.talked
      · simpa [Engine.call, same] using climbing.earned
  | invalidate key =>
      refine ⟨playing, ?_, climbing.earned⟩
      intro position active
      exact climbing.talked position (Option.filter_eq_some_iff.mp active).1
  | endDialog => exact ⟨playing, by simp [Engine.call, Engine.endDialog], climbing.earned⟩
  | insert => exact permitted.elim

theorem after (calls : List (Call DialogTable)) (orderly : engine.Orderly calls) :
    Climbing catalog web (engine.after calls) := by
  induction calls generalizing engine with
  | nil => exact climbing
  | cons c rest ih => exact ih (climbing.call made c orderly.1) orderly.2

end Climbing

theorem Climbing.closed (climbing : Climbing catalog web engine) :
    catalog.layout.Closed engine.state.isCompleted :=
  fun role has done => (climbing.earned role has done).dependencies

def mastered (catalog : Catalog) (state : GameState) : List Nat :=
  (List.range catalog.domains.length).filter fun domain =>
    (catalog.layout.roles.filter (·.domain? == some domain)).all fun role =>
      state.isCompleted (catalog.layout.num role)

/-- The quests of a web are completed in their order, and the finale only behind the gates and
enough domains. -/
structure Laddered (catalog : Catalog) (web : Web) (state : GameState) : Prop where
  closed : ∀ quest ∈ web.quests, state.isCompleted quest.num = true →
    ∀ num ∈ quest.dependencies, state.isCompleted num = true
  gates : state.isCompleted (catalog.layout.num .finale) = true →
    state.isCompleted (catalog.layout.num .keystone) = true ∧
      state.isCompleted (catalog.layout.num .hearing) = true ∧
      state.isCompleted (catalog.layout.num .price) = true
  domains : state.isCompleted (catalog.layout.num .finale) = true →
    max catalog.keystoneSeals 3 ≤ (mastered catalog state).length

/-- A seal that is held stands for all quests of its domain. -/
theorem heldSeals_length_le_mastered (accepted : catalog.Accepted)
    (closed : catalog.layout.Closed state.isCompleted) :
    (heldSeals catalog state).length ≤ (mastered catalog state).length := by
  rw [heldSeals_countP, mastered, ← List.countP_eq_length_filter]
  refine List.countP_mono_left fun domain _ sealed => List.all_eq_true.mpr ?_
  intro role listed
  obtain ⟨member, own⟩ := List.mem_filter.mp listed
  exact closed.domain domain sealed role accepted.arc ((catalog.layout.mem_roles role).mp member)
    (beq_iff_eq.mp own)

theorem Climbing.laddered (climbing : Climbing catalog web engine) (made : Made catalog web) :
    Laddered catalog web engine.state := by
  refine ⟨?_, climbing.closed.gates, ?_⟩
  · intro quest listed done num needed
    obtain ⟨role, has, recorded⟩ := made.recorded quest listed
    rw [recorded.num] at done
    rw [recorded.dependencies] at needed
    exact climbing.closed role has done num needed
  · intro ended
    have keystone := climbing.earned .keystone trivial (climbing.closed.gates ended).1
    have finale := climbing.earned .finale trivial ended
    exact Nat.le_trans (Nat.max_le.mpr ⟨keystone.keystone rfl, finale.finale rfl⟩)
      (heldSeals_length_le_mastered made.accepted climbing.closed)

/-- Where dialogs are started only while their quests are open, no quest is completed before those
that it depends on, and the finale comes last. -/
theorem ladder_kept (catalog : Catalog) (web : Web) (generated : generate catalog = .ok web)
    (calls : List (Call DialogTable)) (orderly : (web.engine .initial).Orderly calls) :
    Laddered catalog web ((web.engine .initial).after calls).state := by
  have made := generate_made catalog web generated (generate_ok catalog web generated).2.1
  exact ((climbing_new catalog web).after made calls orderly).laddered made

def ascent : List (Call DialogTable) :=
  triad.layout.roles.flatMap fun role =>
    [.start (.quest (triad.layout.num role)), .choose 0, .choose 0, .choose 0]

theorem ladder_kept_triad : ∃ web, generate triad = .ok web ∧
    (web.engine .initial).Orderly ascent ∧
      ((web.engine .initial).after ascent).state.isCompleted (triad.layout.num .finale) = true ∧
        Laddered triad web ((web.engine .initial).after ascent).state := by
  obtain ⟨web, generated⟩ := generate_triad
  have played : (generate triad).toOption.map (fun web =>
      decide ((web.engine .initial).Orderly ascent) &&
        ((web.engine .initial).after ascent).state.isCompleted (triad.layout.num .finale)) =
          some true := by
    decide +kernel
  simp only [generated, Except.toOption, Option.map_some, Option.some.injEq, Bool.and_eq_true,
    decide_eq_true_eq] at played
  exact ⟨web, generated, played.1, played.2, ladder_kept triad web generated ascent played.1⟩

theorem Climbing.three_domains (climbing : Climbing catalog web engine)
    (ended : engine.state.isCompleted (catalog.layout.num .finale) = true) :
    3 ≤ catalog.domains.length :=
  Nat.le_trans ((climbing.earned .finale trivial ended).finale rfl) (heldSeals_length_le catalog _)

/-- The finale can be completed by the rules exactly if the catalog has three domains or more. -/
theorem finale_completed_iff (catalog : Catalog) (web : Web)
    (generated : generate catalog = .ok web) :
    (∃ calls, (web.engine .initial).Orderly calls ∧
      ((web.engine .initial).after calls).state.isCompleted (catalog.layout.num .finale) = true) ↔
      3 ≤ catalog.domains.length := by
  have made := generate_made catalog web generated (generate_ok catalog web generated).2.1
  constructor
  · rintro ⟨calls, orderly, ended⟩
    exact ((climbing_new catalog web).after made calls orderly).three_domains ended
  · intro three
    obtain ⟨last, played⟩ := made.exists_rounds three web.quests.length (Nat.le_refl _)
    obtain ⟨settled, counted⟩ := Settled.rounds made played (settled_new catalog web) rfl
    obtain ⟨calls, orderly, rfl⟩ := played.orderly
    -- With as many quests completed as there are, all of them are.
    obtain ⟨quest, listed, recorded⟩ := made.record .finale trivial
    exact ⟨calls, orderly,
      recorded.num ▸ (settled.progress made three).done.mp counted quest listed⟩

theorem finale_completed_triad : ∃ web, generate triad = .ok web ∧
    ∃ calls, (web.engine .initial).Orderly calls ∧
      ((web.engine .initial).after calls).state.isCompleted (triad.layout.num .finale) = true := by
  obtain ⟨web, generated⟩ := generate_triad
  exact ⟨web, generated, (finale_completed_iff triad web generated).mpr (by decide)⟩

def pair : Catalog :=
  { triad with domains := triad.domains.take 2 }

/-- With two domains there are never the three seals that the finale asks for. -/
theorem finale_closed_pair :
    ¬ ∀ (catalog : Catalog) (web : Web), generate catalog = .ok web →
      ∃ calls, (web.engine .initial).Orderly calls ∧
        ((web.engine .initial).after calls).state.isCompleted (catalog.layout.num .finale) =
          true := by
  intro claim
  have made : (generate pair).isOk = true := by decide +kernel
  cases generated : generate pair with
  | error defect => simp [generated, Except.isOk, Except.toBool] at made
  | ok web =>
      obtain ⟨calls, orderly, ended⟩ := claim pair web generated
      have made := generate_made pair web generated (by decide)
      have three := ((climbing_new pair web).after made calls orderly).three_domains ended
      exact absurd three (by decide)

end Web

end QuestWeb
