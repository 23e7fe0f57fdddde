import QuestWeb.Proofs.Calls
import QuestWeb.Proofs.Progress

/-!
Playing a web in any order. Whatever is called on the engine, with dialogs left half way and played
again, it stands nowhere or in the dialog of a role, and the flags of the game say what the
completed quests say.
-/

namespace QuestWeb

theorem GameState.clause_apply (state : GameState) (effect : Effect)
    (unset : ∀ value, effect ≠ .setFlag FlagName.clause value)
    (bound : state.text FlagName.clause ≠ "") :
    (state.apply effect).text FlagName.clause = state.text FlagName.clause := by
  cases effect with
  | setFlag name value =>
      have other : name ≠ FlagName.clause := fun same => unset value (by rw [same])
      rw [GameState.text, state.strings_frame _ _ (Effect.flag?_ne rfl other), GameState.text]
  | setClause clause => simp [GameState.apply, bound]
  | setCensureMode mode =>
      have other : FlagName.censureMode ≠ FlagName.clause := by decide
      rw [GameState.text, state.strings_frame _ _ (Effect.flag?_ne rfl other), GameState.text]
  | incFlag | startQuest | completeQuest | grantSeal | computeBossUnlock | teleport => rfl

theorem Engine.clause_replay (state : GameState) (entries : List Engine.Applied)
    (unset : ∀ entry ∈ entries, ∀ value, entry.effect ≠ .setFlag FlagName.clause value)
    (bound : state.text FlagName.clause ≠ "") :
    (Engine.replay state entries).text FlagName.clause = state.text FlagName.clause := by
  induction entries generalizing state with
  | nil => rfl
  | cons entry rest ih =>
      obtain ⟨first, others⟩ := List.forall_mem_cons.mp unset
      have kept := state.clause_apply entry.effect first bound
      exact (ih (state.apply entry.effect) others (kept ▸ bound)).trans kept

namespace Web

open Engine (Call)

variable {catalog : Catalog} {web : Web}

structure Playing (catalog : Catalog) (web : Web) (engine : Engine DialogTable) : Prop
    extends Plays catalog web engine where
  standing : engine.active = none ∨
    ∃ before role id, InDialog catalog web before role id engine

theorem playing_new (catalog : Catalog) (web : Web) :
    Playing catalog web (web.engine .initial) where
  toPlays := (settled_new catalog web).toPlays
  standing := .inl rfl

variable {engine : Engine DialogTable}

theorem Plays.call (plays : Plays catalog web engine) (c : Call DialogTable)
    (play : c.isPlay = true) (state : (engine.call c).state = engine.state) :
    Plays catalog web (engine.call c) where
  attached := plays.attached.call c
  source := (Engine.call_source engine c play).trans plays.source
  quests := (Engine.call_quests engine c).trans plays.quests
  ledger := state ▸ plays.ledger

theorem Plays.start (plays : Plays catalog web engine) (made : Made catalog web)
    (key : DialogKey) : (engine.start key).2.active = none ∨
      ∃ role, key = .quest (catalog.layout.num role) ∧
        InDialog catalog web engine.state role "start" (engine.start key).2 := by
  cases listed : web.dialogTable.get? key with
  | none => exact .inl (plays.attached.start_missing key (plays.source ▸ listed))
  | some dialog =>
      obtain ⟨role, has, rfl, _⟩ := made.loaded key dialog listed
      exact .inr ⟨role, rfl, (plays.enter made role has).2⟩

theorem InDialog.congr {before : GameState} {role : Role} {id : String}
    {next : Engine DialogTable} (inside : InDialog catalog web before role id engine)
    (plays : Plays catalog web next) (active : next.active = engine.active)
    (state : next.state = engine.state) : InDialog catalog web before role id next where
  toPlays := plays
  has := inside.has
  active := active ▸ inside.active
  judged := state ▸ inside.judged
  completed := state ▸ inside.completed
  started := state ▸ inside.started

namespace Playing

variable (playing : Playing catalog web engine) (made : Made catalog web)

include playing

theorem taken (index : Nat) (position : Position) (choice : Choice) (target : Node)
    (resolves : engine.Resolves index position choice target) :
    ∃ before role id, InDialog catalog web before role id engine := by
  rcases playing.standing with idle | inside
  · have active := resolves.active
    rw [idle] at active
    simp at active
  · exact inside

include made

theorem choose (index : Nat) : Playing catalog web (engine.choose index).2 := by
  rcases engine.choose_cases index with same | ⟨position, choice, target, resolves, _⟩
  · rw [same]
    exact playing
  · obtain ⟨before, role, id, inside⟩ := playing.taken index position choice target resolves
    have further := inside.choose made index choice resolves.mem_offered
    exact ⟨further.toPlays, .inr ⟨before, role, choice.next, further⟩⟩

theorem call (c : Call DialogTable) (play : c.isPlay = true) :
    Playing catalog web (engine.call c) := by
  cases c with
  | choose index => exact playing.choose made index
  | start key =>
      refine ⟨playing.toPlays.call _ play (engine.start_state key), ?_⟩
      rcases playing.toPlays.start made key with idle | ⟨role, _, inside⟩
      · exact .inl idle
      · exact .inr ⟨engine.state, role, "start", inside⟩
  | load key =>
      obtain ⟨cache, same⟩ := Engine.load_frame engine key
      have state : (engine.call (.load key)).state = engine.state := by simp [Engine.call, same]
      have active : (engine.call (.load key)).active = engine.active := by
        simp [Engine.call, same]
      have plays := playing.toPlays.call (.load key) play state
      refine ⟨plays, ?_⟩
      rcases playing.standing with idle | ⟨before, role, id, inside⟩
      · exact .inl (active.trans idle)
      · exact .inr ⟨before, role, id, inside.congr plays active state⟩
  | invalidate key =>
      have plays := playing.toPlays.call (.invalidate key) play rfl
      refine ⟨plays, ?_⟩
      rcases playing.standing with idle | ⟨before, role, id, inside⟩
      · exact .inl (by simp [Engine.call, Engine.invalidate, idle])
      · obtain ⟨finished, active⟩ := inside.active
        -- The dialog is over if it is the one that is forgotten.
        by_cases own : key = .quest (catalog.layout.num role)
        · exact .inl (by simp [Engine.call, Engine.invalidate, active, own])
        · have kept : (engine.call (.invalidate key)).active = engine.active := by
            simp [Engine.call, Engine.invalidate, active, Ne.symm own]
          exact .inr ⟨before, role, id, inside.congr plays kept rfl⟩
  | endDialog => exact ⟨playing.toPlays.call .endDialog play rfl, .inl rfl⟩
  | insert => simp [Call.isPlay] at play

theorem after (calls : List (Call DialogTable)) (plays : ∀ c ∈ calls, c.isPlay = true) :
    Playing catalog web (engine.after calls) := by
  induction calls generalizing engine with
  | nil => exact playing
  | cons c rest ih =>
      obtain ⟨first, others⟩ := List.forall_mem_cons.mp plays
      exact ih (playing.call made c first) others

end Playing

theorem outcomes_unset (catalog : Catalog) (role : Role) (effect : Effect)
    (outcome : effect ∈ outcomes catalog role) (value : FlagValue) :
    effect ≠ .setFlag FlagName.clause value := by
  have other : FlagName.keystoneDone ≠ FlagName.clause := by decide
  rintro rfl
  cases role <;> simp [outcomes, scoreEffect, Ne.symm other] at outcome

theorem DialogPlan.Scene.unset {role : Role} {id : String} {c : Choice}
    (scene : DialogPlan.Scene (plan catalog role) id c) (effect : Effect)
    (listed : effect ∈ c.effects) (value : FlagValue) :
    effect ≠ .setFlag FlagName.clause value := by
  have ready (num : QuestNum) : FlagName.clause ≠ "Q_READY_" ++ num.padded :=
    Ne.symm (readyFlag_ne num _ (by decide))
  have ending : FlagName.clause ≠ FlagName.ending := by decide
  rintro rfl
  cases scene with
  | close text extra told ends =>
      rcases ends with rfl | rfl <;>
        simp [DialogPlan.choice, DialogPlan.completeEffects, ready] at listed
  | _ =>
      simp [DialogPlan.choice, DialogPlan.startEffects, DialogPlan.completeEffects, ready, ending]
        at listed

namespace Playing

variable (playing : Playing catalog web engine) (made : Made catalog web)

include playing made

theorem unset (c : Call DialogTable) (entry : Engine.Applied) (applied : entry ∈ c.applied engine)
    (value : FlagValue) : entry.effect ≠ .setFlag FlagName.clause value := by
  cases c with
  | choose index =>
      obtain ⟨position, choice, target, resolves, source⟩ :=
        Engine.mem_history engine index entry applied
      rcases source with chosen | ⟨quest, listed, outcome⟩ | ⟨quest, _, starts⟩
      · obtain ⟨before, role, id, inside⟩ := playing.taken index position choice target resolves
        exact
          (inside.onNode.scene made index position choice target resolves).2.unset _ chosen value
      · rw [playing.quests] at listed
        obtain ⟨role, _, recorded⟩ := made.recorded quest listed
        exact outcomes_unset catalog role _ (recorded.outcomes ▸ outcome) value
      · simp [starts]
  | start | load | invalidate | endDialog | insert => simp [Call.applied] at applied

theorem clause_after (calls : List (Call DialogTable)) (plays : ∀ c ∈ calls, c.isPlay = true)
    (bound : engine.state.text FlagName.clause ≠ "") :
    (engine.after calls).state.text FlagName.clause = engine.state.text FlagName.clause := by
  induction calls generalizing engine with
  | nil => rfl
  | cons c rest ih =>
      obtain ⟨first, others⟩ := List.forall_mem_cons.mp plays
      have kept : (engine.call c).state.text FlagName.clause =
          engine.state.text FlagName.clause := by
        rw [Engine.call_state]
        exact Engine.clause_replay _ _ (playing.unset made c) bound
      exact (ih (playing.call made c first) others (kept ▸ bound)).trans kept

end Playing

/-- The flags say what the completed quests say: which seals are held and how many, whether they
unlock the boss, whether the keystone is passed, how the hearing was decided, and which ending was
chosen. The clause is one of the catalog's, if there is one yet. -/
structure InStep (catalog : Catalog) (state : GameState) : Prop where
  sealed : ∀ place domain, catalog.domains[place]? = some domain →
    state.isTrue (FlagName.sealOf domain.key) =
      state.isCompleted (catalog.layout.num (.seal place))
  counted : state.sealCount = (List.range catalog.domains.length).countP fun place =>
    state.isCompleted (catalog.layout.num (.seal place))
  boss : state.isTrue FlagName.bossUnlocked = decide (3 ≤ state.sealCount)
  keystone : state.isTrue FlagName.keystoneDone =
    state.isCompleted (catalog.layout.num .keystone)
  hearing : state.isCompleted (catalog.layout.num .hearing) = true → Judged state
  finale : state.isCompleted (catalog.layout.num .finale) = true → Crowned catalog state
  clause : state.text FlagName.clause = "" ∨
    ∃ domain ∈ catalog.domains, state.text FlagName.clause = domain.clause

variable {state : GameState}

theorem Ledger.isTrue_boss (ledger : Ledger catalog state) :
    state.isTrue FlagName.bossUnlocked = decide (3 ≤ (heldSeals catalog state).length) := by
  unfold GameState.isTrue
  rcases ledger.flag?_boss with flag | ⟨flag, few⟩
  · rw [flag]
    cases decide (3 ≤ (heldSeals catalog state).length) <;> decide
  · simp [flag, few]

theorem Books.isTrue_keystone (books : Books catalog state) :
    state.isTrue FlagName.keystoneDone = state.isCompleted (catalog.layout.num .keystone) := by
  rw [GameState.isTrue, books.flag?_score _ (by decide), books.keystone]
  cases state.isCompleted (catalog.layout.num .keystone) <;> decide

theorem Ledger.inStep (ledger : Ledger catalog state) (accepted : catalog.Accepted) :
    InStep catalog state := by
  have count := sealCount_eq catalog accepted state ledger.seals
  refine ⟨?_, ?_, ?_, ledger.isTrue_keystone, ledger.verdict, ledger.crown, ledger.clause⟩
  · intro place domain listed
    obtain ⟨inside, rfl⟩ := List.getElem?_eq_some_iff.mp listed
    rw [← domainAt_eq catalog place inside]
    exact ledger.isTrue_sealOf accepted place inside
  · rw [count, heldSeals_countP]
  · rw [count, ledger.isTrue_boss]

/-- Over a generated web the flags stay in step with the completed quests, whatever the player does,
and the player is bound to a clause once and for all. -/
theorem flags_in_step (catalog : Catalog) (web : Web) (generated : generate catalog = .ok web)
    (calls : List (Call DialogTable)) (plays : ∀ c ∈ calls, c.isPlay = true) :
    InStep catalog ((web.engine .initial).after calls).state ∧
      ∀ front back, calls = front ++ back →
        ((web.engine .initial).after front).state.text FlagName.clause ≠ "" →
          ((web.engine .initial).after calls).state.text FlagName.clause =
            ((web.engine .initial).after front).state.text FlagName.clause := by
  have made := generate_made catalog web generated (generate_ok catalog web generated).2.1
  have playing := playing_new catalog web
  refine ⟨(playing.after made calls plays).ledger.inStep made.accepted, ?_⟩
  rintro front back rfl bound
  obtain ⟨early, late⟩ := List.forall_mem_append.mp plays
  rw [Engine.after, List.foldl_append]
  exact (playing.after made front early).clause_after made back late bound

def oath : List (Call DialogTable) :=
  [.start (.quest (triad.layout.num (.invitation 0))), .choose 1]

theorem oath_binds (web : Web) (generated : generate triad = .ok web) :
    ((web.engine .initial).after oath).state.text FlagName.clause = "ash" := by
  have told : (generate triad).toOption.map (fun web =>
      ((web.engine .initial).after oath).state.text FlagName.clause) = some "ash" := by
    decide +kernel
  simpa [generated, Except.toOption] using told

/-- The player breaks off after the oath and asks for another one at the next domain. -/
theorem flags_in_step_triad : ∃ web, generate triad = .ok web ∧
    ∃ calls : List (Call DialogTable),
      calls = oath ++ [.endDialog, .start (.quest (triad.layout.num (.invitation 1))), .choose 1] ∧
      InStep triad ((web.engine .initial).after calls).state ∧
      ((web.engine .initial).after calls).state.text FlagName.clause = "ash" := by
  obtain ⟨web, generated⟩ := generate_triad
  have bound := oath_binds web generated
  obtain ⟨inStep, kept⟩ := flags_in_step triad web generated
    (oath ++ [.endDialog, .start (.quest (triad.layout.num (.invitation 1))), .choose 1])
    (by simp [oath, Call.isPlay])
  refine ⟨web, generated, _, rfl, inStep, ?_⟩
  rw [kept oath _ rfl (by rw [bound]; decide), bound]

end Web

end QuestWeb
