import QuestWeb.Proofs.Availability
import QuestWeb.Proofs.Standing

/-!
Playing a web in rounds. In a round the player picks any open quest, starts its dialog and takes any
choices on offer until the dialog is finished. Every round completes exactly the quest it was about,
and a quest is open as long as one is left, so the web is done after as many rounds as it has
quests.
-/

namespace QuestWeb

namespace Engine

def Round (engine last : Engine DialogTable) : Prop :=
  ∃ quest ∈ availableQuests engine.quests engine.state,
    PlaysOut (engine.start (.quest quest.num)).2 last

inductive Rounds : Nat → Engine DialogTable → Engine DialogTable → Prop where
  | none (engine : Engine DialogTable) : Rounds 0 engine engine
  | more (count : Nat) (engine middle last : Engine DialogTable)
      (before : Rounds count engine middle) (round : Round middle last) :
      Rounds (count + 1) engine last

end Engine

namespace Web

variable {catalog : Catalog} {web : Web}

structure Plays (catalog : Catalog) (web : Web) (engine : Engine DialogTable) : Prop where
  attached : engine.Attached
  source : engine.source = web.dialogTable
  quests : engine.quests = web.quests
  ledger : Ledger catalog engine.state

/-- An engine at a node of the dialog of a role. Since the state `before` the dialog, its quest was
started when the first node was left, and completed when the end was reached. -/
structure InDialog (catalog : Catalog) (web : Web) (before : GameState) (role : Role) (id : String)
    (engine : Engine DialogTable) : Prop extends Plays catalog web engine where
  has : catalog.layout.Has role
  active : ∃ finished, engine.active = some ⟨.quest (catalog.layout.num role), id, finished⟩
  judged : role = .hearing → id ≠ "start" → id ≠ "end" → Judged engine.state
  completed : ∀ num, engine.state.isCompleted num =
    (before.isCompleted num || (id == "end" && catalog.layout.num role == num))
  started : ∀ num, engine.state.isStarted num =
    (before.isStarted num || (id != "start" && catalog.layout.num role == num))

structure Settled (catalog : Catalog) (web : Web) (engine : Engine DialogTable) : Prop
    extends Plays catalog web engine where
  same : ∀ num, engine.state.isStarted num = engine.state.isCompleted num
  known : ∀ num, engine.state.isCompleted num = true →
    ∃ role, catalog.layout.Has role ∧ num = catalog.layout.num role

theorem settled_new (catalog : Catalog) (web : Web) :
    Settled catalog web (web.engine .initial) where
  attached := Engine.attached_new _ _ _
  source := rfl
  quests := rfl
  ledger := ledger_initial catalog
  same := by simp [engine, Engine.new, GameState.initial, GameState.isStarted,
    GameState.isCompleted]
  known := by simp [engine, Engine.new, GameState.initial, GameState.isCompleted]

namespace InDialog

variable {before : GameState} {role : Role} {id : String} {engine : Engine DialogTable}

theorem onNode (inside : InDialog catalog web before role id engine) :
    OnNode catalog web role id engine :=
  ⟨inside.attached, inside.source, inside.quests, inside.has, inside.active⟩

variable (inside : InDialog catalog web before role id engine) (made : Made catalog web)

include inside made

theorem choose (index : Nat) (choice : Choice) (offer : (index, choice) ∈ engine.offeredChoices) :
    InDialog catalog web before role choice.next (engine.choose index).2 := by
  obtain ⟨⟨step, next, chosen⟩, scene, further, applied⟩ :=
    inside.onNode.choose made index choice offer
  have state : (engine.choose index).2.state =
      choice.effects.foldl (Engine.applyWithOutcomes web.quests) engine.state := by
    rw [chosen, Engine.choose_state engine next index step chosen, applied, Engine.replay_log]
  have open_ := scene.open_
  obtain ⟨ledger, judged⟩ := scene.ledger made inside.has inside.ledger
    fun hearing further => inside.judged hearing further open_
  refine ⟨⟨further.attached, further.source, further.quests, state ▸ ledger⟩, inside.has,
    further.active, ?_, ?_, ?_⟩
  · intro hearing _ further
    rw [state]
    exact judged hearing further
  · intro num
    rw [state, scene.isCompleted made, inside.completed, beq_false_of_ne open_, Bool.false_and,
      Bool.or_false]
  · intro num
    rw [state, scene.isStarted made, inside.started]
    cases scene <;> simp [DialogPlan.choice]

theorem playsOut (last : Engine DialogTable) (played : Engine.PlaysOut engine last) :
    InDialog catalog web before role "end" last := by
  induction played generalizing id with
  | done engine finished =>
      have ended := (inside.onNode.isFinished made).mp finished
      exact ended ▸ inside
  | pick engine last index choice playing offered rest ih =>
      exact ih (inside.choose made index choice offered)

end InDialog

theorem Plays.enter {engine : Engine DialogTable} (plays : Plays catalog web engine)
    (made : Made catalog web) (role : Role) (has : catalog.layout.Has role) :
    (engine.start (.quest (catalog.layout.num role))).1 = true ∧
      InDialog catalog web engine.state role "start"
        (engine.start (.quest (catalog.layout.num role))).2 := by
  obtain ⟨started, stands⟩ :=
    OnNode.enter plays.attached plays.source plays.quests made role has
  have state := engine.start_state (.quest (catalog.layout.num role))
  refine ⟨started, ⟨stands.attached, stands.source, stands.quests, state ▸ plays.ledger⟩, has,
    stands.active, ?_, ?_, ?_⟩
  · intro _ further
    exact absurd rfl further
  · intro num
    simp [state]
  · intro num
    simp [state]

theorem Made.open_role (made : Made catalog web) (state : GameState) (quest : Quest)
    (listed : quest ∈ availableQuests web.quests state) :
    ∃ role, catalog.layout.Has role ∧ quest.num = catalog.layout.num role ∧
      state.isCompleted quest.num = false := by
  obtain ⟨member, available⟩ := (mem_availableQuests _ _ _).mp listed
  obtain ⟨role, has, recorded⟩ := made.recorded quest member
  simp only [Quest.isAvailable, Bool.and_eq_true, Bool.not_eq_true'] at available
  exact ⟨role, has, recorded.num, available.1.1.2⟩

/-- A round completes the quest it was about, and no other. -/
theorem Settled.round {engine : Engine DialogTable} (settled : Settled catalog web engine)
    (made : Made catalog web) (role : Role) (has : catalog.layout.Has role)
    (last : Engine DialogTable)
    (played : Engine.PlaysOut (engine.start (.quest (catalog.layout.num role))).2 last) :
    Settled catalog web last ∧
      last.state.completed = engine.state.completed.insert (catalog.layout.num role) := by
  have ended := (settled.toPlays.enter made role has).2.playsOut made last played
  have completed (num : QuestNum) : last.state.isCompleted num =
      (engine.state.isCompleted num || catalog.layout.num role == num) := by
    simpa using ended.completed num
  have started (num : QuestNum) : last.state.isStarted num =
      (engine.state.isStarted num || catalog.layout.num role == num) := by
    simpa using ended.started num
  refine ⟨⟨ended.toPlays, ?_, ?_⟩, ?_⟩
  · intro num
    rw [started, completed, settled.same]
  · intro num done
    rw [completed, Bool.or_eq_true] at done
    rcases done with before | now
    · exact settled.known num before
    · exact ⟨role, has, (beq_iff_eq.mp now).symm⟩
  · apply Std.ExtTreeSet.ext_contains
    intro num
    rw [QuestSet.contains_insert, Bool.or_comm]
    exact completed num

theorem Settled.rounds {engine last : Engine DialogTable} {count : Nat}
    (made : Made catalog web) (played : Engine.Rounds count engine last)
    (settled : Settled catalog web engine) (size : engine.state.completed.size = 0) :
    Settled catalog web last ∧ last.state.completed.size = count := by
  induction played with
  | none engine => exact ⟨settled, size⟩
  | more count engine middle last before round ih =>
      obtain ⟨between, counted⟩ := ih settled size
      obtain ⟨quest, listed, played⟩ := round
      rw [between.quests] at listed
      obtain ⟨role, has, num, open_⟩ := made.open_role middle.state quest listed
      rw [num] at played open_
      obtain ⟨after, added⟩ := between.round made role has last played
      refine ⟨after, ?_⟩
      -- An open quest is not completed, so the round adds one that was not there.
      have fresh : middle.state.completed.contains (catalog.layout.num role) = false := open_
      simp [added, Std.ExtTreeSet.size_insert, fresh, counted]

theorem Settled.size {engine : Engine DialogTable} (settled : Settled catalog web engine)
    (made : Made catalog web) : engine.state.completed.size =
      ((web.quests.map (·.num)).filter engine.state.isCompleted).length := by
  -- Every completed quest is one of the web, so both lists have the same numbers.
  rw [← Std.ExtTreeSet.length_toList]
  refine List.Perm.length_eq ((List.perm_ext_iff_of_nodup ?_ (made.distinct.filter _)).mpr ?_)
  · exact Std.ExtTreeSet.distinct_toList.imp fun apart same => apart (by simp [same])
  · intro num
    rw [Std.ExtTreeSet.mem_toList, List.mem_filter, ← Std.ExtTreeSet.contains_iff_mem]
    constructor
    · intro done
      obtain ⟨role, has, rfl⟩ := settled.known num done
      obtain ⟨quest, listed, recorded⟩ := made.record role has
      exact ⟨List.mem_map.mpr ⟨quest, listed, recorded.num⟩, done⟩
    · exact fun listed => listed.2

/-- What holds after any number of rounds: so many quests are completed, and one is open unless that
is all of them; the dialog of an open quest starts, ends after at most three choices whatever is
chosen, and then has completed that quest and nothing else. -/
structure Progress (web : Web) (rounds : Nat) (engine : Engine DialogTable) : Prop where
  completed : engine.state.completed.size = rounds
  bounded : rounds ≤ web.quests.length
  done : rounds = web.quests.length ↔
    ∀ quest ∈ web.quests, engine.state.isCompleted quest.num = true
  goes_on : rounds < web.quests.length → availableQuests engine.quests engine.state ≠ []
  starts : ∀ quest ∈ availableQuests engine.quests engine.state,
    (engine.start (.quest quest.num)).1 = true
  ends : ∀ quest ∈ availableQuests engine.quests engine.state,
    (engine.start (.quest quest.num)).2.EndsWithin 3
  adds : ∀ quest ∈ availableQuests engine.quests engine.state, ∀ last,
    Engine.PlaysOut (engine.start (.quest quest.num)).2 last →
      engine.state.isCompleted quest.num = false ∧
        last.state.completed = engine.state.completed.insert quest.num

theorem Settled.progress {engine : Engine DialogTable} (settled : Settled catalog web engine)
    (made : Made catalog web) (three : 3 ≤ catalog.domains.length) :
    Progress web engine.state.completed.size engine := by
  have size := settled.size made
  have all : engine.state.completed.size = web.quests.length ↔
      ∀ quest ∈ web.quests, engine.state.isCompleted quest.num = true := by
    have nums : web.quests.length = (web.quests.map (·.num)).length := by rw [List.length_map]
    rw [size, nums, List.length_filter_eq_length_iff]
    simp
  have bounded : engine.state.completed.size ≤ web.quests.length := by
    rw [size]
    exact Nat.le_trans (List.length_filter_le _ _) (by simp)
  refine ⟨rfl, bounded, all, ?_, ?_, ?_, ?_⟩
  · intro less
    have left : ∃ role, catalog.layout.Has role ∧
        engine.state.isCompleted (catalog.layout.num role) = false := by
      apply Classical.byContradiction
      intro none
      apply Nat.ne_of_lt less
      rw [all]
      intro quest listed
      obtain ⟨role, has, recorded⟩ := made.recorded quest listed
      rw [recorded.num]
      cases done : engine.state.isCompleted (catalog.layout.num role) with
      | true => rfl
      | false => exact absurd ⟨role, has, done⟩ none
    -- The first quest left has everything before it completed, so it is open.
    obtain ⟨role, has, open_, before⟩ :=
      exists_first catalog.layout engine.state.isCompleted left
    obtain ⟨quest, listed, _⟩ := made.available settled.ledger three role has
      ((settled.same _).trans open_) open_ before
    rw [settled.quests]
    exact List.ne_nil_of_mem listed
  all_goals
    intro quest listed
    rw [settled.quests] at listed
    obtain ⟨role, has, num, open_⟩ := made.open_role engine.state quest listed
    rw [num] at *
  · exact (settled.toPlays.enter made role has).1
  · exact (settled.toPlays.enter made role has).2.onNode.endsWithin made 3 (by decide)
  · intro last played
    exact ⟨open_, (settled.round made role has last played).2⟩

theorem Made.exists_rounds (made : Made catalog web) (three : 3 ≤ catalog.domains.length)
    (count : Nat) (bounded : count ≤ web.quests.length) :
    ∃ last, Engine.Rounds count (web.engine .initial) last := by
  induction count with
  | zero => exact ⟨_, .none _⟩
  | succ count ih =>
      obtain ⟨middle, before⟩ := ih (by omega)
      obtain ⟨settled, counted⟩ := Settled.rounds made before (settled_new catalog web) rfl
      have progress := settled.progress made three
      rw [counted] at progress
      obtain ⟨quest, listed⟩ := List.exists_mem_of_ne_nil _ (progress.goes_on (by omega))
      obtain ⟨last, played⟩ := (progress.ends quest listed).playsOut
      exact ⟨last, .more count _ middle last before ⟨quest, listed, played⟩⟩

/-- A web is completed in as many rounds as it has quests, in whatever order its open quests are
picked and whatever choices are taken in their dialogs. -/
theorem rounds_progress (catalog : Catalog) (web : Web) (generated : generate catalog = .ok web)
    (three : 3 ≤ catalog.domains.length) (fits : catalog.layout.total < UInt32.size)
    (count : Nat) (last : Engine DialogTable)
    (played : Engine.Rounds count (web.engine .initial) last) :
    web.quests.length = catalog.layout.total ∧ Progress web count last := by
  have made := generate_made catalog web generated fits
  obtain ⟨settled, counted⟩ := Settled.rounds made played (settled_new catalog web) rfl
  exact ⟨made.length, counted ▸ settled.progress made three⟩

/-- The web of three domains can be played to its end in fourteen rounds. -/
theorem rounds_progress_triad : ∃ web last, generate triad = .ok web ∧
    Engine.Rounds 14 (web.engine .initial) last ∧ web.quests.length = 14 ∧
      Progress web 14 last := by
  have three : 3 ≤ triad.domains.length := by decide
  have fits : triad.layout.total < UInt32.size := by decide
  obtain ⟨web, generated⟩ := generate_triad
  have made := generate_made triad web generated fits
  have total : web.quests.length = 14 := made.length
  obtain ⟨last, played⟩ := made.exists_rounds three 14 (by omega)
  obtain ⟨_, progress⟩ := rounds_progress triad web generated three fits 14 last played
  exact ⟨web, last, generated, played, total, progress⟩

end Web

end QuestWeb
