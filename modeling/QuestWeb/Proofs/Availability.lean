import QuestWeb.Proofs.Scenes

/-!
When a quest of a web opens. The conditions of the gates read flags of the ledger, so a gate opens
as soon as all quests before it are completed, and some quest is open until all are completed.
-/

namespace QuestWeb.Web

variable {catalog : Catalog} {web : Web} {state : GameState}

theorem Books.flag?_score (books : Books catalog state) (name : String)
    (other : name ≠ FlagName.clause ∧ name ≠ FlagName.censureMode ∧ name ≠ FlagName.ending) :
    state.flag? name = (state.scores[name]?).map .int := by
  cases found : state.strings[name]? with
  | some text =>
      have listed := books.texts name text found
      simp [other] at listed
  | none => simp [GameState.flag?, found]

theorem sealOf_mem_heldSeals (accepted : catalog.Accepted) (domain : Nat)
    (inside : domain < catalog.domains.length) :
    FlagName.sealOf (catalog.domainAt domain).key ∈ heldSeals catalog state ↔
      state.isCompleted (catalog.layout.num (.seal domain)) = true := by
  rw [mem_heldSeals]
  constructor
  · rintro ⟨other, also, done, same⟩
    rwa [← sealOf_inj catalog accepted other domain also inside same]
  · exact fun done => ⟨domain, inside, done, rfl⟩

theorem Books.isTrue_sealOf (books : Books catalog state) (accepted : catalog.Accepted)
    (domain : Nat) (inside : domain < catalog.domains.length) :
    state.isTrue (FlagName.sealOf (catalog.domainAt domain).key) =
      state.isCompleted (catalog.layout.num (.seal domain)) := by
  have isSeal := isSeal_sealOf (catalog.domainAt domain).key
  have held : FlagName.sealOf (catalog.domainAt domain).key ∈ heldSeals catalog state ↔
      state.isCompleted (catalog.layout.num (.seal domain)) = true :=
    sealOf_mem_heldSeals accepted domain inside
  have other (name : String) (unsealed : FlagName.isSeal name = false) :
      FlagName.sealOf (catalog.domainAt domain).key ≠ name := by
    rintro rfl
    simp [isSeal] at unsealed
  rw [GameState.isTrue, books.flag?_score _ ⟨other _ (by decide), other _ (by decide),
    other _ (by decide)⟩, books.seals _ isSeal]
  cases done : state.isCompleted (catalog.layout.num (.seal domain)) with
  | true =>
      rw [if_pos (held.mpr done)]
      decide
  | false =>
      rw [if_neg (fun listed => by simp [held.mp listed] at done)]
      rfl

theorem sealFlags_eq (catalog : Catalog) :
    catalog.sealFlags = (List.range catalog.domains.length).map
      fun domain => FlagName.sealOf (catalog.domainAt domain).key := by
  apply List.ext_getElem
  · simp [Catalog.sealFlags]
  · intro place left right
    have inside : place < catalog.domains.length := by simpa [Catalog.sealFlags] using left
    simp [Catalog.sealFlags, Catalog.Domain.sealFlag, domainAt_eq catalog place inside]

theorem heldSeals_length (catalog : Catalog) (state : GameState)
    (all : ∀ domain < catalog.domains.length,
      state.isCompleted (catalog.layout.num (.seal domain)) = true) :
    (heldSeals catalog state).length = catalog.domains.length := by
  have each : ∀ domain ∈ List.range catalog.domains.length,
      state.isCompleted (catalog.layout.num (.seal domain)) = true :=
    fun domain listed => all domain (List.mem_range.mp listed)
  rw [heldSeals_countP, List.countP_eq_length.mpr each, List.length_range]

theorem Books.countTrue_sealFlags (books : Books catalog state) (accepted : catalog.Accepted) :
    state.countTrue catalog.sealFlags = (heldSeals catalog state).length := by
  rw [GameState.countTrue, sealFlags_eq, List.filter_map, List.length_map, heldSeals_countP,
    List.countP_eq_length_filter]
  congr 1
  apply List.filter_congr
  intro domain listed
  exact books.isTrue_sealOf accepted domain (List.mem_range.mp listed)

theorem Ledger.flag?_boss (ledger : Ledger catalog state) :
    state.flag? FlagName.bossUnlocked =
        some (.int (boolScore (decide (3 ≤ (heldSeals catalog state).length)))) ∨
      state.flag? FlagName.bossUnlocked = none ∧ ¬ 3 ≤ (heldSeals catalog state).length := by
  have boss := ledger.boss
  rw [GameState.score] at boss
  rw [ledger.flag?_score _ (by decide)]
  cases found : state.scores[FlagName.bossUnlocked]? with
  | some value => simpa [found] using boss
  | none =>
      refine .inr ⟨rfl, fun three => ?_⟩
      simp [found, three, boolScore] at boss

theorem keystoneSeals_toInt (accepted : catalog.Accepted)
    (fits : catalog.layout.total < UInt32.size) :
    (Int64.ofNat catalog.keystoneSeals).toInt = catalog.keystoneSeals := by
  have seals := accepted.seals
  have total : catalog.domains.length ≤ catalog.layout.total := by
    simp only [WebLayout.total, WebLayout.gatesStart, WebLayout.arcsStart, Catalog.layout]
    omega
  apply Int64.toInt_ofNat_of_lt
  have size : UInt32.size = 2 ^ 32 := rfl
  omega

theorem Ledger.holdsAll_keystone (ledger : Ledger catalog state) (accepted : catalog.Accepted)
    (fits : catalog.layout.total < UInt32.size) :
    state.holdsAll (availability catalog .keystone) =
      decide (catalog.keystoneSeals ≤ (heldSeals catalog state).length) := by
  have counted := ledger.countTrue_sealFlags accepted
  have asked := keystoneSeals_toInt accepted fits
  rw [Bool.eq_iff_iff]
  simp [availability, GameState.holdsAll, GameState.holds, CompareOp.holds, counted, asked,
    Std.isGE_compare]

theorem Ledger.holdsAll_finale (ledger : Ledger catalog state) :
    state.holdsAll (availability catalog .finale) =
      decide (3 ≤ (heldSeals catalog state).length) := by
  simp only [availability, GameState.holdsAll, GameState.holds, GameState.compareFlag,
    GameState.compareNumber, Bool.and_true]
  rcases ledger.flag?_boss with flag | ⟨flag, few⟩
  · rw [flag]
    cases decide (3 ≤ (heldSeals catalog state).length) <;> decide
  · simp only [flag, few, decide_false]
    decide

/-- With all quests before it completed, a quest has its conditions met. -/
theorem Ledger.holdsAll (ledger : Ledger catalog state) (accepted : catalog.Accepted)
    (fits : catalog.layout.total < UInt32.size) (three : 3 ≤ catalog.domains.length) (role : Role)
    (before : ∀ other, catalog.layout.Has other →
      catalog.layout.position other < catalog.layout.position role →
        state.isCompleted (catalog.layout.num other) = true) :
    state.holdsAll (availability catalog role) = true := by
  -- Behind the arcs all seal quests are completed, as they stand before the gates.
  have gates : catalog.layout.gatesStart ≤ catalog.layout.position role →
      ∀ domain < catalog.domains.length,
        state.isCompleted (catalog.layout.num (.seal domain)) = true := by
    intro gate domain inside
    have arc := accepted.arc
    refine before (.seal domain) ⟨inside, arc⟩ (Nat.lt_of_lt_of_le ?_ gate)
    have small : catalog.layout.arcLength - 1 < catalog.layout.arcLength := Nat.sub_lt arc (by simp)
    exact catalog.layout.arcPosition_lt domain _ inside small
  cases role with
  | keystone =>
      have all := gates (Nat.le_refl _)
      rw [ledger.holdsAll_keystone accepted fits, heldSeals_length catalog state all]
      exact decide_eq_true accepted.seals
  | hearing =>
      have done := before .keystone trivial (by simp [WebLayout.position])
      have passed := ledger.keystone
      rw [if_pos done] at passed
      have flag := ledger.flag?_score FlagName.keystoneDone (by decide)
      rw [passed] at flag
      simp [availability, GameState.holdsAll, GameState.holds, GameState.compareFlag,
        GameState.compareNumber, flag, CompareOp.holds, boolScore]
  | price =>
      have done := before .hearing trivial (by simp [WebLayout.position])
      have judged := ledger.verdict done
      simp only [availability, GameState.holdsAll, GameState.holds, GameState.compareFlag,
        GameState.compareText, Bool.and_true]
      rcases judged with mode | mode <;>
        · simp only [GameState.flagText, GameState.flag?, mode]
          decide
  | finale =>
      have all := gates (by simp [WebLayout.position])
      rw [ledger.holdsAll_finale, heldSeals_length catalog state all]
      exact decide_eq_true three
  | _ => simp [availability, GameState.holdsAll]

/-- The first quest that is not completed is open, if it was not started either. -/
theorem Made.available (made : Made catalog web) (ledger : Ledger catalog state)
    (three : 3 ≤ catalog.domains.length) (role : Role) (has : catalog.layout.Has role)
    (unstarted : state.isStarted (catalog.layout.num role) = false)
    (open_ : state.isCompleted (catalog.layout.num role) = false)
    (before : ∀ other, catalog.layout.Has other →
      catalog.layout.position other < catalog.layout.position role →
        state.isCompleted (catalog.layout.num other) = true) :
    ∃ quest ∈ availableQuests web.quests state, Recorded catalog role quest := by
  obtain ⟨quest, listed, recorded⟩ := made.record role has
  refine ⟨quest, (mem_availableQuests _ _ _).mpr ⟨listed, ?_⟩, recorded⟩
  have dependencies : quest.dependencies.all state.isCompleted = true := by
    rw [List.all_eq_true, recorded.dependencies]
    intro num member
    obtain ⟨other, also, rfl, earlier⟩ :=
      catalog.layout.dependencies_before role has num member
    exact before other also earlier
  have conditions := ledger.holdsAll made.accepted made.fits three role before
  rw [← recorded.availability] at conditions
  simp [Quest.isAvailable, recorded.num, unstarted, open_, dependencies, conditions]

theorem exists_first (layout : WebLayout) (completed : QuestNum → Bool)
    (left : ∃ role, layout.Has role ∧ completed (layout.num role) = false) :
    ∃ role, layout.Has role ∧ completed (layout.num role) = false ∧
      ∀ other, layout.Has other → layout.position other < layout.position role →
        completed (layout.num other) = true := by
  obtain ⟨role, has, open_⟩ := left
  induction place : layout.position role using Nat.strongRecOn generalizing role with
  | ind place ih =>
      -- Go back as long as an earlier quest is left.
      by_cases earlier : ∃ other, layout.Has other ∧
          layout.position other < layout.position role ∧ completed (layout.num other) = false
      · obtain ⟨other, also, before, still⟩ := earlier
        exact ih (layout.position other) (place ▸ before) other also still rfl
      · refine ⟨role, has, open_, ?_⟩
        intro other also before
        cases done : completed (layout.num other) with
        | true => rfl
        | false => exact absurd ⟨other, also, before, done⟩ earlier

end QuestWeb.Web
