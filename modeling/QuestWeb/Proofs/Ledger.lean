import QuestWeb.Proofs.Chapters
import QuestWeb.Proofs.Flags

/-!
The ledger of a game over a web. The seals, the keystone flag, the verdict, the boss flag and the
ending are bookkeeping: each can be told from the completed quests. Every effect of a generated
dialog keeps the books, and so does the completion of a quest together with its outcomes.
-/

namespace QuestWeb.Web

def Tracked (name : String) : Prop :=
  name.toList.head? = some 'S' ∨ name.toList.head? = some 'K' ∨ name.toList.head? = some 'B'

theorem tracked_seal (name : String) (isSeal : FlagName.isSeal name = true) : Tracked name := by
  rw [FlagName.isSeal, List.isPrefixOf_iff_prefix] at isSeal
  obtain ⟨rest, same⟩ := isSeal
  exact .inl (by simp [← same, FlagName.sealPrefix])

theorem isSeal_sealOf (key : String) : FlagName.isSeal (FlagName.sealOf key) = true := by
  simp [FlagName.isSeal, FlagName.sealOf, String.toList_append]

theorem untracked_domainScore (key : String) : ¬ Tracked (FlagName.domainScore key) := by
  simp [Tracked, FlagName.domainScore, String.toList_append]

theorem untracked_censureScore : ¬ Tracked FlagName.censureScore := by
  simp [Tracked, FlagName.censureScore]

def readyFlag (num : QuestNum) : String :=
  "Q_READY_" ++ num.padded

theorem head_readyFlag (num : QuestNum) : (readyFlag num).toList.head? = some 'Q' := by
  simp [readyFlag, String.toList_append]

theorem untracked_readyFlag (num : QuestNum) : ¬ Tracked (readyFlag num) := by
  simp [Tracked, head_readyFlag]

theorem readyFlag_ne (num : QuestNum) (name : String) (head : name.toList.head? ≠ some 'Q') :
    readyFlag num ≠ name := by
  rintro rfl
  exact head (head_readyFlag num)

def heldSeals (catalog : Catalog) (state : GameState) : List String :=
  ((List.range catalog.domains.length).filter
    fun domain => state.isCompleted (catalog.layout.num (.seal domain))).map
      fun domain => FlagName.sealOf (catalog.domainAt domain).key

def SealsKept (catalog : Catalog) (state : GameState) : Prop :=
  ∀ name, FlagName.isSeal name = true →
    state.scores[name]? = if name ∈ heldSeals catalog state then some 1 else none

theorem sealOf_inj (catalog : Catalog) (accepted : catalog.Accepted) (domain other : Nat)
    (inside : domain < catalog.domains.length) (also : other < catalog.domains.length)
    (same : FlagName.sealOf (catalog.domainAt domain).key =
      FlagName.sealOf (catalog.domainAt other).key) : domain = other := by
  apply domainAt_inj catalog (·.key) accepted.keys domain other inside also
  simpa [FlagName.sealOf, FlagName.sealPrefix] using same

theorem mem_heldSeals (catalog : Catalog) (state : GameState) (name : String) :
    name ∈ heldSeals catalog state ↔ ∃ domain < catalog.domains.length,
      state.isCompleted (catalog.layout.num (.seal domain)) = true ∧
        FlagName.sealOf (catalog.domainAt domain).key = name := by
  simp [heldSeals, and_assoc]

theorem heldSeals_countP (catalog : Catalog) (state : GameState) :
    (heldSeals catalog state).length = (List.range catalog.domains.length).countP fun domain =>
      state.isCompleted (catalog.layout.num (.seal domain)) := by
  rw [heldSeals, List.length_map, List.countP_eq_length_filter]

theorem heldSeals_nodup (catalog : Catalog) (accepted : catalog.Accepted) (state : GameState) :
    (heldSeals catalog state).Nodup := by
  refine nodup_map _ id _ ?_ ?distinct
  case distinct =>
    rw [List.map_id]
    exact List.Pairwise.filter _ List.nodup_range
  intro domain listed other also same
  simp only [List.mem_filter, List.mem_range] at listed also
  exact sealOf_inj catalog accepted domain other listed.1 also.1 same

theorem sealCount_eq (catalog : Catalog) (accepted : catalog.Accepted) (state : GameState)
    (kept : SealsKept catalog state) : state.sealCount = (heldSeals catalog state).length := by
  refine state.sealCount_names _ (heldSeals_nodup catalog accepted state) fun name => ?_
  constructor
  · intro held
    obtain ⟨domain, _, _, rfl⟩ := (mem_heldSeals catalog state name).mp held
    have found := kept _ (isSeal_sealOf (catalog.domainAt domain).key)
    rw [if_pos held] at found
    exact ⟨isSeal_sealOf _, by simp [GameState.score, found]⟩
  · rintro ⟨isSeal, number⟩
    rw [GameState.score, kept name isSeal] at number
    split at number
    · assumption
    · simp at number

theorem heldSeals_congr (catalog : Catalog) (state next : GameState)
    (same : ∀ domain < catalog.domains.length,
      next.isCompleted (catalog.layout.num (.seal domain)) =
        state.isCompleted (catalog.layout.num (.seal domain))) :
    heldSeals catalog next = heldSeals catalog state := by
  unfold heldSeals
  congr 1
  apply List.filter_congr
  intro domain listed
  exact same domain (List.mem_range.mp listed)

def Judged (state : GameState) : Prop :=
  state.strings[FlagName.censureMode]? = some "reduced" ∨
    state.strings[FlagName.censureMode]? = some "defied"

def Crowned (catalog : Catalog) (state : GameState) : Prop :=
  ∃ domain ∈ catalog.domains, state.strings[FlagName.ending]? = some domain.key

/-- What the flags say, as far as it can be told from the completed quests, save for the boss. -/
structure Books (catalog : Catalog) (state : GameState) : Prop where
  threshold : state.bossSealThreshold = defaultBossSeals
  texts : ∀ name text : String, state.strings[name]? = some text →
    name = FlagName.clause ∨ name = FlagName.censureMode ∨ name = FlagName.ending
  seals : SealsKept catalog state
  keystone : state.scores[FlagName.keystoneDone]? =
    if state.isCompleted (catalog.layout.num .keystone) then some 1 else none
  verdict : state.isCompleted (catalog.layout.num .hearing) = true → Judged state
  crown : state.isCompleted (catalog.layout.num .finale) = true → Crowned catalog state
  clause : state.text FlagName.clause = "" ∨
    ∃ domain ∈ catalog.domains, state.text FlagName.clause = domain.clause

/-- Kept books with the boss flag counted anew from the seals. -/
structure Ledger (catalog : Catalog) (state : GameState) : Prop extends Books catalog state where
  boss : state.score FlagName.bossUnlocked =
    boolScore (decide (3 ≤ (heldSeals catalog state).length))

theorem ledger_initial (catalog : Catalog) : Ledger catalog .initial := by
  have fresh (num : QuestNum) : GameState.initial.isCompleted num = false := by
    simp [GameState.initial, GameState.isCompleted]
  have scores (name : String) : GameState.initial.scores[name]? = none := by
    simp [GameState.initial]
  have none : heldSeals catalog .initial = [] := by simp [heldSeals, fresh]
  refine ⟨⟨rfl, ?_, ?_, ?_, ?_, ?_, ?_⟩, ?_⟩
  · intro name text found
    simp only [GameState.initial, Std.ExtTreeMap.getElem?_insert,
      Std.LawfulEqCmp.compare_eq_iff_eq] at found
    split at found
    · rename_i same
      exact .inr (.inl same.symm)
    · split at found
      · rename_i same
        exact .inl same.symm
      · simp at found
  · intro name _
    simp [none, scores]
  · simp [fresh, scores]
  · simp [fresh]
  · simp [fresh]
  · exact .inl (by decide +kernel)
  · simp [none, scores, GameState.score, boolScore]

/-- Books stay kept where no tracked flag changes and no quest that they tell of is completed. -/
theorem Books.frame {catalog : Catalog} {state next : GameState} (books : Books catalog state)
    (threshold : next.bossSealThreshold = state.bossSealThreshold)
    (scores : ∀ name, Tracked name → next.scores[name]? = state.scores[name]?)
    (held : heldSeals catalog next = heldSeals catalog state)
    (keystone : next.isCompleted (catalog.layout.num .keystone) =
      state.isCompleted (catalog.layout.num .keystone))
    (texts : ∀ name text : String, next.strings[name]? = some text →
      state.strings[name]? = some text ∨
        name = FlagName.clause ∨ name = FlagName.censureMode ∨ name = FlagName.ending)
    (verdict : next.isCompleted (catalog.layout.num .hearing) = true → Judged next)
    (crown : next.isCompleted (catalog.layout.num .finale) = true → Crowned catalog next)
    (clause : next.text FlagName.clause = "" ∨
      ∃ domain ∈ catalog.domains, next.text FlagName.clause = domain.clause) :
    Books catalog next := by
  refine ⟨threshold.trans books.threshold, ?_, ?_, ?_, verdict, crown, clause⟩
  · intro name text found
    rcases texts name text found with before | listed
    · exact books.texts name text before
    · exact listed
  · intro name isSeal
    rw [held, scores name (tracked_seal name isSeal), books.seals name isSeal]
  · rw [scores _ (.inr (.inl (by decide))), keystone, books.keystone]

theorem isCompleted_congr (state next : GameState) (same : next.completed = state.completed)
    (num : QuestNum) : next.isCompleted num = state.isCompleted num := by
  rw [GameState.isCompleted, same, GameState.isCompleted]

/-- Counting the seals completes the ledger. -/
theorem Books.recount {catalog : Catalog} {state : GameState} (books : Books catalog state)
    (accepted : catalog.Accepted) : Ledger catalog (state.apply .computeBossUnlock) := by
  have held : heldSeals catalog (state.apply .computeBossUnlock) = heldSeals catalog state :=
    heldSeals_congr catalog _ _ fun _ _ => rfl
  have other (name : String) (differs : FlagName.bossUnlocked ≠ name) :
      (state.apply .computeBossUnlock).scores[name]? = state.scores[name]? :=
    state.scores_frame name .computeBossUnlock (Effect.flag?_ne rfl differs)
  refine ⟨⟨books.threshold, books.texts, ?_, ?_, books.verdict, books.crown, books.clause⟩, ?_⟩
  · intro name isSeal
    rw [held, other, books.seals name isSeal]
    rintro rfl
    exact absurd isSeal (by decide)
  · rw [other _ (by decide), books.keystone]
    rfl
  -- The seals are counted off the books, which is what makes the flag agree with them.
  · have counted := sealCount_eq catalog accepted state books.seals
    have threshold : state.bossSealThreshold.toNat = 3 := by rw [books.threshold]; rfl
    rw [held]
    simp [GameState.score, GameState.apply, GameState.isBossUnlocked, counted, threshold]

theorem Ledger.ofBooks {catalog : Catalog} {state next : GameState} (ledger : Ledger catalog state)
    (books : Books catalog next) (held : heldSeals catalog next = heldSeals catalog state)
    (boss : next.scores[FlagName.bossUnlocked]? = state.scores[FlagName.bossUnlocked]?) :
    Ledger catalog next := by
  refine ⟨books, ?_⟩
  have before := ledger.boss
  rw [GameState.score] at before ⊢
  rw [boss, before, held]

/-- The effects in generated dialogs other than the completion of a quest. -/
inductive Harmless (catalog : Catalog) : Effect → Prop where
  | start (num : QuestNum) : Harmless catalog (.startQuest num)
  | score (name : String) (delta : Int64) (untracked : ¬ Tracked name) :
      Harmless catalog (.incFlag name delta)
  | ready (num : QuestNum) : Harmless catalog (.setFlag (readyFlag num) (.bool true))
  | clause (domain : Catalog.Domain) (listed : domain ∈ catalog.domains) :
      Harmless catalog (.setClause domain.clause)
  | mode (mode : String) (judged : mode = "reduced" ∨ mode = "defied") :
      Harmless catalog (.setCensureMode mode)
  | ending (domain : Catalog.Domain) (listed : domain ∈ catalog.domains) :
      Harmless catalog (.setFlag FlagName.ending (.text domain.key))
  | boss : Harmless catalog .computeBossUnlock

variable {catalog : Catalog} {state : GameState} {effect : Effect}

namespace Harmless

variable (harmless : Harmless catalog effect)

include harmless

theorem completed : (state.apply effect).completed = state.completed := by
  rw [GameState.apply_completed]
  cases harmless <;> rfl

theorem untracked (other : effect ≠ .computeBossUnlock) (name : String) (tracked : Tracked name) :
    effect.flag? ≠ some name := by
  intro written
  cases harmless with
  | start num => simp [Effect.flag?] at written
  | score own delta untracked => exact untracked (Option.some.inj written ▸ tracked)
  | ready num => exact untracked_readyFlag num (Option.some.inj written ▸ tracked)
  | boss => exact other rfl
  | clause | mode | ending =>
      rw [← Option.some.inj written, Tracked] at tracked
      exact absurd tracked (by decide)

theorem judged (judged : Judged state) : Judged (state.apply effect) := by
  unfold Judged at judged ⊢
  cases harmless with
  | start | score | boss => exact judged
  | mode mode decided => simpa [GameState.apply] using decided
  | ready num =>
      rwa [state.strings_frame _ _ (Effect.flag?_ne rfl (readyFlag_ne num _ (by decide)))]
  | clause | ending => rwa [state.strings_frame _ _ (Effect.flag?_ne rfl (by decide))]

theorem crowned (crowned : Crowned catalog state) : Crowned catalog (state.apply effect) := by
  obtain ⟨domain, listed, crown⟩ := crowned
  cases harmless with
  | start | score | boss => exact ⟨domain, listed, crown⟩
  | ending other also => exact ⟨other, also, by simp [GameState.apply, GameState.setFlag]⟩
  | ready num =>
      refine ⟨domain, listed, ?_⟩
      rwa [state.strings_frame _ _ (Effect.flag?_ne rfl (readyFlag_ne num _ (by decide)))]
  | clause | mode =>
      refine ⟨domain, listed, ?_⟩
      rwa [state.strings_frame _ _ (Effect.flag?_ne rfl (by decide))]

theorem texts (name text : String) (found : (state.apply effect).strings[name]? = some text) :
    state.strings[name]? = some text ∨
      name = FlagName.clause ∨ name = FlagName.censureMode ∨ name = FlagName.ending := by
  by_cases written : effect.flag? = some name
  · cases harmless with
    | start num => simp [Effect.flag?] at written
    | score own delta untracked => exact .inl found
    | boss => exact .inl found
    | ready num =>
        -- The flag becomes a number, so a text under its name is gone.
        rw [← Option.some.inj written] at found
        simp [GameState.apply, GameState.setFlag, GameState.setScore] at found
    | clause | mode | ending => simp [← Option.some.inj written]
  · rw [state.strings_frame name effect written] at found
    exact .inl found

theorem bound (clause : state.text FlagName.clause = "" ∨
      ∃ domain ∈ catalog.domains, state.text FlagName.clause = domain.clause) :
    (state.apply effect).text FlagName.clause = "" ∨
      ∃ domain ∈ catalog.domains, (state.apply effect).text FlagName.clause = domain.clause := by
  cases harmless with
  | start | score | boss => exact clause
  | clause domain listed =>
      simp only [GameState.apply]
      split
      · exact .inr ⟨domain, listed, by simp [GameState.text]⟩
      · exact clause
  | ready num =>
      rw [GameState.text] at clause ⊢
      rwa [state.strings_frame _ _ (Effect.flag?_ne rfl (readyFlag_ne num _ (by decide)))]
  | mode | ending =>
      rw [GameState.text] at clause ⊢
      rwa [state.strings_frame _ _ (Effect.flag?_ne rfl (by decide))]

theorem books (other : effect ≠ .computeBossUnlock) (books : Books catalog state) :
    Books catalog (state.apply effect) := by
  have same := isCompleted_congr state (state.apply effect) harmless.completed
  refine books.frame (state.apply_threshold effect) ?_
    (heldSeals_congr catalog _ _ fun _ _ => same _) (same _) harmless.texts ?_ ?_
    (harmless.bound books.clause)
  · intro name tracked
    exact state.scores_frame name effect (harmless.untracked other name tracked)
  · intro done
    exact harmless.judged (books.verdict (same _ ▸ done))
  · intro done
    exact harmless.crowned (books.crown (same _ ▸ done))

theorem ledger (accepted : catalog.Accepted) (ledger : Ledger catalog state) :
    Ledger catalog (state.apply effect) := by
  by_cases boss : effect = .computeBossUnlock
  · subst boss
    exact ledger.toBooks.recount accepted
  · refine ledger.ofBooks (harmless.books boss ledger.toBooks) ?_ ?_
    · exact heldSeals_congr catalog _ _ fun _ _ =>
        isCompleted_congr state (state.apply effect) harmless.completed _
    · exact state.scores_frame _ effect (harmless.untracked boss _ (.inr (.inr (by decide))))

end Harmless

/-- The ledger does not look at what else a state holds. -/
theorem Ledger.congr {next : GameState} (ledger : Ledger catalog state)
    (completed : next.completed = state.completed) (scores : next.scores = state.scores)
    (strings : next.strings = state.strings)
    (threshold : next.bossSealThreshold = state.bossSealThreshold) : Ledger catalog next := by
  have same := isCompleted_congr state next completed
  have held : heldSeals catalog next = heldSeals catalog state :=
    heldSeals_congr catalog _ _ fun _ _ => same _
  refine ledger.ofBooks (ledger.toBooks.frame threshold (fun name _ => by rw [scores]) held
    (same _) (fun name text found => .inl (strings ▸ found)) ?_ ?_ ?_) held (by rw [scores])
  · intro done
    rw [Judged, strings]
    exact ledger.verdict (same _ ▸ done)
  · intro done
    rw [Crowned, strings]
    exact ledger.crown (same _ ▸ done)
  · rw [GameState.text, strings]
    exact ledger.clause

section Completion

variable {role : Role} (accepted : catalog.Accepted)
  (fits : catalog.layout.total < UInt32.size) (has : catalog.layout.Has role)

include fits has

theorem isCompleted_other (other : Role) (also : catalog.layout.Has other)
    (differs : role ≠ other) :
    (state.apply (.completeQuest (catalog.layout.num role))).isCompleted
      (catalog.layout.num other) = state.isCompleted (catalog.layout.num other) := by
  have apart : catalog.layout.num role ≠ catalog.layout.num other := fun same =>
    differs (catalog.layout.num_inj fits role other has also same)
  simp [GameState.isCompleted_apply, Effect.completes, apart]

include accepted in
theorem heldSeals_other (differs : ∀ domain, role ≠ .seal domain) :
    heldSeals catalog (state.apply (.completeQuest (catalog.layout.num role))) =
      heldSeals catalog state :=
  heldSeals_congr catalog _ _ fun domain inside =>
    isCompleted_other fits has (.seal domain) ⟨inside, accepted.arc⟩ (differs domain)

/-- The books hardly notice the completion of a quest that is neither a seal quest nor the
keystone. -/
theorem Books.complete (accepted : catalog.Accepted) (books : Books catalog state)
    (unsealed : ∀ domain, role ≠ .seal domain) (ungated : role ≠ .keystone)
    (judged : role = .hearing → Judged state) (crowned : role = .finale → Crowned catalog state) :
    Books catalog (state.apply (.completeQuest (catalog.layout.num role))) := by
  refine books.frame rfl (fun _ _ => rfl) (heldSeals_other accepted fits has unsealed)
    (isCompleted_other fits has .keystone trivial ungated) (fun _ _ found => .inl found) ?_ ?_
    books.clause
  · intro done
    by_cases hearing : role = .hearing
    · exact judged hearing
    · rw [isCompleted_other fits has .hearing trivial hearing] at done
      exact books.verdict done
  · intro done
    by_cases finale : role = .finale
    · exact crowned finale
    · rw [isCompleted_other fits has .finale trivial finale] at done
      exact books.crown done

end Completion

theorem upper_key (domain : Catalog.Domain) (accepted : domain.Accepted) :
    Text.upper domain.key = domain.key := by
  have upper := accepted.upper
  simp only [Catalog.isUpperKey, Bool.and_eq_true, beq_iff_eq] at upper
  exact upper.2.symm

theorem mem_heldSeals_complete (accepted : catalog.Accepted)
    (fits : catalog.layout.total < UInt32.size) (domain : Nat)
    (has : catalog.layout.Has (.seal domain)) (name : String) :
    name ∈ heldSeals catalog (state.apply (.completeQuest (catalog.layout.num (.seal domain)))) ↔
      FlagName.sealOf (catalog.domainAt domain).key = name ∨ name ∈ heldSeals catalog state := by
  simp only [mem_heldSeals]
  constructor
  · rintro ⟨place, inside, done, rfl⟩
    by_cases same : domain = place
    · exact .inl (by rw [same])
    · right
      rw [isCompleted_other fits has (.seal place) ⟨inside, accepted.arc⟩ (by simpa using same)]
        at done
      exact ⟨place, inside, done, rfl⟩
  · rintro (rfl | ⟨place, inside, done, rfl⟩)
    · refine ⟨domain, has.1, ?_, rfl⟩
      simp [GameState.isCompleted_apply, Effect.completes]
    · refine ⟨place, inside, ?_, rfl⟩
      simp [GameState.isCompleted_apply, done]

theorem Books.grant (accepted : catalog.Accepted) (fits : catalog.layout.total < UInt32.size)
    (books : Books catalog state) (domain : Nat) (has : catalog.layout.Has (.seal domain)) :
    Books catalog ((state.apply (.completeQuest (catalog.layout.num (.seal domain)))).apply
      (.grantSeal (catalog.domainAt domain).key)) := by
  -- The seal is granted in capitals, and the keys of a catalog are in capitals already.
  have upper := upper_key _ (accepted.each _ (domainAt_mem catalog accepted domain))
  have other (role : Role) (also : catalog.layout.Has role) (differs : .seal domain ≠ role) :
      (state.apply (.completeQuest (catalog.layout.num (.seal domain)))).isCompleted
        (catalog.layout.num role) = state.isCompleted (catalog.layout.num role) :=
    isCompleted_other fits has role also differs
  have kept (name : String) (differs : FlagName.sealOf (catalog.domainAt domain).key ≠ name) :
      ((state.apply (.completeQuest (catalog.layout.num (.seal domain)))).apply
        (.grantSeal (catalog.domainAt domain).key)).scores[name]? = state.scores[name]? :=
    GameState.scores_frame _ name (.grantSeal _) (Effect.flag?_ne rfl (upper.symm ▸ differs))
  refine ⟨books.threshold, books.texts, ?_, ?_, ?_, ?_, books.clause⟩
  · intro name isSeal
    have held : name ∈ heldSeals catalog ((state.apply (.completeQuest (catalog.layout.num
          (.seal domain)))).apply (.grantSeal (catalog.domainAt domain).key)) ↔
        FlagName.sealOf (catalog.domainAt domain).key = name ∨ name ∈ heldSeals catalog state :=
      mem_heldSeals_complete accepted fits domain has name
    -- The new seal is written, all others are as before.
    by_cases own : FlagName.sealOf (catalog.domainAt domain).key = name
    · rw [if_pos (held.mpr (.inl own))]
      simp [GameState.apply, upper, own]
    · simp only [held, own, false_or]
      rw [kept name own, books.seals name isSeal]
  · have differs : FlagName.sealOf (catalog.domainAt domain).key ≠ FlagName.keystoneDone := by
      intro same
      have isSeal := isSeal_sealOf (catalog.domainAt domain).key
      rw [same] at isSeal
      exact absurd isSeal (by decide)
    have before : ((state.apply (.completeQuest (catalog.layout.num (.seal domain)))).apply
        (.grantSeal (catalog.domainAt domain).key)).isCompleted (catalog.layout.num .keystone) =
        state.isCompleted (catalog.layout.num .keystone) := other .keystone trivial (by simp)
    rw [before, kept _ differs, books.keystone]
  · intro done
    exact books.verdict ((other .hearing trivial (by simp)) ▸ done)
  · intro done
    exact books.crown ((other .finale trivial (by simp)) ▸ done)

theorem Books.passKeystone (accepted : catalog.Accepted)
    (fits : catalog.layout.total < UInt32.size) (books : Books catalog state) :
    Books catalog ((state.apply (.completeQuest (catalog.layout.num .keystone))).apply
      (.setFlag FlagName.keystoneDone (.bool true))) := by
  have has : catalog.layout.Has .keystone := trivial
  have kept (name : String) (differs : FlagName.keystoneDone ≠ name) :
      ((state.apply (.completeQuest (catalog.layout.num .keystone))).apply
        (.setFlag FlagName.keystoneDone (.bool true))).strings[name]? = state.strings[name]? :=
    GameState.strings_frame _ name (.setFlag _ _) (Effect.flag?_ne rfl differs)
  have held : heldSeals catalog ((state.apply (.completeQuest (catalog.layout.num
      .keystone))).apply (.setFlag FlagName.keystoneDone (.bool true))) =
      heldSeals catalog state := heldSeals_other accepted fits has (by simp)
  refine ⟨books.threshold, ?_, ?_, ?_, ?_, ?_, ?_⟩
  · intro name text found
    by_cases same : FlagName.keystoneDone = name
    · simp [GameState.apply, GameState.setFlag, GameState.setScore, same] at found
    · rw [kept name same] at found
      exact books.texts name text found
  · intro name isSeal
    have differs : FlagName.keystoneDone ≠ name := by
      rintro rfl
      exact absurd isSeal (by decide)
    have before := GameState.scores_frame
      (state.apply (.completeQuest (catalog.layout.num .keystone))) name
      (.setFlag FlagName.keystoneDone (.bool true)) (Effect.flag?_ne rfl differs)
    rw [held, before]
    exact books.seals name isSeal
  · simp [GameState.apply, GameState.setFlag, GameState.isCompleted, GameState.complete,
      GameState.setScore, boolScore]
  · intro done
    rw [Judged, kept _ (by decide)]
    exact books.verdict ((isCompleted_other fits has .hearing trivial (by simp)) ▸ done)
  · intro done
    rw [Crowned, kept _ (by decide)]
    exact books.crown ((isCompleted_other fits has .finale trivial (by simp)) ▸ done)
  · rw [GameState.text, kept _ (by decide)]
    exact books.clause

/-- The ledger is kept when a quest is completed and its outcomes are applied. -/
theorem Ledger.complete (accepted : catalog.Accepted) (fits : catalog.layout.total < UInt32.size)
    (ledger : Ledger catalog state) (role : Role) (has : catalog.layout.Has role)
    (judged : role = .hearing → Judged state) (crowned : role = .finale → Crowned catalog state) :
    Ledger catalog ((state.apply (.completeQuest (catalog.layout.num role))).applyAll
      (outcomes catalog role)) := by
  -- Only the outcomes of a seal quest and of the keystone touch the books, the others at most the
  -- boss flag and some score.
  have booked (unsealed : ∀ domain, role ≠ .seal domain) (ungated : role ≠ .keystone) :=
    ledger.toBooks.complete fits has accepted unsealed ungated judged crowned
  have plain (unsealed : ∀ domain, role ≠ .seal domain) (ungated : role ≠ .keystone) :
      Ledger catalog (state.apply (.completeQuest (catalog.layout.num role))) :=
    ledger.ofBooks (booked unsealed ungated) (heldSeals_other accepted fits has unsealed) rfl
  have scored (domain : Nat) (delta : Int64) :
      Harmless catalog (scoreEffect catalog domain delta) :=
    .score _ delta (untracked_domainScore _)
  cases role with
  | prologue => exact plain (by simp) (by simp)
  | invitation domain => exact (scored domain 1).ledger accepted (plain (by simp) (by simp))
  | arc domain step => exact (scored domain 1).ledger accepted (plain (by simp) (by simp))
  | «seal» domain =>
      have granted := ledger.toBooks.grant accepted fits domain has
      exact ((scored domain 2).books (by simp [scoreEffect]) granted).recount accepted
  | keystone => exact (ledger.toBooks.passKeystone accepted fits).recount accepted
  | hearing => exact (booked (by simp) (by simp)).recount accepted
  | price => exact (booked (by simp) (by simp)).recount accepted
  | finale => exact (booked (by simp) (by simp)).recount accepted

end QuestWeb.Web
