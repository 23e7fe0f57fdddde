import Mathlib.Data.List.Dedup
import QuestWeb.Proofs.FlagKinds
import QuestWeb.State.Condition

/-!
Two ways of counting seals. The boss looks at the numbers, a condition at whether the flags are
true. They differ by the seals that were set to a text: a text that is not empty is true without a
number, and an empty text is not true whatever number stands behind it.
-/

namespace QuestWeb.GameState

def sealNames (state : GameState) : List String :=
  ((state.scores.keys ++ state.strings.keys).filter FlagName.isSeal).dedup

/-- The seals that are true and have no number. -/
def missedSeals (state : GameState) : List String :=
  state.sealNames.filter fun name => state.isTrue name && state.score name == 0

/-- The seals that have a number and are not true. -/
def hiddenSeals (state : GameState) : List String :=
  state.sealNames.filter fun name => state.score name != 0 && !state.isTrue name

/-- The flag was last set outright to the text, and the other effects came since. -/
def LastSetTo (effects : List Effect) (name text : String) (since : List Effect) : Prop :=
  ∃ front, effects = front ++ .setFlag name (.text text) :: since ∧
    ∀ later ∈ since, later.set? ≠ some name

variable (state : GameState) (name : String)

theorem sealNames_nodup : state.sealNames.Nodup :=
  List.nodup_dedup _

theorem flag?_isSome :
    (state.flag? name).isSome = true ↔ name ∈ state.scores ∨ name ∈ state.strings := by
  rw [flag?, Std.ExtTreeMap.mem_iff_isSome_getElem?, Std.ExtTreeMap.mem_iff_isSome_getElem?]
  cases state.strings[name]? <;> simp

theorem mem_sealNames : name ∈ state.sealNames ↔
    FlagName.isSeal name = true ∧ (state.flag? name).isSome = true := by
  rw [sealNames, List.mem_dedup, List.mem_filter, List.mem_append, Std.ExtTreeMap.mem_keys,
    Std.ExtTreeMap.mem_keys, flag?_isSome, and_comm]

theorem sealCount_numbers :
    state.sealCount = (state.sealNames.filter fun name => state.score name != 0).length := by
  refine state.sealCount_names _ (state.sealNames_nodup.filter _) fun name => ?_
  simp only [List.mem_filter, mem_sealNames, bne_iff_ne]
  refine ⟨fun listed => ⟨listed.1.1, listed.2⟩, fun counted => ⟨⟨counted.1, ?_⟩, counted.2⟩⟩
  have number := counted.2
  unfold score at number
  rw [flag?_isSome, Std.ExtTreeMap.mem_iff_isSome_getElem?]
  cases found : state.scores[name]? with
  | none => simp [found] at number
  | some value => exact .inl rfl

theorem filter_exchange (names : List String) (counted held : String → Bool) :
    (names.filter counted).length + (names.filter fun name => held name && !counted name).length =
      (names.filter held).length +
        (names.filter fun name => counted name && !held name).length := by
  induction names with
  | nil => rfl
  | cons name rest ih =>
      cases first : counted name <;> cases second : held name <;> simp [first, second] <;> omega

/-- The two counts differ by the missed and the hidden seals. -/
theorem seals_balance :
    state.sealCount + state.missedSeals.length =
      state.countTrue state.sealNames + state.hiddenSeals.length := by
  have exchanged := filter_exchange state.sealNames (fun name => state.score name != 0) state.isTrue
  simpa only [sealCount_numbers, missedSeals, countTrue, hiddenSeals, bne, Bool.not_not]
    using exchanged

theorem isTrue_number (numeric : state.strings[name]? = none) :
    state.isTrue name = (state.score name != 0) := by
  cases found : state.scores[name]? <;> simp [isTrue, flag?, score, numeric, found]

theorem isTrue_text (text : String) (found : state.strings[name]? = some text) :
    state.isTrue name = (text != "") := by
  simp [isTrue, flag?, found]

theorem mem_missedSeals : name ∈ state.missedSeals ↔ FlagName.isSeal name = true ∧
    ∃ text, state.strings[name]? = some text ∧ text ≠ "" ∧ state.score name = 0 := by
  rw [missedSeals, List.mem_filter, mem_sealNames]
  cases found : state.strings[name]? with
  | none =>
      rw [isTrue_number state name found]
      simp
  | some text =>
      rw [isTrue_text state name text found]
      simp [flag?, found]

theorem mem_hiddenSeals : name ∈ state.hiddenSeals ↔ FlagName.isSeal name = true ∧
    state.strings[name]? = some "" ∧ state.score name ≠ 0 := by
  rw [hiddenSeals, List.mem_filter, mem_sealNames]
  cases found : state.strings[name]? with
  | none =>
      rw [isTrue_number state name found]
      simp
  | some text =>
      rw [isTrue_text state name text found]
      simp [flag?, found, and_comm]

variable (other : GameState) (effect : Effect) (text : String)
variable (isSeal : FlagName.isSeal name = true)

include isSeal

theorem seal_ne (reserved : String) (plain : FlagName.isSeal reserved = false) :
    reserved ≠ name := by
  rintro rfl
  simp [plain] at isSeal

/-- The text of a seal is only written by setting the flag outright. -/
theorem seal_text_apply : (state.apply effect).strings[name]? = some text ↔
    effect = .setFlag name (.text text) ∨
      state.strings[name]? = some text ∧ effect.set? ≠ some name := by
  cases effect with
  | setFlag own value =>
      by_cases same : own = name <;> cases value <;>
        simp [apply, setFlag, setScore, Effect.set?, same, Std.ExtTreeMap.getElem?_erase]
  | setClause | setCensureMode =>
      rw [strings_frame state name _ (Effect.flag?_ne rfl (seal_ne name isSeal _ (by decide)))]
      simp [Effect.set?]
  | incFlag | grantSeal | computeBossUnlock => simp [apply, setScore, Effect.set?]
  | startQuest | completeQuest | teleport => simp [apply, start, complete, Effect.set?]

/-- The number of a seal depends on no other flag. -/
theorem seal_number_apply (same : state.scores[name]? = other.scores[name]?) :
    (state.apply effect).scores[name]? = (other.apply effect).scores[name]? := by
  by_cases written : effect.flag? = some name
  · cases effect with
    | setFlag own value =>
        obtain rfl := Option.some.inj written
        cases value <;> simp [apply, setFlag, setText]
    | incFlag own delta =>
        obtain rfl := Option.some.inj written
        simp [apply, score, same]
    | grantSeal domain => simp [apply, same]
    | setClause | setCensureMode | computeBossUnlock =>
        exact absurd (Option.some.inj written) (seal_ne name isSeal _ (by decide))
    | startQuest | completeQuest | teleport => simp [Effect.flag?] at written
  · rw [scores_frame state name effect written, scores_frame other name effect written, same]

theorem seal_number_applyAll (effects : List Effect)
    (same : state.scores[name]? = other.scores[name]?) :
    (state.applyAll effects).scores[name]? = (other.applyAll effects).scores[name]? := by
  induction effects generalizing state other with
  | nil => exact same
  | cons effect rest ih =>
      exact ih _ _ (seal_number_apply state name other effect isSeal same)

/-- A text takes the number away, so the number is what the effects since make of none. -/
theorem LastSetTo.score (effects since : List Effect) (last : LastSetTo effects name text since) :
    (state.applyAll effects).score name = (initial.applyAll since).score name := by
  obtain ⟨front, rfl, -⟩ := last
  have cleared : ((state.applyAll front).apply (.setFlag name (.text text))).scores[name]? =
      initial.scores[name]? := by
    simp [apply, setFlag, setText, initial]
  have same := seal_number_applyAll _ name initial isSeal since cleared
  rw [GameState.score, GameState.score, ← same, applyAll, List.foldl_append, List.foldl_cons]
  rfl

omit isSeal

theorem seal_text_applyAll (effects : List Effect) (isSeal : FlagName.isSeal name = true) :
    (initial.applyAll effects).strings[name]? = some text ↔
      ∃ since, LastSetTo effects name text since := by
  have clause := seal_ne name isSeal FlagName.clause (by decide)
  have mode := seal_ne name isSeal FlagName.censureMode (by decide)
  have before : initial.strings[name]? = none := by
    simp [initial, clause, mode]
  have lasting := initial.lasting_applyAll (fun state => state.strings[name]? = some text)
    (fun _ effect => effect = .setFlag name (.text text)) (fun effect => effect.set? ≠ some name)
    (fun state effect => seal_text_apply state name effect text isSeal) effects
  rw [lasting, before]
  constructor
  · rintro (⟨never, -⟩ | ⟨front, _, since, split, rfl, unset⟩)
    · cases never
    · exact ⟨since, front, split, unset⟩
  · rintro ⟨since, front, split, unset⟩
    exact .inr ⟨front, _, since, split, rfl, unset⟩

theorem mem_missedSeals_applyAll (effects : List Effect) :
    name ∈ (initial.applyAll effects).missedSeals ↔ FlagName.isSeal name = true ∧
      ∃ text since, LastSetTo effects name text since ∧ text ≠ "" ∧
        (initial.applyAll since).score name = 0 := by
  rw [mem_missedSeals]
  refine and_congr_right fun isSeal => exists_congr fun text => ?_
  rw [seal_text_applyAll name text effects isSeal, ← exists_and_right]
  refine exists_congr fun since => and_congr_right fun last => ?_
  rw [last.score initial name text isSeal effects since]

theorem mem_hiddenSeals_applyAll (effects : List Effect) :
    name ∈ (initial.applyAll effects).hiddenSeals ↔ FlagName.isSeal name = true ∧
      ∃ since, LastSetTo effects name "" since ∧ (initial.applyAll since).score name ≠ 0 := by
  rw [mem_hiddenSeals]
  refine and_congr_right fun isSeal => ?_
  rw [seal_text_applyAll name "" effects isSeal, ← exists_and_right]
  refine exists_congr fun since => and_congr_right fun last => ?_
  rw [last.score initial name "" isSeal effects since]

/-- After any effects from the start of a game, the seals counted for the boss and the missed ones
are as many as the true seals and the hidden ones. A seal is missed if it was last set to a text
that is not empty and what was added since comes to nought, and hidden if it was last set to the
empty text and what was added since does not. If no seal was last set to a text, both counts are the
same. -/
theorem seals_counted (effects : List Effect) :
    let state := initial.applyAll effects
    (state.sealNames.Nodup ∧ ∀ name, name ∈ state.sealNames ↔
      FlagName.isSeal name = true ∧ (state.flag? name).isSome = true) ∧
    state.sealCount + state.missedSeals.length =
      state.countTrue state.sealNames + state.hiddenSeals.length ∧
    (∀ name, name ∈ state.missedSeals ↔ FlagName.isSeal name = true ∧ ∃ text since,
      LastSetTo effects name text since ∧ text ≠ "" ∧ (initial.applyAll since).score name = 0) ∧
    (∀ name, name ∈ state.hiddenSeals ↔ FlagName.isSeal name = true ∧ ∃ since,
      LastSetTo effects name "" since ∧ (initial.applyAll since).score name ≠ 0) ∧
    ((∀ name text since, FlagName.isSeal name = true → ¬ LastSetTo effects name text since) →
      state.sealCount = state.countTrue state.sealNames) := by
  intro state
  refine ⟨⟨state.sealNames_nodup, state.mem_sealNames⟩, state.seals_balance,
    fun name => mem_missedSeals_applyAll name effects,
    fun name => mem_hiddenSeals_applyAll name effects, fun textless => ?_⟩
  have none_missed : state.missedSeals = [] := by
    refine List.eq_nil_iff_forall_not_mem.mpr fun name listed => ?_
    obtain ⟨isSeal, text, since, last, -⟩ := (mem_missedSeals_applyAll name effects).mp listed
    exact textless name text since isSeal last
  have none_hidden : state.hiddenSeals = [] := by
    refine List.eq_nil_iff_forall_not_mem.mpr fun name listed => ?_
    obtain ⟨isSeal, since, last, -⟩ := (mem_hiddenSeals_applyAll name effects).mp listed
    exact textless name "" since isSeal last
  have balance := state.seals_balance
  rwa [none_missed, none_hidden] at balance

/-- A seal that is granted behind an empty text is counted for the boss and is not true; one that is
set to a text is true and not counted. -/
theorem seal_counts_differ :
    ((initial.applyAll [.setFlag "SEAL_INK" (.text ""), .grantSeal "ink"]).hiddenSeals =
        ["SEAL_INK"] ∧
      (initial.applyAll [.setFlag "SEAL_INK" (.text ""), .grantSeal "ink"]).sealCount = 1 ∧
      (initial.applyAll [.setFlag "SEAL_INK" (.text ""), .grantSeal "ink"]).countTrue
        (initial.applyAll [.setFlag "SEAL_INK" (.text ""), .grantSeal "ink"]).sealNames = 0) ∧
    (initial.applyAll [.setFlag "SEAL_INK" (.text "held")]).missedSeals = ["SEAL_INK"] ∧
      (initial.applyAll [.setFlag "SEAL_INK" (.text "held")]).sealCount = 0 ∧
      (initial.applyAll [.setFlag "SEAL_INK" (.text "held")]).countTrue
        (initial.applyAll [.setFlag "SEAL_INK" (.text "held")]).sealNames = 1 := by
  decide +kernel

end QuestWeb.GameState
