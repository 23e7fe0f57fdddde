import QuestWeb.Proofs.Flags

/-!
Numbers and texts under one name. Setting a flag outright takes away its value of the other kind.
No other effect does: a number that is added under the name of a text stays hidden behind it, until
the flag is set again.
-/

namespace QuestWeb

def Effect.set? : Effect → Option String
  | .setFlag name _ => some name
  | _ => none

namespace GameState

/-- What an effect writes in a state, and under which name. A truth value is written as a number,
and a clause only while none is bound. -/
def written? (state : GameState) : Effect → Option (String × FlagValue)
  | .setFlag name (.text value) => some (name, .text value)
  | .setFlag name (.int value) => some (name, .int value)
  | .setFlag name (.bool value) => some (name, .int (boolScore value))
  | .incFlag name delta => some (name, .int (saturatingAdd (state.score name) delta))
  | .grantSeal domain => some (FlagName.sealOf (Text.upper domain), .int 1)
  | .setClause clause =>
      if state.text FlagName.clause = "" then some (FlagName.clause, .text clause) else none
  | .setCensureMode mode => some (FlagName.censureMode, .text mode)
  | .computeBossUnlock => some (FlagName.bossUnlocked, .int (boolScore state.isBossUnlocked))
  | .startQuest _ | .completeQuest _ | .teleport _ => none

def IsMixed (state : GameState) (name : String) : Prop :=
  name ∈ state.scores ∧ name ∈ state.strings

/-- The effect writes under the name of a value of the other kind, and leaves that where it is. -/
inductive Clashes (state : GameState) (effect : Effect) (name : String) : Prop where
  | number (value : Int64) (added : effect.set? = none)
      (written : state.written? effect = some (name, .int value)) (other : name ∈ state.strings)
  | text (value : String) (added : effect.set? = none)
      (written : state.written? effect = some (name, .text value)) (other : name ∈ state.scores)

variable (state : GameState) (effect : Effect) (name : String)

theorem apply_unwritten (nothing : state.written? effect = none) :
    effect.set? = none ∧ (state.apply effect).scores = state.scores ∧
      (state.apply effect).strings = state.strings := by
  cases effect with
  | setFlag own value => cases value <;> simp [written?] at nothing
  | setClause clause =>
      have bound : ¬ state.text FlagName.clause = "" := by simpa [written?] using nothing
      simp [apply, bound, Effect.set?]
  | startQuest | completeQuest | teleport => exact ⟨rfl, rfl, rfl⟩
  | incFlag | grantSeal | setCensureMode | computeBossUnlock => simp [written?] at nothing

theorem apply_number (value : Int64) (written : state.written? effect = some (name, .int value)) :
    (state.apply effect).scores = state.scores.insert name value ∧
      (effect.set? = none ∧ (state.apply effect).strings = state.strings ∨
        effect.set? = some name ∧ (state.apply effect).strings = state.strings.erase name) := by
  cases effect with
  | setFlag own flag =>
      cases flag <;> simp only [written?, Option.some.injEq, Prod.mk.injEq, FlagValue.int.injEq,
        reduceCtorEq, and_false] at written
      all_goals
        obtain ⟨rfl, rfl⟩ := written
        exact ⟨rfl, .inr ⟨rfl, rfl⟩⟩
  | incFlag | grantSeal | computeBossUnlock =>
      simp only [written?, Option.some.injEq, Prod.mk.injEq, FlagValue.int.injEq] at written
      obtain ⟨rfl, rfl⟩ := written
      exact ⟨rfl, .inl ⟨rfl, rfl⟩⟩
  | setClause | setCensureMode | startQuest | completeQuest | teleport =>
      simp [written?] at written

theorem apply_text (value : String) (written : state.written? effect = some (name, .text value)) :
    (state.apply effect).strings = state.strings.insert name value ∧
      (effect.set? = none ∧ (state.apply effect).scores = state.scores ∨
        effect.set? = some name ∧ (state.apply effect).scores = state.scores.erase name) := by
  cases effect with
  | setFlag own flag =>
      cases flag <;> simp only [written?, Option.some.injEq, Prod.mk.injEq, FlagValue.text.injEq,
        reduceCtorEq, and_false] at written
      obtain ⟨rfl, rfl⟩ := written
      exact ⟨rfl, .inr ⟨rfl, rfl⟩⟩
  | setClause clause =>
      by_cases unbound : state.text FlagName.clause = ""
      · simp only [written?, unbound, ↓reduceIte, Option.some.injEq, Prod.mk.injEq,
          FlagValue.text.injEq] at written
        obtain ⟨rfl, rfl⟩ := written
        simp [apply, unbound, Effect.set?, setText]
      · simp [written?, unbound] at written
  | setCensureMode mode =>
      simp only [written?, Option.some.injEq, Prod.mk.injEq, FlagValue.text.injEq] at written
      obtain ⟨rfl, rfl⟩ := written
      exact ⟨rfl, .inl ⟨rfl, rfl⟩⟩
  | incFlag | grantSeal | computeBossUnlock | startQuest | completeQuest | teleport =>
      simp [written?] at written

theorem written?_kind (own : String) (value : FlagValue)
    (written : state.written? effect = some (own, value)) :
    (∃ number, value = .int number) ∨ ∃ text, value = .text text := by
  cases value with
  | int number => exact .inl ⟨number, rfl⟩
  | text text => exact .inr ⟨text, rfl⟩
  | bool value =>
      cases effect with
      | setFlag own value => cases value <;> simp [written?] at written
      | _ => simp [written?] at written

theorem clashes_number (own : String) (value : Int64)
    (written : state.written? effect = some (own, .int value)) :
    state.Clashes effect name ↔ effect.set? = none ∧ own = name ∧ name ∈ state.strings := by
  constructor
  · intro clashes
    cases clashes with
    | number _ added also other =>
        rw [written, Option.some.injEq, Prod.mk.injEq] at also
        exact ⟨added, also.1, other⟩
    | text _ _ also _ => simp [written] at also
  · rintro ⟨added, rfl, other⟩
    exact .number value added written other

theorem clashes_text (own : String) (value : String)
    (written : state.written? effect = some (own, .text value)) :
    state.Clashes effect name ↔ effect.set? = none ∧ own = name ∧ name ∈ state.scores := by
  constructor
  · intro clashes
    cases clashes with
    | number _ _ also _ => simp [written] at also
    | text _ added also other =>
        rw [written, Option.some.injEq, Prod.mk.injEq] at also
        exact ⟨added, also.1, other⟩
  · rintro ⟨added, rfl, other⟩
    exact .text value added written other

/-- An effect makes a name mixed by a clash, and unmixes no name but one that it sets outright. -/
theorem isMixed_apply : (state.apply effect).IsMixed name ↔
    state.Clashes effect name ∨ state.IsMixed name ∧ effect.set? ≠ some name := by
  unfold IsMixed
  cases written : state.written? effect with
  | none =>
      obtain ⟨unset, scores, strings⟩ := apply_unwritten state effect written
      have peaceful : ¬ state.Clashes effect name := by
        intro clashes
        cases clashes <;> simp_all
      simp [scores, strings, unset, peaceful]
  | some entry =>
      obtain ⟨own, value⟩ := entry
      rcases written?_kind state effect own value written with ⟨number, rfl⟩ | ⟨text, rfl⟩
      · rw [clashes_number state effect name own number written]
        obtain ⟨scores, ⟨set, strings⟩ | ⟨set, strings⟩⟩ :=
          apply_number state effect own number written
        all_goals
          rw [scores, strings, set]
          by_cases same : own = name <;> simp [same, Std.ExtTreeMap.mem_erase]
      · rw [clashes_text state effect name own text written]
        obtain ⟨strings, ⟨set, scores⟩ | ⟨set, scores⟩⟩ :=
          apply_text state effect own text written
        all_goals
          rw [scores, strings, set]
          by_cases same : own = name <;> simp +contextual [same, Std.ExtTreeMap.mem_erase]

/-- A text is read as it was written, and so is a number unless it clashed with a text. -/
theorem flag?_apply (value : FlagValue) (written : state.written? effect = some (name, value)) :
    (state.apply effect).flag? name = some value ↔
      (∃ text, value = .text text) ∨ ¬ state.Clashes effect name := by
  unfold flag?
  rcases written?_kind state effect name value written with ⟨number, rfl⟩ | ⟨text, rfl⟩
  · rw [clashes_number state effect name name number written]
    obtain ⟨scores, ⟨set, strings⟩ | ⟨set, strings⟩⟩ :=
      apply_number state effect name number written
    · rw [scores, strings, set, Std.ExtTreeMap.mem_iff_isSome_getElem?]
      cases state.strings[name]? <;> simp
    · simp [scores, strings, set]
  · simp [(apply_text state effect name text written).1]

/-- What lasts while it is spared, unless an effect brings it about again, holds in the end if it
held at first or was brought about, and was spared since. -/
theorem lasting_applyAll (Lasts : GameState → Prop) (Brings : GameState → Effect → Prop)
    (Spares : Effect → Prop) (step : ∀ state effect, Lasts (state.apply effect) ↔
      Brings state effect ∨ Lasts state ∧ Spares effect) (effects : List Effect) :
    Lasts (state.applyAll effects) ↔
      (Lasts state ∧ ∀ effect ∈ effects, Spares effect) ∨
        ∃ front effect back, effects = front ++ effect :: back ∧
          Brings (state.applyAll front) effect ∧ ∀ later ∈ back, Spares later := by
  induction effects generalizing state with
  | nil => simp [applyAll]
  | cons effect rest ih =>
      change Lasts ((state.apply effect).applyAll rest) ↔ _
      rw [ih, step]
      constructor
      · rintro (⟨brings | ⟨before, kept⟩, spared⟩ | ⟨front, later, back, rfl, brings, spared⟩)
        · exact .inr ⟨[], effect, rest, rfl, brings, spared⟩
        · exact .inl ⟨before, List.forall_mem_cons.mpr ⟨kept, spared⟩⟩
        · exact .inr ⟨effect :: front, later, back, rfl, brings, spared⟩
      · rintro (⟨before, spared⟩ | ⟨front, later, back, split, brings, spared⟩)
        · obtain ⟨kept, others⟩ := List.forall_mem_cons.mp spared
          exact .inl ⟨.inr ⟨before, kept⟩, others⟩
        · cases front with
          | nil =>
              obtain ⟨rfl, rfl⟩ := List.cons.inj split
              exact .inl ⟨.inl brings, spared⟩
          | cons first front =>
              obtain ⟨rfl, rfl⟩ := List.cons.inj split
              exact .inr ⟨front, later, back, rfl, brings, spared⟩

theorem isMixed_applyAll (effects : List Effect) : (state.applyAll effects).IsMixed name ↔
    (state.IsMixed name ∧ ∀ effect ∈ effects, effect.set? ≠ some name) ∨
      ∃ front effect back, effects = front ++ effect :: back ∧
        (state.applyAll front).Clashes effect name ∧ ∀ later ∈ back, later.set? ≠ some name :=
  state.lasting_applyAll (fun state => state.IsMixed name)
    (fun state effect => state.Clashes effect name) (fun effect => effect.set? ≠ some name)
    (fun state effect => state.isMixed_apply effect name) effects

/-- After any effects from the start of a game, a name has both kinds exactly if an effect clashed
under it and the flag was not set outright since. Whatever effect comes next, a text that it writes
is read, and a number is read unless it clashes. -/
theorem mixed_names (effects : List Effect) :
    (∀ name, (initial.applyAll effects).IsMixed name ↔
      ∃ front effect back, effects = front ++ effect :: back ∧
        (initial.applyAll front).Clashes effect name ∧ ∀ later ∈ back, later.set? ≠ some name) ∧
    ∀ effect name value, (initial.applyAll effects).written? effect = some (name, value) →
      (((initial.applyAll effects).apply effect).flag? name = some value ↔
        (∃ text, value = .text text) ∨ ¬ (initial.applyAll effects).Clashes effect name) := by
  have unmixed (name : String) : ¬ initial.IsMixed name := by simp [IsMixed, initial]
  refine ⟨fun name => ?_, fun effect name => flag?_apply _ effect name⟩
  rw [isMixed_applyAll, or_iff_right]
  exact fun before => unmixed name before.1

/-- A number that is added under the name of a text is not read. -/
theorem added_number_hidden :
    (initial.applyAll [.setFlag "MOOD" (.text "calm")]).written? (.incFlag "MOOD" 2) =
      some ("MOOD", .int 2) ∧
    (initial.applyAll [.setFlag "MOOD" (.text "calm"), .incFlag "MOOD" 2]).IsMixed "MOOD" ∧
    (initial.applyAll [.setFlag "MOOD" (.text "calm"), .incFlag "MOOD" 2]).flag? "MOOD" =
      some (.text "calm") := by
  refine ⟨?_, ⟨?_, ?_⟩, ?_⟩ <;> decide +kernel

end GameState

end QuestWeb
