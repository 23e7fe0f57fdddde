import QuestWeb.State.Effect

/-!
The flags that effects write. Every effect writes at most one flag, which it may turn from a number
into a text or back, and leaves all others alone.
-/

namespace QuestWeb

def Effect.flag? : Effect → Option String
  | .setFlag name _ | .incFlag name _ => some name
  | .grantSeal domain => some (FlagName.sealOf (Text.upper domain))
  | .setClause _ => some FlagName.clause
  | .setCensureMode _ => some FlagName.censureMode
  | .computeBossUnlock => some FlagName.bossUnlocked
  | .startQuest _ | .completeQuest _ | .teleport _ => none

theorem Effect.flag?_ne {effect : Effect} {own name : String} (writes : effect.flag? = some own)
    (apart : own ≠ name) : effect.flag? ≠ some name := by
  rw [writes]
  simpa using apart

namespace GameState

variable (state : GameState) (name other : String)

@[simp]
theorem getElem?_setScore (value : Int64) : (state.setScore name value).scores[other]? =
    if name = other then some value else state.scores[other]? := by
  simp [setScore, Std.ExtTreeMap.getElem?_insert]

@[simp]
theorem getElem?_setText (value : String) : (state.setText name value).strings[other]? =
    if name = other then some value else state.strings[other]? := by
  simp [setText, Std.ExtTreeMap.getElem?_insert]

/-- The seals counted are those with a number, however they are listed. -/
theorem sealCount_names (names : List String) (nodup : names.Nodup)
    (numbered : ∀ name, name ∈ names ↔ FlagName.isSeal name = true ∧ state.score name ≠ 0) :
    state.sealCount = names.length := by
  -- Both lists have no name twice, so it is enough that they have the same names.
  have same : ((state.scores.toList.filter fun score =>
      FlagName.isSeal score.1 && score.2 != 0).map Prod.fst).Perm names := by
    refine (List.perm_ext_iff_of_nodup ?distinct nodup).mpr fun name => ?_
    case distinct =>
      have keys := Std.ExtTreeMap.nodup_keys (t := state.scores)
      rw [← Std.ExtTreeMap.map_fst_toList_eq_keys] at keys
      exact keys.sublist (List.filter_sublist.map _)
    simp only [List.mem_map, List.mem_filter, Std.ExtTreeMap.mem_toList_iff_getElem?_eq_some,
      Prod.exists, exists_and_right, exists_eq_right, Bool.and_eq_true, bne_iff_ne, numbered, score]
    cases state.scores[name]? <;> simp [and_comm]
  rw [sealCount, ← same.length_eq, List.length_map]

variable (effect : Effect)

theorem apply_threshold :
    (state.apply effect).bossSealThreshold = state.bossSealThreshold := by
  cases effect with
  | setFlag own value => cases value <;> rfl
  | setClause clause =>
      simp only [apply]
      split <;> rfl
  | _ => rfl

variable (apart : effect.flag? ≠ some name)

include apart

theorem scores_frame : (state.apply effect).scores[name]? = state.scores[name]? := by
  cases effect with
  | setFlag own value =>
      have differs : own ≠ name := fun same => apart (congrArg some same)
      cases value <;>
        simp [apply, setFlag, setText, differs, Std.ExtTreeMap.getElem?_erase]
  | incFlag own delta =>
      have differs : own ≠ name := fun same => apart (congrArg some same)
      simp [apply, differs]
  | grantSeal domain =>
      have differs : FlagName.sealOf (Text.upper domain) ≠ name :=
        fun same => apart (congrArg some same)
      simp [apply, differs]
  | computeBossUnlock =>
      have differs : FlagName.bossUnlocked ≠ name := fun same => apart (congrArg some same)
      simp [apply, differs]
  | setClause clause =>
      simp only [apply]
      split <;> rfl
  | _ => rfl

theorem strings_frame : (state.apply effect).strings[name]? = state.strings[name]? := by
  cases effect with
  | setFlag own value =>
      have differs : own ≠ name := fun same => apart (congrArg some same)
      cases value <;>
        simp [apply, setFlag, setScore, differs, Std.ExtTreeMap.getElem?_erase]
  | setClause clause =>
      have differs : FlagName.clause ≠ name := fun same => apart (congrArg some same)
      simp only [apply]
      split
      · simp [differs]
      · rfl
  | setCensureMode mode =>
      have differs : FlagName.censureMode ≠ name := fun same => apart (congrArg some same)
      simp [apply, differs]
  | _ => rfl

end GameState

end QuestWeb
