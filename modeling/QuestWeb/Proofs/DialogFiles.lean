import QuestWeb.Proofs.Findings
import QuestWeb.Proofs.Gate
import QuestWeb.Proofs.QuestNumbers

/-!
The files of quest dialogs at the gate. A quest without a dialog is always told. A file is looked at
because it has the name of a quest's dialog, and told to belong to no quest because its name is not
read as that of one; names with more zeros than the quest's file are left out by both.
-/

namespace QuestWeb

def Finding.place? : Finding → Option String
  | .parse place _ | .schema place _ | .referential place _ => some place
  | .graph _ => none

namespace Report

theorem mem_warnings_warn (report : Report) (warning other : String) :
    other ∈ (report.warn warning).warnings ↔ other ∈ report.warnings ∨ other = warning := by
  unfold warn
  split
  · rename_i given
    rw [List.contains_iff_mem] at given
    constructor
    · exact .inl
    · rintro (old | rfl)
      · exact old
      · exact given
  · simp

theorem mem_warnings_warnAll (report : Report) (warnings : List String) (other : String) :
    other ∈ (report.warnAll warnings).warnings ↔ other ∈ report.warnings ∨ other ∈ warnings := by
  induction warnings generalizing report with
  | nil => simp [warnAll]
  | cons warning rest ih =>
      have step : report.warnAll (warning :: rest) = (report.warn warning).warnAll rest := rfl
      rw [step, ih, mem_warnings_warn, List.mem_cons, or_assoc]

end Report

namespace Validator

variable (validator : Validator) (dataset : Dataset)

theorem mem_warnings_validate (warning : String) :
    warning ∈ (validator.validate dataset).warnings ↔
      warning ∈ validator.strayDialogs dataset ∨
        warning ∈ validator.missingLocationDialogs dataset := by
  simp [validate, Report.mem_warnings_warnAll]

variable {dataset}

theorem loadError_told (finding : Finding) (found : finding ∈ dataset.loadErrors) :
    finding ∈ (validator.validate dataset).errors := by
  simp only [validate, Report.warnAll_errors, List.mem_append]
  exact .inl <| .inl <| .inl <| .inl <| .inl <| .inl <| .inl found

theorem questDialog_told (finding : Finding) (quest : Quest) (listed : quest ∈ dataset.quests)
    (found : finding ∈ validator.questDialogFindings dataset quest.num) :
    finding ∈ (validator.validate dataset).errors := by
  simp only [validate, Report.warnAll_errors, List.mem_append]
  exact .inl <| .inl <| .inl <| .inl <| .inl <| .inr <|
    List.mem_flatMap.mpr ⟨quest, listed, found⟩

/-- A quest whose dialog was not loaded is told: either no file is there, or it was found when
loading that it cannot be read. -/
theorem missing_dialog_told (quest : Quest) (listed : quest ∈ dataset.quests)
    (absent : dataset.questDialogs[quest.num.fileName]? = none) :
    ∃ finding ∈ (validator.validate dataset).errors,
      finding.place? = some (validator.config.layout.questDialog quest.num) := by
  by_cases unreadable :
      validator.config.layout.questDialog quest.num ∈ unreadableFiles dataset
  · obtain ⟨finding, loaded, named⟩ := List.mem_filterMap.mp unreadable
    refine ⟨finding, validator.loadError_told finding loaded, ?_⟩
    cases finding <;> simp_all [Finding.place?]
  · refine ⟨.referential (validator.config.layout.questDialog quest.num)
      ("missing dialog for quest " ++ toString quest.num), ?_, rfl⟩
    apply validator.questDialog_told _ quest listed
    simp [questDialogFindings, absent, unreadable]

def documentFindings (dataset : Dataset) (document : Document) (quest : QuestNum) : List Finding :=
  match document.read Dialog.decoder with
  | .error finding => [finding]
  | .ok dialog =>
      ownerFindings document.file dialog quest ++
        dialogFindings dataset document.file (some quest) dialog

/-- A file is looked at as the dialog of a quest, and all that is wrong with it is told. -/
def Checked (dataset : Dataset) (name : String) (document : Document) : Prop :=
  ∃ quest ∈ dataset.quests, quest.num.fileName = name ∧
    documentFindings dataset document quest.num ⊆ (validator.validate dataset).errors

def strayWarning (name : String) : String :=
  validator.config.layout.questDialogs ++ "/" ++ name ++ " does not belong to any quest"

def Stray (dataset : Dataset) (name : String) : Prop :=
  validator.strayWarning name ∈ (validator.validate dataset).warnings

/-- The name of a quest's dialog file, with at least one more zero before the digits. -/
def Overfilled (dataset : Dataset) (name : String) : Prop :=
  ∃ quest ∈ dataset.quests, quest.num.val ≠ 0 ∧
    ∃ zeros, 0 < zeros ∧ name = quest.num.filledName zeros

variable {validator}

theorem isOwned_iff (name : String) : isOwned dataset name = true ↔
    ∃ quest ∈ dataset.quests, quest.num.val ≠ 0 ∧ ∃ zeros, name = quest.num.filledName zeros := by
  simp only [isOwned, Option.isSome_bind, Option.any_eq_true, QuestNum.ofFileName?_eq_some,
    Dataset.quest?, List.find?_isSome, beq_iff_eq]
  constructor
  · rintro ⟨_, ⟨some_, zeros, rfl⟩, quest, listed, rfl⟩
    exact ⟨quest, listed, some_, zeros, rfl⟩
  · rintro ⟨quest, listed, some_, zeros, rfl⟩
    exact ⟨quest.num, ⟨some_, zeros, rfl⟩, quest, listed, rfl⟩

theorem strayWarning_inj (name other : String)
    (same : validator.strayWarning name = validator.strayWarning other) : name = other := by
  have spelled := congrArg String.toList same
  simp only [strayWarning, String.toList_append] at spelled
  exact String.toList_inj.mp (List.append_cancel_left (List.append_cancel_right spelled))

theorem strayWarning_ne (name : String) :
    validator.strayWarning name ∉ validator.missingLocationDialogs dataset := by
  intro listed
  obtain ⟨location, _, same⟩ := List.mem_map.mp listed
  -- One ends in the name of a file, the other in a word.
  have last := congrArg (·.toList.reverse.head?) same
  simp [strayWarning, DatasetLayout.locationDialog, locationFileName, String.toList_append] at last

variable {name : String} {document : Document}
  (loaded : dataset.questDialogs[name]? = some document)

include loaded

theorem stray_iff : validator.Stray dataset name ↔ isOwned dataset name = false := by
  have present : name ∈ dataset.questDialogs.keys := by
    rw [Std.ExtTreeMap.mem_keys, Std.ExtTreeMap.mem_iff_isSome_getElem?, loaded]
    rfl
  rw [Stray, mem_warnings_validate, or_iff_left (strayWarning_ne name), strayDialogs]
  constructor
  · intro listed
    obtain ⟨other, unowned, same⟩ := List.mem_map.mp listed
    obtain rfl := strayWarning_inj other name same
    simpa using (List.mem_filter.mp unowned).2
  · intro unowned
    exact List.mem_map.mpr ⟨name, List.mem_filter.mpr ⟨present, by simp [unowned]⟩, rfl⟩

theorem checked_iff : validator.Checked dataset name document ↔
    ∃ quest ∈ dataset.quests, quest.num.fileName = name := by
  constructor
  · rintro ⟨quest, listed, named, _⟩
    exact ⟨quest, listed, named⟩
  · rintro ⟨quest, listed, rfl⟩
    refine ⟨quest, listed, rfl, fun finding found => ?_⟩
    apply validator.questDialog_told finding quest listed
    rw [questDialogFindings, loaded]
    exact found

omit loaded

theorem overfilled_iff : Overfilled dataset name ↔
    isOwned dataset name = true ∧ ∀ quest ∈ dataset.quests, quest.num.fileName ≠ name := by
  rw [isOwned_iff]
  constructor
  · rintro ⟨quest, listed, some_, zeros, more, rfl⟩
    refine ⟨⟨quest, listed, some_, zeros, rfl⟩, fun other _ same => ?_⟩
    rw [← QuestNum.filledName_zero] at same
    have none_ := (QuestNum.filledName_inj _ _ _ _ same).2
    omega
  · rintro ⟨⟨quest, listed, some_, zeros, rfl⟩, strange⟩
    refine ⟨quest, listed, some_, zeros, Nat.pos_of_ne_zero ?_, rfl⟩
    rintro rfl
    exact strange quest listed quest.num.filledName_zero.symm

theorem unowned_iff (quest : Quest) (listed : quest ∈ dataset.quests) :
    isOwned dataset quest.num.fileName = false ↔ quest.num.val = 0 := by
  rw [← Bool.not_eq_true, isOwned_iff]
  constructor
  · intro unowned
    refine Decidable.byContradiction fun some_ => ?_
    exact unowned ⟨quest, listed, some_, 0, quest.num.filledName_zero.symm⟩
  · rintro zero ⟨other, _, some_, zeros, same⟩
    rw [← QuestNum.filledName_zero] at same
    rw [← (QuestNum.filledName_inj _ _ _ _ same).1] at some_
    exact some_ zero

variable (validator dataset)

/-- A quest without a dialog is told with the path of its file. A loaded dialog is looked at as the
one of a quest or told to belong to none, unless its name is that of a quest's dialog with more
zeros; and both only for a quest of number 0. -/
theorem dialog_files_told :
    (∀ quest ∈ dataset.quests, dataset.questDialogs[quest.num.fileName]? = none →
      ∃ finding ∈ (validator.validate dataset).errors,
        finding.place? = some (validator.config.layout.questDialog quest.num)) ∧
    ∀ name document, dataset.questDialogs[name]? = some document →
      (validator.Checked dataset name document ∨ validator.Stray dataset name ↔
        ¬ Overfilled dataset name) ∧
      (validator.Checked dataset name document ∧ validator.Stray dataset name ↔
        ∃ quest ∈ dataset.quests, quest.num.val = 0 ∧ quest.num.fileName = name) := by
  refine ⟨validator.missing_dialog_told, fun name document loaded => ?_⟩
  rw [checked_iff loaded, stray_iff loaded, overfilled_iff]
  constructor
  · constructor
    · rintro (⟨quest, listed, rfl⟩ | unowned) ⟨owned, strange⟩
      · exact strange quest listed rfl
      · simp [unowned] at owned
    · intro kept
      by_cases owned : isOwned dataset name = true
      · refine .inl (Decidable.byContradiction fun strange => kept ⟨owned, ?_⟩)
        exact fun quest listed same => strange ⟨quest, listed, same⟩
      · exact .inr (by simpa using owned)
  · constructor
    · rintro ⟨⟨quest, listed, rfl⟩, unowned⟩
      exact ⟨quest, listed, (unowned_iff quest listed).mp unowned, rfl⟩
    · rintro ⟨quest, listed, zero, rfl⟩
      exact ⟨⟨quest, listed, rfl⟩, (unowned_iff quest listed).mpr zero⟩

def hamletOverfilled (documents : Documents) : Dataset :=
  { Engine.hamlet with
    questDialogs := documents.insert "quest_0001.json" ⟨"quest_0001.json", .null⟩ }

theorem dialog_files_told_hamlet :
    let hamlet := hamletOverfilled ∅
    (∃ finding ∈ (Engine.hamletValidator.validate hamlet).errors,
      finding.place? = some "data/dialogs/quest_001.json") ∧
    ¬ (Engine.hamletValidator.Checked hamlet "quest_0001.json" ⟨"quest_0001.json", .null⟩ ∨
      Engine.hamletValidator.Stray hamlet "quest_0001.json") := by
  intro hamlet
  have quest : ∃ quest ∈ hamlet.quests, quest.num = ⟨1⟩ := by decide +kernel
  obtain ⟨quest, listed, first⟩ := quest
  obtain ⟨missing, loaded⟩ := dialog_files_told Engine.hamletValidator hamlet
  constructor
  · have told := missing quest listed (by rw [first]; decide +kernel)
    rw [first] at told
    exact told
  · rw [(loaded "quest_0001.json" _ (by decide +kernel)).1, Classical.not_not]
    exact ⟨quest, listed, by rw [first]; decide, 1, by decide, by rw [first]; decide +kernel⟩

/-- A dialog that nobody looks at: the dataset is fine, and no warning is given. -/
theorem overfilled_untold :
    let hamlet := hamletOverfilled Engine.hamlet.questDialogs
    let report := Engine.hamletValidator.validate hamlet
    report.errors = [] ∧ report.warnings = [] ∧
      ∃ document, hamlet.questDialogs["quest_0001.json"]? = some document ∧
        ¬ (Engine.hamletValidator.Checked hamlet "quest_0001.json" document ∨
          Engine.hamletValidator.Stray hamlet "quest_0001.json") := by
  intro hamlet report
  have loaded : hamlet.questDialogs["quest_0001.json"]? =
      some ⟨"quest_0001.json", .null⟩ := by decide +kernel
  refine ⟨by decide +kernel, by decide +kernel, _, loaded, ?_⟩
  rw [checked_iff loaded, stray_iff loaded]
  decide +kernel

end Validator

end QuestWeb
