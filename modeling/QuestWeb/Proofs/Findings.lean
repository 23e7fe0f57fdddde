import QuestWeb.Proofs.DialogShape
import QuestWeb.Proofs.Results
import QuestWeb.Validator

/-!
When the checks of quests and dialogs find nothing.
-/

namespace QuestWeb

namespace Dataset

def questDialog? (dataset : Dataset) (num : QuestNum) : Option Dialog :=
  (dataset.questDialogs[num.fileName]?).bind fun document =>
    (document.read Dialog.decoder).toOption

def Resolves (dataset : Dataset) (effect : Effect) : Prop :=
  ∀ num, effect.quest? = some num → (dataset.quest? num).isSome = true

end Dataset

namespace Validator

variable (validator : Validator) (dataset : Dataset)

theorem missingQuest?_eq_none (location : String) (effect : Effect) :
    missingQuest? dataset location effect = none ↔ dataset.Resolves effect := by
  unfold missingQuest? Dataset.Resolves
  cases effect.quest? with
  | none => simp
  | some num => by_cases listed : (dataset.quest? num).isSome <;> simp [listed]

def EffectsResolve (dialog : Dialog) : Prop :=
  ∀ id node, dialog.node? id = some node → ∀ choice ∈ node.choices, ∀ effect ∈ choice.effects,
    dataset.Resolves effect

theorem dialogFindings_eq_nil (file : String) (owner : Option QuestNum) (dialog : Dialog) :
    dialogFindings dataset file owner dialog = [] ↔
      dialog.defects owner = [] ∧ EffectsResolve dataset dialog := by
  unfold dialogFindings
  rw [List.append_eq_nil_iff, List.map_eq_nil_iff, List.filterMap_eq_nil_iff]
  refine and_congr_right fun _ => ?_
  constructor
  · intro none id node found choice offered effect applied
    have member : (id, effect) ∈ dialog.effects := by
      refine List.mem_flatMap.mpr ⟨(id, node), (dialog.mem_nodes id node).mpr found, ?_⟩
      exact List.mem_flatMap.mpr ⟨choice, offered, List.mem_map_of_mem applied⟩
    exact (missingQuest?_eq_none dataset _ effect).mp (none (id, effect) member)
  · rintro resolve ⟨id, effect⟩ member
    obtain ⟨⟨place, node⟩, found, inside⟩ := List.mem_flatMap.mp member
    obtain ⟨choice, offered, inside⟩ := List.mem_flatMap.mp inside
    obtain ⟨named, applied, pair⟩ := List.mem_map.mp inside
    obtain ⟨rfl, rfl⟩ := Prod.mk.inj pair
    exact (missingQuest?_eq_none dataset _ named).mpr
      (resolve place node ((dialog.mem_nodes place node).mp found) choice offered named applied)

theorem ownerFindings_eq_nil (file : String) (dialog : Dialog) (quest : QuestNum) :
    ownerFindings file dialog quest = [] ↔ dialog.quest = some quest := by
  unfold ownerFindings
  cases dialog.quest with
  | none => simp
  | some num => by_cases same : num = quest <;> simp [same]

theorem questDialogFindings_eq_nil (loaded : dataset.loadErrors = []) (num : QuestNum) :
    validator.questDialogFindings dataset num = [] ↔
      ∃ dialog, dataset.questDialog? num = some dialog ∧ dialog.quest = some num ∧
        dialog.defects (some num) = [] ∧ EffectsResolve dataset dialog := by
  unfold questDialogFindings Dataset.questDialog?
  cases dataset.questDialogs[num.fileName]? with
  | none => simp [unreadableFiles, loaded]
  | some document =>
      cases read : document.read Dialog.decoder with
      | error finding => simp [read, Except.toOption]
      | ok dialog =>
          simp [read, Except.toOption, ownerFindings_eq_nil, dialogFindings_eq_nil]

theorem checkLocationDialogs_eq_nil :
    checkLocationDialogs dataset = [] ↔
      ∀ (name : String) (document : Document), dataset.locationDialogs[name]? = some document →
        ∃ dialog, document.read Dialog.decoder = .ok dialog ∧
          dialog.defects none = [] ∧ EffectsResolve dataset dialog := by
  unfold checkLocationDialogs
  rw [List.flatMap_eq_nil_iff]
  constructor
  · intro all name document found
    have own := all document ((mem_values _ _).mpr ⟨name, found⟩)
    cases read : document.read Dialog.decoder with
    | error finding => simp [read] at own
    | ok dialog =>
        simp only [read] at own
        exact ⟨dialog, rfl, (dialogFindings_eq_nil dataset document.file none dialog).mp own⟩
  · intro all document member
    obtain ⟨name, found⟩ := (mem_values _ _).mp member
    obtain ⟨dialog, read, sound⟩ := all name document found
    simp only [read]
    exact (dialogFindings_eq_nil dataset document.file none dialog).mpr sound

theorem eachQuest_outcomes (seen : Std.ExtTreeMap String QuestNum) (quests : List Quest)
    (none : validator.eachQuest dataset seen quests = []) (quest : Quest) (listed : quest ∈ quests)
    (effect : Effect) (outcome : effect ∈ quest.outcomes) : dataset.Resolves effect := by
  induction quests generalizing seen with
  | nil => simp at listed
  | cons first rest ih =>
      simp only [eachQuest, List.append_eq_nil_iff] at none
      rcases List.mem_cons.mp listed with rfl | later
      · have own := none.1
        unfold questFindings at own
        rw [List.append_eq_nil_iff] at own
        exact (missingQuest?_eq_none dataset _ effect).mp
          (List.filterMap_eq_nil_iff.mp own.2 effect outcome)
      · exact ih _ none.2 later

theorem eachQuest_eq_nil (seen : Std.ExtTreeMap String QuestNum) (quests : List Quest)
    (distinct : (quests.map (·.id)).Nodup) (new : ∀ quest ∈ quests, seen[quest.id]? = none)
    (each : ∀ quest ∈ quests, validator.questFindings dataset none quest = []) :
    validator.eachQuest dataset seen quests = [] := by
  induction quests generalizing seen with
  | nil => rfl
  | cons quest rest ih =>
      rw [List.map_cons, List.nodup_cons] at distinct
      rw [List.forall_mem_cons] at new each
      rw [eachQuest, new.1, each.1, List.nil_append]
      -- The identifier of this quest is seen from now on, and no later quest has it.
      refine ih (seen.insert quest.id quest.num) distinct.2 ?_ each.2
      intro other listed
      rw [Std.ExtTreeMap.getElem?_insert, if_neg]
      · exact new.2 other listed
      · intro same
        rw [Std.LawfulEqCmp.compare_eq_iff_eq] at same
        exact distinct.1 (List.mem_map.mpr ⟨other, listed, same.symm⟩)

end Validator

end QuestWeb
