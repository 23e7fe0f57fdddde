import QuestWeb.Engine

/-!
Dialogs that can be played to an end. The search for defects finds none exactly in the dialogs that
start at one of their nodes, whose choices lead to nodes, and whose terminal nodes are the ones
without choices.
-/

namespace QuestWeb.Dialog

variable (dialog : Dialog)

structure Playable : Prop where
  start : dialog.hasNode dialog.start = true
  named : Text.isBlankText dialog.start = false
  leads : ∀ id node, dialog.node? id = some node →
    ∀ choice ∈ node.choices, dialog.hasNode choice.next = true
  terminal : ∀ id node, dialog.node? id = some node →
    (node.terminal = true ↔ node.choices = [])

theorem hasNode_iff (id : String) :
    dialog.hasNode id = true ↔ ∃ node, dialog.node? id = some node := by
  simp [hasNode, node?, ← Option.isSome_iff_exists]

theorem mem_nodes (id : String) (node : Node) :
    (id, node) ∈ dialog.nodes.toList ↔ dialog.node? id = some node :=
  Std.ExtTreeMap.mem_toList_iff_getElem?_eq_some

theorem startDefects_eq_nil :
    dialog.startDefects = [] ↔
      dialog.hasNode dialog.start = true ∧ Text.isBlankText dialog.start = false := by
  unfold startDefects
  by_cases found : dialog.hasNode dialog.start = true
  · have nodes : dialog.nodes.isEmpty = false := by
      rw [Std.ExtTreeMap.isEmpty_eq_false_iff]
      intro empty
      simp [hasNode, empty] at found
    cases blank : Text.isBlankText dialog.start <;> simp [found, nodes]
  · cases blank : Text.isBlankText dialog.start <;> cases dialog.nodes.isEmpty <;>
      simp [found]

theorem danglingChoices_eq_nil (id : String) (index : Nat) (choices : List Choice) :
    dialog.danglingChoices id index choices = [] ↔
      ∀ choice ∈ choices, dialog.hasNode choice.next = true := by
  induction choices generalizing index with
  | nil => simp [danglingChoices]
  | cons choice rest ih =>
      by_cases leads : dialog.hasNode choice.next = true
      · simp [danglingChoices, leads, ih]
      · simp [danglingChoices, leads]

theorem nodeDefects_eq_nil (id : String) (node : Node) :
    dialog.nodeDefects id node = [] ↔
      (node.terminal = true ↔ node.choices = []) ∧
        ∀ choice ∈ node.choices, dialog.hasNode choice.next = true := by
  unfold nodeDefects
  by_cases terminal : node.terminal = true
  · cases choices : node.choices with
    | nil => simp [terminal]
    | cons first rest => simp [terminal]
  · cases choices : node.choices with
    | nil => simp [terminal]
    | cons first rest => simp [terminal, danglingChoices_eq_nil]

theorem defects_eq_nil (owner : Option QuestNum) :
    dialog.defects owner = [] ↔
      dialog.Playable ∧ ∀ quest, owner = some quest → dialog.completesReachably quest = true := by
  have nodes : (dialog.nodes.toList.flatMap fun entry => dialog.nodeDefects entry.1 entry.2) = [] ↔
      ∀ id node, dialog.node? id = some node → dialog.nodeDefects id node = [] := by
    simp [List.flatMap_eq_nil_iff, node?]
  have shape : dialog.startDefects ++
      (dialog.nodes.toList.flatMap fun entry => dialog.nodeDefects entry.1 entry.2) = [] ↔
      dialog.Playable := by
    rw [List.append_eq_nil_iff, startDefects_eq_nil, nodes]
    simp only [nodeDefects_eq_nil]
    constructor
    · rintro ⟨⟨start, named⟩, nodes⟩
      exact ⟨start, named, fun id node found => (nodes id node found).2,
        fun id node found => (nodes id node found).1⟩
    · intro playable
      exact ⟨⟨playable.start, playable.named⟩,
        fun id node found => ⟨playable.terminal id node found, playable.leads id node found⟩⟩
  unfold defects
  rw [List.append_eq_nil_iff, shape]
  cases owner with
  | none => simp
  | some quest => simp

/-- The engine refuses exactly the dialogs without a usable start. -/
theorem fatalDefect?_eq_none :
    Engine.fatalDefect? dialog = none ↔
      dialog.hasNode dialog.start = true ∧ Text.isBlankText dialog.start = false := by
  rw [← startDefects_eq_nil]
  unfold Engine.fatalDefect? defects
  constructor
  · intro harmless
    rw [List.find?_eq_none] at harmless
    rw [List.eq_nil_iff_forall_not_mem]
    intro defect member
    refine harmless defect (by simp [member]) ?_
    unfold startDefects at member
    rcases List.mem_append.mp member with nodes | start
    · split at nodes <;> simp_all [DialogDefect.isFatal]
    · split at start
      · simp_all [DialogDefect.isFatal]
      · split at start <;> simp_all [DialogDefect.isFatal]
  · intro none
    rw [none, List.nil_append, List.append_nil, List.find?_eq_none]
    intro defect member
    obtain ⟨⟨id, node⟩, _, own⟩ := List.mem_flatMap.mp member
    simp only [nodeDefects] at own
    split at own
    · split at own <;> simp_all [DialogDefect.isFatal]
    · split at own
      · simp_all [DialogDefect.isFatal]
      -- A dialog with choices that lead nowhere can still be entered.
      · have dangling : ∀ index choices, defect ∈ dialog.danglingChoices id index choices →
            defect.isFatal = false := by
          intro index choices
          induction choices generalizing index with
          | nil => simp [danglingChoices]
          | cons choice rest ih =>
              intro member
              simp only [danglingChoices] at member
              split at member
              · exact ih (index + 1) member
              · rcases List.mem_cons.mp member with rfl | later
                · rfl
                · exact ih (index + 1) later
        simpa using dangling 0 node.choices own

end QuestWeb.Dialog
