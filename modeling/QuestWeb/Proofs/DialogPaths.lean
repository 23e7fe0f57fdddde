import QuestWeb.Proofs.DialogSearch
import QuestWeb.Proofs.DialogShape
import QuestWeb.Proofs.NextQuests

/-!
Dialogs that a player can complete. The search for the completing choice also looks behind terminal
nodes, where no player gets, and no choice of a terminal node is followed to see whether it dangles.
Together the checks still find no defect exactly in the dialogs that have the right shape and a path
to the completing choice through nodes that are not terminal.
-/

namespace QuestWeb.Dialog

variable (dialog : Dialog)

/-- Choices lead from a node to another, each one on a node that is not terminal and each one to the
node of the choice behind it. -/
def Path : String → List Choice → String → Prop
  | id, [], goal => id = goal
  | id, choice :: rest, goal => ∃ node, dialog.nodes[id]? = some node ∧ node.terminal = false ∧
      choice ∈ node.choices ∧ Path choice.next rest goal

def HasCompletingPath (quest : QuestNum) : Prop :=
  ∃ front last goal, dialog.Path dialog.start (front ++ [last]) goal ∧
    .completeQuest quest ∈ last.effects

/-- What a dialog has to be for its quest to be completed. -/
structure Completable (quest : QuestNum) : Prop where
  filled : dialog.nodes ≠ ∅
  named : Text.trim dialog.start ≠ ""
  start : dialog.start ∈ dialog.nodes
  closed (id : String) (node : Node) (found : dialog.nodes[id]? = some node)
    (ends : node.terminal = true) : node.choices = []
  offers (id : String) (node : Node) (found : dialog.nodes[id]? = some node)
    (runs : node.terminal = false) : node.choices ≠ []
  leads (id : String) (node : Node) (found : dialog.nodes[id]? = some node) :
    ∀ choice ∈ node.choices, choice.next ∈ dialog.nodes
  path : dialog.HasCompletingPath quest

theorem path_append (id goal : String) (front back : List Choice) :
    dialog.Path id (front ++ back) goal ↔
      ∃ middle, dialog.Path id front middle ∧ dialog.Path middle back goal := by
  induction front generalizing id with
  | nil => simp [Path]
  | cons choice front ih =>
      simp only [List.cons_append, Path, ih]
      constructor
      · rintro ⟨node, found, runs, offered, middle, first, second⟩
        exact ⟨middle, ⟨node, found, runs, offered, first⟩, second⟩
      · rintro ⟨middle, ⟨node, found, runs, offered, first⟩, second⟩
        exact ⟨node, found, runs, offered, middle, first, second⟩

/-- The last choice of a path stands on a node that the rest of the path leads to. -/
theorem hasCompletingPath_iff (quest : QuestNum) :
    dialog.HasCompletingPath quest ↔ ∃ front id node choice, dialog.Path dialog.start front id ∧
      dialog.nodes[id]? = some node ∧ node.terminal = false ∧ choice ∈ node.choices ∧
        .completeQuest quest ∈ choice.effects := by
  constructor
  · rintro ⟨front, choice, goal, path, completes⟩
    obtain ⟨id, before, node, found, runs, offered, _⟩ := (dialog.path_append _ _ _ _).mp path
    exact ⟨front, id, node, choice, before, found, runs, offered, completes⟩
  · rintro ⟨front, id, node, choice, before, found, runs, offered, completes⟩
    refine ⟨front, choice, choice.next, ?_, completes⟩
    exact (dialog.path_append _ _ _ _).mpr ⟨id, before, node, found, runs, offered, rfl⟩

section Playable

variable {dialog} (playable : dialog.Playable)

include playable

theorem Playable.runs (id : String) (node : Node) (choice : Choice)
    (found : dialog.nodes[id]? = some node) (offered : choice ∈ node.choices) :
    node.terminal = false := by
  rw [Bool.eq_false_iff]
  intro ends
  rw [(playable.terminal id node found).mp ends] at offered
  simp at offered

/-- Where terminal nodes have no choices, the search takes no step that a path can not take. -/
theorem Playable.exists_path (id : String)
    (steps : Relation.ReflTransGen dialog.Step dialog.start id) :
    ∃ path, dialog.Path dialog.start path id := by
  induction steps with
  | refl => exact ⟨[], rfl⟩
  | tail _ step ih =>
      obtain ⟨path, before⟩ := ih
      obtain ⟨node, choice, found, offered, leads, _⟩ := step
      refine ⟨path ++ [choice], (dialog.path_append _ _ _ _).mpr ⟨_, before, node, found, ?_⟩⟩
      exact ⟨playable.runs _ node choice found offered, offered, leads⟩

/-- Where choices lead to nodes, the search comes by every node of a path. -/
theorem Playable.steps_of_path (id goal : String) (path : List Choice)
    (here : dialog.Path id path goal) : Relation.ReflTransGen dialog.Step id goal := by
  induction path generalizing id with
  | nil =>
      cases here
      exact .refl
  | cons choice rest ih =>
      obtain ⟨node, found, _, offered, later⟩ := here
      refine .head ⟨node, choice, found, offered, rfl, ?_⟩ (ih choice.next later)
      exact Std.ExtTreeMap.mem_iff_contains.mpr (playable.leads id node found choice offered)

theorem Playable.completesReachably_iff (quest : QuestNum) :
    dialog.completesReachably quest = true ↔ dialog.HasCompletingPath quest := by
  rw [completes_iff_reaches, hasCompletingPath_iff]
  constructor
  · rintro ⟨id, node, choice, ⟨_, steps⟩, found, offered, completes⟩
    obtain ⟨path, before⟩ := playable.exists_path id steps
    exact ⟨path, id, node, choice, before, found,
      playable.runs id node choice found offered, offered, completes⟩
  · rintro ⟨path, id, node, choice, before, found, _, offered, completes⟩
    have start := Std.ExtTreeMap.mem_iff_contains.mpr playable.start
    exact ⟨id, node, choice, ⟨start, playable.steps_of_path _ id path before⟩, found, offered,
      completes⟩

end Playable

theorem completable_iff (quest : QuestNum) :
    dialog.Completable quest ↔ dialog.Playable ∧ dialog.HasCompletingPath quest := by
  constructor
  · intro completable
    refine ⟨⟨Std.ExtTreeMap.mem_iff_contains.mp completable.start, ?_, ?_, ?_⟩, completable.path⟩
    · rw [Bool.eq_false_iff, ne_eq, ← Text.trim_eq_empty]
      exact completable.named
    · intro id node found choice offered
      exact Std.ExtTreeMap.mem_iff_contains.mp (completable.leads id node found choice offered)
    · intro id node found
      refine ⟨completable.closed id node found, fun without => ?_⟩
      by_contra runs
      exact completable.offers id node found (Bool.eq_false_iff.mpr runs) without
  · rintro ⟨playable, path⟩
    have start := Std.ExtTreeMap.mem_iff_contains.mpr playable.start
    refine ⟨?_, ?_, start, ?_, ?_, ?_, path⟩
    · intro none
      simp [none] at start
    · rw [ne_eq, Text.trim_eq_empty, Bool.not_eq_true]
      exact playable.named
    · exact fun id node found => (playable.terminal id node found).mp
    · intro id node found runs without
      rw [(playable.terminal id node found).mpr without] at runs
      cases runs
    · intro id node found choice offered
      exact Std.ExtTreeMap.mem_iff_contains.mpr (playable.leads id node found choice offered)

/-- The dialog of a quest has no defect exactly if it has the right shape and a path of choices from
its start, through nodes that are not terminal, to a choice that completes the quest. -/
theorem defects_eq_nil_iff_completable (quest : QuestNum) :
    dialog.defects (some quest) = [] ↔ dialog.Completable quest := by
  rw [defects_eq_nil, completable_iff]
  refine and_congr_right fun playable => ?_
  rw [← playable.completesReachably_iff]
  simp

def overrun : Dialog :=
  let ask : Node := ⟨"", "", [⟨"", "end", [.completeQuest ⟨1⟩], [], none⟩], true⟩
  let last : Node := ⟨"", "", [], true⟩
  ⟨some ⟨1⟩, "ask", .ofList [("ask", ask), ("end", last)]⟩

example : overrun.completesReachably ⟨1⟩ = true ∧
    overrun.defects (some ⟨1⟩) = [.terminalWithChoices "ask"] := by
  decide +kernel

end QuestWeb.Dialog
