import Mathlib.Logic.Relation
import QuestWeb.Proofs.Completion
import QuestWeb.Proofs.DialogReach

/-!
The search through a dialog as a loop that takes one node after the other off a queue. It ends by
itself, whatever the dialog is, with every node that choices lead to, each once and the start first.
-/

namespace QuestWeb.Dialog

def Step (dialog : Dialog) (id other : String) : Prop :=
  ∃ node choice, dialog.nodes[id]? = some node ∧ choice ∈ node.choices ∧ choice.next = other ∧
    other ∈ dialog.nodes

def Reaches (dialog : Dialog) (id : String) : Prop :=
  dialog.start ∈ dialog.nodes ∧ Relation.ReflTransGen dialog.Step dialog.start id

/-- The search without a bound on its visits. With these nodes queued and these seen, it visits
nodes in this order until nothing is queued. -/
inductive Searches (dialog : Dialog) : List String → List String → List String → Prop where
  | done (seen : List String) : Searches dialog [] seen []
  | visit (id : String) (queue seen order : List String)
      (rest : Searches dialog (queue ++ unseen (dialog.successors id) seen)
        (unseen (dialog.successors id) seen ++ seen) order) :
      Searches dialog (id :: queue) seen (id :: order)

def entry (dialog : Dialog) : List String :=
  if dialog.hasNode dialog.start then [dialog.start] else []

theorem step_iff (dialog : Dialog) (id other : String) :
    dialog.Step id other ↔ other ∈ dialog.successors id := by
  rw [mem_successors]
  constructor
  · rintro ⟨node, choice, found, offered, leads, there⟩
    exact ⟨node, found, ⟨choice, offered, leads⟩, Std.ExtTreeMap.mem_iff_contains.mp there⟩
  · rintro ⟨node, found, ⟨choice, offered, leads⟩, there⟩
    exact ⟨node, choice, found, offered, leads, Std.ExtTreeMap.mem_iff_contains.mpr there⟩

theorem reaches_iff (dialog : Dialog) (id : String) : dialog.Reaches id ↔ dialog.Leads id := by
  constructor
  · rintro ⟨there, path⟩
    induction path with
    | refl => exact .start (Std.ExtTreeMap.mem_iff_contains.mp there)
    | tail before step ih => exact .next _ _ ih ((dialog.step_iff _ _).mp step)
  · intro led
    induction led with
    | start there => exact ⟨Std.ExtTreeMap.mem_iff_contains.mpr there, .refl⟩
    | next id other before listed ih =>
        exact ⟨ih.1, ih.2.tail ((dialog.step_iff id other).mpr listed)⟩

theorem searches_visit (dialog : Dialog) (fuel : Nat) (queue seen : List String)
    (enough : queue.length + dialog.missing seen ≤ fuel) :
    dialog.Searches queue seen (dialog.visit fuel queue seen) := by
  induction fuel generalizing queue seen with
  | zero =>
      have none : queue = [] := List.eq_nil_of_length_eq_zero (by omega)
      subst none
      exact .done seen
  | succ fuel ih =>
      cases queue with
      | nil => exact .done seen
      | cons first queue =>
          have less := dialog.missing_unseen (dialog.successors first) seen fun id listed => by
            obtain ⟨_, _, _, there⟩ := (dialog.mem_successors first id).mp listed
            exact there
          refine .visit first queue seen _ (ih _ _ ?_)
          rw [List.length_cons] at enough
          rw [List.length_append]
          omega

theorem Searches.unique {dialog : Dialog} {queue seen order other : List String}
    (run : dialog.Searches queue seen order) (also : dialog.Searches queue seen other) :
    order = other := by
  induction run generalizing other with
  | done => cases also; rfl
  | visit id queue seen order rest ih =>
      cases also with
      | visit _ _ _ other again => rw [ih again]

theorem searches_reachable (dialog : Dialog) :
    dialog.Searches dialog.entry dialog.entry dialog.reachable := by
  unfold entry reachable
  by_cases there : dialog.hasNode dialog.start = true
  · have less := dialog.missing_start there
    simp only [there, ↓reduceIte]
    refine dialog.searches_visit _ _ _ ?_
    rw [List.length_singleton]
    omega
  · simp only [there, Bool.false_eq_true, ↓reduceIte]
    exact .done []

theorem unseen_nodup (ids seen : List String) : (unseen ids seen).Nodup := by
  induction ids generalizing seen with
  | nil => simp [unseen]
  | cons first rest ih =>
      unfold unseen
      split
      · exact ih seen
      · refine List.nodup_cons.mpr ⟨fun again => ?_, ih (first :: seen)⟩
        exact ((mem_unseen rest (first :: seen) first).mp again).2 List.mem_cons_self

/-- What is visited was queued, or is new. As everything queued has been seen, nothing is queued a
second time. -/
theorem Searches.nodup {dialog : Dialog} {queue seen order : List String}
    (run : dialog.Searches queue seen order) (distinct : queue.Nodup)
    (known : ∀ id ∈ queue, id ∈ seen) :
    order.Nodup ∧ ∀ id ∈ order, id ∈ queue ∨ id ∉ seen := by
  induction run with
  | done => simp
  | visit first queue seen order rest ih =>
      obtain ⟨alone, others⟩ := List.nodup_cons.mp distinct
      obtain ⟨here, behind⟩ := List.forall_mem_cons.mp known
      have fresh (id : String) (new : id ∈ unseen (dialog.successors first) seen) : id ∉ seen :=
        ((mem_unseen _ _ id).mp new).2
      have apart : (queue ++ unseen (dialog.successors first) seen).Nodup :=
        List.nodup_append.mpr ⟨others, unseen_nodup _ _,
          fun id queued other new same => fresh other new (same ▸ behind id queued)⟩
      obtain ⟨once, source⟩ := ih apart fun id queued => by
        rcases List.mem_append.mp queued with before | new
        · exact List.mem_append_right _ (behind id before)
        · exact List.mem_append_left _ new
      have later (id : String) (visited : id ∈ order) : id ∈ queue ∨ id ∉ seen := by
        rcases source id visited with queued | unknown
        · exact (List.mem_append.mp queued).imp_right (fresh id)
        · exact .inr fun old => unknown (List.mem_append_right _ old)
      constructor
      · refine List.nodup_cons.mpr ⟨fun again => ?_, once⟩
        exact (later first again).elim alone fun unknown => unknown here
      · intro id visited
        rcases List.mem_cons.mp visited with rfl | after
        · exact .inl List.mem_cons_self
        · exact (later id after).imp_left (List.mem_cons_of_mem first)

theorem reachable_nodup (dialog : Dialog) : dialog.reachable.Nodup := by
  have distinct : dialog.entry.Nodup := by
    unfold entry
    split <;> simp
  exact (dialog.searches_reachable.nodup distinct fun _ queued => queued).1

theorem Searches.head? {dialog : Dialog} {queue seen order : List String}
    (run : dialog.Searches queue seen order) : order.head? = queue.head? := by
  cases run <;> rfl

theorem mem_reachable_iff (dialog : Dialog) (id : String) :
    id ∈ dialog.reachable ↔ dialog.Reaches id := by
  rw [mem_reachable, reaches_iff]

theorem head?_reachable (dialog : Dialog) (id : String) :
    dialog.reachable.head? = some id ↔ id = dialog.start ∧ dialog.start ∈ dialog.nodes := by
  rw [dialog.searches_reachable.head?, entry, Std.ExtTreeMap.mem_iff_contains]
  unfold hasNode
  split
  · rename_i there
    simp [there, eq_comm]
  · rename_i absent
    simp [absent]

theorem reachable_eq_nil (dialog : Dialog) :
    dialog.reachable = [] ↔ dialog.start ∉ dialog.nodes := by
  have first := dialog.head?_reachable dialog.start
  constructor
  · intro nothing there
    simpa [nothing] using first.mpr ⟨rfl, there⟩
  · intro absent
    refine List.eq_nil_iff_forall_not_mem.mpr fun id found => ?_
    exact absent ((dialog.mem_reachable_iff id).mp found).1

theorem completes_iff_reaches (dialog : Dialog) (quest : QuestNum) :
    dialog.completesReachably quest = true ↔ ∃ id node choice, dialog.Reaches id ∧
      dialog.nodes[id]? = some node ∧ choice ∈ node.choices ∧
        .completeQuest quest ∈ choice.effects := by
  have carries (choice : Choice) : choice.effects.any (·.completes quest) = true ↔
      .completeQuest quest ∈ choice.effects := by
    simp [Effect.completes_iff]
  rw [completesReachably_iff]
  constructor
  · rintro ⟨id, node, led, found, choice, offered, completes⟩
    exact ⟨id, node, choice, (dialog.reaches_iff id).mpr led, found, offered,
      (carries choice).mp completes⟩
  · rintro ⟨id, node, choice, reached, found, offered, completes⟩
    exact ⟨id, node, (dialog.reaches_iff id).mp reached, found, choice, offered,
      (carries choice).mpr completes⟩

/-- Whatever the dialog is, the search ends, and there is one order that it can end with. In this
each node stands once, the start stands first if it is there and else there is none, and it holds
exactly the nodes that choices lead to. A quest counts as completed reachably exactly if a choice on
one of these nodes completes it. -/
theorem search_exact (dialog : Dialog) :
    (∀ order, dialog.Searches dialog.entry dialog.entry order ↔ order = dialog.reachable) ∧
    dialog.reachable.Nodup ∧
    (∀ id, dialog.reachable.head? = some id ↔
      id = dialog.start ∧ dialog.start ∈ dialog.nodes) ∧
    (dialog.reachable = [] ↔ dialog.start ∉ dialog.nodes) ∧
    (∀ id, id ∈ dialog.reachable ↔ dialog.Reaches id) ∧
    ∀ quest, dialog.completesReachably quest = true ↔ ∃ id node choice, dialog.Reaches id ∧
      dialog.nodes[id]? = some node ∧ choice ∈ node.choices ∧
        .completeQuest quest ∈ choice.effects := by
  have ends := dialog.searches_reachable
  refine ⟨fun order => ⟨fun run => run.unique ends, fun same => same ▸ ends⟩,
    dialog.reachable_nodup, dialog.head?_reachable, dialog.reachable_eq_nil,
    dialog.mem_reachable_iff, dialog.completes_iff_reaches⟩

end QuestWeb.Dialog
