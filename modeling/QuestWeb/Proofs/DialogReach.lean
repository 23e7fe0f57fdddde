import QuestWeb.Dialog
import QuestWeb.Proofs.Results

/-!
The search through a dialog finds exactly the nodes that choices lead to. Every node is queued once,
so the search has visits enough for all of them.
-/

namespace QuestWeb.Dialog

inductive Leads (dialog : Dialog) : String → Prop where
  | start (there : dialog.hasNode dialog.start = true) : Leads dialog dialog.start
  | next (id other : String) (before : Leads dialog id) (listed : other ∈ dialog.successors id) :
      Leads dialog other

theorem mem_successors (dialog : Dialog) (id other : String) :
    other ∈ dialog.successors id ↔ ∃ node, dialog.node? id = some node ∧
      (∃ choice ∈ node.choices, choice.next = other) ∧ dialog.hasNode other = true := by
  unfold successors
  cases dialog.node? id with
  | none => simp
  | some node => simp

theorem mem_unseen (ids seen : List String) (id : String) :
    id ∈ unseen ids seen ↔ id ∈ ids ∧ id ∉ seen := by
  induction ids generalizing seen with
  | nil => simp [unseen]
  | cons first rest ih =>
      unfold unseen
      split
      · rename_i known
        rw [List.contains_iff_mem] at known
        rw [ih, List.mem_cons]
        constructor
        · exact fun ⟨listed, new⟩ => ⟨.inr listed, new⟩
        · rintro ⟨rfl | listed, new⟩
          · exact absurd known new
          · exact ⟨listed, new⟩
      · rename_i unknown
        rw [List.contains_iff_mem] at unknown
        rw [List.mem_cons, ih, List.mem_cons, List.mem_cons, not_or]
        constructor
        · rintro (rfl | ⟨listed, _, new⟩)
          · exact ⟨.inl rfl, unknown⟩
          · exact ⟨.inr listed, new⟩
        · rintro ⟨rfl | listed, new⟩
          · exact .inl rfl
          · by_cases same : id = first
            · exact .inl same
            · exact .inr ⟨listed, same, new⟩

def missing (dialog : Dialog) (seen : List String) : Nat :=
  dialog.nodes.keys.countP fun id => !seen.contains id

theorem missing_unseen (dialog : Dialog) (ids seen : List String)
    (nodes : ∀ id ∈ ids, dialog.hasNode id = true) :
    (unseen ids seen).length + dialog.missing (unseen ids seen ++ seen) ≤ dialog.missing seen := by
  induction ids generalizing seen with
  | nil => simp [unseen]
  | cons first rest ih =>
      obtain ⟨here, others⟩ := List.forall_mem_cons.mp nodes
      unfold unseen
      split
      · exact ih seen others
      · rename_i unknown
        have later := ih (first :: seen) others
        -- A node that is new takes one off the count, and the rest are counted from there.
        have less : dialog.missing (first :: seen) < dialog.missing seen := by
          refine countP_lt _ _ _ ?_ first ?_ ?_ ?_
          · intro id _
            simp
          · rw [Std.ExtTreeMap.mem_keys]
            exact here
          · simpa using unknown
          · simp
        have same : dialog.missing (first :: unseen rest (first :: seen) ++ seen) =
            dialog.missing (unseen rest (first :: seen) ++ first :: seen) := by
          unfold missing
          congr 1
          funext id
          rw [Bool.eq_iff_iff]
          simp [or_left_comm]
        rw [same, List.length_cons]
        omega

theorem missing_start (dialog : Dialog) (there : dialog.hasNode dialog.start = true) :
    dialog.missing [dialog.start] < dialog.nodes.size := by
  rw [← Std.ExtTreeMap.length_keys, ← List.countP_true]
  refine countP_lt _ _ _ (fun _ _ _ => rfl) dialog.start ?_ rfl (by simp)
  rw [Std.ExtTreeMap.mem_keys]
  exact there

theorem visit_complete_cons (dialog : Dialog) (first : String) (queue seen visited : List String)
    (queued : ∀ id ∈ queue ++ unseen (dialog.successors first) seen, id ∈ visited)
    (closed : ∀ id ∈ visited, ∀ other ∈ dialog.successors id,
      other ∈ visited ∨ other ∈ unseen (dialog.successors first) seen ++ seen) :
    (∀ id ∈ first :: queue, id ∈ first :: visited) ∧
      ∀ id ∈ first :: visited, ∀ other ∈ dialog.successors id,
        other ∈ first :: visited ∨ other ∈ seen := by
  have fresh (other : String) (new : other ∈ unseen (dialog.successors first) seen) :
      other ∈ first :: visited :=
    List.mem_cons_of_mem _ (queued other (List.mem_append_right _ new))
  constructor
  · intro id listed
    rcases List.mem_cons.mp listed with rfl | later
    · exact List.mem_cons_self
    · exact List.mem_cons_of_mem _ (queued id (List.mem_append_left _ later))
  · intro id visit other step
    rcases List.mem_cons.mp visit with rfl | later
    · by_cases old : other ∈ seen
      · exact .inr old
      · exact .inl (fresh other ((mem_unseen ..).mpr ⟨step, old⟩))
    -- The rest of the search may owe this step to what was seen when it began: that was queued just
    -- now, or else seen before.
    · rcases closed id later other step with again | old
      · exact .inl (List.mem_cons_of_mem _ again)
      · rcases List.mem_append.mp old with new | before
        · exact .inl (fresh other new)
        · exact .inr before

/-- What a search has still to visit is visited, and every step from there leads to a node that is
visited too or was seen before. -/
theorem visit_complete (dialog : Dialog) (fuel : Nat) (queue seen : List String)
    (enough : queue.length + dialog.missing seen ≤ fuel) :
    (∀ id ∈ queue, id ∈ dialog.visit fuel queue seen) ∧
      ∀ id ∈ dialog.visit fuel queue seen, ∀ other ∈ dialog.successors id,
        other ∈ dialog.visit fuel queue seen ∨ other ∈ seen := by
  -- A visit takes one node off the queue, and for every node that it queues one fewer is missing,
  -- so the queue runs dry before the fuel does.
  induction fuel generalizing queue seen with
  | zero =>
      have none : queue = [] := List.eq_nil_of_length_eq_zero (by omega)
      subst none
      simp [visit]
  | succ fuel ih =>
      cases queue with
      | nil => simp [visit]
      | cons first queue =>
          have nodes (id : String) (listed : id ∈ dialog.successors first) :
              dialog.hasNode id = true := by
            obtain ⟨_, _, _, there⟩ := (dialog.mem_successors first id).mp listed
            exact there
          have less := dialog.missing_unseen (dialog.successors first) seen nodes
          rw [List.length_cons] at enough
          obtain ⟨queued, closed⟩ :=
            ih (queue ++ unseen (dialog.successors first) seen)
              (unseen (dialog.successors first) seen ++ seen) (by
                rw [List.length_append]
                omega)
          exact dialog.visit_complete_cons first queue seen _ queued closed

theorem visit_sound (dialog : Dialog) (fuel : Nat) (queue seen : List String)
    (led : ∀ id ∈ queue, dialog.Leads id) :
    ∀ id ∈ dialog.visit fuel queue seen, dialog.Leads id := by
  induction fuel generalizing queue seen with
  | zero => simp [visit]
  | succ fuel ih =>
      cases queue with
      | nil => simp [visit]
      | cons first queue =>
          obtain ⟨here, others⟩ := List.forall_mem_cons.mp led
          simp only [visit, List.forall_mem_cons]
          refine ⟨here, ih _ _ ?_⟩
          intro id listed
          rcases List.mem_append.mp listed with queued | new
          · exact others id queued
          · exact .next first id here ((mem_unseen _ _ _).mp new).1

theorem mem_reachable (dialog : Dialog) (id : String) :
    id ∈ dialog.reachable ↔ dialog.Leads id := by
  unfold reachable
  split
  · rename_i there
    constructor
    · refine dialog.visit_sound _ _ _ ?_ id
      intro first listed
      rw [List.mem_singleton.mp listed]
      exact .start there
    · have less := dialog.missing_start there
      obtain ⟨queued, closed⟩ := dialog.visit_complete dialog.nodes.size [dialog.start]
        [dialog.start] (by simp only [List.length_singleton]; omega)
      intro led
      -- Only the start was seen when the search began, and it is queued.
      induction led with
      | start there => exact queued _ (List.mem_singleton_self _)
      | next id other before listed ih =>
          rcases closed id ih other listed with visited | start
          · exact visited
          · rw [List.mem_singleton.mp start]
            exact queued _ (List.mem_singleton_self _)
  · rename_i absent
    constructor
    · intro listed
      simp at listed
    · intro led
      induction led with
      | start there => exact absurd there absent
      | next id other before listed ih => simp at ih

theorem completesReachably_iff (dialog : Dialog) (quest : QuestNum) :
    dialog.completesReachably quest = true ↔ ∃ id node, dialog.Leads id ∧
      dialog.node? id = some node ∧
        ∃ choice ∈ node.choices, choice.effects.any (·.completes quest) = true := by
  simp only [completesReachably, List.any_eq_true, mem_reachable]
  constructor
  · rintro ⟨id, led, holds⟩
    cases standing : dialog.node? id with
    | none => simp [standing] at holds
    | some node =>
        simp only [standing, List.any_eq_true] at holds
        exact ⟨id, node, led, standing, holds⟩
  · rintro ⟨id, node, led, standing, holds⟩
    refine ⟨id, led, ?_⟩
    simp only [standing, List.any_eq_true]
    exact holds

end QuestWeb.Dialog
