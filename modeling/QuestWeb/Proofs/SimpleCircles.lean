import QuestWeb.Proofs.Dependencies
import Mathlib.Data.List.Nodup

/-!
The circles that are reported are real. Wherever the search stands, its trail leads from quest to
dependency over quests of the graph and comes past none of them twice; so what an edge back into the
trail cuts out of it is a circle, and nothing that only leads into one is part of it.
-/

namespace QuestWeb.DependencyGraph

/-- A way over quests of the graph, each depending on the next, that ends where it began and comes
past no other quest twice. -/
structure IsSimpleCircle (graph : DependencyGraph) (circle : List QuestNum) : Prop where
  long : 2 ≤ circle.length
  returns : circle.head? = circle.getLast?
  distinct : circle.dropLast.Nodup
  known : ∀ num ∈ circle, graph.contains num = true
  chain : circle.IsChain graph.DependsOn

variable {graph : DependencyGraph}

theorem isSimpleCircle_circle (num next : QuestNum) (outer : List QuestNum)
    (linked : graph.IsTrail (num :: outer)) (distinct : (num :: outer).Nodup)
    (known : ∀ other ∈ num :: outer, graph.contains other = true) (back : next ∈ num :: outer)
    (depends : graph.DependsOn num next) : graph.IsSimpleCircle (circle (num :: outer) next) := by
  have cut : ((num :: outer).takeWhile (· != next)).Sublist (num :: outer) :=
    List.takeWhile_sublist _
  constructor
  case long => simp [circle]
  case returns =>
    rw [circle, List.getLast?_concat]
    rfl
  case distinct =>
    have apart : next ∉ (num :: outer).takeWhile (· != next) := fun inside => by
      have other := List.all_eq_true.mp (List.all_takeWhile (p := (· != next))) next inside
      simp at other
    rw [circle, List.dropLast_concat, List.nodup_cons, List.mem_reverse, List.nodup_reverse]
    exact ⟨apart, distinct.sublist cut⟩
  case known =>
    intro other listed
    have either : other = next ∨ other ∈ (num :: outer).takeWhile (· != next) := by
      simpa [circle, or_comm] using listed
    rcases either with rfl | inside
    · exact known other back
    · exact known other (cut.subset inside)
  case chain => exact (isCircle_circle num next outer linked back depends).chain

theorem IsSimpleCircle.turns {circle : List QuestNum} (simple : graph.IsSimpleCircle circle)
    (num : QuestNum) (listed : num ∈ circle) : Relation.TransGen graph.DependsOn num num := by
  obtain ⟨first, rest, rfl⟩ := List.exists_cons_of_length_pos (Nat.zero_lt_of_lt simple.long)
  obtain ⟨inner, last, rfl⟩ := rest.eq_nil_or_concat'.resolve_left fun none => by
    have long := simple.long
    simp [none] at long
  have same : first = last := by
    have returns := simple.returns
    rw [← List.cons_append, List.getLast?_concat] at returns
    exact Option.some.inj returns
  subst same
  by_cases end_ : num = first
  · exact end_ ▸ reaches_of_chain simple.chain
  · have inside : num ∈ inner := by simpa [end_] using listed
    obtain ⟨front, back, rfl⟩ := List.append_of_mem inside
    have chain := simple.chain
    -- From the quest round to the end, and from the beginning, which is the same, to the quest.
    have leaves : (num :: back ++ [first]).IsChain graph.DependsOn :=
      chain.suffix ⟨first :: front, by simp⟩
    have whole : (first :: front ++ [num] ++ (back ++ [first])).IsChain graph.DependsOn := by
      simpa using chain
    exact (reaches_of_chain leaves).trans (reaches_of_chain whole.left_of_append)

namespace Walk

structure Sound (graph : DependencyGraph) (walk : Walk) : Prop extends walk.Orderly graph where
  linked : graph.IsTrail walk.trail
  left : ∀ frame ∈ walk.stack, ∀ next ∈ frame.2, graph.DependsOn frame.1 next
  circles : ∀ circle ∈ walk.search.circles, graph.IsSimpleCircle circle

theorem sound_start (graph : DependencyGraph) : (start graph).Sound graph where
  toOrderly := orderly_start graph
  linked := .nil
  left := by simp [start]
  circles := by simp [start]

theorem Sound.move {walk next : Walk} (sound : walk.Sound graph) (moves : graph.Moves walk next) :
    next.Sound graph := by
  have orderly := sound.toOrderly.move moves
  cases moves.turn with
  | pass root roots search entered => exact ⟨orderly, sound.linked, sound.left, sound.circles⟩
  | enter root roots search new =>
      exact ⟨orderly, .singleton root, by simp [DependsOn], sound.circles⟩
  | leave num outer roots search =>
      exact ⟨orderly, sound.linked.tail, (List.forall_mem_cons.mp sound.left).2, sound.circles⟩
  | close num next later outer roots search back =>
      obtain ⟨here, others⟩ := List.forall_mem_cons.mp sound.left
      obtain ⟨depends, after⟩ := List.forall_mem_cons.mp here
      refine ⟨orderly, sound.linked, List.forall_mem_cons.mpr ⟨after, others⟩, ?_⟩
      intro circle listed
      rcases List.mem_append.mp listed with old | new
      · exact sound.circles circle old
      · rw [List.mem_singleton.mp new]
        exact isSimpleCircle_circle num next _ sound.linked sound.distinct
          (fun other standing => sound.known other (sound.entered other standing)) back depends
  | follow num next later outer roots search =>
      obtain ⟨here, others⟩ := List.forall_mem_cons.mp sound.left
      exact ⟨orderly, sound.linked,
        List.forall_mem_cons.mpr ⟨(List.forall_mem_cons.mp here).2, others⟩, sound.circles⟩
  | descend num next later outer roots search new known =>
      obtain ⟨here, others⟩ := List.forall_mem_cons.mp sound.left
      obtain ⟨depends, after⟩ := List.forall_mem_cons.mp here
      refine ⟨orderly, List.isChain_cons_cons.mpr ⟨depends, sound.linked⟩, ?_, sound.circles⟩
      exact List.forall_mem_cons.mpr
        ⟨fun _ listed => listed, List.forall_mem_cons.mpr ⟨after, others⟩⟩

/-- Wherever the search stands. -/
theorem sound_of_moves {walk : Walk}
    (moves : Relation.ReflTransGen graph.Moves (start graph) walk) : walk.Sound graph := by
  induction moves with
  | refl => exact sound_start graph
  | tail _ move ih => exact ih.move move

end Walk

theorem isSimpleCircle_of_mem (graph : DependencyGraph) (circle : List QuestNum)
    (listed : circle ∈ graph.circles) : graph.IsSimpleCircle circle := by
  obtain ⟨last, moves, _, same⟩ := graph.walk_ends
  exact (Walk.sound_of_moves moves).circles circle (same ▸ listed)

theorem graph_not_mem_misplaced (names : List String) (file : String) (position : Nat)
    (quests : List Quest) : Finding.graph names ∉ misplaced file position quests := by
  induction quests generalizing position with
  | nil => simp [misplaced]
  | cons quest rest ih =>
      simp only [misplaced]
      split
      · exact ih _
      · simp [ih]

theorem graph_not_mem_numberFindings (names : List String) (file : String) (records : Nat)
    (num : QuestNum) (count : Nat) :
    Finding.graph names ∉ numberFindings file records num count := by
  unfold numberFindings
  split <;> split <;> simp

theorem missingNumber?_ne_graph (names : List String) (file : String)
    (counts : Std.ExtTreeMap QuestNum Nat) (position : Nat) :
    missingNumber? file counts position ≠ some (.graph names) := by
  unfold missingNumber?
  dsimp only
  split <;> simp

theorem graph_mem_check (quests : List Quest) (records : Nat) (file : String)
    (names : List String) : Finding.graph names ∈ check quests records file ↔
      ∃ circle ∈ (ofQuests quests).circles, circle.map (ofQuests quests).label = names := by
  have aside : Finding.graph names ∉
      if records = quests.length then misplaced file 0 quests else [] := by
    split
    · exact graph_not_mem_misplaced names file 0 quests
    · simp
  simp [check, aside, graph_not_mem_numberFindings, missingNumber?_ne_graph]

/-- Every circle that is reported, of a graph or in the findings of a quest list, is a simple circle
of dependencies, and each quest it names depends on itself through others. -/
theorem reported_circles_real :
    (∀ (graph : DependencyGraph), ∀ circle ∈ graph.circles, graph.IsSimpleCircle circle ∧
      ∀ num ∈ circle, Relation.TransGen graph.DependsOn num num) ∧
    ∀ quests records file names, Finding.graph names ∈ check quests records file →
      ∃ circle, names = circle.map (ofQuests quests).label ∧
        (ofQuests quests).IsSimpleCircle circle ∧
        ∀ num ∈ circle, Relation.TransGen (Depends quests) num num := by
  have real (graph : DependencyGraph) (circle : List QuestNum) (listed : circle ∈ graph.circles) :
      graph.IsSimpleCircle circle ∧ ∀ num ∈ circle, Relation.TransGen graph.DependsOn num num :=
    have simple := graph.isSimpleCircle_of_mem circle listed
    ⟨simple, simple.turns⟩
  refine ⟨real, fun quests records file names found => ?_⟩
  obtain ⟨circle, listed, same⟩ := (graph_mem_check quests records file names).mp found
  rw [← dependsOn_ofQuests]
  exact ⟨circle, same.symm, real _ circle listed⟩

def detour : List Quest :=
  [errand 1 [2], errand 2 [3], errand 3 [4], errand 4 [2]]

/-- Only the circle is reported, without the way that leads into it. -/
theorem reported_circles_real_detour :
    [⟨2⟩, ⟨3⟩, ⟨4⟩, ⟨2⟩] ∈ (ofQuests detour).circles ∧
      (ofQuests detour).IsSimpleCircle [⟨2⟩, ⟨3⟩, ⟨4⟩, ⟨2⟩] ∧
      Finding.graph ["2", "3", "4", "2"] ∈ check detour 4 "quests.json" ∧
      ∃ circle, ["2", "3", "4", "2"] = circle.map (ofQuests detour).label ∧
        (ofQuests detour).IsSimpleCircle circle := by
  have listed : [⟨2⟩, ⟨3⟩, ⟨4⟩, ⟨2⟩] ∈ (ofQuests detour).circles := by decide +kernel
  have found : Finding.graph ["2", "3", "4", "2"] ∈ check detour 4 "quests.json" := by
    decide +kernel
  obtain ⟨circle, names, simple, _⟩ := reported_circles_real.2 detour 4 "quests.json" _ found
  exact ⟨listed, (reported_circles_real.1 _ _ listed).1, found, circle, names, simple⟩

end QuestWeb.DependencyGraph
