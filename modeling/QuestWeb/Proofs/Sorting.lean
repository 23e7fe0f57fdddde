import QuestWeb.Proofs.SimpleCircles

/-!
The order of the quests. It is found by a walk with a stack, on which a quest is put back under the
dependencies that have to be placed before it. The walk comes to an end exactly on a graph without
circles, and what it has placed then is every quest once, behind all that it depends on.
-/

namespace QuestWeb.DependencyGraph

variable {graph : DependencyGraph}

/-- How far the walk has come: quests to be placed, each with a mark once its dependencies lie above
it, the roots that are left, and the quests that have been placed. -/
structure Sorting where
  stack : List (QuestNum × Bool)
  roots : List QuestNum
  placed : List QuestNum

def pending (graph : DependencyGraph) (placed : List QuestNum) (nums : List QuestNum) :
    List (QuestNum × Bool) :=
  (nums.filter fun num => graph.contains num && !placed.contains num).map (·, false)

namespace Sorting

def start (graph : DependencyGraph) : Sorting :=
  ⟨[], graph.edges.keys, []⟩

def step (graph : DependencyGraph) : Sorting → Option Sorting
  | ⟨[], [], _⟩ => none
  | ⟨[], root :: roots, placed⟩ => some ⟨[(root, false)], roots, placed⟩
  | ⟨(num, expanded) :: below, roots, placed⟩ =>
      if placed.contains num then some ⟨below, roots, placed⟩
      else if expanded then some ⟨below, roots, placed ++ [num]⟩
      else
        some ⟨graph.pending placed (graph.dependencies num) ++ (num, true) :: below, roots, placed⟩

end Sorting

def Turns (graph : DependencyGraph) (sorting next : Sorting) : Prop :=
  sorting.step graph = some next

structure IsOrder (graph : DependencyGraph) (placed : List QuestNum) : Prop where
  distinct : placed.Nodup
  all : ∀ num, num ∈ placed ↔ graph.contains num = true
  behind : ∀ num other, graph.DependsOn num other → graph.contains other = true →
    placed.idxOf other < placed.idxOf num

/-- Under each quest with a mark its dependencies are ready: they have been placed, or they lie
above it. -/
def Backed (graph : DependencyGraph) : List QuestNum → List (QuestNum × Bool) → Prop
  | _, [] => True
  | ready, (num, expanded) :: below =>
      (expanded = true → ∀ other, graph.DependsOn num other → graph.contains other = true →
        other ∈ ready) ∧ graph.Backed (num :: ready) below

theorem Backed.mono {ready more : List QuestNum} {stack : List (QuestNum × Bool)}
    (backed : graph.Backed ready stack) (grows : ready ⊆ more) : graph.Backed more stack := by
  induction stack generalizing ready more with
  | nil => trivial
  | cons frame below ih =>
      obtain ⟨here, rest⟩ := backed
      exact ⟨fun expanded other depends known => grows (here expanded other depends known),
        ih rest (List.cons_subset_cons _ grows)⟩

/-- What lies on top without a mark is ready for all below. -/
theorem backed_append (nums ready : List QuestNum) (stack : List (QuestNum × Bool)) :
    graph.Backed ready (nums.map (·, false) ++ stack) ↔
      graph.Backed (nums.reverse ++ ready) stack := by
  induction nums generalizing ready with
  | nil => rfl
  | cons num rest ih => simp [Backed, ih]

namespace Sorting

structure Sound (graph : DependencyGraph) (sorting : Sorting) : Prop where
  distinct : sorting.placed.Nodup
  known : ∀ num ∈ sorting.placed, graph.contains num = true
  behind : ∀ num ∈ sorting.placed, ∀ other, graph.DependsOn num other →
    graph.contains other = true → sorting.placed.idxOf other < sorting.placed.idxOf num
  backed : graph.Backed sorting.placed sorting.stack
  stacked : ∀ frame ∈ sorting.stack, graph.contains frame.1 = true
  roots : ∀ root ∈ sorting.roots, graph.contains root = true
  none_lost : ∀ num, graph.contains num = true →
    num ∈ sorting.placed ∨ num ∈ sorting.roots ∨ num ∈ sorting.stack.map Prod.fst

theorem sound_start (graph : DependencyGraph) : (start graph).Sound graph where
  distinct := .nil
  known := nofun
  behind := nofun
  backed := trivial
  stacked := nofun
  roots root listed := (graph.mem_keys root).mp listed
  none_lost num known := .inr (.inl ((graph.mem_keys num).mpr known))

namespace Sound

variable {num root : QuestNum} {expanded : Bool} {below : List (QuestNum × Bool)}
  {roots placed : List QuestNum}

theorem push (sound : Sound graph ⟨[], root :: roots, placed⟩) :
    Sound graph ⟨[(root, false)], roots, placed⟩ := by
  obtain ⟨known, others⟩ := List.forall_mem_cons.mp sound.roots
  refine ⟨sound.distinct, sound.known, sound.behind, ⟨nofun, trivial⟩, ?_, others, ?_⟩
  · simpa using known
  · intro num there
    have := sound.none_lost num there
    simp only [List.mem_cons, List.map_nil, List.map_cons] at this ⊢
    tauto

theorem skip (sound : Sound graph ⟨(num, expanded) :: below, roots, placed⟩)
    (done : num ∈ placed) : Sound graph ⟨below, roots, placed⟩ := by
  refine ⟨sound.distinct, sound.known, sound.behind, ?_, (List.forall_mem_cons.mp sound.stacked).2,
    sound.roots, ?_⟩
  · exact sound.backed.2.mono (List.cons_subset.mpr ⟨done, List.Subset.refl _⟩)
  · intro other there
    rcases sound.none_lost other there with before | left | standing
    · exact .inl before
    · exact .inr (.inl left)
    · rcases List.mem_cons.mp standing with rfl | lower
      · exact .inl done
      · exact .inr (.inr lower)

theorem place (sound : Sound graph ⟨(num, true) :: below, roots, placed⟩)
    (new : num ∉ placed) : Sound graph ⟨below, roots, placed ++ [num]⟩ := by
  obtain ⟨known, others⟩ := List.forall_mem_cons.mp sound.stacked
  constructor
  case distinct => exact List.nodup_append.mpr ⟨sound.distinct, List.nodup_singleton num,
    fun a before b here => by
      rw [List.mem_singleton.mp here]
      exact fun same => new (same ▸ before)⟩
  case known =>
    intro other listed
    rcases List.mem_append.mp listed with before | here
    · exact sound.known other before
    · rw [List.mem_singleton.mp here]
      exact known
  case behind =>
    intro quest listed other depends there
    rcases List.mem_append.mp listed with before | here
    · have earlier := sound.behind quest before other depends there
      have first : other ∈ placed :=
        List.idxOf_lt_length_iff.mp (earlier.trans (List.idxOf_lt_length_iff.mpr before))
      rwa [List.idxOf_append_of_mem first, List.idxOf_append_of_mem before]
    · rw [List.mem_singleton.mp here] at depends ⊢
      have ready : other ∈ placed := sound.backed.1 rfl other depends there
      rw [List.idxOf_append_of_mem ready, List.idxOf_append_of_notMem new]
      exact Nat.lt_add_right _ (List.idxOf_lt_length_iff.mpr ready)
  case backed => exact sound.backed.2.mono (by simp)
  case stacked => exact others
  case roots => exact sound.roots
  case none_lost =>
    intro other there
    have := sound.none_lost other there
    simp only [List.mem_append, List.map_cons, List.mem_cons, List.not_mem_nil,
      or_false] at this ⊢
    tauto

theorem expand (sound : Sound graph ⟨(num, false) :: below, roots, placed⟩) :
    Sound graph ⟨graph.pending placed (graph.dependencies num) ++ (num, true) :: below, roots,
      placed⟩ := by
  obtain ⟨known, others⟩ := List.forall_mem_cons.mp sound.stacked
  refine ⟨sound.distinct, sound.known, sound.behind, ?_, ?_, sound.roots, ?_⟩
  · refine (backed_append _ _ _).mpr ⟨fun _ other depends there => ?_, sound.backed.2.mono ?_⟩
    · by_cases done : other ∈ placed
      · simp [done]
      · refine List.mem_append_left _ (List.mem_reverse.mpr (List.mem_filter.mpr ⟨depends, ?_⟩))
        simp [there, done]
    · exact List.cons_subset_cons _ (List.subset_append_right _ _)
  · intro frame listed
    rcases List.mem_append.mp listed with above | standing
    · obtain ⟨other, waits, rfl⟩ := List.mem_map.mp above
      have := (List.mem_filter.mp waits).2
      simp_all
    · rcases List.mem_cons.mp standing with rfl | lower
      · exact known
      · exact others frame lower
  · intro other there
    rcases sound.none_lost other there with before | left | standing
    · exact .inl before
    · exact .inr (.inl left)
    · refine .inr (.inr ?_)
      rw [List.map_append]
      exact List.mem_append_right _ standing

theorem turn {sorting next : Sorting} (sound : sorting.Sound graph)
    (turns : graph.Turns sorting next) : next.Sound graph := by
  obtain ⟨stack, roots, placed⟩ := sorting
  cases stack with
  | nil =>
      cases roots with
      | nil => simp [Turns, step] at turns
      | cons root roots =>
          cases turns
          exact sound.push
  | cons frame below =>
      obtain ⟨num, expanded⟩ := frame
      simp only [Turns, step] at turns
      split at turns
      · rename_i done
        cases turns
        exact sound.skip (List.contains_iff_mem.mp done)
      · rename_i new
        cases expanded with
        | true =>
            cases turns
            exact sound.place fun done => new (List.contains_iff_mem.mpr done)
        | false =>
            cases turns
            exact sound.expand

end Sound

theorem sound_of_turns {sorting : Sorting}
    (turns : Relation.ReflTransGen graph.Turns (start graph) sorting) : sorting.Sound graph := by
  induction turns with
  | refl => exact sound_start graph
  | tail _ turn ih => exact ih.turn turn

end Sorting

theorem Sorting.Sound.isOrder {placed : List QuestNum} (sound : Sound graph ⟨[], [], placed⟩) :
    graph.IsOrder placed := by
  have all (num : QuestNum) : num ∈ placed ↔ graph.contains num = true :=
    ⟨sound.known num, fun known => by simpa using sound.none_lost num known⟩
  exact ⟨sound.distinct, all, fun num other depends known =>
    sound.behind num ((all num).mpr (contains_of_dependsOn depends)) other depends known⟩

theorem IsOrder.acyclic {placed : List QuestNum} (sorted : graph.IsOrder placed) :
    graph.Acyclic := by
  have descends : graph.Descends fun num =>
      if graph.contains num then placed.idxOf num + 1 else 0 := by
    intro num other depends
    simp only [contains_of_dependsOn depends, ↓reduceIte]
    split
    · rename_i known
      exact Nat.succ_lt_succ (sorted.behind num other depends known)
    · exact Nat.succ_pos _
  exact descends.acyclic

open scoped Classical in
noncomputable def below (graph : DependencyGraph) (num : QuestNum) : Nat :=
  graph.edges.keys.countP fun other => decide (Relation.TransGen graph.DependsOn num other)

theorem below_lt (acyclic : graph.Acyclic) {num other : QuestNum}
    (depends : graph.DependsOn num other) (known : graph.contains other = true) :
    graph.below other < graph.below num := by
  classical
  apply countP_lt _ _ _ _ other ((graph.mem_keys other).mpr known)
  · exact decide_eq_true (.single depends)
  · exact decide_eq_false (acyclic other)
  · intro further _ reached
    exact decide_eq_true (.head depends (of_decide_eq_true reached))

theorem below_le (graph : DependencyGraph) (num : QuestNum) :
    graph.below num ≤ graph.edges.size :=
  calc graph.below num
    _ ≤ graph.edges.keys.length := List.countP_le_length
    _ = graph.edges.size := Std.ExtTreeMap.length_keys

variable {fuel : Nat} {num : QuestNum} {placed : List QuestNum}

theorem place_skip (aside : num ∈ placed ∨ graph.contains num = false) :
    graph.place fuel placed num = placed := by
  cases fuel with
  | zero => rfl
  | succ fuel => rcases aside with done | unknown <;> simp [place, *]

theorem place_new (new : num ∉ placed) (known : graph.contains num = true) :
    graph.place (fuel + 1) placed num =
      (graph.dependencies num).foldl (graph.place fuel) placed ++ [num] := by
  simp [place, new, known]

theorem foldl_place_zero (nums placed : List QuestNum) :
    nums.foldl (graph.place 0) placed = placed :=
  List.foldl_fixed nums

theorem subset_foldl_place (fuel : Nat) (nums placed : List QuestNum) :
    placed ⊆ nums.foldl (graph.place fuel) placed := by
  induction fuel generalizing nums placed with
  | zero => rw [foldl_place_zero]; exact List.Subset.refl _
  | succ fuel deeper =>
      induction nums generalizing placed with
      | nil => exact List.Subset.refl _
      | cons num later ih =>
          refine List.Subset.trans ?_ (ih (graph.place (fuel + 1) placed num))
          unfold place
          split
          · exact List.Subset.refl _
          · exact List.Subset.trans (deeper _ _) (List.subset_append_left _ _)

/-- What is placed on behalf of quests is one of them, or they depend on it. -/
theorem mem_foldl_place (fuel : Nat) (nums placed : List QuestNum) (num : QuestNum)
    (listed : num ∈ nums.foldl (graph.place fuel) placed) :
    num ∈ placed ∨ ∃ first ∈ nums, Relation.ReflTransGen graph.DependsOn first num := by
  induction fuel generalizing nums placed with
  | zero =>
      rw [foldl_place_zero] at listed
      exact .inl listed
  | succ fuel deeper =>
      induction nums generalizing placed with
      | nil => exact .inl listed
      | cons first later ih =>
          rcases ih _ listed with here | ⟨other, further, reached⟩
          · unfold place at here
            split at here
            · exact .inl here
            · rcases List.mem_append.mp here with inner | own
              · refine (deeper _ _ inner).imp_right ?_
                rintro ⟨next, depends, reached⟩
                exact ⟨first, List.mem_cons_self, .head depends reached⟩
              · rw [List.mem_singleton.mp own]
                exact .inr ⟨first, List.mem_cons_self, .refl⟩
          · exact .inr ⟨other, .tail _ further, reached⟩

theorem pending_cons (placed later : List QuestNum) (next : QuestNum) :
    graph.pending placed (next :: later) =
      if next ∈ placed ∨ graph.contains next = false then graph.pending placed later
      else (next, false) :: graph.pending placed later := by
  by_cases aside : next ∈ placed ∨ graph.contains next = false
  · rcases aside with done | unknown <;> simp [pending, *]
  · rw [not_or] at aside
    simp [pending, aside]

/-- Where nothing depends on itself, the walk takes quests off its stack as they are placed. Each
step down leads to a quest with fewer below it, so their number bounds the depth. -/
theorem turns_foldl_place (acyclic : graph.Acyclic) (fuel : Nat) (nexts old placed : List QuestNum)
    (covered : old ⊆ placed)
    (deep : ∀ next ∈ nexts, graph.contains next = true → graph.below next < fuel)
    (lower : List (QuestNum × Bool)) (roots : List QuestNum) :
    Relation.ReflTransGen graph.Turns ⟨graph.pending old nexts ++ lower, roots, placed⟩
      ⟨lower, roots, nexts.foldl (graph.place fuel) placed⟩ := by
  induction fuel generalizing nexts old placed lower with
  | zero =>
      have nothing : graph.pending old nexts = [] := by
        refine List.map_eq_nil_iff.mpr (List.filter_eq_nil_iff.mpr fun next listed waits => ?_)
        rw [Bool.and_eq_true] at waits
        exact Nat.not_lt_zero _ (deep next listed waits.1)
      rw [nothing, foldl_place_zero]
      exact .refl
  | succ fuel deeper =>
      induction nexts generalizing placed with
      | nil => exact .refl
      | cons next later ih =>
          obtain ⟨here, others⟩ := List.forall_mem_cons.mp deep
          rw [pending_cons, List.foldl_cons]
          split
          · rename_i aside
            rw [place_skip (aside.imp_left (covered ·))]
            exact ih placed covered others
          · rename_i waits
            rw [not_or, Bool.not_eq_false] at waits
            by_cases done : next ∈ placed
            · rw [place_skip (.inl done)]
              refine .head ?_ (ih placed covered others)
              simp [Turns, Sorting.step, done]
            · rw [place_new done waits.2]
              have small (other : QuestNum) (depends : other ∈ graph.dependencies next)
                  (known : graph.contains other = true) : graph.below other < fuel :=
                (below_lt acyclic depends known).trans_le (Nat.le_of_lt_succ (here waits.2))
              have inner := deeper (graph.dependencies next) placed placed (List.Subset.refl _)
                small ((next, true) :: (graph.pending old later ++ lower))
              have fresh :
                  next ∉ (graph.dependencies next).foldl (graph.place fuel) placed := by
                intro again
                rcases mem_foldl_place _ _ _ _ again with before | ⟨other, depends, back⟩
                · exact done before
                · exact acyclic next (.head' depends back)
              have grows : placed ⊆ (graph.dependencies next).foldl (graph.place fuel) placed :=
                subset_foldl_place fuel _ placed
              refine .head (b := _) ?_ (inner.trans (.head ?_ (ih _ ?_ others)))
              · simp [Turns, Sorting.step, done]
              · simp [Turns, Sorting.step, fresh]
              · exact fun num old =>
                  List.mem_append_left _ (grows (covered old))

theorem turns_order (acyclic : graph.Acyclic) (roots placed : List QuestNum)
    (known : ∀ root ∈ roots, graph.contains root = true) :
    Relation.ReflTransGen graph.Turns ⟨[], roots, placed⟩
      ⟨[], [], roots.foldl (graph.place (graph.edges.size + 1)) placed⟩ := by
  induction roots generalizing placed with
  | nil => exact .refl
  | cons root later ih =>
      obtain ⟨here, others⟩ := List.forall_mem_cons.mp known
      have placing := turns_foldl_place acyclic (graph.edges.size + 1) [root] [] placed
        (List.nil_subset _) (fun next _ _ => Nat.lt_succ_of_le (graph.below_le next)) [] later
      have alone : graph.pending [] [root] = [(root, false)] := by simp [pending, here]
      rw [alone] at placing
      exact .head rfl (placing.trans (ih _ others))

theorem sorting_ends_iff (graph : DependencyGraph) :
    (∃ last, Relation.ReflTransGen graph.Turns (Sorting.start graph) last ∧
      last.step graph = none) ↔ graph.Acyclic := by
  constructor
  · rintro ⟨last, turns, ends⟩
    have sound := Sorting.sound_of_turns turns
    obtain ⟨stack, roots, placed⟩ := last
    cases stack with
    | nil =>
        cases roots with
        | nil => exact sound.isOrder.acyclic
        | cons root later => contradiction
    | cons frame lower =>
        simp only [Sorting.step] at ends
        split at ends
        · contradiction
        · split at ends <;> contradiction
  · intro acyclic
    exact ⟨_, turns_order acyclic _ [] fun root listed => (graph.mem_keys root).mp listed, rfl⟩

/-- The search for circles always comes to an end, and the walk that places the quests does so
exactly where there is none. There the order is what the walk has placed: every quest once, behind
all that it depends on. Where quests depend on themselves the answer is a circle of such quests. -/
theorem order_exact (graph : DependencyGraph) :
    (∃ last, Relation.ReflTransGen graph.Moves (Walk.start graph) last ∧ last.step graph = none ∧
      last.search.circles = graph.circles) ∧
    ((∃ last, Relation.ReflTransGen graph.Turns (Sorting.start graph) last ∧
      last.step graph = none) ↔ graph.Acyclic) ∧
    (graph.Acyclic → ∃ placed, graph.order = .ok placed ∧ graph.IsOrder placed ∧
      Relation.ReflTransGen graph.Turns (Sorting.start graph) ⟨[], [], placed⟩) ∧
    (¬ graph.Acyclic → ∃ circle, graph.order = .error circle ∧ graph.IsSimpleCircle circle ∧
      ∀ num ∈ circle, Relation.TransGen graph.DependsOn num num) := by
  refine ⟨graph.walk_ends, graph.sorting_ends_iff, fun acyclic => ?_, fun turning => ?_⟩
  · have turns := turns_order acyclic graph.edges.keys []
      fun root listed => (graph.mem_keys root).mp listed
    refine ⟨_, ?_, (Sorting.sound_of_turns turns).isOrder, turns⟩
    rw [order, graph.circles_eq_nil_iff.mpr acyclic]
  · cases found : graph.circles with
    | nil => exact absurd (graph.circles_eq_nil_iff.mp found) turning
    | cons circle others =>
        have simple := graph.isSimpleCircle_of_mem circle (found ▸ List.mem_cons_self)
        exact ⟨circle, by rw [order, found], simple, simple.turns⟩

def diamond : List Quest :=
  [errand 1 [2, 3, 3], errand 2 [4], errand 3 [4, 9], errand 4 []]

/-- The quest at the bottom is placed once, before the others. -/
theorem order_exact_diamond :
    (ofQuests diamond).order = .ok [⟨4⟩, ⟨2⟩, ⟨3⟩, ⟨1⟩] ∧ (ofQuests diamond).Acyclic ∧
      (ofQuests diamond).IsOrder [⟨4⟩, ⟨2⟩, ⟨3⟩, ⟨1⟩] ∧
      ¬ (ofQuests detour).Acyclic ∧ (ofQuests detour).order = .error [⟨2⟩, ⟨3⟩, ⟨4⟩, ⟨2⟩] ∧
      (ofQuests detour).IsSimpleCircle [⟨2⟩, ⟨3⟩, ⟨4⟩, ⟨2⟩] := by
  have acyclic : (ofQuests diamond).Acyclic :=
    (circles_eq_nil_iff _).mp (by decide +kernel)
  have turning : ¬ (ofQuests detour).Acyclic :=
    fun acyclic => absurd ((circles_eq_nil_iff _).mpr acyclic) (by decide +kernel)
  have bottom : (ofQuests diamond).order = .ok [⟨4⟩, ⟨2⟩, ⟨3⟩, ⟨1⟩] := by decide +kernel
  have round : (ofQuests detour).order = .error [⟨2⟩, ⟨3⟩, ⟨4⟩, ⟨2⟩] := by decide +kernel
  obtain ⟨placed, made, sorted, _⟩ := (order_exact (ofQuests diamond)).2.2.1 acyclic
  obtain ⟨circle, refused, simple, _⟩ := (order_exact (ofQuests detour)).2.2.2 turning
  cases bottom.symm.trans made
  cases round.symm.trans refused
  exact ⟨bottom, acyclic, sorted, turning, round, simple⟩

end QuestWeb.DependencyGraph
