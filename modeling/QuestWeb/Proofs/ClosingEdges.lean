import QuestWeb.Proofs.Colors

/-!
What is left of a graph without the edges that close its circles. The search is done with a quest
only after its dependencies, apart from those that stand on its trail; an edge to one of these
closes a circle, so the other edges all lead to quests that were finished before.
-/

namespace QuestWeb.DependencyGraph

variable {graph : DependencyGraph}

def closings (circles : List (List QuestNum)) : List (QuestNum × QuestNum) :=
  circles.filterMap closing?

/-- Of the dependencies followed so far, each is finished or closed a circle every time. -/
def Accounted (graph : DependencyGraph) (circles : List (List QuestNum)) (finished : List QuestNum)
    (num : QuestNum) (followed : List QuestNum) : Prop :=
  ∀ other ∈ followed, graph.contains other = true →
    other ∈ finished ∨ followed.count other ≤ (closings circles).count (num, other)

/-- Quests in the order in which the search is done with them, the last one first: where an edge
closed no circle, its end was finished before its beginning. -/
def Finished (graph : DependencyGraph) (circles : List (List QuestNum)) : List QuestNum → Prop
  | [] => True
  | num :: older =>
      num ∉ older ∧ graph.Accounted circles older num (graph.dependencies num) ∧
        graph.Finished circles older

variable {circles more : List (List QuestNum)} {finished : List QuestNum}

theorem count_closings_le (grows : circles <+: more) (edge : QuestNum × QuestNum) :
    (closings circles).count edge ≤ (closings more).count edge :=
  (grows.filterMap closing?).sublist.count_le edge

theorem Accounted.mono {num : QuestNum} {followed larger : List QuestNum}
    (accounted : graph.Accounted circles finished num followed) (grows : circles <+: more)
    (kept : finished ⊆ larger) : graph.Accounted more larger num followed := by
  intro other listed known
  rcases accounted other listed known with done | closed
  · exact .inl (kept done)
  · exact .inr (closed.trans (count_closings_le grows _))

theorem Accounted.follow {num next : QuestNum} {followed : List QuestNum}
    (accounted : graph.Accounted circles finished num followed)
    (here : graph.contains next = true → next ∈ finished ∨
      followed.count next + 1 ≤ (closings circles).count (num, next)) :
    graph.Accounted circles finished num (followed ++ [next]) := by
  intro other listed known
  by_cases same : other = next
  · subst same
    simpa using here known
  · have before : other ∈ followed := by simpa [same] using listed
    simpa [Ne.symm same] using accounted other before known

theorem Accounted.close {num next : QuestNum} {followed : List QuestNum}
    (accounted : graph.Accounted circles finished num followed) (outer : List QuestNum)
    (open_ : next ∉ finished) :
    graph.Accounted (circles ++ [circle (num :: outer) next]) finished num
      (followed ++ [next]) := by
  refine (accounted.mono (List.prefix_append _ _) (List.Subset.refl _)).follow fun known => .inr ?_
  have before : followed.count next ≤ (closings circles).count (num, next) := by
    by_cases again : next ∈ followed
    · exact (accounted next again known).resolve_left open_
    · rw [List.count_eq_zero_of_not_mem again]
      exact Nat.zero_le _
  simpa [closings, closing?_circle] using before

theorem Finished.mono (placed : graph.Finished circles finished) (grows : circles <+: more) :
    graph.Finished more finished := by
  induction finished with
  | nil => trivial
  | cons num older ih =>
      obtain ⟨new, accounted, rest⟩ := placed
      exact ⟨new, accounted.mono grows (List.Subset.refl _), ih rest⟩

structure Settled (graph : DependencyGraph) (trail finished : List QuestNum) (search : Search) :
    Prop where
  entered : ∀ num, search.entered.contains num = true ↔ num ∈ trail ∨ num ∈ finished
  apart : ∀ num ∈ trail, num ∉ finished
  placed : graph.Finished search.circles finished

theorem Settled.enter {trail : List QuestNum} {search : Search} {next : QuestNum}
    (settled : graph.Settled trail finished search)
    (new : search.entered.contains next = false) :
    graph.Settled (next :: trail) finished (search.enter next) := by
  have fresh : ¬ (next ∈ trail ∨ next ∈ finished) := by
    rw [← settled.entered, new]
    exact Bool.false_ne_true
  constructor
  case entered =>
    intro num
    rw [search.entered_enter, settled.entered, List.mem_cons, or_assoc]
  case apart =>
    intro num listed done
    rcases List.mem_cons.mp listed with rfl | outer
    · exact fresh (.inr done)
    · exact settled.apart num outer done
  case placed => exact settled.placed

theorem Settled.leave {trail : List QuestNum} {search : Search} {next : QuestNum}
    (settled : graph.Settled (next :: trail) finished search) (new : next ∉ trail)
    (accounted : graph.Accounted search.circles finished next (graph.dependencies next)) :
    graph.Settled trail (next :: finished) search := by
  constructor
  case entered =>
    intro num
    rw [settled.entered, List.mem_cons, List.mem_cons, or_assoc, or_left_comm]
  case apart =>
    intro num listed done
    rcases List.mem_cons.mp done with rfl | older
    · exact new listed
    · exact settled.apart num (.tail _ listed) older
  case placed => exact ⟨settled.apart next List.mem_cons_self, accounted, settled.placed⟩

/-- What the search comes to when it has followed the dependencies `followed` of the last quest of
its trail. -/
structure Advance (graph : DependencyGraph) (trail followed finished : List QuestNum)
    (search after : Search) (later : List QuestNum) : Prop where
  settled : graph.Settled trail later after
  accounted : ∀ num ∈ trail.head?, graph.Accounted after.circles later num followed
  kept : finished ⊆ later
  grows : search.circles <+: after.circles

theorem Follows.advance {trail nexts : List QuestNum} {search after : Search}
    (follows : graph.Follows trail nexts search after) (followed finished : List QuestNum)
    (settled : graph.Settled trail finished search)
    (accounted : ∀ num ∈ trail.head?, graph.Accounted search.circles finished num followed) :
    ∃ later, graph.Advance trail (followed ++ nexts) finished search after later := by
  induction follows generalizing followed finished with
  | finish trail search =>
      rw [List.append_nil]
      exact ⟨finished, settled, accounted, List.Subset.refl _, List.prefix_rfl⟩
  | close trail nexts next search after entered back rest ih =>
      rw [List.append_cons]
      have grows : search.circles <+: (search.close (circle trail next)).circles :=
        List.prefix_append _ _
      obtain ⟨num, outer, rfl⟩ := List.exists_cons_of_ne_nil (List.ne_nil_of_mem back)
      obtain ⟨later, advance⟩ := ih (followed ++ [next]) finished
        ⟨settled.entered, settled.apart, settled.placed.mono grows⟩
        (by
          intro _ head
          cases head
          exact (accounted num rfl).close outer (settled.apart next back))
      exact ⟨later, advance.settled, advance.accounted, advance.kept,
        grows.trans advance.grows⟩
  | pass trail nexts next search after entered aside rest ih =>
      rw [List.append_cons]
      have done : next ∈ finished := ((settled.entered next).mp entered).resolve_left aside
      exact ih (followed ++ [next]) finished settled fun num head =>
        (accounted num head).follow fun _ => .inl done
  | dangle trail nexts next search after new unknown rest ih =>
      rw [List.append_cons]
      refine ih (followed ++ [next]) finished settled fun num head =>
        (accounted num head).follow fun known => ?_
      exact absurd known (Bool.eq_false_iff.mp unknown)
  | descend trail nexts next search middle after new known inner rest inside ih =>
      rw [List.append_cons]
      obtain ⟨between, deeper⟩ := inside [] finished (settled.enter new) (by simp [Accounted])
      have fresh : next ∉ trail := fun outer => by
        rw [(settled.entered next).mpr (.inl outer)] at new
        contradiction
      -- Gone into and left again, the next quest is finished itself.
      have kept : finished ⊆ next :: between :=
        List.Subset.trans deeper.kept (List.subset_cons_self _ _)
      obtain ⟨later, advance⟩ := ih (followed ++ [next]) (next :: between)
        (deeper.settled.leave fresh (deeper.accounted next rfl)) (fun num head =>
          ((accounted num head).mono deeper.grows kept).follow fun _ => .inl List.mem_cons_self)
      exact ⟨later, advance.settled, advance.accounted, List.Subset.trans kept advance.kept,
        deeper.grows.trans advance.grows⟩

theorem Follows.reached {trail nexts : List QuestNum} {search after : Search}
    (follows : graph.Follows trail nexts search after) (num : QuestNum) (listed : num ∈ nexts)
    (known : graph.contains num = true) : after.entered.contains num = true := by
  induction follows with
  | finish => simp at listed
  | close _ _ next _ _ entered _ rest ih | pass _ _ next _ _ entered _ rest ih =>
      rcases List.mem_cons.mp listed with rfl | later
      · exact rest.entered num entered
      · exact ih later
  | dangle _ _ next _ _ _ unknown _ ih =>
      rcases List.mem_cons.mp listed with rfl | later
      · exact absurd known (Bool.eq_false_iff.mp unknown)
      · exact ih later
  | descend _ _ next search _ _ _ _ inner rest _ ih =>
      rcases List.mem_cons.mp listed with rfl | later
      · exact rest.entered num (inner.entered num ((search.entered_enter num num).mpr (.inl rfl)))
      · exact ih later

/-- In the end every quest of the graph is finished. -/
theorem exists_finished (graph : DependencyGraph) :
    ∃ finished, graph.Finished graph.circles finished ∧
      ∀ num, graph.contains num = true → num ∈ finished := by
  obtain ⟨after, follows, same⟩ := graph.circles_follow
  obtain ⟨finished, advance⟩ := follows.advance [] []
    ⟨by simp, by simp, trivial⟩ (by simp)
  rw [← same]
  refine ⟨finished, advance.settled.placed, fun num known => ?_⟩
  have entered := follows.reached num ((graph.mem_keys num).mpr known) known
  simpa using (advance.settled.entered num).mp entered

/-- The graph without one edge; where a dependency is given twice, without one of the two. -/
def cut (graph : DependencyGraph) (edge : QuestNum × QuestNum) : DependencyGraph :=
  { graph with edges := graph.edges.modify edge.1 (·.erase edge.2) }

def cutCircle (graph : DependencyGraph) (circle : List QuestNum) : DependencyGraph :=
  match closing? circle with
  | some edge => graph.cut edge
  | none => graph

theorem dependencies_cut (graph : DependencyGraph) (edge : QuestNum × QuestNum) (num : QuestNum) :
    (graph.cut edge).dependencies num =
      if edge.1 = num then (graph.dependencies num).erase edge.2 else graph.dependencies num := by
  simp only [dependencies, cut, Std.ExtTreeMap.getElem?_modify, Std.LawfulEqCmp.compare_eq_iff_eq]
  split
  · rename_i same
    subst same
    cases graph.edges[edge.1]? <;> simp
  · rfl

theorem count_cutCircle (graph : DependencyGraph) (circle : List QuestNum) (num other : QuestNum) :
    ((graph.cutCircle circle).dependencies num).count other =
      (graph.dependencies num).count other - (closings [circle]).count (num, other) := by
  unfold cutCircle
  cases closes : closing? circle with
  | none => simp [closings, closes]
  | some edge =>
      obtain ⟨first, second⟩ := edge
      simp only [dependencies_cut, closings, List.filterMap_cons, closes, List.filterMap_nil]
      by_cases same : first = num
      · simp [same, List.count_erase, List.count_singleton]
      · simp [same]

/-- Each circle takes one edge away. -/
theorem count_cutCircles (graph : DependencyGraph) (circles : List (List QuestNum))
    (num other : QuestNum) :
    ((circles.foldl cutCircle graph).dependencies num).count other =
      (graph.dependencies num).count other - (closings circles).count (num, other) := by
  induction circles generalizing graph with
  | nil => simp [closings]
  | cons circle rest ih =>
      have split : closings (circle :: rest) = closings [circle] ++ closings rest :=
        List.filterMap_append (l := [circle])
      rw [List.foldl_cons, ih, count_cutCircle, split, List.count_append, Nat.sub_add_eq]

def Descends (graph : DependencyGraph) (rank : QuestNum → Nat) : Prop :=
  ∀ num, ∀ other ∈ graph.dependencies num, rank other < rank num

theorem Descends.acyclic {rank : QuestNum → Nat} (descends : graph.Descends rank) :
    graph.Acyclic := by
  intro num turn
  have lower (first last : QuestNum) (way : Relation.TransGen graph.DependsOn first last) :
      rank last < rank first := by
    induction way with
    | single edge => exact descends first _ edge
    | tail _ edge ih => exact (descends _ _ edge).trans ih
  exact Nat.lt_irrefl _ (lower num num turn)

def height : List QuestNum → QuestNum → Nat
  | [], _ => 0
  | first :: older, num => if num = first then older.length + 1 else height older num

theorem height_le (finished : List QuestNum) (num : QuestNum) :
    height finished num ≤ finished.length := by
  induction finished with
  | nil => exact Nat.le_refl 0
  | cons first older ih =>
      unfold height
      split
      · exact Nat.le_refl _
      · exact ih.trans (Nat.le_succ _)

theorem height_pos (num : QuestNum) (listed : num ∈ finished) : 0 < height finished num := by
  induction finished with
  | nil => simp at listed
  | cons first older ih =>
      unfold height
      split
      · exact Nat.succ_pos _
      · rename_i apart
        exact ih ((List.mem_cons.mp listed).resolve_left apart)

/-- An edge that was not cut leads to a quest that was finished earlier. -/
theorem Finished.height_lt (placed : graph.Finished circles finished) (num : QuestNum)
    (listed : num ∈ finished) (other : QuestNum) (known : graph.contains other = true)
    (left : (closings circles).count (num, other) < (graph.dependencies num).count other) :
    other ∈ finished ∧ height finished other < height finished num := by
  induction finished with
  | nil => simp at listed
  | cons first older ih =>
      obtain ⟨new, accounted, rest⟩ := placed
      by_cases same : num = first
      · subst same
        have depends : other ∈ graph.dependencies num :=
          List.count_pos_iff.mp (Nat.zero_lt_of_lt left)
        have done : other ∈ older :=
          (accounted other depends known).resolve_right (Nat.not_le.mpr left)
        have apart : other ≠ num := fun same => new (same ▸ done)
        refine ⟨.tail _ done, ?_⟩
        simp only [height, apart, ↓reduceIte]
        exact Nat.lt_succ_of_le (height_le older other)
      · obtain ⟨done, less⟩ := ih rest ((List.mem_cons.mp listed).resolve_left same)
        have apart : other ≠ first := fun same => new (same ▸ done)
        refine ⟨.tail _ done, ?_⟩
        simpa only [height, apart, same, ↓reduceIte] using less

theorem contains_of_dependsOn {num other : QuestNum} (depends : graph.DependsOn num other) :
    graph.contains num = true := by
  unfold DependsOn dependencies at depends
  cases known : graph.edges[num]? with
  | none => simp [known] at depends
  | some _ => rw [contains, Std.ExtTreeMap.contains_eq_isSome_getElem?, known]; rfl

theorem cut_descends (graph : DependencyGraph) :
    ∃ rank, (graph.circles.foldl cutCircle graph).Descends rank := by
  obtain ⟨finished, placed, all⟩ := graph.exists_finished
  refine ⟨fun num => if graph.contains num then height finished num else 0, ?_⟩
  intro num other depends
  rw [← List.count_pos_iff, count_cutCircles] at depends
  have left := Nat.lt_of_sub_pos depends
  have known : graph.contains num = true :=
    contains_of_dependsOn (List.count_pos_iff.mp (Nat.zero_lt_of_lt left))
  have listed := all num known
  simp only [known, ↓reduceIte]
  split
  · rename_i there
    exact (placed.height_lt num listed other there left).2
  · exact height_pos num listed

theorem circles_eq_nil_iff (graph : DependencyGraph) : graph.circles = [] ↔ graph.Acyclic := by
  constructor
  · intro none
    obtain ⟨rank, descends⟩ := graph.cut_descends
    rw [none] at descends
    exact descends.acyclic
  · intro acyclic
    rw [List.eq_nil_iff_forall_not_mem]
    intro circle listed
    obtain ⟨num, turn⟩ := (graph.isCircle_of_mem circle listed).reaches
    exact acyclic num turn

/-- The search comes to an end, told by its trail or by colors: there a quest is gray on the trail
and black where it was entered and is off it. Each circle that it reports is closed by an edge of
the graph, and without these edges no circle is left; so it reports none exactly if there is
none. -/
theorem circles_complete (graph : DependencyGraph) :
    (∃ last, Relation.ReflTransGen graph.Moves (Walk.start graph) last ∧ last.step graph = none ∧
      last.search.circles = graph.circles) ∧
    (∃ last, Relation.ReflTransGen graph.Paints (Painted.start graph) last ∧
      last.step graph = none ∧ last.circles = graph.circles) ∧
    (∀ painted, Relation.ReflTransGen graph.Paints (Painted.start graph) painted →
      ∃ walk, Relation.ReflTransGen graph.Moves (Walk.start graph) walk ∧
        painted.Shows graph walk) ∧
    (∀ circle ∈ graph.circles, ∃ num other,
      closing? circle = some (num, other) ∧ graph.DependsOn num other) ∧
    (graph.circles.foldl cutCircle graph).Acyclic ∧
    (graph.circles = [] ↔ graph.Acyclic) := by
  obtain ⟨rank, descends⟩ := graph.cut_descends
  exact ⟨graph.walk_ends, graph.painted_ends, fun _ => Painted.shows_of_paints,
    fun circle listed => (graph.isCircle_of_mem circle listed).closing, descends.acyclic,
    graph.circles_eq_nil_iff⟩

end QuestWeb.DependencyGraph
