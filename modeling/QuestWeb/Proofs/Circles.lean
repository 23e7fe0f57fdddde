import QuestWeb.Proofs.Completion
import QuestWeb.Proofs.Results
import QuestWeb.Quest.Dependency
import Mathlib.Data.List.Chain
import Mathlib.Logic.Relation

/-!
The search for circles of dependencies. It is told once as following the dependencies of a trail,
without a bound on its depth; from that it is read off that the search comes to an end, and that
every circle it closes is one.
-/

namespace QuestWeb.DependencyGraph

def DependsOn (graph : DependencyGraph) (num other : QuestNum) : Prop :=
  other ∈ graph.dependencies num

def Acyclic (graph : DependencyGraph) : Prop :=
  ∀ num, ¬ Relation.TransGen graph.DependsOn num num

variable {graph : DependencyGraph}

/-- From the end of a trail the dependencies `nexts` are followed in order: an edge back into the
trail closes a circle, and a quest that was not entered yet is gone into. -/
inductive Follows (graph : DependencyGraph) :
    List QuestNum → List QuestNum → Search → Search → Prop
  | finish (trail : List QuestNum) (search : Search) : Follows graph trail [] search search
  | close (trail later : List QuestNum) (next : QuestNum) (search after : Search)
      (entered : search.entered.contains next = true) (back : next ∈ trail)
      (rest : Follows graph trail later (search.close (circle trail next)) after) :
      Follows graph trail (next :: later) search after
  | pass (trail later : List QuestNum) (next : QuestNum) (search after : Search)
      (entered : search.entered.contains next = true) (aside : next ∉ trail)
      (rest : Follows graph trail later search after) :
      Follows graph trail (next :: later) search after
  | dangle (trail later : List QuestNum) (next : QuestNum) (search after : Search)
      (new : search.entered.contains next = false) (unknown : graph.contains next = false)
      (rest : Follows graph trail later search after) :
      Follows graph trail (next :: later) search after
  | descend (trail later : List QuestNum) (next : QuestNum) (search middle after : Search)
      (new : search.entered.contains next = false) (known : graph.contains next = true)
      (inner : Follows graph (next :: trail) (graph.dependencies next) (search.enter next) middle)
      (rest : Follows graph trail later middle after) :
      Follows graph trail (next :: later) search after

theorem Search.entered_enter (search : Search) (num other : QuestNum) :
    (search.enter num).entered.contains other = true ↔
      other = num ∨ search.entered.contains other = true := by
  rw [Search.enter, QuestSet.contains_insert, Bool.or_eq_true, beq_iff_eq, eq_comm]

theorem Follows.entered {trail nexts : List QuestNum} {search after : Search}
    (follows : graph.Follows trail nexts search after) (num : QuestNum)
    (before : search.entered.contains num = true) : after.entered.contains num = true := by
  induction follows with
  | finish => exact before
  | close _ _ _ _ _ _ _ _ ih => exact ih before
  | pass _ _ _ _ _ _ _ _ ih => exact ih before
  | dangle _ _ _ _ _ _ _ _ ih => exact ih before
  | descend _ _ next search _ _ _ _ _ _ inside ih =>
      exact ih (inside ((search.entered_enter next num).mpr (.inr before)))

def waiting (graph : DependencyGraph) (search : Search) : Nat :=
  graph.edges.keys.countP fun num => !search.entered.contains num

theorem mem_keys (graph : DependencyGraph) (num : QuestNum) :
    num ∈ graph.edges.keys ↔ graph.contains num = true := by
  rw [Std.ExtTreeMap.mem_keys, contains, Std.ExtTreeMap.mem_iff_contains]

theorem Follows.waiting_le {trail nexts : List QuestNum} {search after : Search}
    (follows : graph.Follows trail nexts search after) :
    graph.waiting after ≤ graph.waiting search := by
  apply List.countP_mono_left
  intro num _ left
  rw [Bool.not_eq_true', ← Bool.not_eq_true] at left ⊢
  exact fun before => left (follows.entered num before)

theorem waiting_enter (search : Search) (num : QuestNum)
    (new : search.entered.contains num = false) (known : graph.contains num = true) :
    graph.waiting (search.enter num) < graph.waiting search := by
  apply countP_lt _ _ _ _ num ((graph.mem_keys num).mpr known)
  · rw [new]
    rfl
  · rw [(search.entered_enter num num).mpr (.inl rfl)]
    rfl
  · intro other _ left
    rw [Bool.not_eq_true', ← Bool.not_eq_true] at left ⊢
    exact fun before => left ((search.entered_enter num other).mpr (.inr before))

/-- Every quest that is gone into has been waiting, so their number bounds the depth. -/
theorem explore_follows (fuel : Nat) (trail : List QuestNum) (search : Search) (num : QuestNum)
    (new : search.entered.contains num = false) (known : graph.contains num = true)
    (enough : graph.waiting search ≤ fuel) :
    graph.Follows (num :: trail) (graph.dependencies num) (search.enter num)
      (graph.explore fuel trail search num) := by
  induction fuel generalizing trail search num with
  | zero =>
      have := waiting_enter search num new known
      omega
  | succ fuel ih =>
      unfold explore
      have each (nexts : List QuestNum) (search : Search) (few : graph.waiting search ≤ fuel) :
          graph.Follows (num :: trail) nexts search (nexts.foldl (fun search next =>
            if search.entered.contains next then
              if (num :: trail).contains next then search.close (circle (num :: trail) next)
              else search
            else if graph.contains next then graph.explore fuel (num :: trail) search next
            else search) search) := by
        induction nexts generalizing search with
        | nil => exact .finish _ _
        | cons next later following =>
            rw [List.foldl_cons]
            split
            · rename_i entered
              split
              · rename_i back
                exact .close _ _ _ _ _ entered (List.contains_iff_mem.mp back) (following _ few)
              · rename_i aside
                exact .pass _ _ _ _ _ entered (fun back => aside (List.contains_iff_mem.mpr back))
                  (following _ few)
            · rename_i fresh
              rw [Bool.not_eq_true] at fresh
              split
              · rename_i there
                have inner := ih (num :: trail) search next fresh there few
                have less := waiting_enter search next fresh there
                have kept := inner.waiting_le
                exact .descend _ _ _ _ _ _ fresh there inner (following _ (by omega))
              · rename_i absent
                exact .dangle _ _ _ _ _ fresh (Bool.not_eq_true _ ▸ absent) (following _ few)
      have less := waiting_enter search num new known
      exact each _ _ (by omega)

theorem circles_follow (graph : DependencyGraph) :
    ∃ after, graph.Follows [] graph.edges.keys ⟨∅, []⟩ after ∧ after.circles = graph.circles := by
  have each (roots : List QuestNum) (known : ∀ root ∈ roots, graph.contains root = true)
      (search : Search) :
      graph.Follows [] roots search (roots.foldl graph.exploreRoot search) := by
    induction roots generalizing search with
    | nil => exact .finish _ _
    | cons root later ih =>
        obtain ⟨here, others⟩ := List.forall_mem_cons.mp known
        rw [List.foldl_cons, exploreRoot]
        split
        · rename_i entered
          exact .pass _ _ _ _ _ entered List.not_mem_nil (ih others search)
        · rename_i fresh
          rw [Bool.not_eq_true] at fresh
          refine .descend _ _ _ _ _ _ fresh here (explore_follows _ [] search root fresh here ?_)
            (ih others _)
          calc graph.waiting search
            _ ≤ graph.edges.keys.length := List.countP_le_length
            _ = graph.edges.size := Std.ExtTreeMap.length_keys
            _ ≤ graph.edges.size + 1 := Nat.le_succ _
  exact ⟨_, each _ (fun root listed => (graph.mem_keys root).mp listed) _, rfl⟩

/-- Where the search stands: on the way from a root, each quest with the dependencies that have not
been followed from it, the last quest first. -/
structure Walk where
  stack : List (QuestNum × List QuestNum)
  roots : List QuestNum
  search : Search

namespace Walk

def start (graph : DependencyGraph) : Walk :=
  ⟨[], graph.edges.keys, ⟨∅, []⟩⟩

def step (graph : DependencyGraph) : Walk → Option Walk
  | ⟨[], [], _⟩ => none
  | ⟨[], root :: roots, search⟩ =>
      if search.entered.contains root then some ⟨[], roots, search⟩
      else some ⟨[(root, graph.dependencies root)], roots, search.enter root⟩
  | ⟨(_, []) :: stack, roots, search⟩ => some ⟨stack, roots, search⟩
  | ⟨(num, next :: later) :: outer, roots, search⟩ =>
      let stack := (num, later) :: outer
      let trail := stack.map Prod.fst
      if search.entered.contains next then
        if trail.contains next then some ⟨stack, roots, search.close (circle trail next)⟩
        else some ⟨stack, roots, search⟩
      else if graph.contains next then
        some ⟨(next, graph.dependencies next) :: stack, roots, search.enter next⟩
      else some ⟨stack, roots, search⟩

end Walk

def Moves (graph : DependencyGraph) (walk next : Walk) : Prop :=
  walk.step graph = some next

inductive Turn (graph : DependencyGraph) : Walk → Walk → Prop where
  | pass (root : QuestNum) (roots : List QuestNum) (search : Search)
      (entered : search.entered.contains root = true) :
      Turn graph ⟨[], root :: roots, search⟩ ⟨[], roots, search⟩
  | enter (root : QuestNum) (roots : List QuestNum) (search : Search)
      (new : search.entered.contains root = false) :
      Turn graph ⟨[], root :: roots, search⟩
        ⟨[(root, graph.dependencies root)], roots, search.enter root⟩
  | leave (num : QuestNum) (outer : List (QuestNum × List QuestNum)) (roots : List QuestNum)
      (search : Search) : Turn graph ⟨(num, []) :: outer, roots, search⟩ ⟨outer, roots, search⟩
  | close (num next : QuestNum) (later : List QuestNum) (outer : List (QuestNum × List QuestNum))
      (roots : List QuestNum) (search : Search) (back : next ∈ num :: outer.map Prod.fst) :
      Turn graph ⟨(num, next :: later) :: outer, roots, search⟩
        ⟨(num, later) :: outer, roots, search.close (circle (num :: outer.map Prod.fst) next)⟩
  | follow (num next : QuestNum) (later : List QuestNum) (outer : List (QuestNum × List QuestNum))
      (roots : List QuestNum) (search : Search) :
      Turn graph ⟨(num, next :: later) :: outer, roots, search⟩
        ⟨(num, later) :: outer, roots, search⟩
  | descend (num next : QuestNum) (later : List QuestNum)
      (outer : List (QuestNum × List QuestNum)) (roots : List QuestNum) (search : Search)
      (new : search.entered.contains next = false) (known : graph.contains next = true) :
      Turn graph ⟨(num, next :: later) :: outer, roots, search⟩
        ⟨(next, graph.dependencies next) :: (num, later) :: outer, roots, search.enter next⟩

theorem Moves.turn {walk next : Walk} (moves : graph.Moves walk next) : graph.Turn walk next := by
  obtain ⟨stack, roots, search⟩ := walk
  cases stack with
  | nil =>
      cases roots with
      | nil => simp [Moves, Walk.step] at moves
      | cons root roots =>
          simp only [Moves, Walk.step] at moves
          split at moves <;> cases moves
          · rename_i entered
            exact .pass root roots search entered
          · rename_i new
            exact .enter root roots search (Bool.eq_false_iff.mpr new)
  | cons frame outer =>
      obtain ⟨num, nexts⟩ := frame
      cases nexts with
      | nil =>
          cases moves
          exact .leave num outer roots search
      | cons next later =>
          simp only [Moves, Walk.step] at moves
          split at moves
          · split at moves <;> cases moves
            · rename_i back
              exact .close num next later outer roots search (List.contains_iff_mem.mp back)
            · exact .follow num next later outer roots search
          · rename_i new
            split at moves <;> cases moves
            · rename_i known
              exact .descend num next later outer roots search (Bool.eq_false_iff.mpr new) known
            · exact .follow num next later outer roots search

theorem Follows.moves {trail nexts : List QuestNum} {search after : Search}
    (follows : graph.Follows trail nexts search after) (num : QuestNum)
    (outer : List (QuestNum × List QuestNum)) (roots : List QuestNum)
    (stands : trail = num :: outer.map Prod.fst) :
    Relation.ReflTransGen graph.Moves ⟨(num, nexts) :: outer, roots, search⟩
      ⟨(num, []) :: outer, roots, after⟩ := by
  induction follows generalizing num outer with
  | finish => exact .refl
  | close trail nexts next search after entered back rest ih =>
      subst stands
      refine .head ?_ (ih num outer rfl)
      simp only [Moves, Walk.step, entered, ↓reduceIte, List.map_cons]
      rw [if_pos (List.contains_iff_mem.mpr back)]
  | pass trail nexts next search after entered aside rest ih =>
      subst stands
      refine .head ?_ (ih num outer rfl)
      simp only [Moves, Walk.step, entered, ↓reduceIte, List.map_cons]
      rw [if_neg fun back => aside (List.contains_iff_mem.mp back)]
  | dangle trail nexts next search after new unknown rest ih =>
      refine .head ?_ (ih num outer stands)
      simp [Moves, Walk.step, new, unknown]
  | descend trail nexts next search middle after new known inner rest inside ih =>
      have enters : graph.Moves ⟨(num, next :: nexts) :: outer, roots, search⟩
          ⟨(next, graph.dependencies next) :: (num, nexts) :: outer, roots, search.enter next⟩ := by
        simp [Moves, Walk.step, new, known]
      have leaves : graph.Moves ⟨(next, []) :: (num, nexts) :: outer, roots, middle⟩
          ⟨(num, nexts) :: outer, roots, middle⟩ := rfl
      exact .head enters ((inside next ((num, nexts) :: outer) (by rw [stands]; rfl)).trans
        (.head leaves (ih num outer stands)))

theorem Follows.moves_roots {trail roots : List QuestNum} {search after : Search}
    (follows : graph.Follows trail roots search after) (empty : trail = [])
    (known : ∀ root ∈ roots, graph.contains root = true) :
    Relation.ReflTransGen graph.Moves ⟨[], roots, search⟩ ⟨[], [], after⟩ := by
  induction follows with
  | finish => exact .refl
  | close trail roots root search after entered back rest ih =>
      subst empty
      simp at back
  | pass trail roots root search after entered aside rest ih =>
      refine .head ?_ (ih empty fun root listed => known root (.tail _ listed))
      simp only [Moves, Walk.step, entered, ↓reduceIte]
  | dangle trail roots root search after new unknown rest ih =>
      exact absurd (known root List.mem_cons_self) (Bool.eq_false_iff.mp unknown)
  | descend trail roots root search middle after new there inner rest inside ih =>
      subst empty
      have enters : graph.Moves ⟨[], root :: roots, search⟩
          ⟨[(root, graph.dependencies root)], roots, search.enter root⟩ := by
        simp [Moves, Walk.step, new]
      have leaves : graph.Moves ⟨[(root, [])], roots, middle⟩ ⟨[], roots, middle⟩ := rfl
      exact .head enters ((inner.moves root [] roots rfl).trans
        (.head leaves (ih rfl fun root listed => known root (.tail _ listed))))

theorem walk_ends (graph : DependencyGraph) :
    ∃ last, Relation.ReflTransGen graph.Moves (Walk.start graph) last ∧
      last.step graph = none ∧ last.search.circles = graph.circles := by
  obtain ⟨after, follows, same⟩ := graph.circles_follow
  have moves := follows.moves_roots rfl fun root listed => (graph.mem_keys root).mp listed
  exact ⟨_, moves, rfl, same⟩

/-- The edge that closes a circle, from its last quest but one to the last. -/
def closing? (circle : List QuestNum) : Option (QuestNum × QuestNum) :=
  match circle.reverse with
  | last :: before :: _ => some (before, last)
  | _ => none

theorem closing?_circle (num next : QuestNum) (outer : List QuestNum) :
    closing? (circle (num :: outer) next) = some (num, next) := by
  by_cases same : num = next
  · simp [closing?, circle, same]
  · simp [closing?, circle, same]

structure IsCircle (graph : DependencyGraph) (circle : List QuestNum) : Prop where
  chain : circle.IsChain graph.DependsOn
  ends : ∃ num inner, circle = num :: inner ++ [num]

/-- On a trail, which names the last quest first, every quest is a dependency of the one before. -/
def IsTrail (graph : DependencyGraph) (trail : List QuestNum) : Prop :=
  trail.IsChain fun later before => graph.DependsOn before later

theorem isCircle_circle (num next : QuestNum) (outer : List QuestNum)
    (linked : graph.IsTrail (num :: outer)) (back : next ∈ num :: outer)
    (depends : graph.DependsOn num next) : graph.IsCircle (circle (num :: outer) next) := by
  refine ⟨?_, next, _, rfl⟩
  obtain ⟨front, rest, split, aside⟩ := List.eq_append_cons_of_mem back
  have taken : (num :: outer).takeWhile (· != next) = front := by
    rw [split, List.takeWhile_append_of_pos]
    · simp
    · intro other listed
      exact bne_iff_ne.mpr fun same => aside (same ▸ listed)
  -- The end of the trail from `next` on, turned round, and the edge from `num` back to `next`.
  have turned : (front ++ [next]).reverse.IsChain graph.DependsOn := by
    rw [List.isChain_reverse]
    apply List.IsChain.prefix linked
    rw [split]
    exact ⟨rest, by simp⟩
  have start : (front ++ [next]).head? = some num := by
    cases front with
    | nil => exact congrArg some (List.cons.inj split).1.symm
    | cons first _ => exact congrArg some (List.cons.inj split).1.symm
  rw [circle, taken, ← List.reverse_concat, List.isChain_append]
  refine ⟨turned, .singleton _, ?_⟩
  intro last stands other only
  rw [List.getLast?_reverse, start] at stands
  cases stands
  cases only
  exact depends

theorem reaches_of_chain {num last : QuestNum} {inner : List QuestNum}
    (chain : (num :: inner ++ [last]).IsChain graph.DependsOn) :
    Relation.TransGen graph.DependsOn num last := by
  induction inner generalizing num with
  | nil => exact .single (List.isChain_cons_cons.mp chain).1
  | cons next rest ih =>
      obtain ⟨first, later⟩ := List.isChain_cons_cons.mp chain
      exact .head first (ih later)

namespace IsCircle

variable {circle : List QuestNum} (closed : graph.IsCircle circle)

include closed

theorem reaches : ∃ num, Relation.TransGen graph.DependsOn num num := by
  obtain ⟨num, inner, rfl⟩ := closed.ends
  exact ⟨num, reaches_of_chain closed.chain⟩

theorem closing : ∃ num other, closing? circle = some (num, other) ∧ graph.DependsOn num other := by
  obtain ⟨first, inner, rfl⟩ := closed.ends
  obtain ⟨front, last, same⟩ :=
    (first :: inner).eq_nil_or_concat.resolve_left (List.cons_ne_nil _ _)
  have chain := closed.chain
  rw [same] at chain ⊢
  refine ⟨last, first, by simp [closing?], ?_⟩
  exact (List.isChain_append.mp chain).2.2 last (by simp) first (by simp)

end IsCircle

theorem Follows.circles {trail nexts : List QuestNum} {search after : Search}
    (follows : graph.Follows trail nexts search after) (linked : graph.IsTrail trail)
    (each : ∀ num ∈ trail.head?, ∀ next ∈ nexts, graph.DependsOn num next)
    (closed : ∀ circle ∈ search.circles, graph.IsCircle circle) :
    ∀ circle ∈ after.circles, graph.IsCircle circle := by
  induction follows with
  | finish => exact closed
  | close trail later next search after entered back rest ih =>
      have nonempty : trail ≠ [] := List.ne_nil_of_mem back
      obtain ⟨num, outer, rfl⟩ := List.exists_cons_of_ne_nil nonempty
      refine ih linked (fun num head other listed => each num head other (.tail _ listed)) ?_
      intro circle listed
      rcases List.mem_append.mp listed with old | new
      · exact closed circle old
      · rw [List.mem_singleton.mp new]
        exact isCircle_circle num next outer linked back (each num rfl next List.mem_cons_self)
  | pass _ _ _ _ _ _ _ _ ih | dangle _ _ _ _ _ _ _ _ ih =>
      exact ih linked (fun num head other listed => each num head other (.tail _ listed)) closed
  | descend trail later next search middle after _ _ _ _ inside ih =>
      refine ih linked (fun num head other listed => each num head other (.tail _ listed)) ?_
      refine inside ?_ (fun num head other listed => ?_) closed
      · exact List.isChain_cons.mpr ⟨fun num head => each num head next List.mem_cons_self, linked⟩
      · cases head
        exact listed

theorem isCircle_of_mem (graph : DependencyGraph) (circle : List QuestNum)
    (listed : circle ∈ graph.circles) : graph.IsCircle circle := by
  obtain ⟨after, follows, same⟩ := graph.circles_follow
  rw [← same] at listed
  exact follows.circles .nil (by simp) (by simp) circle listed

end QuestWeb.DependencyGraph
