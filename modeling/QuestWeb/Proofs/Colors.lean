import QuestWeb.Proofs.Circles
import Mathlib.Data.List.Nodup

/-!
The search for circles by colors. A quest is white until it is entered, gray while it stands on the
trail and black once the search is done with it. A painted search goes turn by turn with the walk
that keeps the trail and the quests entered, so it closes the same circles.
-/

namespace QuestWeb.DependencyGraph

variable {graph : DependencyGraph}

inductive Color where
  | white | gray | black
  deriving DecidableEq, Repr

namespace Walk

def trail (walk : Walk) : List QuestNum :=
  walk.stack.map Prod.fst

structure Orderly (graph : DependencyGraph) (walk : Walk) : Prop where
  distinct : walk.trail.Nodup
  entered : ∀ num ∈ walk.trail, walk.search.entered.contains num = true
  known : ∀ num, walk.search.entered.contains num = true → graph.contains num = true
  roots : ∀ root ∈ walk.roots, graph.contains root = true

theorem orderly_start (graph : DependencyGraph) : (start graph).Orderly graph where
  distinct := .nil
  entered := by simp [trail, start]
  known := by simp [start]
  roots := fun root listed => (graph.mem_keys root).mp listed

namespace Orderly

variable {stack : List (QuestNum × List QuestNum)} {roots : List QuestNum} {search : Search}

theorem enter (orderly : Orderly graph ⟨stack, roots, search⟩) (next : QuestNum)
    (new : search.entered.contains next = false) (known : graph.contains next = true) :
    Orderly graph ⟨(next, graph.dependencies next) :: stack, roots, search.enter next⟩ where
  distinct := by
    refine List.nodup_cons.mpr ⟨fun standing => ?_, orderly.distinct⟩
    rw [orderly.entered next standing] at new
    contradiction
  entered := by
    refine List.forall_mem_cons.mpr ⟨(search.entered_enter next next).mpr (.inl rfl), ?_⟩
    exact fun num standing =>
      (search.entered_enter next num).mpr (.inr (orderly.entered num standing))
  known num entered := by
    rcases (search.entered_enter next num).mp entered with rfl | before
    · exact known
    · exact orderly.known num before
  roots := orderly.roots

theorem leave {frame : QuestNum × List QuestNum}
    (orderly : Orderly graph ⟨frame :: stack, roots, search⟩) :
    Orderly graph ⟨stack, roots, search⟩ where
  distinct := (List.nodup_cons.mp orderly.distinct).2
  entered := (List.forall_mem_cons.mp orderly.entered).2
  known := orderly.known
  roots := orderly.roots

theorem move {walk next : Walk} (orderly : walk.Orderly graph) (moves : graph.Moves walk next) :
    next.Orderly graph := by
  cases moves.turn with
  | pass root roots search entered =>
      exact ⟨orderly.distinct, orderly.entered, orderly.known,
        (List.forall_mem_cons.mp orderly.roots).2⟩
  | enter root roots search new =>
      obtain ⟨known, others⟩ := List.forall_mem_cons.mp orderly.roots
      have passed : Orderly graph ⟨[], roots, search⟩ :=
        ⟨orderly.distinct, orderly.entered, orderly.known, others⟩
      exact passed.enter root new known
  | leave num outer roots search => exact orderly.leave
  | close num next later outer roots search back | follow num next later outer roots search =>
      exact ⟨orderly.distinct, orderly.entered, orderly.known, orderly.roots⟩
  | descend num next later outer roots search new known =>
      have followed : Orderly graph ⟨(num, later) :: outer, roots, search⟩ :=
        ⟨orderly.distinct, orderly.entered, orderly.known, orderly.roots⟩
      exact followed.enter next new known

end Orderly

theorem orderly_of_moves {walk : Walk}
    (moves : Relation.ReflTransGen graph.Moves (start graph) walk) : walk.Orderly graph := by
  induction moves with
  | refl => exact orderly_start graph
  | tail _ move ih => exact ih.move move

/-- On the trail a quest is gray, and black where it was entered and is off the trail. -/
def color? (graph : DependencyGraph) (walk : Walk) (num : QuestNum) : Option Color :=
  if num ∈ walk.trail then some .gray
  else if walk.search.entered.contains num = true then some .black
  else if graph.contains num = true then some .white
  else none

variable {walk : Walk} {num : QuestNum}

theorem color?_congr {other : Walk} (trail : num ∈ walk.trail ↔ num ∈ other.trail)
    (entered : walk.search.entered.contains num = other.search.entered.contains num) :
    walk.color? graph num = other.color? graph num := by
  simp only [color?, trail, entered]

theorem color?_gray : walk.color? graph num = some .gray ↔ num ∈ walk.trail := by
  unfold color?
  grind

theorem color?_black : walk.color? graph num = some .black ↔
    walk.search.entered.contains num = true ∧ num ∉ walk.trail := by
  unfold color?
  grind

theorem Orderly.color?_white (orderly : walk.Orderly graph) :
    walk.color? graph num = some .white ↔
      walk.search.entered.contains num = false ∧ graph.contains num = true := by
  have entered := orderly.entered num
  unfold color?
  grind

theorem Orderly.color?_none (orderly : walk.Orderly graph) :
    walk.color? graph num = none ↔ graph.contains num = false := by
  have entered := orderly.entered num
  have known := orderly.known num
  unfold color?
  grind

end Walk

/-- A search that paints the quests. Each quest of the stack has the place of its dependency that
is followed next. -/
structure Painted where
  stack : List (QuestNum × Nat)
  roots : List QuestNum
  colors : Std.ExtTreeMap QuestNum Color
  circles : List (List QuestNum)

namespace Painted

def start (graph : DependencyGraph) : Painted :=
  ⟨[], graph.edges.keys, graph.edges.map fun _ _ => .white, []⟩

def trail (painted : Painted) : List QuestNum :=
  painted.stack.map Prod.fst

/-- The way from the first place of a quest on, and back to it; all of it if the quest is not
there. -/
def cut (way : List QuestNum) (num : QuestNum) : List QuestNum :=
  way.drop ((way.idxOf? num).getD 0) ++ [num]

def step (graph : DependencyGraph) : Painted → Option Painted
  | ⟨[], [], _, _⟩ => none
  | ⟨[], root :: roots, colors, circles⟩ =>
      if colors[root]? = some .white then
        some ⟨[(root, 0)], roots, colors.insert root .gray, circles⟩
      else some ⟨[], roots, colors, circles⟩
  | ⟨(num, place) :: outer, roots, colors, circles⟩ =>
      match (graph.dependencies num)[place]? with
      | none => some ⟨outer, roots, colors.insert num .black, circles⟩
      | some next =>
          let stack := (num, place + 1) :: outer
          match colors[next]? with
          | some .white => some ⟨(next, 0) :: stack, roots, colors.insert next .gray, circles⟩
          | some .gray =>
              some ⟨stack, roots, colors, circles ++ [cut (stack.map Prod.fst).reverse next]⟩
          | some .black | none => some ⟨stack, roots, colors, circles⟩

theorem cut_reverse (trail : List QuestNum) (num : QuestNum) (standing : num ∈ trail)
    (distinct : trail.Nodup) : cut trail.reverse num = circle trail num := by
  obtain ⟨front, rest, rfl, aside⟩ := List.eq_append_cons_of_mem standing
  have behind : num ∉ rest := by
    have apart := (List.nodup_append.mp distinct).2.1
    exact (List.nodup_cons.mp apart).1
  have taken : (front ++ num :: rest).takeWhile (· != num) = front := by
    rw [List.takeWhile_append_of_pos]
    · simp
    · intro other listed
      exact bne_iff_ne.mpr fun same => aside (same ▸ listed)
  have first : rest.reverse.findIdx? (· == num) = none := by
    simp only [List.findIdx?_eq_none_iff, List.mem_reverse, beq_eq_false_iff_ne]
    rintro other listed rfl
    exact behind listed
  have found : (front ++ num :: rest).reverse.idxOf? num = some rest.length := by
    rw [List.reverse_append, List.reverse_cons, List.append_assoc, List.idxOf?,
      List.findIdx?_append, first]
    simp [List.findIdx?_cons]
  rw [cut, circle, taken, found]
  simp

/-- The stack and the circles are those of the walk, and the colors tell how it stands. -/
structure Shows (graph : DependencyGraph) (painted : Painted) (walk : Walk) : Prop where
  stack : walk.stack =
    painted.stack.map fun frame => (frame.1, (graph.dependencies frame.1).drop frame.2)
  roots : walk.roots = painted.roots
  circles : walk.search.circles = painted.circles
  colors : ∀ num, painted.colors[num]? = walk.color? graph num

theorem shows_start (graph : DependencyGraph) :
    Shows graph (start graph) (Walk.start graph) where
  stack := rfl
  roots := rfl
  circles := rfl
  colors num := by
    rw [start, Std.ExtTreeMap.getElem?_map]
    cases found : graph.edges[num]? <;>
      simp [Walk.color?, Walk.trail, Walk.start, contains,
        Std.ExtTreeMap.contains_eq_isSome_getElem?, found]

namespace Shows

variable {stack : List (QuestNum × Nat)} {rest : List (QuestNum × List QuestNum)}
variable {roots : List QuestNum} {colors : Std.ExtTreeMap QuestNum Color}
variable {circles : List (List QuestNum)} {search : Search}

theorem trail {painted : Painted} {walk : Walk} (shown : Shows graph painted walk) :
    walk.trail = painted.trail := by
  rw [Walk.trail, shown.stack, Painted.trail, List.map_map]
  rfl

theorem enter (shown : Shows graph ⟨stack, roots, colors, circles⟩ ⟨rest, roots, search⟩)
    (next : QuestNum) :
    Shows graph ⟨(next, 0) :: stack, roots, colors.insert next .gray, circles⟩
      ⟨(next, graph.dependencies next) :: rest, roots, search.enter next⟩ where
  stack := by
    rw [List.map_cons, List.drop_zero]
    exact congrArg _ shown.stack
  roots := rfl
  circles := shown.circles
  colors num := by
    rw [Std.ExtTreeMap.getElem?_insert, shown.colors num]
    by_cases same : next = num
    · simp [same, Walk.color?, Walk.trail]
    · have aside : (search.enter next).entered.contains num = search.entered.contains num := by
        rw [Search.enter, QuestSet.contains_insert]
        simp [same]
      rw [if_neg (mt Std.LawfulEqCmp.compare_eq_iff_eq.mp same)]
      exact Walk.color?_congr (by simp [Walk.trail, Ne.symm same]) aside.symm

theorem leave {num : QuestNum} {place : Nat} {nexts : List QuestNum}
    (shown : Shows graph ⟨(num, place) :: stack, roots, colors, circles⟩
      ⟨(num, nexts) :: rest, roots, search⟩)
    (orderly : Walk.Orderly graph ⟨(num, nexts) :: rest, roots, search⟩) :
    Shows graph ⟨stack, roots, colors.insert num .black, circles⟩ ⟨rest, roots, search⟩ where
  stack := (List.cons.inj shown.stack).2
  roots := rfl
  circles := shown.circles
  colors other := by
    have entered := orderly.entered num List.mem_cons_self
    have aside : num ∉ rest.map Prod.fst := (List.nodup_cons.mp orderly.distinct).1
    rw [Std.ExtTreeMap.getElem?_insert, shown.colors other]
    by_cases same : num = other
    · subst same
      simp only [Walk.color?, Walk.trail, aside, entered]
      simp
    · rw [if_neg (mt Std.LawfulEqCmp.compare_eq_iff_eq.mp same)]
      exact Walk.color?_congr (by simp [Walk.trail, Ne.symm same]) rfl

variable {num next : QuestNum} {place : Nat} {later : List QuestNum}

theorem follow (shown : Shows graph ⟨(num, place) :: stack, roots, colors, circles⟩
      ⟨(num, next :: later) :: rest, roots, search⟩) :
    Shows graph ⟨(num, place + 1) :: stack, roots, colors, circles⟩
      ⟨(num, later) :: rest, roots, search⟩ where
  stack := by
    have same := shown.stack
    simp only [List.map_cons, List.cons.injEq, Prod.mk.injEq, true_and] at same ⊢
    refine ⟨?_, same.2⟩
    rw [← List.drop_drop, ← same.1, List.drop_succ_cons, List.drop_zero]
  roots := rfl
  circles := shown.circles
  colors := shown.colors

theorem close (shown : Shows graph ⟨(num, place) :: stack, roots, colors, circles⟩
      ⟨(num, later) :: rest, roots, search⟩)
    (distinct : (num :: rest.map Prod.fst).Nodup) (back : next ∈ num :: rest.map Prod.fst) :
    Shows graph ⟨(num, place) :: stack, roots, colors,
        circles ++ [cut (num :: stack.map Prod.fst).reverse next]⟩
      ⟨(num, later) :: rest, roots, search.close (circle (num :: rest.map Prod.fst) next)⟩ where
  stack := shown.stack
  roots := rfl
  circles := by
    have trail : num :: rest.map Prod.fst = num :: stack.map Prod.fst := shown.trail
    rw [← trail, cut_reverse _ next back distinct, Search.close]
    exact congrArg (· ++ _) shown.circles
  colors := shown.colors

theorem step_root {root : QuestNum} (shown : Shows graph ⟨[], root :: roots, colors, circles⟩
      ⟨[], root :: roots, search⟩) (known : graph.contains root = true)
    (orderly : Walk.Orderly graph ⟨[], root :: roots, search⟩) :
    Option.Rel (Shows graph) (Painted.step graph ⟨[], root :: roots, colors, circles⟩)
      (Walk.step graph ⟨[], root :: roots, search⟩) := by
  have white : colors[root]? = some .white ↔
      search.entered.contains root = false ∧ graph.contains root = true := by
    rw [shown.colors root]
    exact orderly.color?_white
  have passed : Shows graph ⟨[], roots, colors, circles⟩ ⟨[], roots, search⟩ :=
    ⟨rfl, rfl, shown.circles, shown.colors⟩
  cases entered : search.entered.contains root with
  | true =>
      simp only [Painted.step, white, Walk.step, entered, Bool.true_eq_false, false_and,
        ↓reduceIte]
      exact .some passed
  | false =>
      simp only [Painted.step, white, Walk.step, entered, known, and_self, Bool.false_eq_true,
        ↓reduceIte]
      exact .some (passed.enter root)

theorem step_frame (shown : Shows graph ⟨(num, place) :: stack, roots, colors, circles⟩
      ⟨(num, next :: later) :: rest, roots, search⟩)
    (found : (graph.dependencies num)[place]? = some next)
    (orderly : Walk.Orderly graph ⟨(num, next :: later) :: rest, roots, search⟩) :
    Option.Rel (Shows graph) (Painted.step graph ⟨(num, place) :: stack, roots, colors, circles⟩)
      (Walk.step graph ⟨(num, next :: later) :: rest, roots, search⟩) := by
  have own := shown.colors next
  cases color : colors[next]? with
  | none =>
      have absent := orderly.color?_none.mp (own.symm.trans color)
      have new : search.entered.contains next = false :=
        Bool.eq_false_iff.mpr fun entered => by simp [orderly.known next entered] at absent
      simp only [Painted.step, found, color, Walk.step, new, absent, Bool.false_eq_true,
        ↓reduceIte]
      exact .some shown.follow
  | some shade =>
      cases shade with
      | white =>
          obtain ⟨new, known⟩ := orderly.color?_white.mp (own.symm.trans color)
          simp only [Painted.step, found, color, Walk.step, new, known, Bool.false_eq_true,
            ↓reduceIte]
          exact .some (shown.follow.enter next)
      | gray =>
          have back : next ∈ num :: rest.map Prod.fst :=
            Walk.color?_gray.mp (own.symm.trans color)
          have entered := orderly.entered next back
          simp only [Painted.step, found, color, Walk.step, entered, List.map_cons, ↓reduceIte]
          rw [if_pos (List.contains_iff_mem.mpr back)]
          exact .some (shown.follow.close orderly.distinct back)
      | black =>
          obtain ⟨entered, aside⟩ := Walk.color?_black.mp (own.symm.trans color)
          have aside : next ∉ num :: rest.map Prod.fst := aside
          simp only [Painted.step, found, color, Walk.step, entered, List.map_cons, ↓reduceIte]
          rw [if_neg (mt List.contains_iff_mem.mp aside)]
          exact .some shown.follow

/-- A painted search and the walk that it shows go on alike, or both have come to their end. -/
theorem step {painted : Painted} {walk : Walk} (shown : Shows graph painted walk)
    (orderly : walk.Orderly graph) :
    Option.Rel (Shows graph) (painted.step graph) (walk.step graph) := by
  obtain ⟨stack, roots, colors, circles⟩ := painted
  obtain ⟨rest, own, search⟩ := walk
  obtain rfl : own = roots := shown.roots
  cases stack with
  | nil =>
      obtain rfl : rest = [] := shown.stack
      cases own with
      | nil => exact .none
      | cons root roots =>
          exact shown.step_root (orderly.roots root List.mem_cons_self) orderly
  | cons frame stack =>
      obtain ⟨num, place⟩ := frame
      obtain ⟨nexts, outer, rfl, left⟩ : ∃ nexts outer, rest = (num, nexts) :: outer ∧
          nexts = (graph.dependencies num).drop place := ⟨_, _, shown.stack, rfl⟩
      cases found : (graph.dependencies num)[place]? with
      | none =>
          -- Nothing is left to follow, so the quest leaves the trail and is painted black.
          rw [List.drop_eq_nil_iff.mpr (List.getElem?_eq_none_iff.mp found)] at left
          subst left
          simp only [Painted.step, found, Walk.step]
          exact .some (shown.leave orderly)
      | some next =>
          obtain ⟨inside, rfl⟩ := List.getElem?_eq_some_iff.mp found
          rw [List.drop_eq_getElem_cons inside] at left
          subst left
          exact shown.step_frame found orderly

end Shows

end Painted

def Paints (graph : DependencyGraph) (painted next : Painted) : Prop :=
  painted.step graph = some next

namespace Painted

theorem Shows.paint {painted next : Painted} {walk : Walk} (shown : painted.Shows graph walk)
    (orderly : walk.Orderly graph) (paints : graph.Paints painted next) :
    ∃ other, graph.Moves walk other ∧ next.Shows graph other := by
  have alike := shown.step orderly
  rw [paints] at alike
  generalize going : walk.step graph = stepped at alike
  cases alike with
  | some after => exact ⟨_, going, after⟩

theorem Shows.move {painted : Painted} {walk other : Walk} (shown : painted.Shows graph walk)
    (orderly : walk.Orderly graph) (moves : graph.Moves walk other) :
    ∃ next, graph.Paints painted next ∧ next.Shows graph other := by
  have alike := shown.step orderly
  rw [moves] at alike
  generalize going : painted.step graph = stepped at alike
  cases alike with
  | some after => exact ⟨_, going, after⟩

/-- Wherever the painted search stands, its colors tell how a walk stands. -/
theorem shows_of_paints {painted : Painted}
    (paints : Relation.ReflTransGen graph.Paints (start graph) painted) :
    ∃ walk, Relation.ReflTransGen graph.Moves (Walk.start graph) walk ∧
      painted.Shows graph walk := by
  induction paints with
  | refl => exact ⟨_, .refl, shows_start graph⟩
  | tail _ paint ih =>
      obtain ⟨walk, moves, shown⟩ := ih
      obtain ⟨other, move, after⟩ := shown.paint (Walk.orderly_of_moves moves) paint
      exact ⟨other, moves.tail move, after⟩

theorem shows_of_moves {walk : Walk}
    (moves : Relation.ReflTransGen graph.Moves (Walk.start graph) walk) :
    ∃ painted, Relation.ReflTransGen graph.Paints (start graph) painted ∧
      painted.Shows graph walk := by
  induction moves with
  | refl => exact ⟨_, .refl, shows_start graph⟩
  | tail moves move ih =>
      obtain ⟨painted, paints, shown⟩ := ih
      obtain ⟨next, paint, after⟩ := shown.move (Walk.orderly_of_moves moves) move
      exact ⟨next, paints.tail paint, after⟩

end Painted

open Painted

/-- The painted search comes to an end, with the circles that the graph reports. -/
theorem painted_ends (graph : DependencyGraph) :
    ∃ last, Relation.ReflTransGen graph.Paints (start graph) last ∧
      last.step graph = none ∧ last.circles = graph.circles := by
  obtain ⟨walk, moves, stands, same⟩ := graph.walk_ends
  obtain ⟨last, paints, shown⟩ := shows_of_moves moves
  refine ⟨last, paints, Option.eq_none_iff_forall_ne_some.mpr fun next paint => ?_,
    shown.circles.symm.trans same⟩
  obtain ⟨other, move, _⟩ := shown.paint (Walk.orderly_of_moves moves) paint
  exact Option.some_ne_none other (move.symm.trans stands)

end QuestWeb.DependencyGraph
