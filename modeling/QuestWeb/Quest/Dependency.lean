import QuestWeb.Quest

/-!
Which quests depend on which. Circles are found by a depth-first search that keeps the trail from
the root to the quest it stands on: an edge back into the trail closes a circle. A graph without
circles is ordered so that every quest comes after those it depends on.
-/

namespace QuestWeb

structure DependencyGraph where
  edges : Std.ExtTreeMap QuestNum (List QuestNum)
  labels : Std.ExtTreeMap QuestNum String

namespace DependencyGraph

def empty : DependencyGraph := ⟨∅, ∅⟩

/-- The quests that a quest depends on; a number added twice depends on both lists. -/
def dependencies (graph : DependencyGraph) (num : QuestNum) : List QuestNum :=
  (graph.edges[num]?).getD []

def contains (graph : DependencyGraph) (num : QuestNum) : Bool :=
  graph.edges.contains num

/-- Adds a quest. Of several labels for one number the first stays. -/
def add (graph : DependencyGraph) (num : QuestNum) (label : String)
    (dependencies : List QuestNum) : DependencyGraph where
  edges := graph.edges.insert num (graph.dependencies num ++ dependencies)
  labels := graph.labels.insertIfNew num label

def addQuest (graph : DependencyGraph) (quest : Quest) : DependencyGraph :=
  graph.add quest.num quest.id quest.dependencies

def ofQuests (quests : List Quest) : DependencyGraph :=
  quests.foldl addQuest empty

def label (graph : DependencyGraph) (num : QuestNum) : String :=
  match graph.labels[num]? with
  | some text => if text = "" then toString num else toString num ++ " (" ++ text ++ ")"
  | none => toString num

def dangling (graph : DependencyGraph) : List (QuestNum × QuestNum) :=
  graph.edges.toList.flatMap fun (num, dependencies) =>
    (dependencies.filter fun other => !graph.contains other).map (num, ·)

structure Search where
  entered : QuestSet
  circles : List (List QuestNum)

def Search.enter (search : Search) (num : QuestNum) : Search :=
  { search with entered := search.entered.insert num }

def Search.close (search : Search) (circle : List QuestNum) : Search :=
  { search with circles := search.circles ++ [circle] }

/-- The circle that an edge back to `target` closes; the trail names the last quest first. -/
def circle (trail : List QuestNum) (target : QuestNum) : List QuestNum :=
  target :: (trail.takeWhile (· != target)).reverse ++ [target]

/-- Enters a quest and follows its dependencies in order. A trail never repeats a quest, so the
number of quests bounds the depth. -/
def explore (graph : DependencyGraph) : Nat → List QuestNum → Search → QuestNum → Search
  | 0, _, search, _ => search
  | fuel + 1, trail, search, num =>
      (graph.dependencies num).foldl
        (fun search next =>
          if search.entered.contains next then
            if (num :: trail).contains next then search.close (circle (num :: trail) next)
            else search
          else if graph.contains next then explore graph fuel (num :: trail) search next
          else search)
        (search.enter num)

def exploreRoot (graph : DependencyGraph) (search : Search) (root : QuestNum) : Search :=
  if search.entered.contains root then search
  else graph.explore (graph.edges.size + 1) [] search root

def circles (graph : DependencyGraph) : List (List QuestNum) :=
  (graph.edges.keys.foldl graph.exploreRoot ⟨∅, []⟩).circles

def place (graph : DependencyGraph) : Nat → List QuestNum → QuestNum → List QuestNum
  | 0, placed, _ => placed
  | fuel + 1, placed, num =>
      if placed.contains num || !graph.contains num then placed
      else (graph.dependencies num).foldl (place graph fuel) placed ++ [num]

def order (graph : DependencyGraph) : Except (List QuestNum) (List QuestNum) :=
  match graph.circles with
  | circle :: _ => .error circle
  | [] => .ok (graph.edges.keys.foldl (graph.place (graph.edges.size + 1)) [])

end DependencyGraph

end QuestWeb
