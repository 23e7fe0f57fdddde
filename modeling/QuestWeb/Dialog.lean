import QuestWeb.Effect
import QuestWeb.Text.Blank

/-!
Dialogs: nodes with choices that lead from one to the next, and the search that tells which nodes a
player can come to.
-/

namespace QuestWeb

structure Choice where
  text : String
  next : String
  effects : List Effect
  /-- The choice is offered while all of these hold. -/
  conditions : List Condition
  startNext : Option String
  deriving DecidableEq, Repr

structure Node where
  speaker : String
  text : String
  choices : List Choice
  terminal : Bool
  deriving DecidableEq, Repr

structure Dialog where
  quest : Option QuestNum
  start : String
  nodes : Std.ExtTreeMap String Node
  deriving DecidableEq

namespace Dialog

def node? (dialog : Dialog) (id : String) : Option Node :=
  dialog.nodes[id]?

def startNode? (dialog : Dialog) : Option Node :=
  dialog.node? dialog.start

def hasNode (dialog : Dialog) (id : String) : Bool :=
  dialog.nodes.contains id

def successors (dialog : Dialog) (id : String) : List String :=
  match dialog.node? id with
  | some node => (node.choices.map (·.next)).filter dialog.hasNode
  | none => []

def unseen : List String → List String → List String
  | [], _ => []
  | id :: rest, seen =>
      if seen.contains id then unseen rest seen else id :: unseen rest (id :: seen)

/-- Visits the nodes of the queue breadth first; `seen` holds every node that was ever queued. -/
def visit (dialog : Dialog) : Nat → List String → List String → List String
  | 0, _, _ => []
  | _, [], _ => []
  | fuel + 1, id :: queue, seen =>
      let fresh := unseen (dialog.successors id) seen
      id :: visit dialog fuel (queue ++ fresh) (fresh ++ seen)

/-- The nodes that can be reached from the start, in the order in which they are found. A node is
queued once, so the number of nodes bounds the visits. -/
def reachable (dialog : Dialog) : List String :=
  if dialog.hasNode dialog.start then
    dialog.visit dialog.nodes.size [dialog.start] [dialog.start]
  else []

def completesReachably (dialog : Dialog) (quest : QuestNum) : Bool :=
  dialog.reachable.any fun id =>
    match dialog.node? id with
    | some node => node.choices.any fun choice => choice.effects.any (·.completes quest)
    | none => false

def effects (dialog : Dialog) : List (String × Effect) :=
  dialog.nodes.toList.flatMap fun (id, node) =>
    node.choices.flatMap fun choice => choice.effects.map (id, ·)

end Dialog

end QuestWeb
