import QuestWeb.Dialog

/-!
What can be wrong with the shape of a dialog: no usable start, dead ends, choices that lead nowhere,
and a quest that no player can finish.
-/

namespace QuestWeb

inductive DialogDefect where
  | missingStart
  | noNodes
  | startNotFound (start : String)
  | deadEnd (node : String)
  | terminalWithChoices (node : String)
  | danglingNext (node : String) (index : Nat) (next : String)
  | missingCompletion (quest : QuestNum)
  deriving DecidableEq, Repr

namespace DialogDefect

def message : DialogDefect → String
  | .missingStart => "dialog missing 'start'"
  | .noNodes => "dialog has no nodes"
  | .startNotFound start => "start node '" ++ start ++ "' not found"
  | .deadEnd node => "dead end: node '" ++ node ++ "' is not terminal and has no choices"
  | .terminalWithChoices node => "terminal node '" ++ node ++ "' offers choices"
  | .danglingNext node index next =>
      "node '" ++ node ++ "' choice " ++ toString index ++ " points at missing node '" ++ next ++
        "'"
  | .missingCompletion quest =>
      "no reachable complete_quest effect for quest " ++ toString quest

def isFatal : DialogDefect → Bool
  | .noNodes | .missingStart | .startNotFound _ => true
  | _ => false

end DialogDefect

namespace Dialog

def startDefects (dialog : Dialog) : List DialogDefect :=
  (if dialog.nodes.isEmpty then [.noNodes] else []) ++
    if Text.isBlankText dialog.start then [.missingStart]
    else if !dialog.nodes.isEmpty && !dialog.hasNode dialog.start then
      [.startNotFound dialog.start]
    else []

def danglingChoices (dialog : Dialog) (id : String) : Nat → List Choice → List DialogDefect
  | _, [] => []
  | index, choice :: rest =>
      let later := danglingChoices dialog id (index + 1) rest
      if dialog.hasNode choice.next then later else .danglingNext id index choice.next :: later

def nodeDefects (dialog : Dialog) (id : String) (node : Node) : List DialogDefect :=
  if node.terminal then
    if node.choices.isEmpty then [] else [.terminalWithChoices id]
  else if node.choices.isEmpty then [.deadEnd id]
  else danglingChoices dialog id 0 node.choices

def defects (dialog : Dialog) (owner : Option QuestNum) : List DialogDefect :=
  dialog.startDefects ++
    (dialog.nodes.toList.flatMap fun (id, node) => dialog.nodeDefects id node) ++
    match owner with
    | some quest => if dialog.completesReachably quest then [] else [.missingCompletion quest]
    | none => []

end Dialog

end QuestWeb
