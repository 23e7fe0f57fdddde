import QuestWeb.Dataset
import QuestWeb.Engine
import QuestWeb.State.Wire
import QuestWeb.Text.Blank
import QuestWeb.Tool.Arguments
import QuestWeb.Tool.Outcome

/-!
The tool that walks through dialogs. It reads a command from each line, against a fresh game.
-/

namespace QuestWeb.Tool

structure Preview where
  engine : Engine DialogFolder

namespace Preview

def interface : Interface where
  name := "dialog_preview"
  about := "Walk dialogs interactively against a fresh game state"
  options := [
    ⟨"root", none, .path, "Dataset root directory [default: .]"⟩,
    ⟨"config", none, .path, "Validator config (RON) whose layout is used"⟩,
    ⟨"quest", none, .number, "Quest dialog to open first"⟩,
    ⟨"location", none, .text, "Location dialog to open first"⟩]
  exclusive := [("quest", "location")]

def prompt : String := "dialog> "

def helpLines : List String := [
  "Commands:",
  "  <n>              take offered choice n",
  "  quest <n>        start a quest's dialog",
  "  location <name>  start a location's dialog",
  "  available        list quests that could start now",
  "  state            dump the game state as JSON",
  "  help             list commands",
  "  quit             exit"]

def choiceLine (place : Nat) (choice : Choice) : String :=
  "  " ++ toString place ++ ". " ++ choice.text

def nodeLines (preview : Preview) : List String :=
  match preview.engine.currentNode?, preview.engine.renderedText? with
  | some node, some text =>
      ["", node.speaker ++ ":", text, ""] ++
        if preview.engine.isFinished then ["--- End ---", ""]
        else
          (preview.engine.offeredChoices.zipIdx 1).map
            (fun ((_, choice), place) => choiceLine place choice) ++ [""]
  | _, _ => []

def questLine (quest : Quest) : String :=
  "  " ++ toString quest.num ++ "  " ++ quest.name ++ "  (" ++ quest.location.getD "-" ++ ")"

def availableLines (preview : Preview) : List String :=
  match availableQuests preview.engine.quests preview.engine.state with
  | [] => ["No quests available."]
  | quests => quests.map questLine

def openDialog (preview : Preview) (key : DialogKey) : List String × Preview :=
  match preview.engine.start key with
  | (true, engine) => (nodeLines ⟨engine⟩, ⟨engine⟩)
  | (false, engine) => (["Could not open that dialog (see log for details)."], ⟨engine⟩)

def openQuest (preview : Preview) : Option String → List String × Preview
  | none => (["Usage: quest <n>"], preview)
  | some text =>
      match Text.natural? text with
      | some n =>
          if n < UInt32.size then preview.openDialog (.quest ⟨n.toUInt32⟩)
          else (["Usage: quest <n>"], preview)
      | none => (["Usage: quest <n>"], preview)

def openLocation (preview : Preview) : Option String → List String × Preview
  | none => (["Usage: location <name>"], preview)
  | some name => preview.openDialog (.ofLocation name)

def startedLines : Option QuestNum → List String
  | some num => ["[started quest " ++ toString num ++ "]"]
  | none => []

def take (preview : Preview) (pick : Nat) : List String × Preview :=
  let offered := if pick = 0 then none else preview.engine.offeredChoices[pick - 1]?
  match offered with
  | none => (["No such choice."], preview)
  | some (index, _) =>
      match preview.engine.choose index with
      | (.ok step, engine) => (startedLines step.startedQuest ++ nodeLines ⟨engine⟩, ⟨engine⟩)
      | (.error e, engine) => (["ERROR: " ++ e.message], ⟨engine⟩)

def takeNamed (preview : Preview) (name : String) : List String × Preview :=
  let unknown := ["Unknown command: " ++ name ++ ". Type 'help'."]
  match Text.natural? name with
  | some pick => if pick < UInt64.size then preview.take pick else (unknown, preview)
  | none => (unknown, preview)

def command (preview : Preview) (line : String) : List String × Option Preview :=
  match Text.words line with
  | [] => ([], some preview)
  | name :: operands =>
      let name := Text.lower name
      if name ∈ ["quit", "exit", "q"] then (["Goodbye."], none)
      else
        let (lines, next) :=
          if name ∈ ["help", "h", "?"] then (helpLines, preview)
          else if name = "quest" then preview.openQuest operands.head?
          else if name ∈ ["location", "loc"] then preview.openLocation operands.head?
          else if name = "available" then (preview.availableLines, preview)
          else if name = "state" then ([preview.engine.state.json.pretty], preview)
          else preview.takeNamed name
        (lines, some next)

def answer (preview : Preview) : List String → String
  | [] => prompt
  | line :: rest =>
      match preview.command line with
      | (lines, some next) => prompt ++ Text.ofLines lines ++ next.answer rest
      | (lines, none) => prompt ++ Text.ofLines lines

structure Opening where
  warnings : List String
  lines : List String
  preview : Preview

def firstKey? (given : Given) : Option DialogKey :=
  match (given.value? "quest").bind Text.integer?, given.value? "location" with
  | some n, _ => some (.quest ⟨n.toNat.toUInt32⟩)
  | none, some name => some (.ofLocation name)
  | none, none => none

def opening (given : Given) (tree : FileTree) : Except Failure Opening :=
  match loadConfig tree (given.value? "config") with
  | .error failure => .error failure
  | .ok config =>
      let dataset := Dataset.load tree given.root config.layout
      let folder : DialogFolder := ⟨tree, given.root, config.layout⟩
      let preview : Preview := ⟨.new folder dataset.quests .initial⟩
      let (shown, preview) :=
        match firstKey? given with
        | some key => preview.openDialog key
        | none => ([], preview)
      .ok {
        warnings := dataset.loadErrors.map fun finding => "WARNING: " ++ finding.display
        lines :=
          ["Loaded " ++ toString dataset.quests.length ++ " quests",
            "Type 'help' for commands.", ""] ++ shown
        preview := preview }

def run (given : Given) (input : String) (tree : FileTree) : Outcome :=
  match opening given tree with
  | .error failure => ⟨1, "", Text.ofLines failure.report, tree⟩
  | .ok opening =>
      { exit := 0
        stdout := Text.ofLines opening.lines ++ opening.preview.answer (Text.lines input)
        stderr := Text.ofLines opening.warnings
        tree := tree }

end Preview

end QuestWeb.Tool
