import QuestWeb.Engine.Source
import QuestWeb.Quest
import QuestWeb.State.Condition
import QuestWeb.State.Effect
import QuestWeb.Template

/-!
The dialog engine. It plays one dialog at a time against a game state: it offers the choices whose
conditions hold, applies the effects of the one that is taken, and moves on until the dialog ends.
-/

namespace QuestWeb

def Quest.isAvailable (quest : Quest) (state : GameState) : Bool :=
  !state.isStarted quest.num && !state.isCompleted quest.num &&
    quest.dependencies.all state.isCompleted && state.holdsAll quest.availability

/-- The quests that can be started, by number; of two with one number the one listed first. -/
def availableQuests (quests : List Quest) (state : GameState) : List Quest :=
  (quests.filter (·.isAvailable state)).mergeSort fun a b => a.num.val ≤ b.num.val

structure Position where
  key : DialogKey
  node : String
  finished : Bool
  deriving DecidableEq, Repr

structure Step where
  node : String
  finished : Bool
  startedQuest : Option QuestNum
  deriving DecidableEq, Repr

structure Engine (σ : Type) where
  source : σ
  cache : DialogTable
  quests : List Quest
  state : GameState
  active : Option Position

namespace Engine

variable {σ : Type}

def new (source : σ) (quests : List Quest) (state : GameState) : Engine σ :=
  ⟨source, .empty, quests, state, none⟩

def invalidate (engine : Engine σ) (key : DialogKey) : Engine σ :=
  { engine with
    cache := engine.cache.erase key
    active := engine.active.filter (·.key != key) }

def endDialog (engine : Engine σ) : Engine σ :=
  { engine with active := none }

def fatalDefect? (dialog : Dialog) : Option DialogDefect :=
  (dialog.defects none).find? (·.isFatal)

/-- The dialog under a key, from the cache or else from the source. One that cannot be started is
refused and not kept. -/
def load [DialogSource σ] (engine : Engine σ) (key : DialogKey) :
    Except TraversalError Dialog × Engine σ :=
  match engine.cache.get? key with
  | some dialog => (.ok dialog, engine)
  | none =>
      match DialogSource.fetch engine.source key with
      | .error e => (.error e, engine)
      | .ok dialog =>
          match fatalDefect? dialog with
          | some reason => (.error (.unusable key reason), engine)
          | none => (.ok dialog, { engine with cache := engine.cache.insert key dialog })

/-- Starts a dialog at its start node and leaves the one before; `false` if it cannot be loaded. -/
def start [DialogSource σ] (engine : Engine σ) (key : DialogKey) : Bool × Engine σ :=
  match engine.endDialog.load key with
  | (.error _, engine) => (false, engine)
  | (.ok dialog, engine) =>
      let finished := dialog.startNode?.any (·.terminal)
      (true, { engine with active := some ⟨key, dialog.start, finished⟩ })

def currentNode? (engine : Engine σ) : Option Node :=
  match engine.active with
  | some position => (engine.cache.get? position.key).bind (·.node? position.node)
  | none => none

def isFinished (engine : Engine σ) : Bool :=
  engine.active.any (·.finished)

def Choice.isOffered (choice : Choice) (state : GameState) : Bool :=
  state.holdsAll choice.conditions

def offeredChoices (engine : Engine σ) : List (Nat × Choice) :=
  if engine.isFinished then []
  else
    match engine.currentNode? with
    | some node =>
        (node.choices.zipIdx.filter fun (choice, _) => Choice.isOffered choice engine.state).map
          fun (choice, index) => (index, choice)
    | none => []

def flagText : FlagValue → String
  | .text text => text
  | .int n => toString n.toInt
  | .bool b => if b then "true" else "false"

/-- The text of the current node. Slots that name a flag show its value; any other slot stays, and
so does a text that is no template. -/
def renderedText? (engine : Engine σ) : Option String :=
  engine.currentNode?.map fun node =>
    match Template.parse node.text with
    | .ok template => template.fill fun name => (engine.state.flag? name).map flagText
    | .error _ => node.text

def completesNow (state : GameState) : Effect → Option QuestNum
  | .completeQuest num => if state.isCompleted num then none else some num
  | _ => none

/-- Applies an effect of a choice. The outcomes of a quest follow when it is completed. -/
def applyWithOutcomes (quests : List Quest) (state : GameState) (effect : Effect) : GameState :=
  match completesNow state effect with
  | none => state.apply effect
  | some num =>
      match quests.find? (·.num == num) with
      | some quest => (state.apply effect).applyAll quest.outcomes
      | none => state.apply effect

def nextQuest? (quests : List Quest) (state : GameState) (choice : Choice) : Option QuestNum :=
  match choice.startNext with
  | none => none
  | some location =>
      let key := locationKey location
      if key = "" then none
      else
        ((availableQuests quests state).find? (·.locationKey? == some key)).map (·.num)

def resolve (engine : Engine σ) (index : Nat) :
    Except TraversalError (Position × Choice × Node) :=
  match engine.active with
  | none => .error .noActiveDialog
  | some position =>
      if position.finished then .error .finished
      else
        match engine.cache.get? position.key with
        | none => .error (.notFound position.key)
        | some dialog =>
            match dialog.node? position.node with
            | none => .error (.missingNode position.node)
            | some node =>
                match (node.choices[index]?).filter (Choice.isOffered · engine.state) with
                | none => .error (.choiceUnavailable position.node index)
                | some choice =>
                    match dialog.node? choice.next with
                    | none => .error (.missingNode choice.next)
                    | some next => .ok (position, choice, next)

/-- Takes the choice at this place of the current node. A choice that cannot be taken changes
nothing. -/
def choose (engine : Engine σ) (index : Nat) : Except TraversalError Step × Engine σ :=
  match engine.resolve index with
  | .error e => (.error e, engine)
  | .ok (position, choice, next) =>
      let state := choice.effects.foldl (applyWithOutcomes engine.quests) engine.state
      let started := nextQuest? engine.quests state choice
      let state := match started with
        | some num => state.apply (.startQuest num)
        | none => state
      (.ok ⟨choice.next, next.terminal, started⟩,
        { engine with
          state := state
          active := some { position with node := choice.next, finished := next.terminal } })

def insertDialog (engine : Engine DialogTable) (key : DialogKey) (dialog : Dialog) :
    Engine DialogTable :=
  let engine := engine.invalidate key
  { engine with source := engine.source.insert key dialog }

end Engine

end QuestWeb
