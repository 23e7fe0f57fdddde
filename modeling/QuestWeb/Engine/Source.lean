import QuestWeb.Dataset.Access
import QuestWeb.Dialog.Defect
import QuestWeb.Dialog.Wire

/-!
Where dialogs come from: a table in memory, or the dialog files of a dataset.
-/

namespace QuestWeb

inductive DialogKey where
  | quest (num : QuestNum)
  | location (key : String)
  deriving DecidableEq, Repr

namespace DialogKey

/-- Locations are compared trimmed and in lower case. -/
def ofLocation (name : String) : DialogKey :=
  .location (locationKey name)

def display : DialogKey → String
  | .quest num => "quest " ++ toString num
  | .location key => "location '" ++ key ++ "'"

end DialogKey

structure DialogTable where
  quests : Std.ExtTreeMap QuestNum Dialog
  locations : Std.ExtTreeMap String Dialog
  deriving DecidableEq

namespace DialogTable

def empty : DialogTable := ⟨∅, ∅⟩

def get? (table : DialogTable) : DialogKey → Option Dialog
  | .quest num => table.quests[num]?
  | .location key => table.locations[key]?

def contains (table : DialogTable) (key : DialogKey) : Bool :=
  (table.get? key).isSome

def insert (table : DialogTable) (key : DialogKey) (dialog : Dialog) : DialogTable :=
  match key with
  | .quest num => { table with quests := table.quests.insert num dialog }
  | .location name => { table with locations := table.locations.insert name dialog }

def erase (table : DialogTable) (key : DialogKey) : DialogTable :=
  match key with
  | .quest num => { table with quests := table.quests.erase num }
  | .location name => { table with locations := table.locations.erase name }

def ofQuestDialogs (dialogs : List (QuestNum × Dialog)) : DialogTable :=
  dialogs.foldl (fun table (num, dialog) => table.insert (.quest num) dialog) empty

end DialogTable

inductive TraversalError where
  | source (error : DocumentError)
  | notFound (key : DialogKey)
  | unusable (key : DialogKey) (reason : DialogDefect)
  | noActiveDialog
  | finished
  | choiceUnavailable (node : String) (index : Nat)
  | missingNode (node : String)
  deriving DecidableEq, Repr

def TraversalError.message : TraversalError → String
  | .source error => "dialog source error: " ++ error.message
  | .notFound key => "no dialog for " ++ key.display
  | .unusable key reason => "dialog for " ++ key.display ++ " is unusable: " ++ reason.message
  | .noActiveDialog => "no dialog is active"
  | .finished => "dialog has finished"
  | .choiceUnavailable node index =>
      "choice " ++ toString index ++ " is not offered at node '" ++ node ++ "'"
  | .missingNode node => "node '" ++ node ++ "' not found"

class DialogSource (σ : Type) where
  fetch : σ → DialogKey → Except TraversalError Dialog

instance : DialogSource DialogTable where
  fetch table key :=
    match table.get? key with
    | some dialog => .ok dialog
    | none => .error (.notFound key)

structure DialogFolder where
  tree : FileTree
  root : String
  layout : DatasetLayout

def DialogFolder.pathOf (folder : DialogFolder) : DialogKey → String
  | .quest num => Path.under folder.root (folder.layout.questDialog num)
  | .location key => Path.under folder.root (folder.layout.locationDialog key)

instance : DialogSource DialogFolder where
  fetch folder key :=
    match folder.tree.readDocument Dialog.decoder (folder.pathOf key) with
    | .ok dialog => .ok dialog
    | .error e => .error (.source e)

end QuestWeb
