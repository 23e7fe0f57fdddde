import QuestWeb.Dataset.Access
import QuestWeb.Web

/-!
Writing a web into a file tree. A quest list that is already there and is not the one of this web is
not replaced unless that is forced.
-/

namespace QuestWeb.Web

inductive Guard where
  | notQuestList (error : DocumentError)
  | otherCount (existing generated : Nat)
  /-- The record at this place, counted from one, has another identifier, if any. -/
  | otherQuest (place : Nat) (existing : Option Json) (generated : String)

namespace Guard

def reason : Guard → String
  | .notQuestList error => "existing file is not a quest list (" ++ error.message ++ ")"
  | .otherCount existing generated =>
      "existing dataset has " ++ toString existing ++ " quests, generator produces " ++
        toString generated
  | .otherQuest place existing generated =>
      "record " ++ toString place ++ " has quest_id " ++
        ((existing.map Json.compact).getD "none") ++ ", generator produces '" ++ generated ++ "'"

def message (guard : Guard) (path : String) : String :=
  "refusing to overwrite " ++ path ++ ": " ++ guard.reason ++
    " (pass --force or set FORCE_GENERATE_AUTHORITY_WEB=1)"

end Guard

inductive WriteError where
  | guarded (path : String) (guard : Guard)
  | document (error : DocumentError)

def WriteError.message : WriteError → String
  | .guarded path guard => guard.message path
  | .document error => "dataset error: " ++ error.message

def otherQuest? : Nat → List Json → List Quest → Option Guard
  | place, record :: records, quest :: quests =>
      let existing := record.get? "quest_id"
      if existing.bind Json.str? = some quest.id then otherQuest? (place + 1) records quests
      else some (.otherQuest place existing quest.id)
  | _, _, _ => none

def guard? (web : Web) (tree : FileTree) (root : String) (layout : DatasetLayout) :
    Option Guard :=
  let path := Path.under root layout.quests
  if tree.hasPath path then
    match tree.readDocument (Decoder.list Json.decoder) path with
    | .error e => some (.notQuestList e)
    | .ok records =>
        if records.length = web.quests.length then otherQuest? 1 records web.quests
        else some (.otherCount records.length web.quests.length)
  else none

def questListJson (web : Web) : Json :=
  .arr (web.quests.map Quest.json)

def writeDialogs (tree : FileTree) (root : String) (layout : DatasetLayout) :
    List (Quest × Dialog) → Option DocumentError × FileTree
  | [] => (none, tree)
  | (quest, dialog) :: rest =>
      match tree.writeDocument (Path.under root (layout.questDialog quest.num)) dialog.json with
      | .ok tree => writeDialogs tree root layout rest
      | .error e => (some e, tree)

/-- Writes the quest list and a dialog file for each quest. Gives the tree that is left, also where
the writing stops half way. -/
def write (web : Web) (tree : FileTree) (root : String) (layout : DatasetLayout)
    (force : Bool) : Except WriteError Unit × FileTree :=
  let path := Path.under root layout.quests
  match if force then none else web.guard? tree root layout with
  | some guard => (.error (.guarded path guard), tree)
  | none =>
      match tree.writeDocument path web.questListJson with
      | .error e => (.error (.document e), tree)
      | .ok tree =>
          match writeDialogs tree root layout (web.quests.zip web.dialogs) with
          | (none, tree) => (.ok (), tree)
          | (some e, tree) => (.error (.document e), tree)

end QuestWeb.Web
