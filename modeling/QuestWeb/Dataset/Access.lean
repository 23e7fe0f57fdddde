import QuestWeb.Dataset

/-!
Single documents of a file tree, read by type and written.
-/

namespace QuestWeb

inductive DocumentError where
  | io (path message : String)
  | json (path : String)
  deriving DecidableEq, Repr

namespace DocumentError

def cause : DocumentError → String
  | .io _ message => message
  | .json _ => Json.faultText

def message : DocumentError → String
  | .io path message => "IO error on " ++ path ++ ": " ++ message
  | .json path => "JSON error in " ++ path ++ ": " ++ Json.faultText

end DocumentError

def Json.decoder : Decoder Json where
  shape := .any
  read value :=
    match value.free? with
    | some value => .ok value
    | none => .error (.refused Json.faultText)

def Json.document (value : Json) : String :=
  value.pretty ++ "\n"

namespace FileTree

def readDocument {α : Type} (tree : FileTree) (d : Decoder α) (path : String) :
    Except DocumentError α :=
  match tree.readText path with
  | .error e => .error (.io path e.message)
  | .ok text =>
      match d.ofText? text with
      | some a => .ok a
      | none => .error (.json path)

def writeDocument (tree : FileTree) (path : String) (value : Json) :
    Except DocumentError FileTree :=
  match tree.write path (.text value.document) with
  | .ok tree => .ok tree
  | .error e => .error (.io path e.message)

end FileTree

end QuestWeb
