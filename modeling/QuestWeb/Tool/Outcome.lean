import QuestWeb.Settings
import QuestWeb.Text.Affix
import QuestWeb.Text.Lines

/-!
What a tool of the command line leaves behind, and how it reports that it cannot go on.
-/

namespace QuestWeb.Tool

structure Outcome where
  exit : UInt32
  stdout : String
  stderr : String
  tree : FileTree

structure Failure where
  doing : String
  causes : List String
  deriving DecidableEq, Repr

namespace Failure

/-- Whether the text ends with what a reader says about bad settings, which takes the rest of the
line. -/
def endsInFault (text : String) : Bool :=
  (Text.stripEnd? Ron.faultText.toList text.toList).isSome

def joined : List String → String
  | [] => ""
  | text :: rest =>
      if rest.isEmpty || endsInFault text then text else text ++ ": " ++ joined rest

def line (failure : Failure) : String :=
  joined (failure.doing :: failure.causes)

def numbered (causes : List String) : List String :=
  causes.zipIdx.map fun (cause, place) => "    " ++ toString place ++ ": " ++ cause

def report (failure : Failure) : List String :=
  ["Error: " ++ failure.doing] ++
    match failure.causes with
    | [] => []
    | [cause] => ["", "Caused by:", "    " ++ cause]
    | causes => ["", "Caused by:"] ++ numbered causes

def ofSettings (doing : String) (error : SettingsError) : Failure :=
  ⟨doing, error.message :: error.origin?.toList⟩

end Failure

def Outcome.failed (tree : FileTree) (failure : Failure) : Outcome where
  exit := 1
  stdout := ""
  stderr := Text.ofLines ["ERROR: " ++ failure.line]
  tree := tree

def loadCatalog (tree : FileTree) (path : String) : Except Failure Catalog :=
  match tree.readCatalog path with
  | .ok catalog => .ok catalog
  | .error e => .error (.ofSettings ("loading catalog " ++ path) e)

def loadConfig (tree : FileTree) : Option String → Except Failure ValidatorConfig
  | none => .ok .standard
  | some path =>
      match tree.readConfig path with
      | .ok config => .ok config
      | .error e => .error (.ofSettings ("loading config " ++ path) e)

end QuestWeb.Tool
