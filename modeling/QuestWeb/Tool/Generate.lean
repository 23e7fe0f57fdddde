import QuestWeb.Tool.Arguments
import QuestWeb.Tool.Outcome
import QuestWeb.Web.Write

/-!
The tool that writes the quest web of a catalog.
-/

namespace QuestWeb.Tool

namespace Generate

def interface : Interface where
  name := "generate_web"
  about := "Regenerate the quest web and its dialogs from a domain catalog"
  options := [
    ⟨"root", none, .path, "Dataset root directory [default: .]"⟩,
    ⟨"catalog", none, .path, "Domain catalog (RON). Defaults to the builtin catalog"⟩,
    ⟨"config", none, .path, "Validator config (RON) whose layout names the output paths"⟩,
    ⟨"force", none, .nothing, "Overwrite an existing dataset even if it does not match"⟩]
  exclusive := []

def catalog (given : Given) (tree : FileTree) : Except Failure Catalog :=
  match given.value? "catalog" with
  | some path => loadCatalog tree path
  | none =>
      match builtinCatalog with
      | .ok catalog => .ok catalog
      | .error e => .error (.ofSettings "loading builtin catalog" e)

def ofWebError (error : Web.Error) : Failure where
  doing := "generating quest web"
  causes := error.message ::
    match error with
    | .catalog defect => [defect.message]
    | .template _ slot => [slot.message]
    | .inconsistent .. => []

def ofDocumentError (error : DocumentError) : Failure where
  doing := "writing dataset"
  causes := [(Web.WriteError.document error).message, error.message, error.cause]

def prepare (given : Given) (tree : FileTree) : Except Failure (Web × DatasetLayout) := do
  let catalog ← catalog given tree
  let config ← loadConfig tree (given.value? "config")
  match Web.generate catalog with
  | .ok web => return (web, config.layout)
  | .error e => .error (ofWebError e)

def summary (web : Web) (root : String) (layout : DatasetLayout) : List String :=
  ["Wrote " ++ toString web.quests.length ++ " quests to " ++ Path.under root layout.quests,
    "Wrote " ++ toString web.dialogs.length ++ " dialogs under " ++
      Path.under root layout.questDialogs]

def run (given : Given) (forced : Bool) (tree : FileTree) : Outcome :=
  match prepare given tree with
  | .error failure => .failed tree failure
  | .ok (web, layout) =>
      match web.write tree given.root layout (given.has "force" || forced) with
      | (.ok (), tree) => ⟨0, Text.ofLines (summary web given.root layout), "", tree⟩
      | (.error (.guarded path guard), tree) =>
          ⟨2, "", Text.ofLines ["ERROR: " ++ guard.message path], tree⟩
      | (.error (.document e), tree) => .failed tree (ofDocumentError e)

end Generate

end QuestWeb.Tool
