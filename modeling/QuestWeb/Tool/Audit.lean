import QuestWeb.Dataset.Scan
import QuestWeb.Tool.Arguments
import QuestWeb.Tool.Outcome

/-!
The tool that holds the locations named by dialogs against those of the quests.
-/

namespace QuestWeb.Tool

namespace Audit

def interface : Interface where
  name := "audit_dialogs"
  about := "Check start_next_available_quest keys against quest locations"
  options := [
    ⟨"root", none, .path, "Dataset root directory [default: .]"⟩,
    ⟨"config", none, .path, "Validator config (RON) whose layout is used"⟩,
    ⟨"verbose", some 'v', .nothing, "List every key in use and the files using it"⟩]
  exclusive := []

def usedLine (key : String) (files : Std.ExtTreeSet String) : String :=
  "  " ++ key ++ " <- " ++ ", ".intercalate files.toList

def lines (dataset : Dataset) (audit : DialogAudit) (verbose : Bool) : List String :=
  ["", "=== Dialog Audit ===", "",
    toString audit.questLocations.size ++ " quest locations, " ++ toString audit.used.size ++
      " keys in use"] ++
    (if verbose then audit.used.toList.map fun (key, files) => usedLine key files else []) ++
    dataset.loadErrors.map (fun finding => "WARNING: skipped: " ++ finding.display) ++
    audit.findings.map (fun finding => "ERROR: " ++ finding.display) ++
    ["", "Summary: " ++ toString audit.unknown.length ++ " errors, " ++
      toString dataset.loadErrors.length ++ " warnings"]

def run (given : Given) (tree : FileTree) : Outcome :=
  match loadConfig tree (given.value? "config") with
  | .error failure => .failed tree failure
  | .ok config =>
      let dataset := Dataset.load tree given.root config.layout
      let audit := DialogAudit.ofDataset dataset
      { exit := if audit.isOk then 0 else 1
        stdout := Text.ofLines (lines dataset audit (given.has "verbose"))
        stderr := ""
        tree := tree }

end Audit

end QuestWeb.Tool
