import QuestWeb.Tool.Arguments
import QuestWeb.Tool.Outcome
import QuestWeb.Validator

/-!
The tool that checks a dataset. It exits with 1 when there is a finding; warnings do not count.
-/

namespace QuestWeb.Tool

namespace Validate

def interface : Interface where
  name := "validate_data"
  about := "Validate quests, dialogs, items, encounters and maps"
  options := [
    ⟨"root", none, .path, "Dataset root directory [default: .]"⟩,
    ⟨"config", none, .path, "Validator config (RON)"⟩,
    ⟨"catalog", none, .path,
      "Domain catalog (RON) the allowed authority domains come from"⟩,
    ⟨"json", none, .nothing, "Print the full report as JSON instead of text"⟩]
  exclusive := []

/-- The authorities that quests may name. Where the configuration lists them, no catalog is asked;
one that was given is loaded all the same. -/
def domains (given : Given) (config : ValidatorConfig) (tree : FileTree) :
    Except Failure (List String) :=
  match given.value? "catalog" with
  | some path => do return (← loadCatalog tree path).authorityDomains
  | none =>
      if config.allowedDomains.isSome then .ok []
      else
        match builtinCatalog with
        | .ok catalog => .ok catalog.authorityDomains
        | .error e => .error (.ofSettings "building validator" e)

def prepare (given : Given) (tree : FileTree) : Except Failure Validator := do
  let config ← loadConfig tree (given.value? "config")
  let domains ← domains given config tree
  match Validator.build config domains with
  | .ok validator => return validator
  | .error _ => .error ⟨"building validator", ["invalid pattern"]⟩

def statsLine (stats : Stats) : String :=
  "Checked " ++ toString stats.quests ++ " quests, " ++ toString stats.questDialogs ++
    " quest dialogs, " ++ toString stats.locationDialogs ++ " location dialogs, " ++
    toString stats.items ++ " items, " ++ toString stats.encounters ++ " encounters, " ++
    toString stats.maps ++ " maps (" ++ toString stats.regions ++ " regions)"

def warningLines (shown : Nat) (warnings : List String) : List String :=
  (warnings.take shown).map ("WARNING: " ++ ·) ++
    if shown < warnings.length then
      ["WARNING: ... and " ++ toString (warnings.length - shown) ++ " more"]
    else []

def kindLines (report : Report) : List String :=
  if report.errors.isEmpty then []
  else
    let counts := report.counts.filter fun (_, n) => 0 < n
    ["", "By kind: " ++
      ", ".intercalate (counts.map fun (kind, n) => toString n ++ " " ++ kind)]

def reportLines (report : Report) (shown : Nat) : List String :=
  ["", "=== Dataset Validation Report ===", "", statsLine report.stats, ""] ++
    (if report.errors.isEmpty && report.warnings.isEmpty then ["All checks passed!"] else []) ++
    warningLines shown report.warnings ++
    report.errors.map (fun finding => "ERROR: " ++ finding.display) ++
    kindLines report ++
    ["", report.summary]

def run (given : Given) (tree : FileTree) : Outcome :=
  match prepare given tree with
  | .error failure => .failed tree failure
  | .ok validator =>
      let report := validator.validateTree tree given.root
      { exit := if report.isOk then 0 else 1
        stdout :=
          Text.ofLines
            (if given.has "json" then [report.json.pretty]
            else reportLines report validator.config.maxWarningsShown)
        stderr := ""
        tree := tree }

end Validate

end QuestWeb.Tool
