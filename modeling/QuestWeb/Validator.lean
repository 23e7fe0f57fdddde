import QuestWeb.Config
import QuestWeb.Dataset.Scan
import QuestWeb.Dialog.Defect
import QuestWeb.Quest.Dependency.Check
import QuestWeb.World

/-!
The gate a dataset has to pass. Every check runs, whatever the others find, and all findings go into
one report.
-/

namespace QuestWeb

structure Validator where
  config : ValidatorConfig
  questId : Automaton
  inlineId : Automaton
  allowedDomains : List String

namespace Validator

inductive BuildError where
  | questIdPattern
  | inlineIdPattern
  deriving DecidableEq, Repr

def build (config : ValidatorConfig) (domains : List String) : Except BuildError Validator :=
  match Automaton.ofText? config.questIdPattern, Automaton.ofText? config.inlineIdPattern with
  | none, _ => .error .questIdPattern
  | _, none => .error .inlineIdPattern
  | some questId, some inlineId =>
      .ok {
        config, questId, inlineId
        allowedDomains :=
          (config.allowedDomains.getD domains).map fun name => Text.upper (Text.trim name) }

def missingQuest? (dataset : Dataset) (location : String) (effect : Effect) : Option Finding :=
  match effect.quest? with
  | none => none
  | some num =>
      if (dataset.quest? num).isSome then none
      else some (.referential location ("effect refers to missing quest " ++ toString num))

def questFindings (validator : Validator) (dataset : Dataset) (previous : Option QuestNum)
    (quest : Quest) : List Finding :=
  let location := validator.config.layout.quests ++ " quest " ++ toString quest.num
  (if validator.questId.isFound quest.id then []
  else [.schema location ("quest_id '" ++ quest.id ++ "' is not canonical")]) ++
  (match previous with
  | some first =>
      [.referential location
        ("duplicate quest_id '" ++ quest.id ++ "' (also quest " ++ toString first ++ ")")]
  | none => []) ++
  (if validator.allowedDomains.contains quest.domain.key then []
  else [.schema location ("unknown authority_domain '" ++ quest.domain.key ++ "'")]) ++
  quest.outcomes.filterMap (missingQuest? dataset location)

/-- The findings on quests in turn; `seen` holds the last quest of each identifier. -/
def eachQuest (validator : Validator) (dataset : Dataset) (seen : Std.ExtTreeMap String QuestNum) :
    List Quest → List Finding
  | [] => []
  | quest :: rest =>
      validator.questFindings dataset seen[quest.id]? quest ++
        eachQuest validator dataset (seen.insert quest.id quest.num) rest

def checkQuests (validator : Validator) (dataset : Dataset) : List Finding :=
  let file := validator.config.layout.quests
  if dataset.questsDocument.isNone then []
  else
    (if dataset.records < validator.config.minQuests then
      [.schema file
        ("expected at least " ++ toString validator.config.minQuests ++ " quests, found " ++
          toString dataset.records)]
    else []) ++
    validator.eachQuest dataset ∅ dataset.quests ++
    DependencyGraph.check dataset.quests dataset.records file

def dialogFindings (dataset : Dataset) (file : String) (owner : Option QuestNum)
    (dialog : Dialog) : List Finding :=
  ((dialog.defects owner).map fun defect => .schema file defect.message) ++
  dialog.effects.filterMap fun (node, effect) =>
    missingQuest? dataset (file ++ " node " ++ node) effect

def unreadableFiles (dataset : Dataset) : List String :=
  dataset.loadErrors.filterMap fun
    | .parse file _ => some file
    | _ => none

def ownerFindings (file : String) (dialog : Dialog) (quest : QuestNum) : List Finding :=
  match dialog.quest with
  | none => [.schema file "missing quest_id"]
  | some num =>
      if num = quest then []
      else
        [.schema file
          ("quest_id " ++ toString num ++ " does not match file quest " ++ toString quest)]

def questDialogFindings (validator : Validator) (dataset : Dataset) (quest : QuestNum) :
    List Finding :=
  match dataset.questDialogs[quest.fileName]? with
  | none =>
      let path := validator.config.layout.questDialog quest
      if (unreadableFiles dataset).contains path then []
      else [.referential path ("missing dialog for quest " ++ toString quest)]
  | some document =>
      match document.read Dialog.decoder with
      | .error finding => [finding]
      | .ok dialog =>
          ownerFindings document.file dialog quest ++
            dialogFindings dataset document.file (some quest) dialog

def checkQuestDialogs (validator : Validator) (dataset : Dataset) : List Finding :=
  dataset.quests.flatMap fun quest => validator.questDialogFindings dataset quest.num

def isOwned (dataset : Dataset) (name : String) : Bool :=
  ((QuestNum.ofFileName? name).bind dataset.quest?).isSome

def strayDialogs (validator : Validator) (dataset : Dataset) : List String :=
  (dataset.questDialogs.keys.filter fun name => !isOwned dataset name).map fun name =>
    validator.config.layout.questDialogs ++ "/" ++ name ++ " does not belong to any quest"

def checkLocationDialogs (dataset : Dataset) : List Finding :=
  dataset.locationDialogs.values.flatMap fun document =>
    match document.read Dialog.decoder with
    | .error finding => [finding]
    | .ok dialog => dialogFindings dataset document.file none dialog

def missingLocationDialogs (validator : Validator) (dataset : Dataset) : List String :=
  ((questLocations dataset.quests).toList.filter fun location =>
    !dataset.locationDialogs.contains (locationFileName location)).map fun location =>
      "missing supplemental location dialog: " ++ validator.config.layout.locationDialog location

structure ItemCheck where
  count : Nat
  known : Std.ExtTreeSet String
  findings : List Finding

def ItemCheck.none : ItemCheck := ⟨0, ∅, []⟩

def entry (file : String) (index : Nat) : String :=
  file ++ "[" ++ toString index ++ "]"

def itemIds (file : String) (known : Std.ExtTreeSet String) :
    Nat → List Item → Std.ExtTreeSet String × List Finding
  | _, [] => (known, [])
  | index, item :: rest =>
      let id := Text.trim item.id
      if id = "" then
        let (known, findings) := itemIds file known (index + 1) rest
        (known, .schema (entry file index) "item missing id" :: findings)
      else if known.contains id then
        let (known, findings) := itemIds file known (index + 1) rest
        (known, .referential (entry file index) ("duplicate item id '" ++ id ++ "'") :: findings)
      else itemIds file (known.insert id) (index + 1) rest

def checkItems (dataset : Dataset) : ItemCheck :=
  match dataset.items with
  | none => .none
  | some document =>
      match document.read (Decoder.list Item.decoder) with
      | .error finding => { ItemCheck.none with findings := [finding] }
      | .ok items =>
          let (known, findings) := itemIds document.file ∅ 0 items
          ⟨items.length, known, findings⟩

inductive EncounterMark where
  | id (location id : String)
  | fault (finding : Finding)

def encounterMarks (location : String) (encounter : Encounter) : List EncounterMark :=
  match encounter.shape with
  | .flat id => [.id location id]
  | .table ids =>
      ids.zipIdx.map fun (id, index) =>
        let spawn := entry (location ++ ".spawns") index
        match id with
        | some id => .id spawn id
        | none => .fault (.schema spawn "spawn missing id")
  | .malformed => [.fault (.schema location "encounter needs an id or a region/act/spawns table")]

def encounterFindings (seen : Std.ExtTreeMap String String) :
    List EncounterMark → Std.ExtTreeMap String String × List Finding
  | [] => (seen, [])
  | .fault finding :: rest =>
      let (seen, findings) := encounterFindings seen rest
      (seen, finding :: findings)
  | .id location id :: rest =>
      match seen[id]? with
      | some first =>
          let (seen, findings) := encounterFindings seen rest
          (seen,
            .referential location
              ("duplicate encounter id '" ++ id ++ "' (first at " ++ first ++ ")") :: findings)
      | none => encounterFindings (seen.insert id location) rest

def checkEncounters (dataset : Dataset) : Nat × List Finding :=
  match dataset.encounters with
  | none => (0, [])
  | some document =>
      match document.read (Decoder.list Encounter.decoder) with
      | .error finding => (0, [finding])
      | .ok encounters =>
          let marks := encounters.zipIdx.flatMap fun (encounter, index) =>
            encounterMarks (entry document.file index) encounter
          let (seen, findings) := encounterFindings ∅ marks
          (seen.size,
            (if encounters.isEmpty then [.schema document.file "no encounters defined"] else []) ++
              findings)

/-- The regions of a map, each id kept with the file that named it last. -/
def regionIds (file : String) (known : Std.ExtTreeMap String String) :
    Nat → List Region → Std.ExtTreeMap String String × List Finding
  | _, [] => (known, [])
  | index, region :: rest =>
      let id := Text.trim region.id
      if id = "" then
        let (known, findings) := regionIds file known (index + 1) rest
        (known, .schema (entry (file ++ " regions") index) "region missing id" :: findings)
      else
        let (next, findings) := regionIds file (known.insert id file) (index + 1) rest
        match known[id]? with
        | some first =>
            (next,
              .referential (file ++ " region=" ++ id)
                ("region id '" ++ id ++ "' already defined in " ++ first) :: findings)
        | none => (next, findings)

def allRegionIds (known : Std.ExtTreeMap String String) :
    List (String × WorldMap) → Std.ExtTreeMap String String × List Finding
  | [] => (known, [])
  | (file, map) :: rest =>
      let empty :=
        if map.regions.isEmpty then [Finding.schema file "map has no regions"] else []
      let (known, own) := regionIds file known 0 map.regions
      let (known, later) := allRegionIds known rest
      (known, empty ++ own ++ later)

def exitFinding? (known : Std.ExtTreeMap String String) (location : String) (exit : Exit) :
    Option Finding :=
  let target := Text.trim exit.target
  if target = "" then some (.schema location "exit missing target")
  else if known.contains target then none
  else some (.referential location ("exit to unknown region '" ++ target ++ "'"))

def placedFinding? (itemsFile : String) (items : Std.ExtTreeSet String) (location : String)
    (placed : PlacedItem) : Option Finding :=
  if items.contains (Text.trim placed.id) then none
  else some (.referential location ("item '" ++ placed.id ++ "' not found in " ++ itemsFile))

def regionFindings (itemsFile : String) (known : Std.ExtTreeMap String String)
    (items : Std.ExtTreeSet String) (file : String) (region : Region) : List Finding :=
  let location := file ++ " region=" ++ region.id
  region.exits.filterMap (exitFinding? known location) ++
    region.items.filterMap (placedFinding? itemsFile items location)

def readMaps : List Document → List (String × WorldMap) × List Finding
  | [] => ([], [])
  | document :: rest =>
      let (maps, findings) := readMaps rest
      match document.read WorldMap.decoder with
      | .ok map => ((document.file, map) :: maps, findings)
      | .error finding => (maps, finding :: findings)

def checkMaps (validator : Validator) (dataset : Dataset) (items : Std.ExtTreeSet String) :
    Nat × List Finding :=
  let layout := validator.config.layout
  if dataset.maps.isEmpty then (0, [.schema layout.maps "no map files found"])
  else
    let (maps, faults) := readMaps dataset.maps
    let (known, findings) := allRegionIds ∅ maps
    (known.size,
      faults ++ findings ++
        maps.flatMap fun (file, map) =>
          map.regions.flatMap (regionFindings layout.items known items file))

def checkProse (validator : Validator) (dataset : Dataset) : List Finding :=
  (DialogAudit.ofDataset dataset).findings ++
    (dataset.documents.filter fun document =>
      !validator.config.isCanonicalFile document.file).flatMap fun document =>
        (inlineIds validator.inlineId document).map InlineIdHit.finding

def validate (validator : Validator) (dataset : Dataset) : Report :=
  let items := checkItems dataset
  let (encounters, encounterFindings) := checkEncounters dataset
  let (regions, mapFindings) := validator.checkMaps dataset items.known
  let report : Report := {
    errors :=
      dataset.loadErrors ++ validator.checkQuests dataset ++ validator.checkQuestDialogs dataset ++
        checkLocationDialogs dataset ++ items.findings ++ encounterFindings ++ mapFindings ++
        validator.checkProse dataset
    warnings := []
    stats := {
      quests := dataset.quests.length
      questDialogs := dataset.questDialogs.size
      locationDialogs := dataset.locationDialogs.size
      items := items.count
      encounters := encounters
      maps := dataset.maps.length
      regions := regions } }
  report.warnAll
    (validator.strayDialogs dataset ++ validator.missingLocationDialogs dataset)

def validateTree (validator : Validator) (tree : FileTree) (root : String) : Report :=
  validator.validate (.load tree root validator.config.layout)

end Validator

end QuestWeb
