import QuestWeb.Dataset.Layout
import QuestWeb.FileTree
import QuestWeb.Report

/-!
Datasets: the documents of a game, loaded without stopping at the first that is bad.
-/

namespace QuestWeb

structure Document where
  file : String
  value : Json
  deriving DecidableEq

/-- Stands for what a reader of JSON text says about a text that is none. -/
def Json.faultText : String := "<json>"

def Document.read {α : Type} (d : Decoder α) (document : Document) : Except Finding α :=
  match d.read document.value with
  | .ok a => .ok a
  | .error e => .error (.schema document.file e.message)

abbrev Documents := Std.ExtTreeMap String Document

structure Dataset where
  layout : DatasetLayout
  quests : List Quest
  /-- The entries of the quest list, those that could not be read included. -/
  records : Nat
  questsDocument : Option Document
  questDialogs : Documents
  locationDialogs : Documents
  items : Option Document
  encounters : Option Document
  maps : List Document
  loadErrors : List Finding
  deriving DecidableEq

namespace Dataset

def quest? (dataset : Dataset) (num : QuestNum) : Option Quest :=
  dataset.quests.find? (·.num == num)

def documents (dataset : Dataset) : List Document :=
  dataset.questsDocument.toList ++ dataset.questDialogs.values ++ dataset.locationDialogs.values ++
    dataset.items.toList ++ dataset.encounters.toList ++ dataset.maps

def loadDocument (tree : FileTree) (root file : String) : Except Finding Document :=
  match tree.readText (Path.under root file) with
  | .error e => .error (.parse file e.message)
  | .ok text =>
      match Json.parseFree? text with
      | some value => .ok ⟨file, value⟩
      | none => .error (.parse file Json.faultText)

def tryLoad (tree : FileTree) (root file : String) : Option Document × List Finding :=
  match loadDocument tree root file with
  | .ok document => (some document, [])
  | .error finding => (none, [finding])

def loadNamed (tree : FileTree) (root folder : String) :
    List String → List (String × Document) × List Finding
  | [] => ([], [])
  | name :: rest =>
      let (documents, findings) := loadNamed tree root folder rest
      match loadDocument tree root (folder ++ "/" ++ name) with
      | .ok document => ((name, document) :: documents, findings)
      | .error finding => (documents, finding :: findings)

def loadFolder (tree : FileTree) (root folder : String) : Documents × List Finding :=
  let names := tree.jsonNames (Path.under root folder)
  let (documents, findings) := loadNamed tree root folder names
  (Std.ExtTreeMap.ofList documents, findings)

/-- Reads each quest record on its own, so a bad one does not hide the others. -/
def readRecords (file : String) : Nat → List Json → List Quest × List Finding
  | _, [] => ([], [])
  | position, record :: rest =>
      let (quests, findings) := readRecords file (position + 1) rest
      match Quest.decoder.read record with
      | .ok quest => (quest :: quests, findings)
      | .error e =>
          (quests, .schema (file ++ "[" ++ toString position ++ "]") e.message :: findings)

def readQuests (document : Document) : List Quest × Nat × List Finding :=
  match document.value with
  | .arr records =>
      let (quests, findings) := readRecords document.file 0 records
      (quests, records.length, findings)
  | _ => ([], 0, [.schema document.file "expected an array of quests"])

def load (tree : FileTree) (root : String) (layout : DatasetLayout) : Dataset :=
  let (questsDocument, questsFault) := tryLoad tree root layout.quests
  let (quests, records, recordFaults) :=
    match questsDocument with
    | some document => readQuests document
    | none => ([], 0, [])
  let (questDialogs, questDialogFaults) := loadFolder tree root layout.questDialogs
  let (locationDialogs, locationDialogFaults) := loadFolder tree root layout.locationDialogs
  let (items, itemsFault) := tryLoad tree root layout.items
  let (encounters, encountersFault) := tryLoad tree root layout.encounters
  let (maps, mapFaults) := loadFolder tree root layout.maps
  { layout, quests, records, questsDocument, questDialogs, locationDialogs, items, encounters
    maps := maps.values
    loadErrors :=
      questsFault ++ recordFaults ++ questDialogFaults ++ locationDialogFaults ++ itemsFault ++
        encountersFault ++ mapFaults }

end Dataset

end QuestWeb
