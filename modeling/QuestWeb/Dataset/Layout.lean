import QuestWeb.Decoder.Record
import QuestWeb.QuestNum
import QuestWeb.Text.Affix
import QuestWeb.Text.Numeral

/-!
Where the documents of a dataset are kept, and how the files of quest dialogs are named.
-/

namespace QuestWeb

structure DatasetLayout where
  quests : String
  questDialogs : String
  items : String
  encounters : String
  maps : String
  locationDialogs : String
  deriving DecidableEq, Repr

namespace DatasetLayout

def standard : DatasetLayout where
  quests := "data/quests.json"
  questDialogs := "data/dialogs"
  items := "data/items.json"
  encounters := "data/encounters.json"
  maps := "maps"
  locationDialogs := "dialogs"

def json (layout : DatasetLayout) : Json :=
  .obj [
    ("quests", .str layout.quests),
    ("quest_dialogs", .str layout.questDialogs),
    ("items", .str layout.items),
    ("encounters", .str layout.encounters),
    ("maps", .str layout.maps),
    ("location_dialogs", .str layout.locationDialogs)]

def decoder : Decoder DatasetLayout :=
  .record "DatasetLayout" "DatasetLayout" (DatasetLayout.mk
    <$> .withDefault "quests" .string standard.quests
    <*> .withDefault "quest_dialogs" .string standard.questDialogs
    <*> .withDefault "items" .string standard.items
    <*> .withDefault "encounters" .string standard.encounters
    <*> .withDefault "maps" .string standard.maps
    <*> .withDefault "location_dialogs" .string standard.locationDialogs)

end DatasetLayout

namespace QuestNum

def fileName (num : QuestNum) : String :=
  "quest_" ++ num.padded ++ ".json"

/-- The quest whose dialog file has this name. The number has at least three digits and is not
zero. -/
def ofFileName? (name : String) : Option QuestNum :=
  match (Text.stripStart? "quest_".toList name.toList).bind (Text.stripEnd? ".json".toList) with
  | some digits =>
      match Text.digits? digits with
      | some n =>
          if 3 ≤ digits.length ∧ 0 < n ∧ n < UInt32.size then some ⟨n.toUInt32⟩ else none
      | none => none
  | none => none

end QuestNum

def locationFileName (location : String) : String :=
  "dlg_" ++ location ++ ".json"

namespace DatasetLayout

def questDialog (layout : DatasetLayout) (num : QuestNum) : String :=
  layout.questDialogs ++ "/" ++ num.fileName

def locationDialog (layout : DatasetLayout) (location : String) : String :=
  layout.locationDialogs ++ "/" ++ locationFileName location

end DatasetLayout

end QuestWeb
