import QuestWeb.Decoder.Record
import QuestWeb.Effect.Wire
import QuestWeb.Text.Blank

/-!
The world a dataset describes beside its quests: items, maps and encounters.
-/

namespace QuestWeb

structure Item where
  id : String
  name : Option String
  weight : Binary64
  deriving DecidableEq, Repr

structure Exit where
  target : String
  deriving DecidableEq, Repr

structure PlacedItem where
  id : String
  deriving DecidableEq, Repr

structure Region where
  id : String
  name : Option String
  exits : List Exit
  items : List PlacedItem
  deriving DecidableEq, Repr

structure WorldMap where
  regions : List Region
  deriving DecidableEq, Repr

inductive ActId where
  | number (value : UInt32)
  | name (value : String)
  deriving DecidableEq, Repr

structure Spawn where
  id : Option String
  deriving DecidableEq, Repr

structure Encounter where
  id : Option String
  region : Option String
  act : Option ActId
  spawns : Option (List Spawn)
  deriving DecidableEq, Repr

inductive EncounterShape where
  | flat (id : String)
  | table (ids : List (Option String))
  | malformed
  deriving DecidableEq, Repr

def namedId (id : Option String) : Option String :=
  id.filter (!Text.isBlankText ·)

/-- An id decides first; a table needs a region that is not blank, an act and its spawns. -/
def Encounter.shape (encounter : Encounter) : EncounterShape :=
  match namedId encounter.id with
  | some id => .flat id
  | none =>
      match namedId encounter.region, encounter.act, encounter.spawns with
      | some _, some _, some spawns => .table (spawns.map (namedId ·.id))
      | _, _, _ => .malformed

namespace Item

def json (item : Item) : Json :=
  .obj ([("id", .str item.id)] ++ Json.optionalMember "name" (item.name.map .str) ++
    [("weight", .num (.float item.weight))])

def decoder : Decoder Item :=
  .record "Item" "Item" (Item.mk
    <$> .withDefault "id" .string ""
    <*> .withDefault "name" (.optional .string) none
    <*> .withDefault "weight" .real (Binary64.ofNat 0))

end Item

namespace Exit

def json (exit : Exit) : Json :=
  .obj [("to", .str exit.target)]

def decoder : Decoder Exit :=
  .record "Exit" "Exit" (Exit.mk <$> .withDefault "to" .string "")

end Exit

namespace PlacedItem

def json (item : PlacedItem) : Json :=
  .obj [("id", .str item.id)]

def decoder : Decoder PlacedItem :=
  .record "PlacedItem" "PlacedItem" (PlacedItem.mk <$> .withDefault "id" .string "")

end PlacedItem

namespace Region

def json (region : Region) : Json :=
  .obj ([("id", .str region.id)] ++ Json.optionalMember "name" (region.name.map .str) ++
    [("exits", .arr (region.exits.map Exit.json)),
      ("items", .arr (region.items.map PlacedItem.json))])

def decoder : Decoder Region :=
  .record "Region" "Region" (Region.mk
    <$> .withDefault "id" .string ""
    <*> .withDefault "name" (.optional .string) none
    <*> .withDefault "exits" (.list Exit.decoder) []
    <*> .withDefault "items" (.list PlacedItem.decoder) [])

end Region

namespace WorldMap

def json (map : WorldMap) : Json :=
  .obj [("regions", .arr (map.regions.map Region.json))]

def decoder : Decoder WorldMap :=
  .record "MapDoc" "MapDoc" (WorldMap.mk <$> .withDefault "regions" (.list Region.decoder) [])

end WorldMap

namespace ActId

def json : ActId → Json
  | .number value => .num (.int value.toNat)
  | .name value => .str value

def decoder : Decoder ActId where
  shape := .any
  read
    | .str value => .ok (.name value)
    | value =>
        match Decoder.uint32.read value with
        | .ok n => .ok (.number n)
        | .error _ => .error (.noVariant "ActId")

end ActId

namespace Spawn

def json (spawn : Spawn) : Json :=
  .obj [("id", (spawn.id.map Json.str).getD .null)]

def decoder : Decoder Spawn :=
  .record "Spawn" "Spawn" (Spawn.mk <$> .withDefault "id" (.optional .string) none)

end Spawn

namespace Encounter

def json (encounter : Encounter) : Json :=
  .obj [
    ("id", (encounter.id.map Json.str).getD .null),
    ("region", (encounter.region.map Json.str).getD .null),
    ("act", (encounter.act.map ActId.json).getD .null),
    ("spawns", (encounter.spawns.map fun spawns => Json.arr (spawns.map Spawn.json)).getD .null)]

def decoder : Decoder Encounter :=
  .record "EncounterEntry" "EncounterEntry" (Encounter.mk
    <$> .withDefault "id" (.optional .string) none
    <*> .withDefault "region" (.optional .string) none
    <*> .withDefault "act" (.optional ActId.decoder) none
    <*> .withDefault "spawns" (.optional (.list Spawn.decoder)) none)

end Encounter

end QuestWeb
