import QuestWeb.Catalog
import QuestWeb.Decoder.Record

/-!
Catalogs read by type.
-/

namespace QuestWeb.Catalog

def Domain.decoder : Decoder Domain :=
  .record "Domain" "Domain" (Domain.mk
    <$> .required "key" .string
    <*> .required "clause" .string
    <*> .required "title" .string
    <*> .required "virtue" .string
    <*> .required "wound" .string
    <*> .required "verb" .string
    <*> .required "ending" .string
    <*> .required "palette" (.list .string)
    <*> .required "speakers" (.list .string)
    <*> .required "nouns" (.list .string))

def Place.decoder : Decoder Place :=
  .record "RegionInfo" "Region" (Place.mk
    <$> .required "id" .string
    <*> .required "name" .string)

def Beat.decoder : Decoder Beat :=
  .record "Beat" "Beat" (Beat.mk
    <$> .required "name" .string
    <*> .required "mechanic" Template.decoder
    <*> .required "flavour" .count
    <*> .withDefault "beat" (.optional Template.decoder) none)

def Gates.decoder : Decoder Gates :=
  .record "Gates" "Gates" (Gates.mk
    <$> .required "keystone" Beat.decoder
    <*> .required "hearing" Beat.decoder
    <*> .required "price" Beat.decoder
    <*> .required "finale" Beat.decoder)

def QuestDefaults.decoder : Decoder QuestDefaults :=
  .record "QuestDefaults" "QuestDefaults" (QuestDefaults.mk
    <$> .required "kind" .string
    <*> .required "minutes" .uint32
    <*> .required "arc_minutes" .uint32
    <*> .required "tags" (.list .string)
    <*> .required "objectives" (.list .string)
    <*> .required "rewards" (.list .string)
    <*> .required "mechanic" .string
    <*> .required "motivation" .string
    <*> .required "branching" (.list .string)
    <*> .required "failure" .string)

def Prose.decoder : Decoder Prose :=
  .record "Prose" "Prose" (Prose.mk
    <$> .required "premise" Template.decoder
    <*> .required "default_beat" Template.decoder
    <*> .required "invitation_name" Template.decoder
    <*> .required "invitation_mechanic" Template.decoder
    <*> .required "invitation_beat" Template.decoder
    <*> .required "arc_name" Template.decoder
    <*> .required "arc_mechanic" Template.decoder
    <*> .required "arc_beat" Template.decoder
    <*> .required "seal_mechanic" Template.decoder
    <*> .required "seal_beat" Template.decoder)

def KeystoneText.decoder : Decoder KeystoneText :=
  .record "KeystoneText" "KeystoneText" (KeystoneText.mk
    <$> .required "speaker" .string
    <*> .required "open" Template.decoder
    <*> .required "enter" (.list Template.decoder)
    <*> .required "measure" Template.decoder
    <*> .required "take" Template.decoder)

def HearingText.decoder : Decoder HearingText :=
  .record "HearingText" "HearingText" (HearingText.mk
    <$> .required "speaker" .string
    <*> .required "open" Template.decoder
    <*> .required "reduce" Template.decoder
    <*> .required "defy" Template.decoder
    <*> .required "verdict" Template.decoder
    <*> .required "finalize" Template.decoder)

def FinaleText.decoder : Decoder FinaleText :=
  .record "FinaleText" "FinaleText" (FinaleText.mk
    <$> .required "speaker" .string
    <*> .required "open" Template.decoder
    <*> .required "choice" Template.decoder
    <*> .required "ending_suffix" Template.decoder)

def DialogText.decoder : Decoder DialogText :=
  .record "DialogText" "DialogText" (DialogText.mk
    <$> .required "intro" Template.decoder
    <*> .required "hinge_open" Template.decoder
    <*> .required "hinge_line" Template.decoder
    <*> .required "hinge_close" Template.decoder
    <*> .required "vow" Template.decoder
    <*> .required "end" Template.decoder
    <*> .required "narrator" .string
    <*> .required "proceed" (.list Template.decoder)
    <*> .required "clause_choice" Template.decoder
    <*> .required "answer_for" Template.decoder
    <*> .required "answer_against" Template.decoder
    <*> .required "invoke_clause" Template.decoder
    <*> .required "close" (.list Template.decoder)
    <*> .required "keystone" KeystoneText.decoder
    <*> .required "hearing" HearingText.decoder
    <*> .required "finale" FinaleText.decoder)

def decoder : Decoder Catalog :=
  .record "Catalog" "Catalog" (Catalog.mk
    <$> .required "arc_length" .count
    <*> .required "keystone_seals" .count
    <*> .required "regions" (.list Place.decoder)
    <*> .required "verbs" (.list .string)
    <*> .required "domains" (.list Domain.decoder)
    <*> .required "prologue" Beat.decoder
    <*> .required "gates" Gates.decoder
    <*> .required "quest" QuestDefaults.decoder
    <*> .required "prose" Prose.decoder
    <*> .required "dialog" DialogText.decoder)

end QuestWeb.Catalog
