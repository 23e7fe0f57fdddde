import QuestWeb.Catalog.Builtin
import QuestWeb.Dataset.Layout
import QuestWeb.Pattern.Reader
import QuestWeb.Quest.Wire

/-!
What a dataset is checked against. Every setting has a default.
-/

namespace QuestWeb

structure ValidatorConfig where
  layout : DatasetLayout
  questIdPattern : String
  inlineIdPattern : String
  canonicalFiles : List String
  /-- The authorities a quest may name; those of the catalog if absent. -/
  allowedDomains : Option (List String)
  minQuests : Nat
  maxWarningsShown : Nat
  deriving DecidableEq, Repr

/-- Stands for what a reader of settings says about a text that is none. -/
def Ron.faultText : String := "<ron>"

namespace ValidatorConfig

def standardQuestIdPattern : String :=
  "^quest\\.[a-z0-9_\\- ]+(?:\\.[a-z0-9_\\- ]+)\x7b1,8\x7d$"

def standardInlineIdPattern : String :=
  "\\b(?:quest|choice|boss|faction|world|ending)\\.[a-z0-9_\\-]+(?:\\.[a-z0-9_\\-]+)\x7b1,5\x7d\\b"

def standard : ValidatorConfig where
  layout := .standard
  questIdPattern := standardQuestIdPattern
  inlineIdPattern := standardInlineIdPattern
  canonicalFiles := [DatasetLayout.standard.quests]
  allowedDomains := none
  minQuests := 100
  maxWarningsShown := 20

def json (config : ValidatorConfig) : Json :=
  .obj [
    ("layout", config.layout.json),
    ("quest_id_pattern", .str config.questIdPattern),
    ("inline_id_pattern", .str config.inlineIdPattern),
    ("canonical_files", Json.strings config.canonicalFiles),
    ("allowed_domains", (config.allowedDomains.map Json.strings).getD .null),
    ("min_quests", .num (.int config.minQuests)),
    ("max_warnings_shown", .num (.int config.maxWarningsShown))]

def decoder : Decoder ValidatorConfig :=
  .record "ValidatorConfig" "ValidatorConfig" (ValidatorConfig.mk
    <$> .withDefault "layout" DatasetLayout.decoder standard.layout
    <*> .withDefault "quest_id_pattern" .string standard.questIdPattern
    <*> .withDefault "inline_id_pattern" .string standard.inlineIdPattern
    <*> .withDefault "canonical_files" (.list .string) standard.canonicalFiles
    <*> .withDefault "allowed_domains" (.optional (.list .string)) standard.allowedDomains
    <*> .withDefault "min_quests" .count standard.minQuests
    <*> .withDefault "max_warnings_shown" .count standard.maxWarningsShown)

def isCanonicalFile (config : ValidatorConfig) (file : String) : Bool :=
  config.canonicalFiles.contains file

end ValidatorConfig

end QuestWeb
