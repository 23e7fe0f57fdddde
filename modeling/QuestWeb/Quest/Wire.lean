import QuestWeb.Dialog.Wire
import QuestWeb.Quest

/-!
Quest records as JSON.
-/

namespace QuestWeb

def Json.strings (texts : List String) : Json :=
  .arr (texts.map .str)

namespace AuthorityDomain

def json (domain : AuthorityDomain) : Json :=
  .str domain.key

def decoder : Decoder AuthorityDomain :=
  Decoder.string.map ofName

end AuthorityDomain

namespace QuestMeta

def json (notes : QuestMeta) : Json :=
  .obj [
    ("type", .str notes.kind),
    ("estimated_minutes", .num (.int notes.estimatedMinutes.toNat)),
    ("unique_mechanic", .str notes.uniqueMechanic),
    ("narrative_premise", .str notes.narrativePremise),
    ("player_motivation", .str notes.playerMotivation),
    ("branching_outcomes", Json.strings notes.branchingOutcomes),
    ("failure_states", .str notes.failureStates)]

def decoder : Decoder QuestMeta :=
  .record "QuestMeta" "QuestMeta" (QuestMeta.mk
    <$> .required "type" .string
    <*> .required "estimated_minutes" .uint32
    <*> .required "unique_mechanic" .string
    <*> .required "narrative_premise" .string
    <*> .required "player_motivation" .string
    <*> .withDefault "branching_outcomes" (.list .string) []
    <*> .required "failure_states" .string)

end QuestMeta

namespace Quest

def json (quest : Quest) : Json :=
  .obj ([
    ("quest_id", .str quest.id),
    ("quest_num", quest.num.json),
    ("name", .str quest.name),
    ("region", .str quest.region)] ++
    Json.optionalMember "location" (quest.location.map .str) ++ [
    ("authority_domain", quest.domain.json),
    ("dependencies", .arr (quest.dependencies.map QuestNum.json))] ++
    Json.listMember "availability_conditions" (quest.availability.map Condition.json) ++ [
    ("outcomes", .arr (quest.outcomes.map Effect.json)),
    ("is_terminal", .bool quest.isTerminal),
    ("tags", Json.strings quest.tags),
    ("objectives", Json.strings quest.objectives),
    ("rewards", Json.strings quest.rewards)] ++
    Json.optionalMember "_meta" (quest.notes.map QuestMeta.json))

def decoder : Decoder Quest :=
  .record "Quest" "Quest" (Quest.mk
    <$> .required "quest_id" .string
    <*> .required "quest_num" QuestNum.decoder
    <*> .required "name" .string
    <*> .required "region" .string
    <*> .withDefault "location" (.optional .string) none
    <*> .withDefault "authority_domain" AuthorityDomain.decoder .unbound
    <*> .withDefault "dependencies" (.list QuestNum.decoder) []
    <*> .withDefault "availability_conditions" (.list Condition.decoder) []
    <*> .withDefault "outcomes" (.list Effect.decoder) []
    <*> .withDefault "is_terminal" .bool false
    <*> .withDefault "tags" (.list .string) []
    <*> .withDefault "objectives" (.list .string) []
    <*> .withDefault "rewards" (.list .string) []
    <*> .withDefault "_meta" (.optional QuestMeta.decoder) none)

end Quest

end QuestWeb
