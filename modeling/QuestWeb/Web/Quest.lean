import QuestWeb.Quest
import QuestWeb.Web.Words

/-!
The quest records of a web.
-/

namespace QuestWeb.Web

def twoDigits (n : Nat) : String :=
  if n < 10 then "0" ++ toString n else toString n

def questId (catalog : Catalog) : Role → String
  | .prologue => "quest.meta.prologue"
  | .invitation domain => "quest." ++ (catalog.domainAt domain).clause ++ ".invitation"
  | .arc domain step =>
      "quest." ++ (catalog.domainAt domain).clause ++ ".arc." ++ twoDigits (step + 1)
  | .seal domain => "quest." ++ (catalog.domainAt domain).clause ++ ".seal"
  | .keystone => "quest.meta.keystone_trial"
  | .hearing => "quest.meta.censure_hearing"
  | .price => "quest.meta.ladder_price"
  | .finale => "quest.meta.final"

structure Telling where
  name : String
  mechanic : String
  beat : String

def telling (catalog : Catalog) (role : Role) (words : Words) : Except Error Telling :=
  let prose := catalog.prose
  let fill (part : String) (template : Template) : Except Error String :=
    render words (questId catalog role ++ " " ++ part) template
  let tell (name mechanic beat : Template) : Except Error Telling := do
    let name ← fill "name" name
    let mechanic ← fill "mechanic" mechanic
    let beat ← fill "beat" beat
    return ⟨name, mechanic, beat⟩
  match role with
  | .invitation _ => tell prose.invitationName prose.invitationMechanic prose.invitationBeat
  | .arc .. => tell prose.arcName prose.arcMechanic prose.arcBeat
  | .seal _ => tell prose.arcName prose.sealMechanic prose.sealBeat
  | role => do
      let story := (catalog.beat? role).getD catalog.prologue
      let mechanic ← fill "mechanic" story.mechanic
      let beat ← fill "beat" (story.beat.getD prose.defaultBeat)
      return ⟨story.name, mechanic, beat⟩

/-- The gates open in turn: the keystone with enough seals, the hearing with the keystone, the price
with a verdict, and the finale with the boss. -/
def availability (catalog : Catalog) : Role → List Condition
  | .keystone =>
      [.all [.countTrue catalog.sealFlags .ge (Int64.ofNat catalog.keystoneSeals)]]
  | .hearing => [.flag FlagName.keystoneDone .eq (.bool true)]
  | .price => [.flag FlagName.censureMode .ne (.text censureUnresolved)]
  | .finale => [.flag FlagName.bossUnlocked .eq (.bool true)]
  | _ => []

def scoreEffect (catalog : Catalog) (domain : Nat) (delta : Int64) : Effect :=
  .incFlag (FlagName.domainScore (catalog.domainAt domain).key) delta

def outcomes (catalog : Catalog) : Role → List Effect
  | .prologue => []
  | .invitation domain | .arc domain _ => [scoreEffect catalog domain 1]
  | .seal domain =>
      [.grantSeal (catalog.domainAt domain).key, scoreEffect catalog domain 2, .computeBossUnlock]
  | .keystone => [.setFlag FlagName.keystoneDone (.bool true), .computeBossUnlock]
  | .hearing | .price | .finale => [.computeBossUnlock]

def authority (catalog : Catalog) (role : Role) : AuthorityDomain :=
  match role.domain? with
  | some domain => .narrative (catalog.domainAt domain).key
  | none => .story

def minutes (catalog : Catalog) : Role → UInt32
  | .arc .. | .seal _ => catalog.quest.arcMinutes
  | _ => catalog.quest.minutes

def quest (catalog : Catalog) (role : Role) (words : Words) : Except Error Quest := do
  let telling ← telling catalog role words
  let premise ←
    render (("beat", telling.beat) :: words) (questId catalog role ++ " premise")
      catalog.prose.premise
  let num := catalog.layout.num role
  let region := catalog.regionOf num
  return {
    id := questId catalog role
    num := num
    name := telling.name
    region := region.name
    location := some region.id
    domain := authority catalog role
    dependencies := catalog.layout.dependencies role
    availability := availability catalog role
    outcomes := outcomes catalog role
    isTerminal := role = .finale
    tags := catalog.quest.tags
    objectives := catalog.quest.objectives
    rewards := catalog.quest.rewards
    notes := some {
      kind := catalog.quest.kind
      estimatedMinutes := minutes catalog role
      uniqueMechanic := telling.mechanic
      narrativePremise := premise
      playerMotivation := catalog.quest.motivation
      branchingOutcomes := catalog.quest.branching
      failureStates := catalog.quest.failure } }

end QuestWeb.Web
