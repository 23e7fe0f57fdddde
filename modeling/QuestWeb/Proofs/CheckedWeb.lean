import QuestWeb.Proofs.RoleNumbers
import QuestWeb.Proofs.Script

/-!
A web as a machine makes it. A place behind the end of a list, a division by zero, a difference
below zero and a number that is too large have no value here, and whatever comes to one of them has
no result at all. For a catalog that passes its check nothing ever comes to one, as long as its
quests can be numbered.
-/

namespace QuestWeb.Web

/-- A computation that may fail with an error, and that has no result at all if it comes to an
operation without a value. -/
abbrev Checked := ExceptT Error Option

namespace Checked

def minus (a b : Nat) : Option Nat :=
  if b ≤ a then some (a - b) else none

def quotient (a b : Nat) : Option Nat :=
  if b = 0 then none else some (a / b)

def remainder (a b : Nat) : Option Nat :=
  if b = 0 then none else some (a % b)

def size (n : Nat) : Option Nat :=
  if n < UInt64.size then some n else none

def number (place : Nat) : Option QuestNum :=
  if place + 1 < UInt32.size then some (.ofPosition place) else none

def previous (num : QuestNum) : Option QuestNum :=
  if num.val = 0 then none else some ⟨num.val - 1⟩

def roleAt (layout : WebLayout) (position : Nat) : Option (Option Role) := do
  let arcsStart ← size layout.arcsStart
  let gatesStart ← size layout.gatesStart
  if position = 0 then
    return some .prologue
  else if position < arcsStart then
    let domain ← minus position 1
    return some (.invitation domain)
  else if position < gatesStart then
    let offset ← minus position arcsStart
    let domain ← quotient offset layout.arcLength
    let step ← remainder offset layout.arcLength
    return some (layout.arcRole domain step)
  else
    let gate ← minus position gatesStart
    return match gate with
      | 0 => some .keystone
      | 1 => some .hearing
      | 2 => some .price
      | 3 => some .finale
      | _ => none

def role (layout : WebLayout) (num : QuestNum) : Option (Option Role) :=
  match num.position? with
  | some position => roleAt layout position
  | none => some none

def dependencies (layout : WebLayout) (num : QuestNum) : Role → Option (List QuestNum)
  | .prologue => return []
  | .invitation _ | .keystone => return [← number 0]
  | .arc domain 0 => return [← number (1 + domain)]
  | .arc _ (_ + 1) => return [← previous num]
  | .seal domain =>
      if layout.arcLength = 1 then return [← number (1 + domain)]
      else return [← previous num]
  | .hearing => return [← number layout.gatesStart]
  | .price => return [← number (layout.gatesStart + 1)]
  | .finale => return [← number (layout.gatesStart + 2)]

def overrides (layout : WebLayout) :
    Option (Std.ExtTreeMap QuestNum WebLayout.SpecialDialog) := do
  let keystone ← number layout.gatesStart
  let hearing ← number (layout.gatesStart + 1)
  let finale ← number (layout.gatesStart + 3)
  return (∅ : Std.ExtTreeMap QuestNum WebLayout.SpecialDialog)
    |>.insert keystone .keystone
    |>.insert hearing .hearing
    |>.insert finale .finale

def flavour (catalog : Catalog) (role : Role) : Option Catalog.Domain :=
  let index := (role.domain? <|> (catalog.beat? role).map (·.flavour)).getD 0
  catalog.domains[min index (catalog.domains.length - 1)]?

def region (catalog : Catalog) (num : QuestNum) : Option Catalog.Place := do
  let turn ← remainder num.val.toNat catalog.regions.length
  catalog.regions[turn]?

def pick (bank : List String) (seed : Nat) : Option String :=
  if bank.isEmpty then some ""
  else do
    let turn ← remainder seed bank.length
    bank[turn]?

def words (catalog : Catalog) (num : QuestNum) (role : Role) : Option Words := do
  let q := num.val.toNat
  let step := arcStep catalog role
  let domain ← flavour catalog role
  let region ← region catalog num
  let paletteA ← pick domain.palette (← size (q + 1))
  let paletteB ← pick domain.palette (← size (q + 3))
  let paletteC ← pick domain.palette (← size (q + 5))
  let noun ← pick domain.nouns (← size (q + step))
  let verb ← pick catalog.verbs (← size (q * 7 + step))
  let speaker ← pick domain.speakers q
  return [("region", region.name),
    ("region_id", region.id),
    ("key", domain.key),
    ("clause", domain.clause),
    ("title", domain.title),
    ("title_lower", Text.lower domain.title),
    ("virtue", domain.virtue),
    ("wound", domain.wound),
    ("verb", domain.verb),
    ("ending", domain.ending),
    ("palette_a", paletteA),
    ("palette_b", paletteB),
    ("palette_c", paletteC),
    ("name_noun", noun),
    ("name_verb", verb),
    ("speaker", speaker),
    ("domain_count", countWord catalog.domains.length),
    ("seals", toString catalog.keystoneSeals),
    ("quest_num", num.padded)]

def questId (catalog : Catalog) : Role → Option String
  | .invitation domain => do
      let own ← catalog.domains[domain]?
      return "quest." ++ own.clause ++ ".invitation"
  | .arc domain step => do
      let own ← catalog.domains[domain]?
      let count ← size (step + 1)
      return "quest." ++ own.clause ++ ".arc." ++ twoDigits count
  | .seal domain => do
      let own ← catalog.domains[domain]?
      return "quest." ++ own.clause ++ ".seal"
  | .prologue => return "quest.meta.prologue"
  | .keystone => return "quest.meta.keystone_trial"
  | .hearing => return "quest.meta.censure_hearing"
  | .price => return "quest.meta.ladder_price"
  | .finale => return "quest.meta.final"

def telling (catalog : Catalog) (role : Role) (id : String) (words : Words) :
    Except Error Telling :=
  let prose := catalog.prose
  let fill (part : String) (template : Template) : Except Error String :=
    render words (id ++ " " ++ part) template
  let tell (name mechanic beat : Template) : Except Error Telling := do
    let name ← fill "name" name
    let mechanic ← fill "mechanic" mechanic
    let beat ← fill "beat" beat
    return ⟨name, mechanic, beat⟩
  match role with
  | .invitation _ => tell prose.invitationName prose.invitationMechanic prose.invitationBeat
  | .arc .. => tell prose.arcName prose.arcMechanic prose.arcBeat
  | .seal _ => tell prose.arcName prose.sealMechanic prose.sealBeat
  | role => do
      let story := (catalog.beat? role).getD catalog.prologue
      let mechanic ← fill "mechanic" story.mechanic
      let beat ← fill "beat" (story.beat.getD prose.defaultBeat)
      return ⟨story.name, mechanic, beat⟩

def authority (catalog : Catalog) (role : Role) : Option AuthorityDomain :=
  match role.domain? with
  | some domain => do
      let own ← catalog.domains[domain]?
      return .narrative own.key
  | none => return .story

def outcomes (catalog : Catalog) : Role → Option (List Effect)
  | .prologue => return []
  | .invitation domain | .arc domain _ => do
      let own ← catalog.domains[domain]?
      return [.incFlag (FlagName.domainScore own.key) 1]
  | .seal domain => do
      let own ← catalog.domains[domain]?
      return [.grantSeal own.key, .incFlag (FlagName.domainScore own.key) 2, .computeBossUnlock]
  | .keystone => return [.setFlag FlagName.keystoneDone (.bool true), .computeBossUnlock]
  | .hearing | .price | .finale => return [.computeBossUnlock]

def quest (catalog : Catalog) (num : QuestNum) (role : Role) (words : Words) : Checked Quest := do
  let id ← questId catalog role
  let telling ← telling catalog role id words
  let premise ← render (("beat", telling.beat) :: words) (id ++ " premise") catalog.prose.premise
  let authority ← authority catalog role
  let dependencies ← dependencies catalog.layout num role
  let outcomes ← outcomes catalog role
  let region ← region catalog num
  return {
    id := id
    num := num
    name := telling.name
    region := region.name
    location := some region.id
    domain := authority
    dependencies := dependencies
    availability := availability catalog role
    outcomes := outcomes
    isTerminal := role = .finale
    tags := catalog.quest.tags
    objectives := catalog.quest.objectives
    rewards := catalog.quest.rewards
    notes := some {
      kind := catalog.quest.kind
      estimatedMinutes := minutes catalog role
      uniqueMechanic := telling.mechanic
      narrativePremise := premise
      playerMotivation := catalog.quest.motivation
      branchingOutcomes := catalog.quest.branching
      failureStates := catalog.quest.failure } }

section Dialogs

open DialogPlan

variable (plan : DialogPlan) (domain : Catalog.Domain)

def clauseChoices : Except Error (List Choice) :=
  match plan.role with
  | .invitation _ => do
      let text ← plan.fill "clause" plan.catalog.dialog.clauseChoice
      return [choice text "vow" (plan.startEffects ++ [.setClause domain.clause])
        [.flag FlagName.clause .eq (.text "")]]
  | _ => .ok []

def answers : Except Error (List Choice) := do
  let text := plan.catalog.dialog
  let answerFor ← plan.fill "answer" text.answerFor
  let answerAgainst ← plan.fill "answer" text.answerAgainst
  let invoke ← plan.fill "answer" text.invokeClause
  return [
    choice answerFor "vow" [.incFlag (FlagName.domainScore domain.key) 1] [],
    choice answerAgainst "vow" [.incFlag FlagName.censureScore 1] [],
    choice invoke "vow" [.incFlag FlagName.censureScore (-1)]
      [.flag FlagName.clause .ne (.text "")]]

def general : Except Error Dialog := do
  let text := plan.catalog.dialog
  let proceed ← plan.proceedChoices
  let clause ← clauseChoices plan domain
  let hinge ← plan.hingeText
  let answers ← answers plan domain
  let close ← plan.choices "close" "end" plan.completeEffects text.close
  let intro ← plan.fill "intro" text.intro
  let vow ← plan.fill "vow" text.vow
  let ending ← plan.endNode ""
  return plan.dialog [
    ("start", line plan.speaker intro (proceed ++ clause)),
    ("hinge", line plan.speaker hinge answers),
    ("vow", line plan.speaker vow close),
    ("end", ending)]

def build (num : QuestNum) : Checked Dialog := do
  let overrides ← overrides plan.catalog.layout
  match overrides[num]? with
  | some .keystone => plan.keystone
  | some .hearing => plan.hearing
  | some .finale => plan.finale
  | none => general plan domain

end Dialogs

def chapterAt (catalog : Catalog) (place : Nat) (role : Role) : Checked (Quest × Dialog) := do
  let num ← number place
  let found ← Checked.role catalog.layout num
  if found = some role then
    let words ← words catalog num role
    let quest ← quest catalog num role words
    let domain ← flavour catalog role
    let dialog ← build ⟨catalog, role, words⟩ domain num
    return (quest, dialog)
  else throw (.inconsistent "quest number for role" (place + 1) (catalog.layout.num role).val.toNat)

def generate (catalog : Catalog) : Checked Web :=
  match catalog.validate with
  | .error defect => throw (.catalog defect)
  | .ok () => do
      let total ← size catalog.layout.total
      let roles := catalog.layout.roles
      if roles.length = total then
        let chapters ← roles.zipIdx.mapM fun (role, place) => chapterAt catalog place role
        return ⟨chapters.map (·.1), chapters.map (·.2)⟩
      else throw (.inconsistent "quests" total roles.length)

theorem minus_eq (a b : Nat) (least : b ≤ a) : minus a b = some (a - b) :=
  if_pos least

theorem quotient_eq (a b : Nat) (positive : 0 < b) : quotient a b = some (a / b) :=
  if_neg (Nat.ne_of_gt positive)

theorem remainder_eq (a b : Nat) (positive : 0 < b) : remainder a b = some (a % b) :=
  if_neg (Nat.ne_of_gt positive)

theorem size_eq (n : Nat) (small : n < UInt64.size) : size n = some n :=
  if_pos small

theorem number_eq (place : Nat) (small : place + 1 < UInt32.size) :
    number place = some (.ofPosition place) :=
  if_pos small

theorem previous_eq (place : Nat) (small : place + 2 < UInt32.size) :
    previous (.ofPosition (place + 1)) = some (.ofPosition place) := by
  have value := QuestNum.ofPosition_val (place + 1) small
  have positive : (QuestNum.ofPosition (place + 1)).val ≠ 0 := by
    intro zero
    simp [zero] at value
  have one : (1 : UInt32) ≤ (QuestNum.ofPosition (place + 1)).val := by
    rw [UInt32.le_iff_toNat_le, value]
    simp
  rw [previous, if_neg positive, Option.some.injEq, QuestNum.eq_ofPosition_iff _ _ (by omega),
    UInt32.toNat_sub_of_le _ _ one, value]
  rfl

theorem pick_eq (bank : List String) (seed : Nat) : pick bank seed = some (Web.pick bank seed) := by
  unfold pick Web.pick
  cases bank with
  | nil => rfl
  | cons first rest =>
      have inside : seed % (first :: rest).length < (first :: rest).length :=
        Nat.mod_lt _ (Nat.succ_pos _)
      simp only [List.isEmpty_cons, Bool.false_eq_true, ↓reduceIte,
        remainder_eq _ _ (Nat.zero_lt_of_lt inside), Option.bind_eq_bind, Option.bind_some,
        List.getElem?_eq_getElem inside, Option.getD_some]

section Layout

variable (layout : WebLayout)

theorem roleAt_eq (small : layout.gatesStart < UInt64.size) (arc : 0 < layout.arcLength)
    (position : Nat) : roleAt layout position = some (layout.roleAt? position) := by
  have first : layout.arcsStart ≤ layout.gatesStart := Nat.le_add_right _ _
  unfold roleAt WebLayout.roleAt?
  simp only [size_eq _ small, size_eq _ (Nat.lt_of_le_of_lt first small), Option.bind_eq_bind,
    Option.bind_some]
  by_cases zero : position = 0
  · simp [zero]
  by_cases invited : position < layout.arcsStart
  · simp [zero, invited, minus_eq _ _ (Nat.one_le_iff_ne_zero.mpr zero)]
  by_cases early : position < layout.gatesStart
  · simp [zero, invited, early, minus_eq _ _ (Nat.le_of_not_lt invited), quotient_eq _ _ arc,
      remainder_eq _ _ arc]
  · simp only [zero, invited, early, minus_eq _ _ (Nat.le_of_not_lt early), ↓reduceIte,
      Option.bind_some]
    rfl

theorem role_eq (small : layout.gatesStart < UInt64.size) (arc : 0 < layout.arcLength)
    (num : QuestNum) : Checked.role layout num = some (layout.role? num) := by
  unfold Checked.role WebLayout.role?
  cases num.position? with
  | none => rfl
  | some position => exact roleAt_eq layout small arc position

variable (fits : layout.total < UInt32.size)

include fits

theorem number_at (role : Role) (has : layout.Has role) (place : Nat)
    (there : layout.position role = place) : number place = some (layout.num role) := by
  subst there
  exact number_eq _ (Nat.lt_of_le_of_lt (layout.position_lt role has) fits)

theorem overrides_eq : overrides layout = some layout.overrides := by
  simp only [overrides, number_at layout fits .keystone trivial layout.gatesStart rfl,
    number_at layout fits .hearing trivial (layout.gatesStart + 1) rfl,
    number_at layout fits .finale trivial (layout.gatesStart + 3) rfl, Option.bind_eq_bind,
    Option.bind_some]
  rfl

theorem dependencies_eq (role : Role) (has : layout.Has role) :
    dependencies layout (layout.num role) role = some (layout.dependencies role) := by
  have inside := layout.position_lt role has
  cases role with
  | prologue => rfl
  | invitation | keystone =>
      simp [dependencies, WebLayout.dependencies, number_at layout fits .prologue trivial 0 rfl]
  | arc domain step =>
      cases step with
      | zero =>
          simp [dependencies, WebLayout.dependencies,
            number_at layout fits (.invitation domain) has.1 (1 + domain) rfl]
      | succ step =>
          have before : layout.position (.arc domain (step + 1)) =
              layout.arcPosition domain step + 1 := rfl
          rw [before] at inside
          simp [dependencies, WebLayout.dependencies, WebLayout.num, before,
            previous_eq _ (Nat.lt_of_le_of_lt inside fits), WebLayout.arcQuest]
  | «seal» domain =>
      by_cases single : layout.arcLength = 1
      · simp [dependencies, WebLayout.dependencies, single,
          number_at layout fits (.invitation domain) has.1 (1 + domain) rfl]
      · have before : layout.position (.seal domain) =
            layout.arcPosition domain (layout.arcLength - 2) + 1 := by
          have some_ := has.2
          simp only [WebLayout.position, WebLayout.arcPosition]
          omega
        rw [before] at inside
        simp [dependencies, WebLayout.dependencies, single, WebLayout.num, before,
          previous_eq _ (Nat.lt_of_le_of_lt inside fits), WebLayout.arcQuest]
  | hearing =>
      simp [dependencies, WebLayout.dependencies,
        number_at layout fits .keystone trivial layout.gatesStart rfl]
  | price =>
      simp [dependencies, WebLayout.dependencies,
        number_at layout fits .hearing trivial (layout.gatesStart + 1) rfl]
  | finale =>
      simp [dependencies, WebLayout.dependencies,
        number_at layout fits .price trivial (layout.gatesStart + 2) rfl]

end Layout

section Catalogs

variable (catalog : Catalog) (accepted : catalog.Accepted)

section Reads

include accepted

theorem flavour_eq (role : Role) : flavour catalog role = some (catalog.flavour role) := by
  have some_ := List.length_pos_iff.mpr accepted.domains
  unfold flavour Catalog.flavour Catalog.domainAt
  generalize (role.domain? <|> (catalog.beat? role).map (·.flavour)).getD 0 = index
  have inside : min index (catalog.domains.length - 1) < catalog.domains.length := by omega
  rw [List.getElem?_eq_getElem inside, Option.getD_some]

theorem region_eq (num : QuestNum) : region catalog num = some (catalog.regionOf num) := by
  have some_ := List.length_pos_iff.mpr accepted.regions
  have inside : num.val.toNat % catalog.regions.length < catalog.regions.length :=
    Nat.mod_lt _ some_
  simp only [region, Catalog.regionOf, remainder_eq _ _ some_, Option.bind_eq_bind,
    Option.bind_some, List.getElem?_eq_getElem inside, Option.getD_some]

end Reads

/-- Without regions the turn of a quest would be a division by zero. Only the check rules it out. -/
example (num : QuestNum) (without : catalog.regions = []) : region catalog num = none := by
  simp [region, remainder, without]

theorem domain_eq (domain : Nat) (inside : domain < catalog.layout.domains) :
    catalog.domains[domain]? = some (catalog.domainAt domain) := by
  rw [domainAt_eq catalog domain inside, List.getElem?_eq_getElem inside]

theorem authority_eq (role : Role) (has : catalog.layout.Has role) :
    authority catalog role = some (Web.authority catalog role) := by
  cases role with
  | invitation domain => simp [authority, Web.authority, Role.domain?, domain_eq catalog domain has]
  | arc domain | «seal» domain =>
      simp [authority, Web.authority, Role.domain?, domain_eq catalog domain has.1]
  | _ => rfl

theorem outcomes_eq (role : Role) (has : catalog.layout.Has role) :
    outcomes catalog role = some (Web.outcomes catalog role) := by
  cases role with
  | invitation domain => simp [outcomes, Web.outcomes, scoreEffect, domain_eq catalog domain has]
  | arc domain | «seal» domain =>
      simp [outcomes, Web.outcomes, scoreEffect, domain_eq catalog domain has.1]
  | _ => rfl

theorem arcStep_lt (role : Role) (has : catalog.layout.Has role) :
    arcStep catalog role < catalog.layout.total := by
  have inside := catalog.layout.position_lt role has
  cases role with
  | arc domain step =>
      simp only [WebLayout.position, WebLayout.arcPosition] at inside
      simp only [arcStep]
      omega
  | «seal» domain =>
      simp only [WebLayout.position, WebLayout.arcPosition, Catalog.layout] at inside
      simp only [arcStep, Catalog.layout]
      omega
  | _ =>
      simp only [arcStep]
      omega

theorem questId_eq (fits : catalog.layout.total < UInt32.size) (role : Role)
    (has : catalog.layout.Has role) : questId catalog role = some (Web.questId catalog role) := by
  cases role with
  | invitation domain => simp [questId, Web.questId, domain_eq catalog domain has]
  | arc domain step =>
      have early : step < catalog.layout.total := arcStep_lt catalog (.arc domain step) has
      have small : UInt32.size < UInt64.size := by decide
      simp [questId, Web.questId, domain_eq catalog domain has.1, size_eq (step + 1) (by omega)]
  | «seal» domain => simp [questId, Web.questId, domain_eq catalog domain has.1]
  | _ => rfl

theorem words_eq (accepted : catalog.Accepted) (fits : catalog.layout.total < UInt32.size)
    (role : Role) (has : catalog.layout.Has role) :
    words catalog (catalog.layout.num role) role = some (Web.words catalog role) := by
  have early := Nat.lt_trans (arcStep_lt catalog role has) fits
  have small : 8 * UInt32.size ≤ UInt64.size := by decide
  have most := (catalog.layout.num role).val.toNat_lt_size
  have seed (more : Nat) (less : more < UInt32.size) :
      size ((catalog.layout.num role).val.toNat + more) =
        some ((catalog.layout.num role).val.toNat + more) := size_eq _ (by omega)
  have verb : size ((catalog.layout.num role).val.toNat * 7 + arcStep catalog role) =
      some ((catalog.layout.num role).val.toNat * 7 + arcStep catalog role) := size_eq _ (by omega)
  simp only [words, flavour_eq catalog accepted, region_eq catalog accepted, pick_eq,
    seed 1 (by decide), seed 3 (by decide), seed 5 (by decide), seed _ early, verb,
    Option.bind_eq_bind, Option.bind_some]
  rfl

theorem read_bind {α β : Type} (value : α) (next : α → Checked β) :
    (liftM (some value) : Checked α) >>= next = next value :=
  rfl

theorem telling_eq (role : Role) (words : Words) :
    telling catalog role (Web.questId catalog role) words = Web.telling catalog role words := by
  cases role <;> rfl

theorem build_eq (fits : catalog.layout.total < UInt32.size) (role : Role) (words : Words) :
    build ⟨catalog, role, words⟩ (catalog.flavour role) (catalog.layout.num role) =
      liftM (DialogPlan.build ⟨catalog, role, words⟩) := by
  have told : general ⟨catalog, role, words⟩ (catalog.flavour role) =
      DialogPlan.general ⟨catalog, role, words⟩ := by
    cases role <;> rfl
  unfold build DialogPlan.build
  rw [overrides_eq catalog.layout fits, told, read_bind]
  simp only [DialogPlan.num]
  cases catalog.layout.overrides[catalog.layout.num role]? with
  | none => rfl
  | some special => cases special <;> rfl

theorem quest_eq (accepted : catalog.Accepted) (fits : catalog.layout.total < UInt32.size)
    (role : Role) (has : catalog.layout.Has role) (words : Words) :
    quest catalog (catalog.layout.num role) role words = liftM (Web.quest catalog role words) := by
  unfold quest Web.quest
  rw [questId_eq catalog fits role has, read_bind, telling_eq, authority_eq catalog role has,
    outcomes_eq catalog role has, dependencies_eq catalog.layout fits role has,
    region_eq catalog accepted]
  simp only [liftM_bind]
  rfl

theorem chapterAt_eq (accepted : catalog.Accepted) (fits : catalog.layout.total < UInt32.size)
    (place : Nat) (role : Role) (listed : catalog.layout.roles[place]? = some role) :
    chapterAt catalog place role = liftM (Web.chapterAt catalog place role) := by
  obtain ⟨has, rfl, same⟩ := chapterAt_listed catalog fits place role listed
  have found : catalog.layout.role? (catalog.layout.num role) = some role :=
    (catalog.layout.role?_eq_some fits _ role).mpr ⟨has, rfl⟩
  have small : catalog.layout.gatesStart < UInt64.size := by
    have larger : UInt32.size < UInt64.size := by decide
    have gates : catalog.layout.gatesStart + 4 = catalog.layout.total := rfl
    omega
  unfold chapterAt
  rw [same, number_at catalog.layout fits role has _ rfl, read_bind,
    role_eq catalog.layout small accepted.arc, read_bind, if_pos found,
    words_eq catalog accepted fits role has, read_bind, quest_eq catalog accepted fits role has,
    flavour_eq catalog accepted]
  simp only [Web.chapter, liftM_bind, ← build_eq catalog fits]
  rfl

end Catalogs

theorem mapM_lift {α β : Type} (checked : α → Checked β) (step : α → Except Error β)
    (inputs : List α) (each : ∀ a ∈ inputs, checked a = liftM (step a)) :
    inputs.mapM checked = liftM (inputs.mapM step) := by
  induction inputs with
  | nil => rfl
  | cons first rest ih =>
      obtain ⟨here, others⟩ := List.forall_mem_cons.mp each
      simp only [List.mapM_cons, liftM_bind, here, ih others]
      rfl

/-- Where the quests can be numbered, a web is made without an operation that has no value. -/
theorem generate_eq (catalog : Catalog) (fits : catalog.layout.total < UInt32.size) :
    generate catalog = liftM (Web.generate catalog) := by
  unfold generate Web.generate
  cases checked : catalog.validate with
  | error defect => rfl
  | ok =>
      have accepted := catalog.validate_eq_ok.mp checked
      have larger : UInt32.size < UInt64.size := by decide
      have chapters : catalog.layout.roles.zipIdx.mapM (fun entry =>
          chapterAt catalog entry.2 entry.1) =
          liftM (catalog.layout.roles.zipIdx.mapM fun entry =>
            Web.chapterAt catalog entry.2 entry.1) := by
        refine mapM_lift _ _ _ fun entry listed => ?_
        exact chapterAt_eq catalog accepted fits entry.2 entry.1
          (List.mk_mem_zipIdx_iff_getElem?.mp listed)
      simp only [size_eq _ (Nat.lt_trans fits larger), read_bind, catalog.layout.roles_length,
        ↓reduceIte, liftM_bind, ← chapters]
      rfl

end Checked

end QuestWeb.Web
