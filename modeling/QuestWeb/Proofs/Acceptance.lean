import QuestWeb.Proofs.Dependencies
import QuestWeb.Proofs.DialogReach
import QuestWeb.Proofs.Findings
import QuestWeb.Proofs.QuestIds
import QuestWeb.Proofs.Scenes
import QuestWeb.Proofs.Storage
import QuestWeb.Proofs.UpperCase

/-!
Webs at the gate. The checks of quests and of their dialogs find nothing in a dataset that stores a
web, when they ask for its authorities, for the standard form of identifiers and for no more quests
than it has.
-/

namespace QuestWeb.Web

variable {catalog : Catalog} {web : Web}

namespace DialogPlan

variable {plan : DialogPlan} {dialog : Dialog}

/-- From every node before the end, the choices that are always on offer lead on to one that
completes the quest. -/
theorem Scripted.completes_from (scripted : Scripted plan dialog) (limit : Nat) (id : String)
    (enough : rank id < limit) (led : dialog.Leads id) (there : dialog.hasNode id = true)
    (open_ : id ≠ "end") : dialog.completesReachably plan.num = true := by
  induction limit generalizing id with
  | zero => omega
  | succ limit ih =>
      obtain ⟨node, standing⟩ := (Dialog.hasNode_iff dialog id).mp there
      have staged := scripted.staged id node standing
      cases staged with
      | ending speaker text => exact absurd rfl open_
      | playing _ speaker text choices before scenes free =>
          obtain ⟨choice, listed, _⟩ := free
          have scene := scenes choice listed
          -- The free choice completes the quest, or leads to a node of lower rank before the end.
          by_cases last : choice.next = "end"
          · exact (Dialog.completesReachably_iff dialog plan.num).mpr
              ⟨id, _, led, standing, choice, listed, scene.completes.mp last⟩
          · have next := scripted.leads id _ standing choice listed
            have less := scene.rank_lt
            refine ih choice.next (by omega) (.next id choice.next led ?_) next last
            exact (Dialog.mem_successors dialog id choice.next).mpr
              ⟨_, standing, ⟨choice, listed, rfl⟩, next⟩

theorem Scripted.defects_eq_nil (scripted : Scripted plan dialog) :
    dialog.defects (some plan.num) = [] := by
  rw [Dialog.defects_eq_nil]
  refine ⟨scripted.playable, ?_⟩
  rintro num ⟨⟩
  have begins := scripted.begins
  have led : dialog.Leads dialog.start := .start (by rw [scripted.start, begins])
  rw [scripted.start] at led
  exact scripted.completes_from 4 "start" (by decide) led begins (by decide)

theorem Scripted.effectsResolve (scripted : Scripted plan dialog) (dataset : Dataset)
    (known : (dataset.quest? plan.num).isSome = true) :
    Validator.EffectsResolve dataset dialog := by
  intro id node standing choice offered effect applied num named
  cases scripted.staged id node standing with
  | ending speaker text => simp at offered
  | playing _ speaker text choices before scenes free =>
      rw [(scenes choice offered).quest effect applied num named]
      exact known

end DialogPlan

theorem authority_mem (accepted : catalog.Accepted) (role : Role) :
    (authority catalog role).key ∈ catalog.authorityDomains := by
  unfold authority
  cases role.domain? with
  | none => simp [AuthorityDomain.key, Catalog.authorityDomains]
  | some domain =>
      have listed := domainAt_mem catalog accepted domain
      exact List.mem_cons_of_mem _ (List.mem_cons_of_mem _ (List.mem_map_of_mem listed))

namespace Made

variable (made : Made catalog web)

include made

theorem ids : (web.quests.map (·.id)).Nodup := by
  refine nodup_map web.quests (·.num) (·.id) ?_ made.distinct
  intro quest listed other also same
  obtain ⟨role, has, recorded⟩ := made.recorded quest listed
  obtain ⟨otherRole, otherHas, otherRecorded⟩ := made.recorded other also
  rw [recorded.id, otherRecorded.id] at same
  rw [recorded.num, otherRecorded.num,
    questId_inj made.accepted role otherRole has otherHas same]

theorem num_at (index : Nat) (quest : Quest) (standing : web.quests[index]? = some quest) :
    quest.num = .ofPosition index := by
  have nums : web.quests.map (·.num) =
      (List.range catalog.layout.total).map QuestNum.ofPosition := by
    rw [made.nums, ← catalog.layout.roles_position, List.map_map]
    rfl
  -- Read at one index, the list of numbers says that of the quest there.
  have place := congrArg (·[index]?) nums
  simp only [List.getElem?_map, standing, Option.map_some] at place
  obtain ⟨position, inside, same⟩ := Option.map_eq_some_iff.mp place.symm
  obtain ⟨_, rfl⟩ := List.getElem?_eq_some_iff.mp inside
  rw [← same, List.getElem_range]

theorem ordered : DependencyGraph.Ordered (web.quests.map Quest.reread) := by
  constructor
  · intro index quest standing
    rw [List.getElem?_map, Option.map_eq_some_iff] at standing
    obtain ⟨own, standing, rfl⟩ := standing
    rw [Quest.reread_num, made.num_at index own standing]
  · intro index quest standing num depends
    rw [List.getElem?_map, Option.map_eq_some_iff] at standing
    obtain ⟨own, standing, rfl⟩ := standing
    obtain ⟨role, has, recorded⟩ := made.recorded own (List.mem_of_getElem? standing)
    rw [Quest.reread_dependencies, recorded.dependencies] at depends
    obtain ⟨other, otherHas, rfl, before⟩ := catalog.layout.dependencies_before role has num depends
    have inside : index < catalog.layout.total := by
      rw [← made.length]
      exact (List.getElem?_eq_some_iff.mp standing).1
    have early := catalog.layout.position_lt role has
    have fits := made.fits
    have place : index = catalog.layout.position role := by
      apply QuestNum.ofPosition_inj index _ (by omega) (by omega)
      exact (made.num_at index own standing).symm.trans recorded.num
    exact ⟨catalog.layout.position other, by omega, rfl⟩

end Made

end QuestWeb.Web

namespace QuestWeb.Validator

variable {catalog : Catalog} {web : Web} {config : ValidatorConfig} {validator : Validator}
  {dataset : Dataset}

structure Suits (validator : Validator) (catalog : Catalog) : Prop where
  ids : validator.questId = Pattern.questId.automaton
  domains : validator.allowedDomains =
    catalog.authorityDomains.map fun name => Text.upper (Text.trim name)
  quests : validator.config.minQuests ≤ catalog.layout.total

theorem ofText?_standard :
    Automaton.ofText? ValidatorConfig.standardQuestIdPattern =
      some Pattern.questId.automaton := by
  rw [Automaton.ofText?, Pattern.parse_standardQuestId, Option.map_some]

theorem exists_build (domains : List String)
    (standard : config.questIdPattern = ValidatorConfig.standardQuestIdPattern)
    (readable : (Automaton.ofText? config.inlineIdPattern).isSome = true) :
    ∃ validator, build config domains = .ok validator := by
  obtain ⟨inlineId, read⟩ := Option.isSome_iff_exists.mp readable
  exact ⟨_, by rw [build, standard, ofText?_standard, read]⟩

theorem suits_of_build (built : build config catalog.authorityDomains = .ok validator)
    (standard : config.questIdPattern = ValidatorConfig.standardQuestIdPattern)
    (derived : config.allowedDomains = none) (enough : config.minQuests ≤ catalog.layout.total) :
    validator.Suits catalog := by
  unfold build at built
  rw [standard, ofText?_standard] at built
  split at built
  · contradiction
  · contradiction
  · rename_i questId inlineId own _
    rw [Option.some.injEq] at own
    cases built
    exact ⟨own.symm, by rw [derived, Option.getD_none], enough⟩

section Stored

variable (made : Web.Made catalog web)

include made

theorem questFindings_reread (suits : validator.Suits catalog) (quest : Quest)
    (listed : quest ∈ web.quests) : validator.questFindings dataset none quest.reread = [] := by
  obtain ⟨role, has, recorded⟩ := made.recorded quest listed
  have canonical : validator.questId.isFound quest.reread.id = true := by
    rw [suits.ids, Quest.reread_id, recorded.id]
    exact Web.questId_isFound made.accepted role
  have allowed : validator.allowedDomains.contains quest.reread.domain.key = true := by
    rw [suits.domains, Quest.reread_domain, AuthorityDomain.ofName_key, recorded.domain,
      List.contains_iff_mem]
    exact List.mem_map_of_mem (Web.authority_mem made.accepted role)
  have resolved : quest.reread.outcomes.filterMap (missingQuest? dataset
      (validator.config.layout.quests ++ " quest " ++ toString quest.reread.num)) = [] := by
    rw [List.filterMap_eq_nil_iff, Quest.reread_outcomes]
    intro effect outcome
    rw [missingQuest?_eq_none]
    intro num named
    rw [made.outcome_names_none quest listed effect outcome] at named
    contradiction
  simp only [questFindings, canonical, allowed, resolved, ↓reduceIte, List.append_nil]

theorem checkQuests_stored (suits : validator.Suits catalog) (stored : web.Stored dataset) :
    validator.checkQuests dataset = [] := by
  obtain ⟨document, found, _⟩ := stored.list
  have total := made.length
  have fits := made.fits
  have enough := suits.quests
  have several : validator.eachQuest dataset ∅ dataset.quests = [] := by
    rw [stored.quests]
    apply eachQuest_eq_nil
    · simpa [Function.comp_def] using made.ids
    · simp
    · simpa using validator.questFindings_reread made suits
  -- The check counts the records read, and all of them are quests.
  have dependencies := made.ordered.check_eq_nil (by rw [List.length_map]; omega)
    validator.config.layout.quests
  rw [List.length_map, ← stored.quests, ← stored.records] at dependencies
  have counted : ¬ dataset.records < validator.config.minQuests := by
    rw [stored.records]
    omega
  simp only [checkQuests, found, several, dependencies, counted, Option.isNone_some,
    Bool.false_eq_true, ↓reduceIte, List.append_nil]

variable (stored : web.Stored dataset)

include stored

theorem questDialogFindings_stored (quest : Quest) (listed : quest ∈ web.quests) :
    validator.questDialogFindings dataset quest.num = [] := by
  obtain ⟨role, has, recorded⟩ := made.recorded quest listed
  obtain ⟨entry, member, num⟩ := made.script role has
  obtain ⟨other, otherHas, otherNum, scripted⟩ := made.scripted entry member
  obtain ⟨document, found, freed⟩ := stored.dialogs entry member
  have same : entry.1 = quest.num := num.trans recorded.num.symm
  have own : (Web.plan catalog other).num = quest.num := otherNum.symm.trans same
  have read : document.read Dialog.decoder = .ok entry.2 := by
    rw [Document.read, entry.2.carries.read_free freed]
  have owner : ownerFindings document.file entry.2 quest.num = [] := by
    rw [ownerFindings_eq_nil, scripted.quest, own]
  have sound : dialogFindings dataset document.file (some quest.num) entry.2 = [] := by
    rw [dialogFindings_eq_nil, ← own]
    refine ⟨scripted.defects_eq_nil, scripted.effectsResolve dataset ?_⟩
    rw [own]
    exact stored.quest?_isSome quest.num (List.mem_map_of_mem listed)
  rw [same] at found
  simp only [questDialogFindings, found, read, owner, sound, List.append_nil]

theorem checkQuestDialogs_stored : validator.checkQuestDialogs dataset = [] := by
  rw [checkQuestDialogs, stored.quests, List.flatMap_map, List.flatMap_eq_nil_iff]
  intro quest listed
  rw [Quest.reread_num]
  exact validator.questDialogFindings_stored made stored quest listed

theorem strayDialogs_stored : validator.strayDialogs dataset = [] := by
  rw [strayDialogs, List.map_eq_nil_iff, List.filter_eq_nil_iff]
  intro name listed
  obtain ⟨entry, member, rfl⟩ := stored.only name listed
  have num := Web.entry_num entry member
  simp [isOwned, QuestNum.ofFileName?_of_fileName entry.1 (made.num_positive _ num),
    stored.quest?_isSome _ num]

end Stored

end QuestWeb.Validator

namespace QuestWeb.Web

/-- A generated web passes the gate. It can be stored, loading its files stores it, and wherever it
is stored its quests are all read back and nothing is found wrong with them or their dialogs. -/
theorem generate_accepted (catalog : Catalog) (web : Web) (generated : generate catalog = .ok web)
    (fits : catalog.layout.total < UInt32.size) (config : ValidatorConfig) (validator : Validator)
    (built : Validator.build config catalog.authorityDomains = .ok validator)
    (standard : config.questIdPattern = ValidatorConfig.standardQuestIdPattern)
    (derived : config.allowedDomains = none) (enough : config.minQuests ≤ catalog.layout.total) :
    (∃ dataset, web.Stored dataset) ∧
      (∀ tree root, web.Kept tree root config.layout →
        web.Stored (.load tree root config.layout)) ∧
      ∀ dataset, web.Stored dataset →
        dataset.quests = web.quests.map Quest.reread ∧
        dataset.records = catalog.layout.total ∧
        validator.checkQuests dataset = [] ∧
        validator.checkQuestDialogs dataset = [] ∧
        validator.strayDialogs dataset = [] := by
  have made := generate_made catalog web generated fits
  have suits := Validator.suits_of_build built standard derived enough
  refine ⟨made.exists_stored, fun _ _ kept => kept.stored, fun dataset stored => ?_⟩
  refine ⟨stored.quests, stored.records.trans made.length, ?_, ?_, ?_⟩
  · exact Validator.checkQuests_stored made suits stored
  · exact Validator.checkQuestDialogs_stored made stored
  · exact Validator.strayDialogs_stored made stored

def triadConfig : ValidatorConfig :=
  { ValidatorConfig.standard with inlineIdPattern := "boss", minQuests := 14 }

theorem generate_accepted_triad : ∃ web validator, generate triad = .ok web ∧
    Validator.build triadConfig triad.authorityDomains = .ok validator ∧
    ∃ dataset, web.Stored dataset ∧ dataset.records = 14 ∧
      validator.checkQuests dataset = [] ∧
      validator.checkQuestDialogs dataset = [] ∧
      validator.strayDialogs dataset = [] := by
  obtain ⟨web, generated⟩ := generate_triad
  have standard : triadConfig.questIdPattern = ValidatorConfig.standardQuestIdPattern := rfl
  have readable : (Automaton.ofText? triadConfig.inlineIdPattern).isSome = true := by
    decide +kernel
  obtain ⟨validator, built⟩ := Validator.exists_build triad.authorityDomains standard readable
  obtain ⟨⟨dataset, stored⟩, _, checked⟩ := generate_accepted triad web generated (by decide)
    triadConfig validator built standard rfl (by decide)
  obtain ⟨_, records, clean⟩ := checked dataset stored
  exact ⟨web, validator, generated, built, dataset, stored, records, clean⟩

end QuestWeb.Web
