import QuestWeb.Proofs.Overwrite
import QuestWeb.Proofs.Rereading
import QuestWeb.Proofs.UpperCase

/-!
Webs that are written and loaded again. Every dialog comes back as it was, and so does every quest
whose domain has no blanks around its key. The play of the files is the play of the web in memory
whatever the keys are.
-/

namespace QuestWeb

namespace Web

theorem isJsonName_fileName (num : QuestNum) : FileTree.isJsonName num.fileName = true := by
  simp [FileTree.isJsonName, fileName_toList]

theorem dialogPath_slash (root : String) (num : QuestNum) :
    dialogPath root .standard num =
      Path.under root DatasetLayout.standard.questDialogs ++ "/" ++ num.fileName := by
  rw [dialogPath, DatasetLayout.questDialog, String.append_assoc,
    Path.under_append _ _ _ (by decide +kernel) (by decide +kernel), String.append_assoc]

theorem asksFolder_dialogs (root : String) :
    Path.asksFolder (Path.under root DatasetLayout.standard.questDialogs) = false := by
  have spelled : DatasetLayout.standard.questDialogs = "data" ++ ("/" ++ "dialogs") := by
    decide +kernel
  rw [spelled, Path.under_append _ _ _ (by decide +kernel) (by decide +kernel),
    ← String.append_assoc]
  exact Path.asksFolder_slash _ _ (by decide +kernel) (by decide +kernel)

end Web

theorem AuthorityDomain.ofName_narrative (key : String) (upper : Catalog.isUpperKey key = true)
    (free : key ≠ "META") : ofName key = .narrative key ↔ Text.trim key = key := by
  simp only [Catalog.isUpperKey, Bool.and_eq_true, bne_iff_ne, beq_iff_eq] at upper
  obtain ⟨some_, upper⟩ := upper
  constructor
  · intro named
    have own : Text.upper (Text.trim key) = key := by
      rw [← ofName_key, named, AuthorityDomain.key]
    have trimmed := Text.trim_upper_trim key
    rwa [own] at trimmed
  · intro trimmed
    simp only [ofName, trimmed, ← upper, some_, free, ↓reduceIte]

theorem Quest.reread_eq_iff (quest : Quest) :
    quest.reread = quest ↔ .ofName quest.domain.key = quest.domain := by
  constructor
  · intro same
    rw [← reread_domain, same]
  · intro same
    rw [reread, same]

/-- The quests of a web come back as they were exactly if no domain has blanks around its key. -/
theorem Web.Made.reread_quests {catalog : Catalog} {web : Web} (made : Web.Made catalog web) :
    web.quests.map Quest.reread = web.quests ↔
      ∀ domain ∈ catalog.domains, Text.trim domain.key = domain.key := by
  have each : web.quests.map Quest.reread = web.quests ↔
      ∀ quest ∈ web.quests, quest.reread = quest := by
    conv => lhs; rhs; rw [← List.map_id web.quests]
    exact List.map_inj_left
  have named (domain : Catalog.Domain) (listed : domain ∈ catalog.domains) :=
    AuthorityDomain.ofName_narrative domain.key (made.accepted.each domain listed).upper
      (made.accepted.each domain listed).free
  rw [each]
  constructor
  -- Every domain has an invitation, which carries its key.
  · intro kept domain listed
    obtain ⟨place, inside, rfl⟩ := List.mem_iff_getElem.mp listed
    obtain ⟨quest, own, recorded⟩ := made.record (.invitation place) inside
    have same := (quest.reread_eq_iff).mp (kept quest own)
    rw [recorded.domain, Web.authority] at same
    simp only [Role.domain?, AuthorityDomain.key, Web.domainAt_eq catalog place inside] at same
    exact (named _ listed).mp same
  · intro trimmed quest listed
    obtain ⟨role, _, recorded⟩ := made.recorded quest listed
    rw [quest.reread_eq_iff, recorded.domain, Web.authority]
    cases role.domain? with
    | none =>
        have story : AuthorityDomain.ofName "META" = .story := by decide +kernel
        exact story
    | some place =>
        have own := Web.domainAt_mem catalog made.accepted place
        exact (named _ own).mpr (trimmed _ own)

theorem Dataset.loadDocument_ok (tree : FileTree) (root file text : String) (json value : Json)
    (read : tree.readText (Path.under root file) = .ok text) (parsed : Json.parse? text = some json)
    (freed : json.free? = some value) : loadDocument tree root file = .ok ⟨file, value⟩ := by
  have spelled : Json.parseFree? text = some value := by
    rw [Json.parseFree?, parsed, Option.bind_some, freed]
  unfold loadDocument
  rw [read]
  dsimp only
  rw [spelled]

namespace Web

variable {catalog : Catalog} {web : Web}

namespace Present

variable {tree : FileTree} {root : String} (present : web.Present root tree)

include present

theorem load_quests (made : Made catalog web) :
    (Dataset.load tree root .standard).quests = web.quests.map Quest.reread := by
  obtain ⟨list, freed, _⟩ := (Decoder.carries_list Quest.decoder web.quests Quest.json Quest.reread
    fun quest _ => quest.carries).canonical
  have loaded := Dataset.loadDocument_ok tree root DatasetLayout.standard.quests _ _ _
    present.list.readText made.questList_parsed freed
  have tried : Dataset.tryLoad tree root DatasetLayout.standard.quests =
      (some ⟨DatasetLayout.standard.quests, list⟩, []) := by
    unfold Dataset.tryLoad
    rw [loaded]
  have read := Dataset.readQuests_free web ⟨DatasetLayout.standard.quests, list⟩ freed
  unfold Dataset.load
  rw [tried]
  dsimp only
  rw [read]

theorem dialog_holds (generated : generate catalog = .ok web) (entry : QuestNum × Dialog)
    (listed : entry ∈ web.entries) :
    tree.Holds (dialogPath root .standard entry.1) (.text entry.2.json.document) := by
  rw [(zip_dialogs generated).2] at listed
  obtain ⟨pair, member, rfl⟩ := List.mem_map.mp listed
  exact present.dialogs pair member

theorem load_dialog (generated : generate catalog = .ok web) (made : Made catalog web)
    (entry : QuestNum × Dialog) (listed : entry ∈ web.entries) :
    ∃ document, (Dataset.load tree root .standard).questDialogs[entry.1.fileName]? =
      some document ∧ document.read Dialog.decoder = .ok entry.2 := by
  have holds := present.dialog_holds generated entry listed
  obtain ⟨value, freed, read⟩ := entry.2.carries.canonical
  have loaded := Dataset.loadDocument_ok tree root (DatasetLayout.standard.questDialog entry.1)
    _ _ _ holds.readText (made.dialog_parsed entry listed) freed
  have folder : (Dataset.load tree root .standard).questDialogs =
      (Dataset.loadFolder tree root DatasetLayout.standard.questDialogs).1 := rfl
  refine ⟨⟨DatasetLayout.standard.questDialog entry.1, value⟩, ?_, by rw [Document.read, read]⟩
  rw [folder, Dataset.getElem?_loadFolder]
  refine ⟨?_, loaded⟩
  rw [dialogPath_slash] at holds
  exact holds.mem_jsonNames (asksFolder_dialogs root) (parts_fileName entry.1)
    (fileName_ne entry.1 ".." (by simp)) (isJsonName_fileName entry.1)

theorem fetch (generated : generate catalog = .ok web) (made : Made catalog web)
    (entry : QuestNum × Dialog) (listed : entry ∈ web.entries) :
    DialogSource.fetch (⟨tree, root, .standard⟩ : DialogFolder) (.quest entry.1) =
      .ok entry.2 := by
  have text : tree.readText (Path.under root (DatasetLayout.standard.questDialog entry.1)) =
      .ok entry.2.json.document := (present.dialog_holds generated entry listed).readText
  have read : tree.readDocument Dialog.decoder
      (Path.under root (DatasetLayout.standard.questDialog entry.1)) = .ok entry.2 := by
    unfold FileTree.readDocument Decoder.ofText?
    rw [text]
    dsimp only
    rw [made.dialog_parsed entry listed]
    dsimp only
    rw [entry.2.carries.written]
    rfl
  simp only [DialogSource.fetch, DialogFolder.pathOf, read]

end Present

def fileEngine (tree : FileTree) (root : String) (state : GameState) : Engine DialogFolder :=
  .new ⟨tree, root, .standard⟩ (Dataset.load tree root .standard).quests state

/-- A web that is written is loaded with the same dialogs and with the same quests, apart from the
blanks around the keys of their domains; and the files are played like the web in memory. -/
theorem reloaded (catalog : Catalog) (web : Web) (generated : generate catalog = .ok web)
    (tree after : FileTree) (root : String) (force : Bool)
    (written : web.write tree root .standard force = (.ok (), after)) :
    (Dataset.load after root .standard).quests = web.quests.map Quest.reread ∧
    ((Dataset.load after root .standard).quests = web.quests ↔
      ∀ domain ∈ catalog.domains, Text.trim domain.key = domain.key) ∧
    (∀ entry ∈ web.entries, ∃ document,
      (Dataset.load after root .standard).questDialogs[entry.1.fileName]? = some document ∧
        document.read Dialog.decoder = .ok entry.2) ∧
    ∀ (state : GameState) (moves : List Engine.Move),
      (∀ key, .start key ∈ moves → web.dialogTable.contains key = true) →
        ((fileEngine after root state).run moves).Mirrors ((web.engine state).run moves) ∧
          ((fileEngine after root state).run moves).offeredChoices =
            ((web.engine state).run moves).offeredChoices ∧
          ((fileEngine after root state).run moves).renderedText? =
            ((web.engine state).run moves).renderedText? := by
  have made := generate_made catalog web generated (generate_ok catalog web generated).2.1
  obtain ⟨present, _, _⟩ := present_written generated made written
  have quests := present.load_quests made
  refine ⟨quests, by rw [quests, made.reread_quests], present.load_dialog generated made, ?_⟩
  intro state moves listed
  have begins : (fileEngine after root state).Mirrors (web.engine state) := by
    rw [fileEngine, quests]
    exact Engine.mirrors_new ..
  have mirrors := begins.run moves ?_
  · exact ⟨mirrors, mirrors.offeredChoices, mirrors.renderedText?⟩
  intro key started
  obtain ⟨dialog, found⟩ := Option.isSome_iff_exists.mp (listed key started)
  have entry := found
  rw [dialogTable, DialogTable.ofQuestDialogs_eq] at entry
  obtain ⟨pair, own, same⟩ := List.mem_map.mp (DialogTable.mem_of_get? _ _ _ entry)
  obtain ⟨rfl, rfl⟩ := Prod.mk.inj same
  have inMemory : DialogSource.fetch web.dialogTable (.quest pair.1) = .ok pair.2 := by
    simp only [DialogSource.fetch, found]
  exact Engine.agrees_new _ _ _ _ _ _ pair.2 (present.fetch generated made pair own) inMemory

theorem reloaded_triad : ∃ web after, generate triad = .ok web ∧
    web.write .empty "" .standard false = (.ok (), after) ∧
      (Dataset.load after "" .standard).quests = web.quests := by
  obtain ⟨web, after, generated, written⟩ := write_triad
  obtain ⟨_, quests, _⟩ := reloaded triad web generated .empty after "" false written
  exact ⟨web, after, generated, written, quests.mpr (by decide +kernel)⟩

def blankTriad : Catalog :=
  { triad with domains := triad.domains.map fun domain => { domain with key := " " ++ domain.key } }

/-- A web with such domains is not loaded as it was written. -/
theorem blank_keys_lost : ∃ web after, generate blankTriad = .ok web ∧
    web.write .empty "" .standard false = (.ok (), after) ∧
      (Dataset.load after "" .standard).quests ≠ web.quests := by
  obtain ⟨web, after, generated, written⟩ := exists_write blankTriad (by decide +kernel)
  have made := generate_made _ web generated (generate_ok _ web generated).2.1
  obtain ⟨present, _, _⟩ := present_written generated made written
  have blank : ¬ ∀ domain ∈ blankTriad.domains, Text.trim domain.key = domain.key := by
    decide +kernel
  refine ⟨web, after, generated, written, ?_⟩
  rw [present.load_quests made]
  exact mt made.reread_quests.mp blank

end Web

end QuestWeb
