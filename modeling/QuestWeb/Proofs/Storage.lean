import QuestWeb.Proofs.Chapters
import QuestWeb.Proofs.QuestNumbers
import QuestWeb.Proofs.WireForms
import QuestWeb.Web.Write

/-!
Webs in datasets. A dataset stores a web when its documents are the canonical forms of the quest
list and of the dialogs, each dialog under the file name of its quest. Loading the files of a web
gives such a dataset, and such a dataset has the quests of the web.
-/

namespace QuestWeb

theorem Decoder.Carries.read_free {α : Type} {d : Decoder α} {json value : Json} {a : α}
    (carries : d.Carries json a) (freed : json.free? = some value) : d.read value = .ok a := by
  obtain ⟨own, also, read⟩ := carries.canonical
  rw [freed, Option.some.injEq] at also
  exact also ▸ read

namespace Dataset

theorem readRecords_readAll (file : String) (position : Nat) (records : List Json)
    (quests : List Quest) (read : Decoder.readAll Quest.decoder.read records = .ok quests) :
    readRecords file position records = (quests, []) ∧ records.length = quests.length := by
  induction records generalizing position quests with
  | nil =>
      cases read
      exact ⟨rfl, rfl⟩
  | cons record rest ih =>
      unfold Decoder.readAll at read
      cases first : Quest.decoder.read record with
      | error e => simp [first] at read
      | ok quest =>
          cases later : Decoder.readAll Quest.decoder.read rest with
          | error e => simp [first, later] at read
          | ok others =>
              simp only [first, later, Except.ok.injEq] at read
              subst read
              obtain ⟨records, lengths⟩ := ih (position + 1) others later
              simp [readRecords, first, records, lengths]

theorem readQuests_free (web : Web) (document : Document)
    (freed : web.questListJson.free? = some document.value) :
    readQuests document = (web.quests.map Quest.reread, web.quests.length, []) := by
  have read := (Decoder.carries_list Quest.decoder web.quests Quest.json Quest.reread
    fun quest _ => quest.carries).read_free freed
  obtain ⟨file, value⟩ := document
  cases value with
  | arr records =>
      obtain ⟨read, lengths⟩ := readRecords_readAll file 0 records _ read
      simp [readQuests, read, lengths]
  | _ => simp [Decoder.list, Decoder.mismatch] at read

theorem loadNamed_cons (tree : FileTree) (root folder name : String) (rest : List String) :
    (loadNamed tree root folder (name :: rest)).1 =
      match loadDocument tree root (folder ++ "/" ++ name) with
      | .ok document => (name, document) :: (loadNamed tree root folder rest).1
      | .error _ => (loadNamed tree root folder rest).1 := by
  -- Stated by hand, since unfolding a load evaluates the file tree.
  change (match loadDocument tree root (folder ++ "/" ++ name) with
    | .ok document =>
        ((name, document) :: (loadNamed tree root folder rest).1,
          (loadNamed tree root folder rest).2)
    | .error finding =>
        ((loadNamed tree root folder rest).1, finding :: (loadNamed tree root folder rest).2)).1 = _
  cases loadDocument tree root (folder ++ "/" ++ name) <;> rfl

theorem mem_loadNamed (tree : FileTree) (root folder : String) (names : List String)
    (name : String) (document : Document) :
    (name, document) ∈ (loadNamed tree root folder names).1 ↔
      name ∈ names ∧ loadDocument tree root (folder ++ "/" ++ name) = .ok document := by
  induction names with
  | nil =>
      change (name, document) ∈ [] ↔ _
      simp
  | cons first rest ih =>
      rw [loadNamed_cons]
      cases loaded : loadDocument tree root (folder ++ "/" ++ first) with
      | error finding =>
          simp only [ih, List.mem_cons]
          constructor
          · exact fun ⟨listed, found⟩ => ⟨.inr listed, found⟩
          · rintro ⟨rfl | listed, found⟩
            · rw [loaded] at found
              contradiction
            · exact ⟨listed, found⟩
      | ok own =>
          simp only [List.mem_cons, Prod.mk.injEq, ih]
          constructor
          · rintro (⟨rfl, rfl⟩ | ⟨listed, found⟩)
            · exact ⟨.inl rfl, loaded⟩
            · exact ⟨.inr listed, found⟩
          · rintro ⟨rfl | listed, found⟩
            · rw [loaded, Except.ok.injEq] at found
              exact .inl ⟨rfl, found.symm⟩
            · exact .inr ⟨listed, found⟩

theorem loadNamed_names (tree : FileTree) (root folder : String) (names : List String) :
    ((loadNamed tree root folder names).1.map Prod.fst).Sublist names := by
  induction names with
  | nil => exact .slnil
  | cons first rest ih =>
      rw [loadNamed_cons]
      split
      · exact ih.cons_cons first
      · exact ih.cons first

theorem jsonNames_nodup (tree : FileTree) (folder : String) : (tree.jsonNames folder).Nodup := by
  unfold FileTree.jsonNames
  split
  · exact .nil
  · rename_i here _
    have distinct : tree.files.keys.Nodup := Std.ExtTreeMap.nodup_keys
    refine List.Pairwise.filterMap _ ?_ distinct
    intro path other apart name named also found same
    apply apart
    -- A name tells its path, as all of them are in one folder.
    have whole (path : Path) (name : String)
        (named : (if path.dropLast = here then path.getLast?.filter FileTree.isJsonName
          else none) = some name) : path = here ++ [name] := by
      split at named
      · rename_i above
        rw [Option.filter_eq_some_iff, List.getLast?_eq_some_iff] at named
        obtain ⟨⟨before, rfl⟩, _⟩ := named
        rw [← above, List.dropLast_concat]
      · contradiction
    rw [whole path name named, whole other also found, same]

theorem getElem?_loadFolder (tree : FileTree) (root folder name : String) (document : Document) :
    (loadFolder tree root folder).1[name]? = some document ↔
      name ∈ tree.jsonNames (Path.under root folder) ∧
        loadDocument tree root (folder ++ "/" ++ name) = .ok document := by
  rw [loadFolder, getElem?_ofList, mem_loadNamed]
  exact (loadNamed_names tree root folder _).nodup (jsonNames_nodup tree _)

end Dataset

namespace Web

/-- A dataset with the quest list of a web and with its dialogs, and no others. -/
structure Stored (web : Web) (dataset : Dataset) : Prop where
  list : ∃ document, dataset.questsDocument = some document ∧
    web.questListJson.free? = some document.value ∧
    dataset.quests = (Dataset.readQuests document).1 ∧
    dataset.records = (Dataset.readQuests document).2.1
  dialogs : ∀ entry ∈ web.entries, ∃ document,
    dataset.questDialogs[entry.1.fileName]? = some document ∧
      entry.2.json.free? = some document.value
  only : ∀ name ∈ dataset.questDialogs.keys, ∃ entry ∈ web.entries, name = entry.1.fileName

/-- A file tree with the files of a web. Their texts may be laid out in any way. -/
structure Kept (web : Web) (tree : FileTree) (root : String) (layout : DatasetLayout) : Prop where
  list : ∃ document, Dataset.loadDocument tree root layout.quests = .ok document ∧
    web.questListJson.free? = some document.value
  names : ∀ name, name ∈ tree.jsonNames (Path.under root layout.questDialogs) ↔
    ∃ entry ∈ web.entries, name = entry.1.fileName
  dialogs : ∀ entry ∈ web.entries, ∃ document,
    Dataset.loadDocument tree root (layout.questDialogs ++ "/" ++ entry.1.fileName) =
        .ok document ∧
      entry.2.json.free? = some document.value

variable {web : Web}

theorem Kept.stored {tree : FileTree} {root : String} {layout : DatasetLayout}
    (kept : web.Kept tree root layout) : web.Stored (.load tree root layout) := by
  have folder : (Dataset.load tree root layout).questDialogs =
      (Dataset.loadFolder tree root layout.questDialogs).1 := rfl
  constructor
  · obtain ⟨document, loaded, freed⟩ := kept.list
    have tried : Dataset.tryLoad tree root layout.quests = (some document, []) := by
      unfold Dataset.tryLoad
      rw [loaded]
    refine ⟨document, ?_, freed, ?_, ?_⟩
    all_goals
      unfold Dataset.load
      rw [tried]
  · intro entry listed
    obtain ⟨document, loaded, freed⟩ := kept.dialogs entry listed
    refine ⟨document, ?_, freed⟩
    rw [folder, Dataset.getElem?_loadFolder]
    exact ⟨(kept.names _).mpr ⟨entry, listed, rfl⟩, loaded⟩
  · intro name listed
    rw [folder, Std.ExtTreeMap.mem_keys, Std.ExtTreeMap.mem_iff_isSome_getElem?,
      Option.isSome_iff_exists] at listed
    obtain ⟨document, found⟩ := listed
    exact (kept.names name).mp ((Dataset.getElem?_loadFolder ..).mp found).1

namespace Stored

variable {dataset : Dataset} (stored : web.Stored dataset)

include stored

theorem quests : dataset.quests = web.quests.map Quest.reread := by
  obtain ⟨document, _, freed, same, _⟩ := stored.list
  rw [same, Dataset.readQuests_free web document freed]

theorem records : dataset.records = web.quests.length := by
  obtain ⟨document, _, freed, _, same⟩ := stored.list
  rw [same, Dataset.readQuests_free web document freed]

theorem quest?_isSome (num : QuestNum) (listed : num ∈ web.quests.map (·.num)) :
    (dataset.quest? num).isSome = true := by
  obtain ⟨quest, member, rfl⟩ := List.mem_map.mp listed
  unfold Dataset.quest?
  rw [stored.quests, List.find?_isSome]
  exact ⟨quest.reread, List.mem_map_of_mem member, by simp⟩

end Stored

theorem entries_nums (web : Web) :
    (web.entries.map Prod.fst).Sublist (web.quests.map (·.num)) := by
  have pairs (nums : List QuestNum) (dialogs : List Dialog) :
      ((nums.zip dialogs).map Prod.fst).Sublist nums := by
    induction nums generalizing dialogs with
    | nil => exact .slnil
    | cons num rest ih =>
        cases dialogs with
        | nil => exact List.nil_sublist _
        | cons dialog others => exact (ih others).cons_cons num
  exact pairs _ _

theorem entry_num (entry : QuestNum × Dialog) (listed : entry ∈ web.entries) :
    entry.1 ∈ web.quests.map (·.num) :=
  web.entries_nums.subset (List.mem_map_of_mem listed)

namespace Made

variable {catalog : Catalog} (made : Made catalog web)

include made

theorem num_positive (num : QuestNum) (listed : num ∈ web.quests.map (·.num)) : num.val ≠ 0 := by
  rw [made.nums] at listed
  obtain ⟨role, member, rfl⟩ := List.mem_map.mp listed
  have value := catalog.layout.num_val made.fits role ((catalog.layout.mem_roles role).mp member)
  intro zero
  simp [zero] at value

theorem fileNames : (web.entries.map (·.1.fileName)).Nodup := by
  refine nodup_map web.entries Prod.fst (·.1.fileName) ?_ (web.entries_nums.nodup made.distinct)
  exact fun entry _ other _ same => QuestNum.fileName_inj entry.1 other.1 same

theorem exists_stored : ∃ dataset, web.Stored dataset := by
  obtain ⟨list, freed, _⟩ := (Decoder.carries_list Quest.decoder web.quests Quest.json Quest.reread
    fun quest _ => quest.carries).canonical
  let document : Document := ⟨"", list⟩
  let files := web.entries.map fun entry =>
    (entry.1.fileName, (⟨"", (entry.2.json.free?).getD .null⟩ : Document))
  have distinct : (files.map Prod.fst).Nodup := by
    rw [List.map_map]
    exact made.fileNames
  refine ⟨{
    layout := .standard
    quests := (Dataset.readQuests document).1
    records := (Dataset.readQuests document).2.1
    questsDocument := some document
    questDialogs := Std.ExtTreeMap.ofList files
    locationDialogs := ∅
    items := none
    encounters := none
    maps := []
    loadErrors := [] }, ⟨document, rfl, freed, rfl, rfl⟩, ?_, ?_⟩
  · intro entry listed
    obtain ⟨value, free, _⟩ := entry.2.carries.canonical
    refine ⟨⟨"", value⟩, (getElem?_ofList files distinct _ _).mpr ?_, free⟩
    exact List.mem_map.mpr ⟨entry, listed, by simp [free]⟩
  · intro name listed
    rw [Std.ExtTreeMap.mem_keys, Std.ExtTreeMap.mem_iff_isSome_getElem?,
      Option.isSome_iff_exists] at listed
    obtain ⟨document, found⟩ := listed
    rw [getElem?_ofList files distinct] at found
    obtain ⟨entry, member, same⟩ := List.mem_map.mp found
    exact ⟨entry, member, (congrArg Prod.fst same).symm⟩

end Made

end Web

end QuestWeb
