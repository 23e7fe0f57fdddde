import QuestWeb.Proofs.FileWrites
import QuestWeb.Proofs.PlainForms
import QuestWeb.Proofs.RecordForms
import QuestWeb.Proofs.Storage

/-!
Writing a web into a tree that may hold files already. A quest list of other quests stops the
writing before anything has changed; otherwise the list and the dialogs are written, nothing else
changes, and writing the same web again leaves the tree as it is.
-/

namespace QuestWeb

theorem Json.decoder_read (item value : Json) :
    Json.decoder.read item = .ok value ↔ item.free? = some value := by
  unfold decoder
  dsimp only
  cases item.free? <;> simp

theorem Json.readAll_decoder (items records : List Json) :
    Decoder.readAll decoder.read items = .ok records ↔ freeItems? items = some records := by
  induction items generalizing records with
  | nil => simp [Decoder.readAll, freeItems?]
  | cons item rest ih => simp [Decoder.readAll_cons, freeItems?_cons, decoder_read, ih]

theorem Json.ofText?_records (text : String) (records : List Json) :
    (Decoder.list decoder).ofText? text = some records ↔
      parseFree? text = some (.arr records) := by
  unfold Decoder.ofText? parseFree?
  cases parse? text with
  | none => simp
  | some value =>
      cases value with
      | arr items =>
          have same := readAll_decoder items records
          cases read : Decoder.readAll decoder.read items with
          | error e => simp_all [Decoder.list, free?, Except.toOption]
          | ok own => simp_all [Decoder.list, free?, Except.toOption]
      | _ => simp [Decoder.list, Decoder.mismatch, free?, Except.toOption]

theorem Quest.id_source (members : List (String × Json)) (quest : Quest)
    (read : decoder.read (.obj members) = .ok quest) :
    Json.member? "quest_id" members = some (.str quest.id) := by
  rcases (Decoder.record_ok ..).mp read with ⟨own, same, made⟩ | ⟨items, same, _⟩
  · cases same
    simp only [Fields.fromMembers_seq_ok, Fields.fromMembers_map_ok] at made
    obtain ⟨_, _, ⟨_, _, ⟨_, _, ⟨_, _, ⟨_, _, ⟨_, _, ⟨_, _, ⟨_, _, ⟨_, _, ⟨_, _, ⟨_, _, ⟨_, _,
      ⟨_, _, ⟨id, found, rfl⟩, _, rfl⟩, _, rfl⟩, _, rfl⟩, _, rfl⟩, _, rfl⟩, _, rfl⟩, _, rfl⟩, _,
      rfl⟩, _, rfl⟩, _, rfl⟩, _, rfl⟩, _, rfl⟩, _, rfl⟩ := made
    rcases Fields.field_fromMembers _ _ _ _ _ _ found with absent | ⟨item, read, only⟩
    · cases absent
    · rw [Decoder.string_source item id read] at only
      exact Json.member?_of_filter _ _ _ only
  · cases same

/-- A quest record is told by its identifier, in whatever order its members stand. -/
theorem Quest.free?_id (quest : Quest) (value : Json) (freed : quest.json.free? = some value) :
    value.get? "quest_id" = some (.str quest.id) := by
  have read := quest.carries.read_free freed
  obtain ⟨members, _, rfl⟩ := Option.map_eq_some_iff.mp freed
  rw [Json.get?, id_source members _ read, reread_id]

namespace Web

def Lists (web : Web) (tree : FileTree) (path : String) : Prop :=
  ∃ text records, tree.readText path = .ok text ∧ Json.parseFree? text = some (.arr records) ∧
    records.map (·.get? "quest_id") = web.quests.map fun quest => some (.str quest.id)

theorem otherQuest?_eq_none (place : Nat) (records : List Json) (quests : List Quest)
    (lengths : records.length = quests.length) :
    otherQuest? place records quests = none ↔
      records.map (·.get? "quest_id") = quests.map fun quest => some (.str quest.id) := by
  induction records generalizing place quests with
  | nil =>
      cases quests with
      | nil => simp [otherQuest?]
      | cons quest rest => simp at lengths
  | cons record records ih =>
      cases quests with
      | nil => simp at lengths
      | cons quest rest =>
          have text : (record.get? "quest_id").bind Json.str? = some quest.id ↔
              record.get? "quest_id" = some (.str quest.id) := by
            cases record.get? "quest_id" with
            | none => simp
            | some value => cases value <;> simp [Json.str?]
          have later := ih (place + 1) rest (by simpa using lengths)
          by_cases same : record.get? "quest_id" = some (.str quest.id)
          · simp [otherQuest?, same, Json.str?, later]
          · simp [otherQuest?, mt text.mp same, same]

/-- A list that is there may be replaced exactly if it lists the same quests. -/
theorem guard?_eq_none (web : Web) (tree : FileTree) (root : String) (layout : DatasetLayout) :
    web.guard? tree root layout = none ↔
      (tree.hasPath (Path.under root layout.quests) = true →
        web.Lists tree (Path.under root layout.quests)) := by
  unfold guard?
  dsimp only
  generalize Path.under root layout.quests = path
  cases present : tree.hasPath path with
  | false => simp
  | true =>
      simp only [↓reduceIte, true_implies]
      unfold FileTree.readDocument Lists
      cases found : tree.readText path with
      | error e => simp
      | ok text =>
          have spelled := Json.ofText?_records text
          cases read : (Decoder.list Json.decoder).ofText? text with
          | none => simp [← spelled, read]
          | some records =>
              simp only [read, Option.some.injEq] at spelled
              simp only [Except.ok.injEq, exists_and_left, exists_eq_left', ← spelled]
              rw [read]
              dsimp only
              by_cases lengths : records.length = web.quests.length
              · simp only [lengths, ↓reduceIte, otherQuest?_eq_none 1 records web.quests lengths]
              · simp only [lengths, ↓reduceIte, reduceCtorEq, false_iff]
                intro same
                exact lengths (by simpa using congrArg List.length same)

theorem lists_own (web : Web) (tree : FileTree) (path : String)
    (spelled : Json.parse? web.questListJson.document = some web.questListJson)
    (read : tree.readText path = .ok web.questListJson.document) : web.Lists tree path := by
  have each (quests : List Quest) (values : List Json)
      (freed : Json.freeItems? (quests.map Quest.json) = some values) :
      values.map (·.get? "quest_id") = quests.map fun quest => some (.str quest.id) := by
    induction quests generalizing values with
    | nil =>
        cases freed
        rfl
    | cons quest rest ih =>
        obtain ⟨value, others, own, later, rfl⟩ := (Json.freeItems?_cons ..).mp freed
        rw [List.map_cons, List.map_cons, ih others later, quest.free?_id value own]
  obtain ⟨value, freed, _⟩ := (Decoder.carries_list Quest.decoder web.quests Quest.json
    Quest.reread fun quest _ => quest.carries).canonical
  obtain ⟨values, items, rfl⟩ := Option.map_eq_some_iff.mp freed
  refine ⟨_, values, read, ?_, each web.quests values items⟩
  rw [Json.parseFree?, spelled, Option.bind_some]
  exact freed

def dialogPath (root : String) (layout : DatasetLayout) (num : QuestNum) : String :=
  Path.under root (layout.questDialog num)

theorem writeDocument_ok (tree after : FileTree) (path : String) (value : Json) :
    tree.writeDocument path value = .ok after ↔
      tree.write path (.text value.document) = .ok after := by
  unfold FileTree.writeDocument
  cases tree.write path (.text value.document) <;> simp

section Dialogs

-- Left closed, since opening the writing of dialogs evaluates their paths.
attribute [local irreducible] FileTree.writeDocument

theorem writeDialogs_cons (root : String) (layout : DatasetLayout) (pair : Quest × Dialog)
    (rest : List (Quest × Dialog)) (tree : FileTree) :
    writeDialogs tree root layout (pair :: rest) =
      match tree.writeDocument (dialogPath root layout pair.1.num) pair.2.json with
      | .ok tree => writeDialogs tree root layout rest
      | .error e => (some e, tree) :=
  rfl

end Dialogs

/-- Dialogs that are written are all there in the end, if they are kept apart. -/
theorem writeDialogs_ok (root : String) (layout : DatasetLayout) (pairs : List (Quest × Dialog))
    (tree after : FileTree)
    (apart : (pairs.map fun pair => tree.target (dialogPath root layout pair.1.num)).Nodup)
    (written : writeDialogs tree root layout pairs = (none, after)) :
    tree.Grows after ∧
      (∀ pair ∈ pairs,
        after.Holds (dialogPath root layout pair.1.num) (.text pair.2.json.document)) ∧
      ∀ place, (∀ pair ∈ pairs, place ≠ tree.target (dialogPath root layout pair.1.num)) →
        after.files[place]? = tree.files[place]? := by
  induction pairs generalizing tree with
  | nil =>
      cases written
      exact ⟨.refl _, by simp, fun _ _ => rfl⟩
  | cons pair rest ih =>
      rw [List.map_cons, List.nodup_cons] at apart
      rw [writeDialogs_cons] at written
      cases first : tree.writeDocument (dialogPath root layout pair.1.num) pair.2.json with
      | error e => simp [first] at written
      | ok middle =>
          rw [first] at written
          obtain ⟨holds, grows, others⟩ :=
            tree.write_ok middle _ _ ((writeDocument_ok ..).mp first)
          obtain ⟨later, dialogs, rest⟩ := ih middle (by simpa [grows.target] using apart.2) written
          refine ⟨grows.trans later, ?_, ?_⟩
          · rw [List.forall_mem_cons]
            refine ⟨holds.grows later (rest _ ?_), dialogs⟩
            intro pair listed same
            rw [grows.target, grows.target] at same
            exact apart.1 (List.mem_map.mpr ⟨pair, listed, same.symm⟩)
          · intro place away
            rw [List.forall_mem_cons] at away
            rw [rest place (by simpa [grows.target] using away.2)]
            exact others place away.1

theorem writeDialogs_again (root : String) (layout : DatasetLayout)
    (pairs : List (Quest × Dialog)) (tree : FileTree)
    (holds : ∀ pair ∈ pairs,
      tree.Holds (dialogPath root layout pair.1.num) (.text pair.2.json.document)) :
    writeDialogs tree root layout pairs = (none, tree) := by
  induction pairs with
  | nil => rfl
  | cons pair rest ih =>
      obtain ⟨first, later⟩ := List.forall_mem_cons.mp holds
      rw [writeDialogs_cons, (writeDocument_ok ..).mpr first.write]
      exact ih later

theorem fileName_toList (num : QuestNum) :
    num.fileName.toList = "quest_".toList ++ (num.padded.toList ++ ".json".toList) := by
  simp [QuestNum.fileName, String.toList_append]

theorem fileName_ne (num : QuestNum) (text : String) (other : text.toList.head? ≠ some 'q') :
    num.fileName ≠ text := by
  rintro rfl
  simp [fileName_toList] at other

theorem parts_fileName (num : QuestNum) : Path.parts num.fileName = [num.fileName] := by
  have plain : '/' ∉ num.fileName.toList := by
    have digits : '/' ∉ Nat.toDigits 10 num.val.toNat := by
      intro listed
      exact absurd (Nat.isDigit_of_mem_toDigits (by decide) (by decide) listed) (by decide)
    simp [fileName_toList, num.padded_toList, digits]
  have named : Path.leads num.fileName = true := by
    simp [Path.leads, fileName_ne num "" (by simp), fileName_ne num "." (by simp)]
  rw [Path.parts_plain _ plain]
  simp [named]

theorem target_quests (tree : FileTree) (root : String) :
    tree.target (Path.under root DatasetLayout.standard.quests) =
      tree.target root ++ ["data", "quests.json"] := by
  have parts : Path.parts DatasetLayout.standard.quests = ["data", "quests.json"] := by
    simp [Path.parts, DatasetLayout.standard, Path.partsFrom, Path.leads]
  rw [tree.target_under root _ (by decide +kernel), parts]
  simp [Path.resolve, Path.step]

theorem target_dialog (tree : FileTree) (root : String) (num : QuestNum) :
    tree.target (dialogPath root .standard num) =
      tree.target root ++ ["data", "dialogs", num.fileName] := by
  have spelled : (DatasetLayout.standard.questDialog num).toList =
      "data/dialogs".toList ++ '/' :: num.fileName.toList := by
    simp [DatasetLayout.questDialog, DatasetLayout.standard, String.toList_append]
  have folder : Path.parts "data/dialogs" = ["data", "dialogs"] := by
    simp [Path.parts, Path.partsFrom, Path.leads]
  have parts : Path.parts (DatasetLayout.standard.questDialog num) =
      ["data", "dialogs", num.fileName] := by
    rw [Path.parts_slash _ _ _ spelled, String.ofList_toList, String.ofList_toList, folder,
      parts_fileName]
    rfl
  have relative : Path.isAbsolute (DatasetLayout.standard.questDialog num) = false := by
    simp [Path.isAbsolute, spelled]
  rw [dialogPath, tree.target_under root _ relative, parts]
  have other := fileName_ne num ".." (by simp)
  simp [Path.resolve, Path.step, other]

def paths (web : Web) (root : String) : List String :=
  Path.under root DatasetLayout.standard.quests ::
    web.quests.map fun quest => dialogPath root .standard quest.num

structure Written (web : Web) (tree : FileTree) (root : String) (after : FileTree) : Prop where
  list : after.readText (Path.under root DatasetLayout.standard.quests) =
    .ok web.questListJson.document
  dialogs : ∀ quest ∈ web.quests, ∃ dialog, (quest.num, dialog) ∈ web.entries ∧
    after.readText (dialogPath root .standard quest.num) = .ok dialog.json.document
  apart : ((web.paths root).map after.locate).Nodup
  others : ∀ place, (∀ path ∈ web.paths root, after.locate path ≠ .ok place) →
    after.files[place]? = tree.files[place]?
  folders : ∀ place, tree.isFolder place = true → after.isFolder place = true

structure Present (web : Web) (root : String) (tree : FileTree) : Prop where
  list : tree.Holds (Path.under root DatasetLayout.standard.quests)
    (.text web.questListJson.document)
  dialogs : ∀ pair ∈ web.quests.zip web.dialogs,
    tree.Holds (dialogPath root .standard pair.1.num) (.text pair.2.json.document)

variable {catalog : Catalog} {web : Web}

theorem paths_apart (made : Made catalog web) (tree : FileTree) (root : String) :
    ((web.paths root).map tree.target).Nodup := by
  have names : (web.quests.map (·.num.fileName)).Nodup := by
    refine nodup_map web.quests (·.num) (·.num.fileName) ?_ made.distinct
    exact fun quest _ other _ same => QuestNum.fileName_inj _ _ same
  have dialogs : (web.quests.map fun quest => dialogPath root .standard quest.num).map tree.target =
      (web.quests.map (·.num.fileName)).map
        fun name => tree.target root ++ ["data", "dialogs", name] := by
    simp [target_dialog]
  rw [paths, List.map_cons, dialogs, target_quests, List.nodup_cons]
  constructor
  · simp
  · refine List.Pairwise.map _ ?_ names
    intro name other apart
    simpa using apart

theorem zip_dialogs (generated : generate catalog = .ok web) :
    (web.quests.zip web.dialogs).map Prod.fst = web.quests ∧
      web.entries = (web.quests.zip web.dialogs).map fun pair => (pair.1.num, pair.2) := by
  obtain ⟨_, _, chapters, _, rfl⟩ := generate_ok catalog web generated
  constructor
  · rw [List.zip_map', List.map_map]
    rfl
  · rw [entries, List.map_map, List.zip_map', List.zip_map', List.map_map]
    rfl

namespace Present

variable {tree : FileTree} {root : String} (present : web.Present root tree)

include present

theorem holds (generated : generate catalog = .ok web) (path : String)
    (listed : path ∈ web.paths root) : ∃ content, tree.Holds path content := by
  rcases List.mem_cons.mp listed with rfl | dialog
  · exact ⟨_, present.list⟩
  · obtain ⟨quest, own, rfl⟩ := List.mem_map.mp dialog
    rw [← (zip_dialogs generated).1] at own
    obtain ⟨pair, member, rfl⟩ := List.mem_map.mp own
    exact ⟨_, present.dialogs pair member⟩

theorem again (made : Made catalog web) : web.write tree root .standard false = (.ok (), tree) := by
  have free : web.guard? tree root .standard = none :=
    (web.guard?_eq_none tree root .standard).mpr fun _ =>
      web.lists_own tree _ made.questList_parsed present.list.readText
  have list := (writeDocument_ok ..).mpr present.list.write
  unfold write
  simp only [Bool.false_eq_true, ↓reduceIte, free, list,
    writeDialogs_again root .standard _ tree present.dialogs]

end Present

theorem write_ok (web : Web) (tree after : FileTree) (root : String) (layout : DatasetLayout)
    (force : Bool) (written : web.write tree root layout force = (.ok (), after)) :
    ∃ middle, tree.writeDocument (Path.under root layout.quests) web.questListJson = .ok middle ∧
      writeDialogs middle root layout (web.quests.zip web.dialogs) = (none, after) := by
  unfold write at written
  dsimp only at written
  split at written
  · simp at written
  · cases list : tree.writeDocument (Path.under root layout.quests) web.questListJson with
    | error e => simp [list] at written
    | ok middle =>
        rw [list] at written
        rcases dialogs : writeDialogs middle root layout (web.quests.zip web.dialogs) with
          ⟨_ | e, last⟩
        · simp only [dialogs, Prod.mk.injEq, true_and] at written
          exact ⟨middle, rfl, by rw [dialogs, written]⟩
        · simp [dialogs] at written

theorem write_cases (web : Web) (tree : FileTree) (root : String) (layout : DatasetLayout) :
    (∃ guard, web.guard? tree root layout = some guard ∧
      web.write tree root layout false =
        (.error (.guarded (Path.under root layout.quests) guard), tree)) ∨
    (web.guard? tree root layout = none ∧
      ∃ after, (∃ e, web.write tree root layout false = (.error (.document e), after)) ∨
        web.write tree root layout false = (.ok (), after)) := by
  unfold write
  simp only [Bool.false_eq_true, ↓reduceIte]
  cases web.guard? tree root layout with
  | some guard => exact .inl ⟨guard, rfl, rfl⟩
  | none =>
      right
      cases tree.writeDocument (Path.under root layout.quests) web.questListJson with
      | error e => exact ⟨rfl, tree, .inl ⟨e, rfl⟩⟩
      | ok middle =>
          rcases written : writeDialogs middle root layout (web.quests.zip web.dialogs) with
            ⟨_ | e, after⟩
          · exact ⟨rfl, after, .inr (by simp [written])⟩
          · exact ⟨rfl, after, .inl ⟨e, by simp [written]⟩⟩

section Writing

-- Left closed, since comparing paths evaluates them.
attribute [local irreducible] Path.under dialogPath

variable {tree after : FileTree} {root : String} {force : Bool}

/-- The list and the dialogs are all there once they have been written, and nothing else has
changed. -/
theorem present_written (generated : generate catalog = .ok web) (made : Made catalog web)
    (written : web.write tree root .standard force = (.ok (), after)) :
    web.Present root after ∧ tree.Grows after ∧
      ∀ place, (∀ path ∈ web.paths root, place ≠ tree.target path) →
        after.files[place]? = tree.files[place]? := by
  obtain ⟨middle, list, dialogs⟩ := web.write_ok tree after root .standard force written
  obtain ⟨zipped, _⟩ := zip_dialogs generated
  have pairs : web.quests.map (fun quest => dialogPath root .standard quest.num) =
      (web.quests.zip web.dialogs).map fun pair => dialogPath root .standard pair.1.num := by
    have same := congrArg (List.map fun quest => dialogPath root .standard quest.num) zipped
    rw [List.map_map] at same
    exact same.symm
  have apart := paths_apart made middle root
  rw [paths, pairs, List.map_cons, List.map_map, List.nodup_cons] at apart
  obtain ⟨first, grows, others⟩ := tree.write_ok middle _ _ ((writeDocument_ok ..).mp list)
  obtain ⟨later, each, rest⟩ := writeDialogs_ok _ _ _ _ _ apart.2 dialogs
  have kept := rest (middle.target (Path.under root DatasetLayout.standard.quests)) <| by
    intro pair listed same
    exact apart.1 (List.mem_map.mpr ⟨pair, listed, same.symm⟩)
  refine ⟨⟨first.grows later kept, each⟩, grows.trans later, ?_⟩
  intro place away
  rw [paths, pairs, List.forall_mem_cons, List.forall_mem_map] at away
  rw [rest place (by simpa [grows.target] using away.2), others place away.1]

theorem Present.written (present : web.Present root after) (generated : generate catalog = .ok web)
    (made : Made catalog web) (grows : tree.Grows after)
    (others : ∀ place, (∀ path ∈ web.paths root, place ≠ tree.target path) →
      after.files[place]? = tree.files[place]?) : web.Written tree root after where
  list := present.list.readText
  dialogs := by
    obtain ⟨zipped, entries⟩ := zip_dialogs generated
    intro quest listed
    rw [← zipped] at listed
    obtain ⟨pair, member, rfl⟩ := List.mem_map.mp listed
    refine ⟨pair.2, ?_, (present.dialogs pair member).readText⟩
    rw [entries]
    exact List.mem_map_of_mem member
  apart := by
    have located : (web.paths root).map after.locate =
        ((web.paths root).map after.target).map Except.ok := by
      rw [List.map_map]
      apply List.map_congr_left
      intro path listed
      obtain ⟨content, holds⟩ := present.holds generated path listed
      exact holds.located
    rw [located]
    refine List.Pairwise.map Except.ok ?_ (paths_apart made after root)
    intro place other apart same
    exact apart (Except.ok.inj same)
  others := by
    intro place away
    apply others
    rintro path listed rfl
    obtain ⟨content, holds⟩ := present.holds generated path listed
    rw [← grows.target] at away
    exact away path listed holds.located
  folders := grows.folders

end Writing

/-- Writing a web is refused exactly if there is a quest list of other quests, and then the tree
stays as it is. Otherwise the files of the web are written and no others, and writing the web again
changes nothing. -/
theorem write_guarded (catalog : Catalog) (web : Web) (generated : generate catalog = .ok web)
    (tree : FileTree) (root : String)
    (io : ∀ error, (web.write tree root .standard false).1 ≠ .error (.document error)) :
    ((∃ path guard, (web.write tree root .standard false).1 = .error (.guarded path guard)) ↔
      tree.hasPath (Path.under root DatasetLayout.standard.quests) = true ∧
        ¬ web.Lists tree (Path.under root DatasetLayout.standard.quests)) ∧
    (∀ path guard, (web.write tree root .standard false).1 = .error (.guarded path guard) →
      (web.write tree root .standard false).2 = tree) ∧
    (¬ (tree.hasPath (Path.under root DatasetLayout.standard.quests) = true ∧
        ¬ web.Lists tree (Path.under root DatasetLayout.standard.quests)) →
      ∃ after, web.write tree root .standard false = (.ok (), after) ∧
        web.Written tree root after ∧
          web.write after root .standard false = (.ok (), after)) := by
  have made := generate_made catalog web generated (generate_ok catalog web generated).2.1
  have free := web.guard?_eq_none tree root .standard
  rcases web.write_cases tree root .standard with ⟨guard, guarded, result⟩ |
    ⟨unguarded, after, ⟨e, result⟩ | result⟩
  · have refused := Classical.not_imp.mp (mt free.mpr (by simp [guarded]))
    simp [result, refused]
  · rw [result] at io
    exact absurd rfl (io e)
  · have fine := free.mp unguarded
    obtain ⟨present, grows, others⟩ := present_written generated made result
    refine ⟨by simpa [result] using fine, by simp [result], fun _ => ?_⟩
    exact ⟨after, result, present.written generated made grows others, present.again made⟩

theorem exists_write (catalog : Catalog)
    (fine : (generate catalog).toOption.map
      (fun web => (web.write .empty "" .standard false).1.isOk) = some true) :
    ∃ web after, generate catalog = .ok web ∧
      web.write .empty "" .standard false = (.ok (), after) := by
  cases generated : generate catalog with
  | error e => simp [generated, Except.toOption] at fine
  | ok web =>
      rcases written : web.write .empty "" .standard false with ⟨_ | done, after⟩
      · simp [generated, written, Except.toOption, Except.isOk, Except.toBool] at fine
      · exact ⟨web, after, rfl, written⟩

theorem write_triad : ∃ web after, generate triad = .ok web ∧
    web.write .empty "" .standard false = (.ok (), after) :=
  exists_write triad (by decide +kernel)

theorem write_guarded_triad : ∃ web after, generate triad = .ok web ∧
    (∀ error, (web.write .empty "" .standard false).1 ≠ .error (.document error)) ∧
      web.write .empty "" .standard false = (.ok (), after) ∧ web.Written .empty "" after ∧
        web.write after "" .standard false = (.ok (), after) := by
  obtain ⟨web, after, generated, result⟩ := write_triad
  have fresh : FileTree.empty.hasPath (Path.under "" DatasetLayout.standard.quests) = false := by
    decide +kernel
  have io : ∀ error, (web.write .empty "" .standard false).1 ≠ .error (.document error) := by
    simp [result]
  obtain ⟨_, _, written⟩ := write_guarded triad web generated .empty "" io
  obtain ⟨last, same, files, again⟩ := written (by simp [fresh])
  rw [result, Prod.mk.injEq] at same
  obtain ⟨_, rfl⟩ := same
  exact ⟨web, after, generated, io, result, files, again⟩

end Web

end QuestWeb
