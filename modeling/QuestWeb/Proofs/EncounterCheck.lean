import Mathlib.Algebra.GroupWithZero.Nat
import Mathlib.Data.List.Dedup
import QuestWeb.Proofs.DialogFiles
import QuestWeb.Proofs.WorldCheck

/-!
The check of encounters. Identifiers are read from both shapes of an encounter into one table, in
the order of the document. Something is found at an encounter of no shape, at a spawn without an
identifier, and where an identifier stands that stood before; at each of these places once, and
nowhere else.
-/

namespace QuestWeb

theorem Report.warnAll_stats (report : Report) (warnings : List String) :
    (report.warnAll warnings).stats = report.stats := by
  induction warnings generalizing report with
  | nil => rfl
  | cons warning rest ih =>
      have step : report.warnAll (warning :: rest) = (report.warn warning).warnAll rest := rfl
      rw [step, ih, warn]
      split <;> rfl

namespace Encounter

def lacking (encounter : Encounter) : Nat :=
  match encounter.shape with
  | .flat _ => 0
  | .table ids => ids.count none
  | .malformed => 1

structure IsTable (encounter : Encounter) (spawns : List Spawn) : Prop where
  nameless : namedId encounter.id = none
  placed : (namedId encounter.region).isSome
  timed : encounter.act.isSome
  listed : encounter.spawns = some spawns

theorem shape_eq_table (encounter : Encounter) (ids : List (Option String)) :
    encounter.shape = .table ids ↔
      ∃ spawns, encounter.IsTable spawns ∧ ids = spawns.map (namedId ·.id) := by
  constructor
  · intro same
    unfold shape at same
    split at same
    · cases same
    · rename_i nameless
      split at same
      · rename_i region act spawns placed timed listed
        cases same
        exact ⟨spawns, ⟨nameless, by simp [placed], by simp [timed], listed⟩, rfl⟩
      · cases same
  · rintro ⟨spawns, ⟨nameless, placed, timed, listed⟩, rfl⟩
    obtain ⟨region, placed⟩ := Option.isSome_iff_exists.mp placed
    obtain ⟨act, timed⟩ := Option.isSome_iff_exists.mp timed
    simp only [shape, nameless, placed, timed, listed]

theorem shape_eq_malformed (encounter : Encounter) : encounter.shape = .malformed ↔
    namedId encounter.id = none ∧ ∀ spawns, ¬ encounter.IsTable spawns := by
  constructor
  · intro same
    refine ⟨?_, fun spawns table => ?_⟩
    · cases named : namedId encounter.id with
      | none => rfl
      | some id => simp [shape, named] at same
    · rw [(encounter.shape_eq_table _).mpr ⟨spawns, table, rfl⟩] at same
      cases same
  · rintro ⟨nameless, tableless⟩
    cases shape : encounter.shape with
    | flat id =>
        simp only [Encounter.shape, nameless] at shape
        split at shape <;> cases shape
    | table ids =>
        obtain ⟨spawns, table, _⟩ := (encounter.shape_eq_table ids).mp shape
        exact absurd table (tableless spawns)
    | malformed => rfl

end Encounter

namespace Validator

def spawnEntry (file : String) (index spawn : Nat) : String :=
  entry (entry file index ++ ".spawns") spawn

def idsAt (file : String) (index : Nat) (encounter : Encounter) : List (String × String) :=
  match encounter.shape with
  | .flat id => [(entry file index, id)]
  | .table ids =>
      ids.zipIdx.filterMap fun (id, spawn) => id.map fun id => (spawnEntry file index spawn, id)
  | .malformed => []

def encounterIds (file : String) (encounters : List Encounter) : List (String × String) :=
  encounters.zipIdx.flatMap fun (encounter, index) => idsAt file index encounter

def firstPlace? (ids : List (String × String)) (id : String) : Option String :=
  (ids.find? (·.2 == id)).map Prod.fst

def againFinding (place id first : String) : Finding :=
  .referential place ("duplicate encounter id '" ++ id ++ "' (first at " ++ first ++ ")")

inductive EncounterFault (file : String) (encounters : List Encounter) : Finding → Prop where
  | empty (none : encounters = []) :
      EncounterFault file encounters (.schema file "no encounters defined")
  | malformed (encounter : Encounter) (index : Nat) (listed : encounters[index]? = some encounter)
      (nameless : namedId encounter.id = none) (tableless : ∀ spawns, ¬ encounter.IsTable spawns) :
      EncounterFault file encounters
        (.schema (entry file index) "encounter needs an id or a region/act/spawns table")
  | unnamed (encounter : Encounter) (index : Nat) (listed : encounters[index]? = some encounter)
      (spawns : List Spawn) (table : encounter.IsTable spawns)
      (spawn : Spawn) (number : Nat) (held : spawns[number]? = some spawn)
      (nameless : namedId spawn.id = none) :
      EncounterFault file encounters (.schema (spawnEntry file index number) "spawn missing id")
  | again (before after : List (String × String)) (place id first : String)
      (split : encounterIds file encounters = before ++ (place, id) :: after)
      (earlier : firstPlace? before id = some first) :
      EncounterFault file encounters (againFinding place id first)

def Tells (table : Std.ExtTreeMap String String) (ids : List (String × String)) : Prop :=
  ∀ id, table[id]? = firstPlace? ids id

theorem mem_table {table : Std.ExtTreeMap String String} {id first : String}
    (known : table[id]? = some first) : id ∈ table := by
  rw [Std.ExtTreeMap.mem_iff_isSome_getElem?, known]
  rfl

theorem tells_empty : Tells ∅ [] :=
  fun id => by simp [firstPlace?]

theorem firstPlace?_append (before after : List (String × String)) (id : String) :
    firstPlace? (before ++ after) id = (firstPlace? before id).or (firstPlace? after id) := by
  rw [firstPlace?, List.find?_append]
  cases found : before.find? (·.2 == id) <;> simp [firstPlace?, found]

theorem Tells.insertIfNew {table : Std.ExtTreeMap String String} {ids : List (String × String)}
    (tells : Tells table ids) (place id : String) :
    Tells (table.insertIfNew id place) (ids ++ [(place, id)]) := by
  intro other
  have known := tells other
  rw [firstPlace?_append, ← known, Std.ExtTreeMap.getElem?_insertIfNew]
  by_cases same : id = other
  · subst same
    cases found : table[id]? with
    | none =>
        have absent := (getElem?_eq_none_iff table id).mp found
        simp [absent, firstPlace?]
    | some first =>
        have present := mem_table found
        simp [present]
  · simp [same, firstPlace?]

theorem Tells.size {table : Std.ExtTreeMap String String} {ids : List (String × String)}
    (tells : Tells table ids) : table.size = (ids.map Prod.snd).dedup.length := by
  rw [← Std.ExtTreeMap.length_keys]
  refine ((List.perm_ext_iff_of_nodup Std.ExtTreeMap.nodup_keys (List.nodup_dedup _)).mpr
    fun id => ?_).length_eq
  rw [Std.ExtTreeMap.mem_keys, Std.ExtTreeMap.mem_iff_isSome_getElem?, tells id, firstPlace?,
    Option.isSome_map, List.find?_isSome, List.mem_dedup, List.mem_map]
  simp

namespace EncounterMark

def named? : EncounterMark → Option (String × String)
  | .id place name => some (place, name)
  | .fault _ => none

def place? : EncounterMark → Option String
  | .id place _ => some place
  | .fault finding => finding.place?

end EncounterMark

def names (marks : List EncounterMark) : List (String × String) :=
  marks.filterMap EncounterMark.named?

theorem names_nil : names [] = [] :=
  rfl

@[simp]
theorem names_id (place id : String) (rest : List EncounterMark) :
    names (.id place id :: rest) = (place, id) :: names rest :=
  rfl

@[simp]
theorem names_fault (finding : Finding) (rest : List EncounterMark) :
    names (.fault finding :: rest) = names rest :=
  rfl

section Marks

variable {table : Std.ExtTreeMap String String} {ids : List (String × String)}

theorem encounterFindings_id (table : Std.ExtTreeMap String String) (place id : String)
    (rest : List EncounterMark) : encounterFindings table (.id place id :: rest) =
      let (next, findings) := encounterFindings (table.insertIfNew id place) rest
      (next, (table[id]?).toList.map (againFinding place id) ++ findings) := by
  cases known : table[id]? with
  | none =>
      have absent := (getElem?_eq_none_iff table id).mp known
      have next : table.insertIfNew id place = table.insert id place := by
        ext other : 1
        simp [Std.ExtTreeMap.getElem?_insertIfNew, Std.ExtTreeMap.getElem?_insert, absent]
      simp [encounterFindings, known, next]
  | some first =>
      have present := mem_table known
      have next : table.insertIfNew id place = table := by
        ext other : 1
        simp [Std.ExtTreeMap.getElem?_insertIfNew, present]
      simp [encounterFindings, known, next, againFinding]

theorem Tells.encounterFindings (tells : Tells table ids) (marks : List EncounterMark) :
    Tells (encounterFindings table marks).1 (ids ++ names marks) := by
  induction marks generalizing table ids with
  | nil => simpa [Validator.encounterFindings, names] using tells
  | cons mark rest ih =>
      cases mark with
      | fault finding => exact ih tells
      | id place id =>
          rw [encounterFindings_id, names_id, List.append_cons]
          exact ih (tells.insertIfNew place id)

theorem mem_encounterFindings (tells : Tells table ids) (marks : List EncounterMark)
    (finding : Finding) : finding ∈ (encounterFindings table marks).2 ↔
      .fault finding ∈ marks ∨ ∃ before after place id first,
        names marks = before ++ (place, id) :: after ∧
          firstPlace? (ids ++ before) id = some first ∧ finding = againFinding place id first := by
  induction marks generalizing table ids with
  | nil => simp [encounterFindings, names]
  | cons mark rest ih =>
      cases mark with
      | fault other =>
          simp only [encounterFindings, List.mem_cons, ih tells, EncounterMark.fault.injEq,
            names_fault, or_assoc]
      | id own name =>
          simp only [encounterFindings_id, List.mem_append, List.mem_map, Option.mem_toList,
            ih (tells.insertIfNew own name), tells name, List.mem_cons, reduceCtorEq, false_or,
            names_id]
          constructor
          · rintro (⟨first, known, rfl⟩ | fault | ⟨before, after, place, id, first, split, earlier⟩)
            · exact .inr ⟨[], names rest, own, name, first, rfl, by simpa using known, rfl⟩
            · exact .inl fault
            · refine .inr ⟨(own, name) :: before, after, place, id, first, by rw [split]; rfl, ?_⟩
              simpa using earlier
          · rintro (fault | ⟨before, after, place, id, first, split, earlier, rfl⟩)
            · exact .inr (.inl fault)
            · cases before with
              | nil =>
                  cases split
                  exact .inl ⟨first, by simpa using earlier, rfl⟩
              | cons head before =>
                  obtain ⟨rfl, behind⟩ := List.cons.inj split
                  exact .inr (.inr ⟨before, after, place, id, first, behind, by simpa using earlier,
                    rfl⟩)

/-- Every identifier makes an entry of the table or a finding. -/
theorem encounterFindings_count (table : Std.ExtTreeMap String String)
    (marks : List EncounterMark) :
    (encounterFindings table marks).2.length + (encounterFindings table marks).1.size =
      table.size + marks.length := by
  induction marks generalizing table with
  | nil => simp [encounterFindings]
  | cons mark rest ih =>
      cases mark with
      | fault finding =>
          have counted := ih table
          simp only [encounterFindings, List.length_cons]
          omega
      | id place id =>
          have counted := ih (table.insertIfNew id place)
          have size : (table[id]?).toList.length + (table.insertIfNew id place).size =
              table.size + 1 := by
            rw [Std.ExtTreeMap.size_insertIfNew]
            cases found : table[id]? with
            | none => simp [(getElem?_eq_none_iff table id).mp found]
            | some first =>
                have present := mem_table found
                simp [present, Nat.add_comm]
          simp only [encounterFindings_id, List.length_append, List.length_map, List.length_cons]
          omega

theorem encounterFindings_places (table : Std.ExtTreeMap String String)
    (marks : List EncounterMark) :
    ((encounterFindings table marks).2.map Finding.place?).Sublist
      (marks.map EncounterMark.place?) := by
  induction marks generalizing table with
  | nil => simp [encounterFindings]
  | cons mark rest ih =>
      cases mark with
      | fault finding => exact (ih table).cons_cons _
      | id place id =>
          have later := ih (table.insertIfNew id place)
          rw [encounterFindings_id, List.map_cons]
          cases table[id]? with
          | none => exact later.cons _
          | some first => exact later.cons_cons _

end Marks

def spawnMark (place : String) : Option String × Nat → EncounterMark
  | (some id, spawn) => .id (entry (place ++ ".spawns") spawn) id
  | (none, spawn) => .fault (.schema (entry (place ++ ".spawns") spawn) "spawn missing id")

def readingMarks (file : String) (encounters : List Encounter) : List EncounterMark :=
  encounters.zipIdx.flatMap fun (encounter, index) => encounterMarks (entry file index) encounter

section Shapes

variable (place : String) (encounter : Encounter)

theorem encounterMarks_flat (id : String) (shape : encounter.shape = .flat id) :
    encounterMarks place encounter = [.id place id] := by
  simp only [encounterMarks, shape]

theorem encounterMarks_malformed (shape : encounter.shape = .malformed) :
    encounterMarks place encounter =
      [.fault (.schema place "encounter needs an id or a region/act/spawns table")] := by
  simp only [encounterMarks, shape]

theorem encounterMarks_table (ids : List (Option String)) (shape : encounter.shape = .table ids) :
    encounterMarks place encounter = ids.zipIdx.map (spawnMark place) := by
  simp only [encounterMarks, shape]
  refine List.map_congr_left fun spawn _ => ?_
  obtain ⟨id, index⟩ := spawn
  cases id <;> rfl

theorem length_spawns (ids : List (Option String)) (start : Nat) :
    ((ids.zipIdx start).map (spawnMark place)).length =
      ids.count none + (names ((ids.zipIdx start).map (spawnMark place))).length := by
  induction ids generalizing start with
  | nil => rfl
  | cons id rest ih =>
      have counted := ih (start + 1)
      cases id with
      | none =>
          simp only [List.zipIdx_cons, List.map_cons, List.length_cons, spawnMark, names_fault,
            List.count_cons_self]
          omega
      | some id =>
          simp only [List.zipIdx_cons, List.map_cons, List.length_cons, spawnMark, names_id]
          rw [List.count_cons_of_ne (by simp)]
          omega

theorem length_encounterMarks : (encounterMarks place encounter).length =
    encounter.lacking + (names (encounterMarks place encounter)).length := by
  cases shape : encounter.shape with
  | flat id =>
      simp [encounterMarks_flat place encounter id shape, names_nil, Encounter.lacking, shape]
  | malformed =>
      simp [encounterMarks_malformed place encounter shape, names_nil, Encounter.lacking, shape]
  | table ids =>
      rw [encounterMarks_table place encounter ids shape, length_spawns, Encounter.lacking, shape]

end Shapes

theorem names_encounterMarks (file : String) (index : Nat) (encounter : Encounter) :
    names (encounterMarks (entry file index) encounter) = idsAt file index encounter := by
  cases shape : encounter.shape with
  | flat id => simp [encounterMarks_flat _ encounter id shape, names_nil, idsAt, shape]
  | malformed => simp [encounterMarks_malformed _ encounter shape, names_nil, idsAt, shape]
  | table ids =>
      simp only [encounterMarks_table _ encounter ids shape, names, List.filterMap_map, idsAt,
        shape]
      refine List.filterMap_congr fun spawn _ => ?_
      obtain ⟨id, index⟩ := spawn
      cases id <;> rfl

theorem names_readingMarks (file : String) (encounters : List Encounter) :
    names (readingMarks file encounters) = encounterIds file encounters := by
  rw [names, readingMarks, List.filterMap_flatMap, encounterIds]
  exact List.flatMap_congr fun entry _ => names_encounterMarks file entry.2 entry.1

theorem length_readingMarks (file : String) (encounters : List Encounter) :
    (readingMarks file encounters).length =
      (encounters.map Encounter.lacking).sum + (encounterIds file encounters).length := by
  rw [← names_readingMarks, readingMarks]
  generalize 0 = start
  induction encounters generalizing start with
  | nil => rfl
  | cons encounter rest ih =>
      have counted := ih (start + 1)
      have here := length_encounterMarks (entry file start) encounter
      simp only [List.zipIdx_cons, List.flatMap_cons, List.length_append, List.map_cons,
        List.sum_cons, names, List.filterMap_append] at counted here ⊢
      omega

theorem fault_mem_readingMarks (file : String) (encounters : List Encounter) (finding : Finding) :
    .fault finding ∈ readingMarks file encounters ↔
      ∃ encounter index, encounters[index]? = some encounter ∧
        (encounter.shape = .malformed ∧ finding = .schema (entry file index)
            "encounter needs an id or a region/act/spawns table" ∨
          ∃ ids number, encounter.shape = .table ids ∧ ids[number]? = some none ∧
            finding = .schema (spawnEntry file index number) "spawn missing id") := by
  simp only [readingMarks, List.mem_flatMap, Prod.exists, List.mem_zipIdx_iff_getElem?]
  refine exists_congr fun encounter => exists_congr fun index => and_congr_right fun _ => ?_
  cases shape : encounter.shape with
  | flat id => simp [encounterMarks_flat _ encounter id shape]
  | malformed => simp [encounterMarks_malformed _ encounter shape]
  | table ids =>
      simp only [encounterMarks_table _ encounter ids shape, List.mem_map, Prod.exists,
        List.mem_zipIdx_iff_getElem?, reduceCtorEq, false_and, false_or,
        EncounterShape.table.injEq, exists_and_left, exists_eq_left']
      constructor
      · rintro ⟨id, spawn, listed, same⟩
        cases id with
        | none =>
            cases same
            exact ⟨spawn, listed, rfl⟩
        | some id => cases same
      · rintro ⟨spawn, listed, rfl⟩
        exact ⟨none, spawn, listed, rfl⟩

theorem pairwise_snd_zipIdx {α : Type} (list : List α) :
    list.zipIdx.Pairwise fun first second => first.2 ≠ second.2 := by
  rw [← List.pairwise_map, List.zipIdx_map_snd]
  exact List.nodup_range'

/-- The index of an entry can be read off its place, whatever follows. -/
theorem entry_append_inj (file : String) (index other : Nat) (rest more : String)
    (same : entry file index ++ rest = entry file other ++ more) : index = other := by
  have spelled := congrArg String.toList same
  simp only [entry, String.toList_append, List.append_assoc, List.append_cancel_left_eq] at spelled
  have number (n : Nat) (behind : List Char) :
      ((toString n).toList ++ (']' :: behind)).takeWhile Char.isDigit = Nat.toDigits 10 n := by
    have digits : (toString n).toList = Nat.toDigits 10 n := Nat.toList_repr
    rw [digits, List.takeWhile_append_of_pos]
    · simp [show (']' : Char).isDigit = false by decide]
    · exact fun c => Nat.isDigit_of_mem_toDigits (by decide) (by decide)
  have digits : Nat.toDigits 10 index = Nat.toDigits 10 other := by
    rw [← number index rest.toList, ← number other more.toList]
    exact congrArg (List.takeWhile Char.isDigit) spelled
  exact QuestNum.toDigits_inj index other digits

theorem entry_inj (file : String) (index other : Nat)
    (same : entry file index = entry file other) : index = other :=
  entry_append_inj file index other "" "" (by rw [same])

theorem spawnMark_place? (place : String) (spawn : Option String × Nat) :
    (spawnMark place spawn).place? = some (entry (place ++ ".spawns") spawn.2) := by
  obtain ⟨id, index⟩ := spawn
  cases id <;> rfl

theorem encounterMarks_under (place : String) (encounter : Encounter) (mark : EncounterMark)
    (listed : mark ∈ encounterMarks place encounter) :
    ∃ rest, mark.place? = some (place ++ rest) := by
  cases shape : encounter.shape with
  | flat id =>
      rw [encounterMarks_flat _ encounter id shape, List.mem_singleton] at listed
      exact ⟨"", by simp [listed, EncounterMark.place?]⟩
  | malformed =>
      rw [encounterMarks_malformed _ encounter shape, List.mem_singleton] at listed
      exact ⟨"", by simp [listed, EncounterMark.place?, Finding.place?]⟩
  | table ids =>
      rw [encounterMarks_table _ encounter ids shape] at listed
      obtain ⟨spawn, _, rfl⟩ := List.mem_map.mp listed
      exact ⟨".spawns[" ++ toString spawn.2 ++ "]", by
        simp only [spawnMark_place?, entry, String.append_assoc]
        rfl⟩

theorem encounterMarks_places (place : String) (encounter : Encounter) :
    ((encounterMarks place encounter).map EncounterMark.place?).Nodup := by
  cases shape : encounter.shape with
  | flat id => simp [encounterMarks_flat _ encounter id shape]
  | malformed => simp [encounterMarks_malformed _ encounter shape]
  | table ids =>
      rw [encounterMarks_table _ encounter ids shape, List.map_map, List.Nodup, List.pairwise_map]
      refine (pairwise_snd_zipIdx ids).imp fun apart same => apart ?_
      simp only [Function.comp_apply, spawnMark_place?, Option.some.injEq] at same
      exact entry_inj _ _ _ same

/-- All marks stand at different places. -/
theorem readingMarks_places (file : String) (encounters : List Encounter) :
    ((readingMarks file encounters).map EncounterMark.place?).Nodup := by
  rw [readingMarks, List.map_flatMap, List.nodup_flatMap]
  refine ⟨fun entry _ => encounterMarks_places _ entry.1, ?_⟩
  refine (pairwise_snd_zipIdx encounters).imp fun apart => ?_
  intro place here there
  obtain ⟨first, own, rfl⟩ := List.mem_map.mp here
  obtain ⟨second, other, same⟩ := List.mem_map.mp there
  obtain ⟨rest, under⟩ := encounterMarks_under _ _ first own
  obtain ⟨more, also⟩ := encounterMarks_under _ _ second other
  rw [under, also, Option.some.injEq] at same
  exact apart (entry_append_inj file _ _ rest more same.symm)

def emptyFindings (file : String) (encounters : List Encounter) : List Finding :=
  if encounters.isEmpty then [.schema file "no encounters defined"] else []

theorem mem_emptyFindings (file : String) (encounters : List Encounter) (finding : Finding) :
    finding ∈ emptyFindings file encounters ↔
      encounters = [] ∧ finding = .schema file "no encounters defined" := by
  cases encounters <;> simp [emptyFindings]

theorem length_emptyFindings (file : String) (encounters : List Encounter) :
    (emptyFindings file encounters).length = if encounters = [] then 1 else 0 := by
  cases encounters <;> simp [emptyFindings]

theorem checkEncounters_ok (dataset : Dataset) (document : Document) (encounters : List Encounter)
    (stored : dataset.encounters = some document)
    (held : document.Holds (Decoder.list Encounter.decoder) encounters) :
    checkEncounters dataset =
      ((encounterFindings ∅ (readingMarks document.file encounters)).1.size,
        emptyFindings document.file encounters ++
          (encounterFindings ∅ (readingMarks document.file encounters)).2) := by
  unfold Document.Holds at held
  simp only [checkEncounters, stored, Document.read, held]
  rfl

theorem mem_checked (file : String) (encounters : List Encounter) (finding : Finding) :
    finding ∈ emptyFindings file encounters ++
        (encounterFindings ∅ (readingMarks file encounters)).2 ↔
      EncounterFault file encounters finding := by
  rw [List.mem_append, mem_emptyFindings, mem_encounterFindings tells_empty,
    fault_mem_readingMarks, names_readingMarks]
  constructor
  · rintro (⟨none, rfl⟩ |
      ⟨encounter, index, listed, ⟨shape, rfl⟩ | ⟨ids, number, shape, blank, rfl⟩⟩ |
      ⟨before, after, place, id, first, split, earlier, rfl⟩)
    · exact .empty none
    · obtain ⟨nameless, tableless⟩ := encounter.shape_eq_malformed.mp shape
      exact .malformed encounter index listed nameless tableless
    · obtain ⟨spawns, table, rfl⟩ := (encounter.shape_eq_table ids).mp shape
      rw [List.getElem?_map, Option.map_eq_some_iff] at blank
      obtain ⟨spawn, held, nameless⟩ := blank
      exact .unnamed encounter index listed spawns table spawn number held nameless
    · exact .again before after place id first split earlier
  · intro fault
    cases fault with
    | empty none => exact .inl ⟨none, rfl⟩
    | malformed encounter index listed nameless tableless =>
        have shape := encounter.shape_eq_malformed.mpr ⟨nameless, tableless⟩
        exact .inr (.inl ⟨encounter, index, listed, .inl ⟨shape, rfl⟩⟩)
    | unnamed encounter index listed spawns table spawn number held nameless =>
        have shape := (encounter.shape_eq_table _).mpr ⟨spawns, table, rfl⟩
        exact .inr (.inl ⟨encounter, index, listed, .inr ⟨_, number, shape, by
          simp [List.getElem?_map, held, nameless], rfl⟩⟩)
    | again before after place id first split earlier =>
        exact .inr (.inr ⟨before, after, place, id, first, split, earlier, rfl⟩)

theorem checked_places (file : String) (encounters : List Encounter) :
    ((emptyFindings file encounters ++
      (encounterFindings ∅ (readingMarks file encounters)).2).map Finding.place?).Nodup := by
  cases encounters with
  | nil => simp [emptyFindings, readingMarks, encounterFindings]
  | cons encounter rest =>
      exact (readingMarks_places file _).sublist (encounterFindings_places ∅ _)

theorem size_checked (file : String) (encounters : List Encounter) :
    (encounterFindings ∅ (readingMarks file encounters)).1.size =
      ((encounterIds file encounters).map Prod.snd).dedup.length := by
  have told := tells_empty.encounterFindings (readingMarks file encounters)
  rw [told.size, List.nil_append, names_readingMarks]

/-- In a document that decodes to encounters exactly their faults are found, no two at one place; as
many as identifiers are lacking or stood before, and one if there are no encounters. The number of
encounters that is reported is that of the different identifiers. -/
theorem encounters_checked (validator : Validator) (dataset : Dataset) (document : Document)
    (encounters : List Encounter) (stored : dataset.encounters = some document)
    (held : document.Holds (Decoder.list Encounter.decoder) encounters) :
    let findings := (checkEncounters dataset).2
    let ids := encounterIds document.file encounters
    let report := validator.validate dataset
    (∀ finding, finding ∈ findings ↔ EncounterFault document.file encounters finding) ∧
    (findings.map Finding.place?).Nodup ∧
    findings.length + (ids.map Prod.snd).dedup.length =
      (if encounters = [] then 1 else 0) + (encounters.map Encounter.lacking).sum + ids.length ∧
    findings <:+: report.errors ∧
    report.stats.encounters = (ids.map Prod.snd).dedup.length := by
  intro findings ids report
  have checked := checkEncounters_ok dataset document encounters stored held
  have size := size_checked document.file encounters
  have told : findings = _ := congrArg Prod.snd checked
  refine ⟨?_, ?_, ?_, ?_, ?_⟩
  · rw [told]
    exact mem_checked document.file encounters
  · rw [told]
    exact checked_places document.file encounters
  · have counted := encounterFindings_count ∅ (readingMarks document.file encounters)
    rw [length_readingMarks, size, Std.ExtTreeMap.size_empty] at counted
    rw [told, List.length_append, length_emptyFindings]
    simp only [ids]
    omega
  · simp only [report, validate, Report.warnAll_errors]
    exact ⟨dataset.loadErrors ++ validator.checkQuests dataset ++
      validator.checkQuestDialogs dataset ++ checkLocationDialogs dataset ++
      (checkItems dataset).findings, _, by simp only [List.append_assoc]; rfl⟩
  · simp only [report, validate, Report.warnAll_stats]
    rw [checked]
    exact size

def raid : List Encounter := [
  ⟨some "wolf", none, none, none⟩,
  ⟨none, some "Valley", some (.number 1), some [⟨some "wolf"⟩, ⟨some " "⟩, ⟨some "hag"⟩]⟩,
  ⟨some "hag", none, none, none⟩,
  ⟨none, some " ", some (.number 1), some [⟨some "hag"⟩]⟩]

def hamletRaided (encounters : List Encounter) : Dataset :=
  { Engine.hamlet with
    encounters := some ⟨"encounters.json", .arr (encounters.map Encounter.json)⟩ }

theorem encounters_checked_raid :
    let report := Engine.hamletValidator.validate (hamletRaided raid)
    againFinding "encounters.json[1].spawns[0]" "wolf" "encounters.json[0]" ∈ report.errors ∧
    againFinding "encounters.json[2]" "hag" "encounters.json[1].spawns[2]" ∈ report.errors ∧
    (checkEncounters (hamletRaided raid)).2.length = 4 ∧ report.stats.encounters = 2 := by
  intro report
  have held : (Document.mk "encounters.json" (.arr (raid.map Encounter.json))).Holds
      (Decoder.list Encounter.decoder) raid := by
    unfold Document.Holds
    decide +kernel
  have ids : encounterIds "encounters.json" raid =
      [("encounters.json[0]", "wolf"), ("encounters.json[1].spawns[0]", "wolf"),
        ("encounters.json[1].spawns[2]", "hag"), ("encounters.json[2]", "hag")] := by
    decide +kernel
  obtain ⟨found, _, counted, told, stats⟩ :=
    encounters_checked Engine.hamletValidator (hamletRaided raid) _ raid rfl held
  rw [ids] at counted stats
  refine ⟨told.subset ((found _).mpr ?_), told.subset ((found _).mpr ?_), ?_, stats⟩
  · exact .again [_] _ _ _ _ ids (by decide)
  · exact .again [_, _, _] [] _ _ _ ids (by decide)
  · have lacking : (raid.map Encounter.lacking).sum = 2 := by decide +kernel
    rw [lacking] at counted
    exact Nat.add_right_cancel counted

end Validator

end QuestWeb
