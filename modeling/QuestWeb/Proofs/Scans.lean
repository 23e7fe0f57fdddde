import QuestWeb.Proofs.Gate
import QuestWeb.Proofs.NextQuests
import QuestWeb.Proofs.RecordForms

/-!
What the scan for next quests sees of a dialog. It looks at every object of a document, so no key
that is written out escapes it; a choice that is written as a list of its fields has no keys.
-/

namespace QuestWeb

namespace Json

theorem itemObjects_of_mem (items : List Json) (start : String) (index : Nat) (item : Json)
    (listed : item ∈ items) : ∃ pointer, item.objects pointer ⊆ itemObjects start index items := by
  induction items generalizing index with
  | nil => contradiction
  | cons first rest ih =>
      unfold itemObjects
      rcases List.mem_cons.mp listed with rfl | behind
      · exact ⟨_, List.subset_append_left ..⟩
      · obtain ⟨pointer, inside⟩ := ih (index + 1) behind
        exact ⟨pointer, List.Subset.trans inside (List.subset_append_right ..)⟩

theorem memberObjects_of_mem (members : List (String × Json)) (start : String)
    (member : String × Json) (listed : member ∈ members) :
    ∃ pointer, member.2.objects pointer ⊆ memberObjects start members := by
  induction members with
  | nil => contradiction
  | cons first rest ih =>
      unfold memberObjects
      rcases List.mem_cons.mp listed with rfl | behind
      · exact ⟨_, List.subset_append_left ..⟩
      · obtain ⟨pointer, inside⟩ := ih behind
        exact ⟨pointer, List.Subset.trans inside (List.subset_append_right ..)⟩

theorem objects_of_child (container child : Json) (start : String)
    (listed : child ∈ container.children) :
    ∃ pointer, child.objects pointer ⊆ container.objects start := by
  cases container with
  | arr items => exact itemObjects_of_mem items start 0 child listed
  | obj members =>
      obtain ⟨member, own, rfl⟩ := List.mem_map.mp listed
      obtain ⟨pointer, inside⟩ := memberObjects_of_mem members start member own
      exact ⟨pointer, List.Subset.trans inside (List.subset_cons_self ..)⟩
  | _ => simp [children] at listed

theorem Occurs.listed {container : Json} {members : List (String × Json)}
    (occurs : Occurs (.obj members) container) (start : String) :
    ∃ pointer, (pointer, members) ∈ container.objects start := by
  induction occurs generalizing start with
  | here => exact ⟨start, by simp [objects]⟩
  | inside child container listed _ ih =>
      obtain ⟨place, inside⟩ := objects_of_child container child start listed
      obtain ⟨pointer, found⟩ := ih place
      exact ⟨pointer, inside found⟩

mutual

theorem occurs_of_objects (container : Json) (start pointer : String)
    (members : List (String × Json)) (listed : (pointer, members) ∈ container.objects start) :
    Occurs (.obj members) container := by
  cases container with
  | arr items =>
      obtain ⟨item, own, occurs⟩ := occurs_of_itemObjects items start 0 pointer members listed
      exact .inside item _ own occurs
  | obj own =>
      rcases List.mem_cons.mp listed with same | inside
      · cases same
        exact .here
      · obtain ⟨member, child, occurs⟩ := occurs_of_memberObjects own start pointer members inside
        exact .inside member.2 _ (List.mem_map_of_mem child) occurs
  | _ => simp [objects] at listed

theorem occurs_of_itemObjects (items : List Json) (start : String) (index : Nat)
    (pointer : String) (members : List (String × Json))
    (listed : (pointer, members) ∈ itemObjects start index items) :
    ∃ item ∈ items, Occurs (.obj members) item := by
  cases items with
  | nil => simp [itemObjects] at listed
  | cons first rest =>
      rw [itemObjects, List.mem_append] at listed
      rcases listed with here | behind
      · exact ⟨first, List.mem_cons_self, occurs_of_objects first _ pointer members here⟩
      · obtain ⟨item, own, occurs⟩ := occurs_of_itemObjects rest start _ pointer members behind
        exact ⟨item, List.mem_cons_of_mem _ own, occurs⟩

theorem occurs_of_memberObjects (own : List (String × Json)) (start pointer : String)
    (members : List (String × Json)) (listed : (pointer, members) ∈ memberObjects start own) :
    ∃ member ∈ own, Occurs (.obj members) member.2 := by
  cases own with
  | nil => simp [memberObjects] at listed
  | cons first rest =>
      rw [memberObjects, List.mem_append] at listed
      rcases listed with here | behind
      · exact ⟨first, List.mem_cons_self, occurs_of_objects first.2 _ pointer members here⟩
      · obtain ⟨member, child, occurs⟩ := occurs_of_memberObjects rest start pointer members behind
        exact ⟨member, List.mem_cons_of_mem _ child, occurs⟩

end

/-- The scan lists exactly the objects that stand in a document. -/
theorem listed_iff_occurs (container : Json) (start : String) (members : List (String × Json)) :
    (∃ pointer, (pointer, members) ∈ container.objects start) ↔ Occurs (.obj members) container :=
  ⟨fun ⟨pointer, listed⟩ => occurs_of_objects container start pointer members listed,
    fun occurs => occurs.listed start⟩

end Json

def Dataset.HasLocation (dataset : Dataset) (key : String) : Prop :=
  ∃ quest ∈ dataset.quests, quest.locationKey? = some key

theorem Dataset.hasLocation_iff (dataset : Dataset) (key : String) :
    (questLocations dataset.quests).contains key = true ↔ dataset.HasLocation key := by
  rw [questLocations, Std.ExtTreeSet.contains_ofList, List.contains_iff_mem, List.mem_filterMap]
  rfl

instance (dataset : Dataset) (key : String) : Decidable (dataset.HasLocation key) :=
  decidable_of_iff _ (dataset.hasLocation_iff key)

theorem mem_startNextRefs (document : Document) (ref : StartNextRef) :
    ref ∈ startNextRefs document ↔ ∃ members value,
      (ref.pointer, members) ∈ document.value.objects "" ∧
        Json.member? startNextKey members = some value ∧ ref.file = document.file ∧
          ref.key = startNextLocation value ∧ ref.key ≠ "" := by
  rw [startNextRefs, List.mem_filterMap]
  constructor
  · rintro ⟨⟨pointer, members⟩, listed, made⟩
    cases named : Json.member? startNextKey members with
    | none => simp [named] at made
    | some value =>
        by_cases blank : startNextLocation value = ""
        · simp [named, blank] at made
        · simp only [named, blank, ↓reduceIte, Option.some.injEq] at made
          subst made
          exact ⟨members, value, listed, named, rfl, rfl, blank⟩
  · rintro ⟨members, value, listed, named, file, key, blank⟩
    refine ⟨(ref.pointer, members), listed, ?_⟩
    rw [key] at blank
    simp only [named, blank, ↓reduceIte, Option.some.injEq]
    rw [← file, ← key]

namespace Dataset

def dialogDocuments (dataset : Dataset) : List Document :=
  dataset.questDialogs.values ++ dataset.locationDialogs.values

/-- Every key of a next quest, wherever it stands in a dialog, is blank or names the location of a
quest. -/
def KeysPlaced (dataset : Dataset) : Prop :=
  ∀ document ∈ dataset.dialogDocuments, ∀ members value,
    Json.Occurs (.obj members) document.value → Json.member? startNextKey members = some value →
      startNextLocation value = "" ∨ dataset.HasLocation (startNextLocation value)

/-- The audit finds nothing exactly if the keys are placed. -/
theorem findings_eq_nil_iff (dataset : Dataset) :
    (DialogAudit.ofDataset dataset).findings = [] ↔ dataset.KeysPlaced := by
  simp only [DialogAudit.findings, DialogAudit.ofDataset, DialogAudit.ofRefs, List.map_eq_nil_iff,
    List.filter_eq_nil_iff, List.mem_flatMap, Bool.not_eq_true, Bool.not_eq_false',
    hasLocation_iff]
  constructor
  · intro known document listed members value occurs named
    obtain ⟨pointer, found⟩ := (Json.listed_iff_occurs _ "" members).mpr occurs
    rw [or_iff_not_imp_left]
    intro blank
    exact known ⟨document.file, pointer, startNextLocation value⟩ ⟨document, listed,
      (mem_startNextRefs ..).mpr ⟨members, value, found, named, rfl, rfl, blank⟩⟩
  · rintro placed ref ⟨document, listed, own⟩
    obtain ⟨members, value, found, named, _, key, blank⟩ := (mem_startNextRefs ..).mp own
    rw [key] at blank ⊢
    have occurs := (Json.listed_iff_occurs _ "" members).mp ⟨_, found⟩
    exact (placed document listed members value occurs named).resolve_left blank

end Dataset

theorem Choice.startNext_source (json : Json) (choice : Choice) (location : String)
    (read : decoder.read json = .ok choice) (named : choice.startNext = some location) :
    (∃ members, json = .obj members ∧
        Json.member? startNextKey members = some (.str location)) ∨
      ∃ items, json = .arr items ∧ items[4]? = some (.str location) := by
  rcases (Decoder.record_ok ..).mp read with ⟨members, rfl, made⟩ | ⟨items, rfl, made⟩
  · left
    simp only [Fields.fromMembers_seq_ok, Fields.fromMembers_map_ok] at made
    obtain ⟨_, last, ⟨_, _, ⟨_, _, ⟨_, _, ⟨_, _, rfl⟩, _, rfl⟩, _, rfl⟩, _, rfl⟩, own, rfl⟩ := made
    cases named
    rcases Fields.field_fromMembers _ _ _ _ _ _ own with absent | ⟨item, read, only⟩
    · cases absent
    · rw [Decoder.optional_string item location read] at only
      exact ⟨members, rfl, Json.member?_of_filter _ _ _ only⟩
  · right
    simp only [Fields.fromItems_seq_ok, Fields.fromItems_map_ok] at made
    obtain ⟨_, _, last, ⟨_, _, _, ⟨_, _, _, ⟨_, _, _, ⟨_, text, rfl⟩, next, rfl⟩, effects, rfl⟩,
      conditions, rfl⟩, own, rfl⟩ := made
    cases named
    rcases (Fields.field_fromItems _ _ _ _ _ _ _ own).2 with absent | ⟨item, read, first⟩
    · cases absent
    · rw [Decoder.optional_string item location read,
        (Fields.field_fromItems _ _ _ _ _ _ _ conditions).1,
        (Fields.field_fromItems _ _ _ _ _ _ _ effects).1,
        (Fields.field_fromItems _ _ _ _ _ _ _ next).1,
        (Fields.field_fromItems _ _ _ _ _ _ _ text).1] at first
      exact ⟨items, rfl, by simpa [List.head?_eq_getElem?] using first⟩

theorem Node.choices_source (json : Json) (node : Node) (read : decoder.read json = .ok node) :
    node.choices = [] ∨ ∃ item ∈ json.children,
      (Decoder.list Choice.decoder).read item = .ok node.choices := by
  rcases (Decoder.record_ok ..).mp read with ⟨members, rfl, made⟩ | ⟨items, rfl, made⟩
  · simp only [Fields.fromMembers_seq_ok, Fields.fromMembers_map_ok] at made
    obtain ⟨_, _, ⟨_, choices, ⟨_, _, ⟨_, _, rfl⟩, _, rfl⟩, own, rfl⟩, _, rfl⟩ := made
    exact Fields.withDefault_member _ _ _ _ _ own
  · simp only [Fields.fromItems_seq_ok, Fields.fromItems_map_ok] at made
    obtain ⟨_, _, _, ⟨_, _, choices, ⟨_, _, _, ⟨_, speaker, rfl⟩, text, rfl⟩, own, rfl⟩, _,
      rfl⟩ := made
    refine Fields.withDefault_item _ _ _ _ _ _ own items ?_
    rw [(Fields.field_fromItems _ _ _ _ _ _ _ text).1,
      (Fields.field_fromItems _ _ _ _ _ _ _ speaker).1]
    exact (List.tail_suffix _).trans (List.tail_suffix _)

theorem Dialog.nodes_source (json : Json) (dialog : Dialog)
    (read : decoder.read json = .ok dialog) :
    dialog.nodes = ∅ ∨ ∃ item ∈ json.children,
      (Decoder.dictionary Node.decoder).read item = .ok dialog.nodes := by
  rcases (Decoder.record_ok ..).mp read with ⟨members, rfl, made⟩ | ⟨items, rfl, made⟩
  · simp only [Fields.fromMembers_seq_ok, Fields.fromMembers_map_ok] at made
    obtain ⟨_, nodes, ⟨_, _, ⟨_, _, rfl⟩, _, rfl⟩, own, rfl⟩ := made
    exact Fields.withDefault_member _ _ _ _ _ own
  · simp only [Fields.fromItems_seq_ok, Fields.fromItems_map_ok] at made
    obtain ⟨_, _, nodes, ⟨_, _, _, ⟨_, quest, rfl⟩, start, rfl⟩, own, rfl⟩ := made
    refine Fields.withDefault_item _ _ _ _ _ _ own items ?_
    rw [(Fields.field_fromItems _ _ _ _ _ _ _ start).1,
      (Fields.field_fromItems _ _ _ _ _ _ _ quest).1]
    exact (List.tail_suffix _).trans (List.tail_suffix _)

/-- Every choice of a dialog was read from a value of its document. -/
theorem Dialog.choice_source (json : Json) (dialog : Dialog)
    (read : decoder.read json = .ok dialog) (id : String) (node : Node)
    (standing : dialog.nodes[id]? = some node) (choice : Choice) (offered : choice ∈ node.choices) :
    ∃ source, Json.Occurs source json ∧ Choice.decoder.read source = .ok choice := by
  rcases dialog.nodes_source json read with empty | ⟨table, inDialog, nodes⟩
  · simp [empty] at standing
  obtain ⟨place, inTable, own⟩ := Decoder.dictionary_source table _ nodes id node standing
  rcases node.choices_source place own with none | ⟨list, inNode, choices⟩
  · simp [none] at offered
  obtain ⟨source, inList, made⟩ := Decoder.list_source list _ choices choice offered
  exact ⟨source, .inside table json inDialog <| .inside place table inTable <|
    .inside list place inNode <| .child inList, made⟩

namespace Dataset

/-- Every choice of a dialog that names a location names one where a quest is, or was read from a
list of its fields. -/
def ChoicesPlaced (dataset : Dataset) : Prop :=
  ∀ document ∈ dataset.dialogDocuments, ∀ dialog, document.read Dialog.decoder = .ok dialog →
    ∀ (id : String) (node : Node), dialog.nodes[id]? = some node → ∀ choice ∈ node.choices,
      ∀ location, choice.startNext = some location → Text.isBlankText location = false →
        dataset.HasLocation (locationKey location) ∨
          ∃ items, Json.Occurs (.arr items) document.value ∧
            Choice.decoder.read (.arr items) = .ok choice

theorem KeysPlaced.choices {dataset : Dataset} (placed : dataset.KeysPlaced) :
    dataset.ChoicesPlaced := by
  intro document listed dialog read id node standing choice offered location named visible
  have own : Dialog.decoder.read document.value = .ok dialog := by
    unfold Document.read at read
    split at read <;> simp_all
  obtain ⟨source, occurs, made⟩ := dialog.choice_source _ own id node standing choice offered
  rcases choice.startNext_source source location made named with
    ⟨members, rfl, key⟩ | ⟨items, rfl, _⟩
  · rcases placed document listed members _ occurs key with blank | place
    · rw [startNextLocation, locationKey_eq_empty, visible] at blank
      contradiction
    · exact .inl place
  · exact .inr ⟨items, occurs, made⟩

end Dataset

/-- In a dataset that the validator has nothing against, every key of a next quest leads to a quest,
and so does every choice that was not read from a list of its fields. -/
theorem Validator.next_quests_placed (validator : Validator) (dataset : Dataset)
    (clean : (validator.validate dataset).errors = []) :
    dataset.KeysPlaced ∧ dataset.ChoicesPlaced := by
  simp only [validate, checkProse, Report.warnAll_errors, List.append_eq_nil_iff] at clean
  have placed := dataset.findings_eq_nil_iff.mp clean.2.1
  exact ⟨placed, placed.choices⟩

def hamletOffering (choice : Json) : Dataset :=
  let node (members : List (String × Json)) : Json :=
    .obj ([("speaker", .str "Miller"), ("text", .str "Well?")] ++ members)
  let nodes : Json := .obj
    [("ask", node [("choices", .arr [choice])]), ("end", node [("end", .bool true)])]
  { Engine.hamlet with
    locationDialogs := (∅ : Documents).insert "dlg_mill.json"
      ⟨"dlg_mill.json", .obj [("start", .str "ask"), ("nodes", nodes)]⟩ }

theorem next_quests_placed_hamlet :
    let offer : Json := .obj
      [("text", .str "Yes."), ("next", .str "end"), (startNextKey, .str " MILL ")]
    (Engine.hamletValidator.validate (hamletOffering offer)).errors = [] ∧
      (hamletOffering offer).KeysPlaced ∧ (hamletOffering offer).ChoicesPlaced :=
  have clean : (Engine.hamletValidator.validate (hamletOffering _)).errors = [] := by
    decide +kernel
  ⟨clean, Engine.hamletValidator.next_quests_placed _ clean⟩

/-- A choice that is written as a list is read as well, and nothing tells that no quest is where it
leads. -/
theorem listed_choice_unseen :
    let offer : Json := .arr [.str "Yes.", .str "end", .arr [], .arr [], .str "Nowhere"]
    (Engine.hamletValidator.validate (hamletOffering offer)).errors = [] ∧
      (∃ document dialog node choice,
        (hamletOffering offer).locationDialogs["dlg_mill.json"]? = some document ∧
          document.read Dialog.decoder = .ok dialog ∧ dialog.nodes["ask"]? = some node ∧
            choice ∈ node.choices ∧ choice.startNext = some "Nowhere") ∧
      Text.isBlankText "Nowhere" = false ∧
        ¬ (hamletOffering offer).HasLocation (locationKey "Nowhere") := by
  refine ⟨by decide +kernel, ?read, by decide +kernel, by decide +kernel⟩
  let choice : Choice := ⟨"Yes.", "end", [], [], some "Nowhere"⟩
  let node : Node := ⟨"Miller", "Well?", [choice], false⟩
  let nodes := Std.ExtTreeMap.ofList [("ask", node), ("end", ⟨"Miller", "Well?", [], true⟩)]
  exact ⟨_, ⟨none, "ask", nodes⟩, node, choice, rfl, rfl, by decide +kernel,
    List.mem_singleton_self _, rfl⟩

end QuestWeb
