import Mathlib.Data.List.Forall2
import Mathlib.Data.List.Nodup
import QuestWeb.Validator

/-!
The check of the world across its files. Identifiers are collected first, over all maps together,
and references are looked up in what was collected. Nothing is found exactly in a world whose items
and regions are named apart, whose exits lead to regions, and where every item that lies about is
listed.
-/

namespace QuestWeb

def Document.Holds {α : Type} (document : Document) (d : Decoder α) (a : α) : Prop :=
  d.read document.value = .ok a

def allRegions (maps : List WorldMap) : List Region :=
  maps.flatMap (·.regions)

/-- Maps that can be walked, where the identifiers of items are those that are `listed`. -/
structure SoundMaps (listed : String → Prop) (maps : List WorldMap) : Prop where
  filled : ∀ map ∈ maps, map.regions ≠ []
  named : ∀ region ∈ allRegions maps, Text.trim region.id ≠ ""
  apart : ((allRegions maps).map fun region => Text.trim region.id).Nodup
  exits : ∀ region ∈ allRegions maps, ∀ exit ∈ region.exits, Text.trim exit.target ≠ "" ∧
    ∃ other ∈ allRegions maps, Text.trim other.id = Text.trim exit.target
  placed : ∀ region ∈ allRegions maps, ∀ placed ∈ region.items, listed (Text.trim placed.id)

namespace Dataset

variable (dataset : Dataset)

def Lists (item : Item) : Prop :=
  ∃ document items, dataset.items = some document ∧
    document.Holds (Decoder.list Item.decoder) items ∧ item ∈ items

def SoundItems : Prop :=
  ∀ document, dataset.items = some document → ∃ items,
    document.Holds (Decoder.list Item.decoder) items ∧
      (∀ item ∈ items, Text.trim item.id ≠ "") ∧ (items.map fun item => Text.trim item.id).Nodup

structure SoundWorld : Prop where
  items : dataset.SoundItems
  mapped : dataset.maps ≠ []
  maps : ∃ maps,
    List.Forall₂ (fun document map => document.Holds WorldMap.decoder map) dataset.maps maps ∧
      SoundMaps (fun id => ∃ item, dataset.Lists item ∧ Text.trim item.id = id) maps

end Dataset

namespace Validator

def Fresh (known : String → Prop) (names : List String) : Prop :=
  (∀ name ∈ names, name ≠ "" ∧ ¬ known name) ∧ names.Nodup

theorem fresh_nil (known : String → Prop) : Fresh known [] := by
  simp [Fresh]

theorem fresh_append (known : String → Prop) (front back : List String) :
    Fresh known (front ++ back) ↔
      Fresh known front ∧ Fresh (fun name => known name ∨ name ∈ front) back := by
  unfold Fresh
  rw [List.nodup_append']
  constructor
  · rintro ⟨each, first, second, disjoint⟩
    refine ⟨⟨fun name listed => each name (List.mem_append_left _ listed), first⟩, ?_, second⟩
    intro name listed
    obtain ⟨named, unknown⟩ := each name (List.mem_append_right _ listed)
    exact ⟨named, not_or.mpr ⟨unknown, fun before => disjoint before listed⟩⟩
  · rintro ⟨⟨each, first⟩, later, second⟩
    refine ⟨fun name listed => ?_, first, second, fun name before listed => ?_⟩
    · rcases List.mem_append.mp listed with before | behind
      · exact each name before
      · exact ⟨(later name behind).1, fun known => (later name behind).2 (.inl known)⟩
    · exact (later name listed).2 (.inr before)

theorem fresh_cons (known : String → Prop) (name : String) (rest : List String) :
    Fresh known (name :: rest) ↔
      (name ≠ "" ∧ ¬ known name) ∧ Fresh (fun other => known other ∨ other = name) rest := by
  have split := fresh_append known [name] rest
  simp only [List.singleton_append, List.mem_singleton] at split
  rw [split]
  simp [Fresh]

theorem fresh_congr {known other : String → Prop} {names : List String}
    (same : ∀ name, name ≠ "" → (known name ↔ other name)) :
    Fresh known names ↔ Fresh other names := by
  refine and_congr_left fun _ => forall₂_congr fun name _ => and_congr_right fun named => ?_
  rw [same name named]

section Items

variable (file : String)

theorem mem_itemIds (known : Std.ExtTreeSet String) (index : Nat) (items : List Item)
    (id : String) : id ∈ (itemIds file known index items).1 ↔
      id ∈ known ∨ id ≠ "" ∧ id ∈ items.map fun item => Text.trim item.id := by
  induction items generalizing known index with
  | nil => simp [itemIds]
  | cons item rest ih =>
      rw [List.map_cons, List.mem_cons]
      by_cases blank : Text.trim item.id = ""
      · simp only [itemIds, blank, ↓reduceIte, ih]
        grind
      · by_cases again : Text.trim item.id ∈ known
        · simp only [itemIds, blank, again, Std.ExtTreeSet.contains_iff_mem, ↓reduceIte, ih]
          grind
        · simp only [itemIds, blank, again, Std.ExtTreeSet.contains_iff_mem, ↓reduceIte, ih,
            Std.ExtTreeSet.mem_insert, Std.LawfulEqCmp.compare_eq_iff_eq]
          grind

theorem itemIds_eq_nil (known : Std.ExtTreeSet String) (index : Nat) (items : List Item) :
    (itemIds file known index items).2 = [] ↔
      Fresh (· ∈ known) (items.map fun item => Text.trim item.id) := by
  induction items generalizing known index with
  | nil => simp [itemIds, fresh_nil]
  | cons item rest ih =>
      rw [List.map_cons, fresh_cons]
      by_cases blank : Text.trim item.id = ""
      · simp [itemIds, blank]
      · by_cases again : Text.trim item.id ∈ known
        · simp [itemIds, blank, again]
        · simp only [itemIds, blank, again, Std.ExtTreeSet.contains_iff_mem, ↓reduceIte, ih,
            ne_eq, not_false_eq_true, and_self, true_and]
          refine fresh_congr fun name _ => ?_
          rw [Std.ExtTreeSet.mem_insert, Std.LawfulEqCmp.compare_eq_iff_eq, or_comm, eq_comm]

end Items

theorem mem_known (dataset : Dataset) (id : String) : id ∈ (checkItems dataset).known ↔
    id ≠ "" ∧ ∃ item, dataset.Lists item ∧ Text.trim item.id = id := by
  unfold checkItems Dataset.Lists Document.Holds Document.read
  cases dataset.items with
  | none => simp [ItemCheck.none]
  | some document =>
      cases read : (Decoder.list Item.decoder).read document.value with
      | error fault => simp [read, ItemCheck.none]
      | ok items => simp [read, mem_itemIds]

theorem checkItems_eq_nil (dataset : Dataset) :
    (checkItems dataset).findings = [] ↔ dataset.SoundItems := by
  unfold checkItems Dataset.SoundItems Document.Holds Document.read
  cases dataset.items with
  | none => simp [ItemCheck.none]
  | some document =>
      cases read : (Decoder.list Item.decoder).read document.value with
      | error fault => simp [read]
      | ok items => simp [read, itemIds_eq_nil, Fresh]

theorem mem_regionIds (file : String) (known : Std.ExtTreeMap String String) (index : Nat)
    (regions : List Region) (id : String) (named : id ≠ "") :
    id ∈ (regionIds file known index regions).1 ↔
      id ∈ known ∨ id ∈ regions.map fun region => Text.trim region.id := by
  induction regions generalizing known index with
  | nil => simp [regionIds]
  | cons region rest ih =>
      rw [List.map_cons, List.mem_cons]
      by_cases blank : Text.trim region.id = ""
      · simp [regionIds, blank, ih, named]
      · have next : (regionIds file known index (region :: rest)).1 =
            (regionIds file (known.insert (Text.trim region.id) file) (index + 1) rest).1 := by
          simp only [regionIds, blank, ↓reduceIte]
          cases known[Text.trim region.id]? <;> rfl
        rw [next, ih, Std.ExtTreeMap.mem_insert, Std.LawfulEqCmp.compare_eq_iff_eq, or_assoc,
          or_left_comm, eq_comm]

theorem regionIds_eq_nil (file : String) (known : Std.ExtTreeMap String String) (index : Nat)
    (regions : List Region) : (regionIds file known index regions).2 = [] ↔
      Fresh (· ∈ known) (regions.map fun region => Text.trim region.id) := by
  induction regions generalizing known index with
  | nil => simp [regionIds, fresh_nil]
  | cons region rest ih =>
      rw [List.map_cons, fresh_cons]
      by_cases blank : Text.trim region.id = ""
      · simp [regionIds, blank]
      · rw [Std.ExtTreeMap.mem_iff_isSome_getElem?]
        -- An id that is known is told, and one that is not is known from here on.
        cases known : known[Text.trim region.id]? with
        | some first => simp [regionIds, blank, known]
        | none =>
            simp only [regionIds, blank, known, ↓reduceIte, ih, ne_eq, not_false_eq_true,
              Option.isSome_none, Bool.false_eq_true, and_self, true_and]
            refine fresh_congr fun name _ => ?_
            rw [Std.ExtTreeMap.mem_insert, Std.LawfulEqCmp.compare_eq_iff_eq, or_comm, eq_comm]

def regionNames (maps : List (String × WorldMap)) : List String :=
  (allRegions (maps.map Prod.snd)).map fun region => Text.trim region.id

theorem regionNames_cons (file : String) (map : WorldMap) (rest : List (String × WorldMap)) :
    regionNames ((file, map) :: rest) =
      (map.regions.map fun region => Text.trim region.id) ++ regionNames rest := by
  simp [regionNames, allRegions]

theorem mem_allRegionIds (known : Std.ExtTreeMap String String) (maps : List (String × WorldMap))
    (id : String) (named : id ≠ "") :
    id ∈ (allRegionIds known maps).1 ↔ id ∈ known ∨ id ∈ regionNames maps := by
  induction maps generalizing known with
  | nil => simp [allRegionIds, regionNames, allRegions]
  | cons entry rest ih =>
      obtain ⟨file, map⟩ := entry
      rw [allRegionIds, regionNames_cons, List.mem_append, ← or_assoc,
        ← mem_regionIds file known 0 map.regions id named]
      exact ih _

theorem allRegionIds_eq_nil (known : Std.ExtTreeMap String String)
    (maps : List (String × WorldMap)) : (allRegionIds known maps).2 = [] ↔
      (∀ entry ∈ maps, entry.2.regions ≠ []) ∧ Fresh (· ∈ known) (regionNames maps) := by
  induction maps generalizing known with
  | nil => simp [allRegionIds, regionNames, allRegions, fresh_nil]
  | cons entry rest ih =>
      obtain ⟨file, map⟩ := entry
      have later : Fresh (· ∈ (regionIds file known 0 map.regions).1) (regionNames rest) ↔
          Fresh (fun name => name ∈ known ∨
            name ∈ map.regions.map fun region => Text.trim region.id) (regionNames rest) :=
        fresh_congr fun name named => mem_regionIds file known 0 map.regions name named
      have here : (allRegionIds known ((file, map) :: rest)).2 = [] ↔
          (map.regions ≠ [] ∧ (regionIds file known 0 map.regions).2 = []) ∧
            (allRegionIds (regionIds file known 0 map.regions).1 rest).2 = [] := by
        simp [allRegionIds, and_assoc]
      rw [here, regionIds_eq_nil, ih, later, regionNames_cons, fresh_append, List.forall_mem_cons]
      exact and_and_and_comm

theorem exitFinding?_eq_none (known : Std.ExtTreeMap String String) (location : String)
    (exit : Exit) : exitFinding? known location exit = none ↔
      Text.trim exit.target ≠ "" ∧ Text.trim exit.target ∈ known := by
  unfold exitFinding?
  by_cases blank : Text.trim exit.target = ""
  · simp [blank]
  · by_cases leads : Text.trim exit.target ∈ known <;> simp [blank, leads]

theorem placedFinding?_eq_none (itemsFile : String) (items : Std.ExtTreeSet String)
    (location : String) (placed : PlacedItem) :
    placedFinding? itemsFile items location placed = none ↔ Text.trim placed.id ∈ items := by
  unfold placedFinding?
  by_cases listed : Text.trim placed.id ∈ items <;> simp [listed]

theorem regionFindings_eq_nil (itemsFile : String) (known : Std.ExtTreeMap String String)
    (items : Std.ExtTreeSet String) (file : String) (region : Region) :
    regionFindings itemsFile known items file region = [] ↔
      (∀ exit ∈ region.exits, Text.trim exit.target ≠ "" ∧ Text.trim exit.target ∈ known) ∧
        ∀ placed ∈ region.items, Text.trim placed.id ∈ items := by
  rw [regionFindings, List.append_eq_nil_iff, List.filterMap_eq_nil_iff,
    List.filterMap_eq_nil_iff]
  simp only [exitFinding?_eq_none, placedFinding?_eq_none]

theorem readMaps_eq_nil (documents : List Document) : (readMaps documents).2 = [] ↔
    List.Forall₂ (fun document map => document.Holds WorldMap.decoder map) documents
      ((readMaps documents).1.map Prod.snd) := by
  induction documents with
  | nil => simp [readMaps]
  | cons document rest ih =>
      cases read : WorldMap.decoder.read document.value with
      | ok map => simp [readMaps, Document.read, read, ih, Document.Holds]
      | error fault =>
          simp only [readMaps, Document.read, read, reduceCtorEq, false_iff]
          intro held
          cases maps : (readMaps rest).1.map Prod.snd with
          | nil => simp [maps] at held
          | cons map others =>
              rw [maps, List.forall₂_cons, Document.Holds, read] at held
              cases held.1

theorem readMaps_maps (documents : List Document) (maps : List WorldMap)
    (held : List.Forall₂ (fun document map => document.Holds WorldMap.decoder map)
      documents maps) : (readMaps documents).1.map Prod.snd = maps := by
  induction held with
  | nil => rfl
  | cons here _ ih =>
      unfold Document.Holds at here
      simp [readMaps, Document.read, here, ih]

theorem references_eq_nil (itemsFile : String) (known : Std.ExtTreeMap String String)
    (items : Std.ExtTreeSet String) (maps : List (String × WorldMap)) :
    (maps.flatMap fun entry =>
        entry.2.regions.flatMap (regionFindings itemsFile known items entry.1)) = [] ↔
      ∀ region ∈ allRegions (maps.map Prod.snd),
        (∀ exit ∈ region.exits, Text.trim exit.target ≠ "" ∧ Text.trim exit.target ∈ known) ∧
          ∀ placed ∈ region.items, Text.trim placed.id ∈ items := by
  simp only [allRegions, List.flatMap_map, List.mem_flatMap, List.flatMap_eq_nil_iff,
    regionFindings_eq_nil]
  constructor
  · rintro sound region ⟨entry, read, inside⟩
    exact sound entry read region inside
  · intro sound entry read region inside
    exact sound region ⟨entry, read, inside⟩

/-- Where the regions are sound by themselves, an exit leads to one of them exactly if its target is
among the names collected. -/
theorem soundMaps_iff (items : Std.ExtTreeSet String) (maps : List (String × WorldMap)) :
    SoundMaps (· ∈ items) (maps.map Prod.snd) ↔ (allRegionIds ∅ maps).2 = [] ∧
      ∀ region ∈ allRegions (maps.map Prod.snd),
        (∀ exit ∈ region.exits, Text.trim exit.target ≠ "" ∧
          Text.trim exit.target ∈ (allRegionIds ∅ maps).1) ∧
          ∀ placed ∈ region.items, Text.trim placed.id ∈ items := by
  have known (id : String) (named : id ≠ "") : id ∈ (allRegionIds ∅ maps).1 ↔
      ∃ other ∈ allRegions (maps.map Prod.snd), Text.trim other.id = id := by
    simp [mem_allRegionIds ∅ maps id named, regionNames]
  have fresh : Fresh (· ∈ (∅ : Std.ExtTreeMap String String)) (regionNames maps) ↔
      (∀ region ∈ allRegions (maps.map Prod.snd), Text.trim region.id ≠ "") ∧
        ((allRegions (maps.map Prod.snd)).map fun region => Text.trim region.id).Nodup := by
    simp [Fresh, regionNames]
  rw [allRegionIds_eq_nil, fresh]
  constructor
  · intro sound
    refine ⟨⟨fun entry read => ?_, sound.named, sound.apart⟩, fun region inside => ⟨?_, ?_⟩⟩
    · exact sound.filled _ (List.mem_map_of_mem read)
    · intro exit there
      obtain ⟨named, leads⟩ := sound.exits region inside exit there
      exact ⟨named, (known _ named).mpr leads⟩
    · exact sound.placed region inside
  · rintro ⟨⟨filled, named, apart⟩, references⟩
    refine ⟨List.forall_mem_map.mpr filled, named, apart, ?_, ?_⟩
    · intro region inside exit there
      obtain ⟨named, leads⟩ := (references region inside).1 exit there
      exact ⟨named, (known _ named).mp leads⟩
    · exact fun region inside => (references region inside).2

variable (validator : Validator) (dataset : Dataset)

theorem checkMaps_eq_nil (items : Std.ExtTreeSet String) :
    (validator.checkMaps dataset items).2 = [] ↔ dataset.maps ≠ [] ∧ ∃ maps,
      List.Forall₂ (fun document map => document.Holds WorldMap.decoder map) dataset.maps maps ∧
        SoundMaps (· ∈ items) maps := by
  unfold checkMaps
  by_cases none : dataset.maps = []
  · simp [none]
  · simp only [List.isEmpty_eq_false_iff.mpr none, Bool.false_eq_true, ↓reduceIte,
      List.append_eq_nil_iff, references_eq_nil, readMaps_eq_nil, ne_eq, none, not_false_eq_true,
      true_and]
    constructor
    · rintro ⟨⟨held, regions⟩, references⟩
      exact ⟨_, held, (soundMaps_iff items _).mpr ⟨regions, references⟩⟩
    · rintro ⟨maps, held, sound⟩
      obtain rfl := readMaps_maps dataset.maps maps held
      obtain ⟨regions, references⟩ := (soundMaps_iff items _).mp sound
      exact ⟨⟨held, regions⟩, references⟩

/-- The checks of items and maps find nothing exactly in a sound world. -/
theorem world_findings_eq_nil :
    (checkItems dataset).findings ++
      (validator.checkMaps dataset (checkItems dataset).known).2 = [] ↔ dataset.SoundWorld := by
  have listed (sound : dataset.SoundItems) (id : String) : id ∈ (checkItems dataset).known ↔
      ∃ item, dataset.Lists item ∧ Text.trim item.id = id := by
    rw [mem_known, and_iff_right_of_imp]
    rintro ⟨item, ⟨document, items, stored, held, inside⟩, rfl⟩
    obtain ⟨others, also, named, _⟩ := sound document stored
    obtain rfl := Except.ok.inj (held.symm.trans also)
    exact named item inside
  rw [List.append_eq_nil_iff, checkItems_eq_nil, checkMaps_eq_nil]
  constructor
  · rintro ⟨items, mapped, maps, held, sound⟩
    refine ⟨items, mapped, maps, held, ?_⟩
    simpa only [listed items] using sound
  · intro sound
    obtain ⟨maps, held, walked⟩ := sound.maps
    refine ⟨sound.items, sound.mapped, maps, held, ?_⟩
    simpa only [listed sound.items] using walked

end Validator

end QuestWeb
