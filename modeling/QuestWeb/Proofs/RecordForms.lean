import QuestWeb.Proofs.WireForms

/-!
What decoded values were read from. A record is read from an object or from a list of its fields,
and each field from a value inside, unless it has its default.
-/

namespace QuestWeb

namespace Json

def children : Json → List Json
  | .arr items => items
  | .obj members => members.map Prod.snd
  | _ => []

inductive Occurs (value : Json) : Json → Prop where
  | here : Occurs value value
  | inside (child container : Json) (listed : child ∈ container.children)
      (occurs : Occurs value child) : Occurs value container

theorem Occurs.child {child container : Json} (listed : child ∈ container.children) :
    Occurs child container :=
  .inside child container listed .here

theorem member?_of_filter (key : String) (members : List (String × Json)) (item : Json)
    (only : (members.filter ([key].contains ·.1)).map Prod.snd = [item]) :
    member? key members = some item := by
  induction members with
  | nil => simp at only
  | cons first rest ih =>
      obtain ⟨name, value⟩ := first
      by_cases same : name = key
      · simp_all [member?]
      · have apart : (key == name) = false := by simpa using Ne.symm same
        rw [member?, List.lookup_cons, apart]
        exact ih (by simpa [same] using only)

end Json

namespace Fields

variable {α β : Type}

theorem fromMembers_seq_ok (f : Fields (α → β)) (x : Fields α) (members : List (String × Json))
    (b : β) : (f <*> x).fromMembers members = .ok b ↔
      ∃ g a, f.fromMembers members = .ok g ∧ x.fromMembers members = .ok a ∧ g a = b := by
  simp only [Seq.seq]
  cases f.fromMembers members <;> cases x.fromMembers members <;> simp

theorem fromMembers_map_ok (f : α → β) (x : Fields α) (members : List (String × Json)) (b : β) :
    (f <$> x).fromMembers members = .ok b ↔ ∃ a, x.fromMembers members = .ok a ∧ f a = b := by
  rw [fromMembers_map]
  cases x.fromMembers members <;> simp

theorem fromItems_seq_ok (f : Fields (α → β)) (x : Fields α) (items left : List Json) (b : β) :
    (f <*> x).fromItems items = .ok (b, left) ↔
      ∃ g rest a, f.fromItems items = .ok (g, rest) ∧ x.fromItems rest = .ok (a, left) ∧
        g a = b := by
  simp only [Seq.seq]
  cases first : f.fromItems items with
  | error e => simp
  | ok made =>
      obtain ⟨g, rest⟩ := made
      cases second : x.fromItems rest with
      | error e => simp [second]
      | ok made =>
          obtain ⟨a, others⟩ := made
          simp only [second, Except.ok.injEq, Prod.mk.injEq]
          constructor
          · rintro ⟨rfl, rfl⟩
            exact ⟨g, rest, a, ⟨rfl, rfl⟩, second, rfl⟩
          · rintro ⟨_, _, _, ⟨rfl, rfl⟩, read, rfl⟩
            rw [second, Except.ok.injEq, Prod.mk.injEq] at read
            exact ⟨by rw [read.1], read.2⟩

theorem fromItems_map_ok (f : α → β) (x : Fields α) (items left : List Json) (b : β) :
    (f <$> x).fromItems items = .ok (b, left) ↔
      ∃ a, x.fromItems items = .ok (a, left) ∧ f a = b := by
  change (pure f <*> x).fromItems items = .ok (b, left) ↔ _
  rw [fromItems_seq_ok]
  constructor
  · rintro ⟨_, _, a, own, read, rfl⟩
    cases own
    exact ⟨a, read, rfl⟩
  · rintro ⟨a, read, rfl⟩
    exact ⟨f, items, a, rfl, read, rfl⟩

theorem field_fromMembers (name : String) (aliases : List String) (d : Decoder α)
    (default : Option α) (members : List (String × Json)) (a : α)
    (read : (field name aliases d default).fromMembers members = .ok a) :
    default = some a ∨ ∃ item, d.read item = .ok a ∧
      (members.filter ((name :: aliases).contains ·.1)).map Prod.snd = [item] := by
  have all := occurrences_filter (name :: aliases) 0 members
  unfold field at read
  cases found : occurrences (name :: aliases) 0 members with
  | nil =>
      cases default with
      | none => simp [found] at read
      | some own => exact .inl (by simpa [found] using read)
  | cons first later =>
      obtain ⟨place, item⟩ := first
      cases value : d.read item with
      | error e => simp [found, value] at read
      | ok own =>
          cases later with
          | cons again others => simp [found, value] at read
          | nil =>
              simp only [found, value, Except.ok.injEq] at read
              subst read
              exact .inr ⟨item, value, by rw [← all, found, List.map_singleton]⟩

theorem field_fromItems (name : String) (aliases : List String) (d : Decoder α)
    (default : Option α) (items left : List Json) (a : α)
    (read : (field name aliases d default).fromItems items = .ok (a, left)) :
    left = items.tail ∧
      (default = some a ∨ ∃ item, d.read item = .ok a ∧ items.head? = some item) := by
  cases items with
  | nil =>
      cases default with
      | none => simp [field] at read
      | some own => simp_all [field]
  | cons item rest =>
      cases value : d.read item with
      | error e => simp [field, value] at read
      | ok own => simp_all [field]

theorem withDefault_member (name : String) (d : Decoder α) (default a : α)
    (members : List (String × Json))
    (read : (withDefault name d default).fromMembers members = .ok a) :
    a = default ∨ ∃ item ∈ (Json.obj members).children, d.read item = .ok a := by
  rcases field_fromMembers _ _ _ _ _ _ read with own | ⟨item, value, only⟩
  · exact .inl (Option.some.inj own).symm
  · have inside : item ∈ (members.filter ([name].contains ·.1)).map Prod.snd :=
      only ▸ List.mem_singleton_self item
    exact .inr ⟨item, List.map_subset _ List.filter_sublist.subset inside, value⟩

/-- The same of a list; the fields before this one have taken its first items. -/
theorem withDefault_item (name : String) (d : Decoder α) (default a : α) (rest left : List Json)
    (read : (withDefault name d default).fromItems rest = .ok (a, left)) (items : List Json)
    (behind : rest <:+ items) :
    a = default ∨ ∃ item ∈ (Json.arr items).children, d.read item = .ok a := by
  rcases (field_fromItems _ _ _ _ _ _ _ read).2 with own | ⟨item, value, first⟩
  · exact .inl (Option.some.inj own).symm
  · exact .inr ⟨item, behind.subset (List.mem_of_mem_head? first), value⟩

end Fields

namespace Decoder

variable {α : Type} {d : Decoder α}

theorem record_ok (type name : String) (fields : Fields α) (json : Json) (a : α) :
    (record type name fields).read json = .ok a ↔
      (∃ members, json = .obj members ∧ fields.fromMembers members = .ok a) ∨
        ∃ items, json = .arr items ∧ fields.fromItems items = .ok (a, []) := by
  cases json with
  | obj members =>
      cases read : fields.fromMembers members with
      | ok own => simp [record, read]
      | error e => cases e <;> simp [record, read]
  | arr items =>
      cases read : fields.fromItems items with
      | ok own =>
          obtain ⟨own, left⟩ := own
          cases left <;> simp [record, read]
      | error e => cases e <;> simp [record, read]
  | _ => simp [record, mismatch]

theorem string_source (item : Json) (text : String) (read : string.read item = .ok text) :
    item = .str text := by
  cases item <;> simp_all [string, mismatch]

theorem optional_string (item : Json) (text : String)
    (read : (optional string).read item = .ok (some text)) : item = .str text := by
  cases item <;> simp_all [optional, string, mismatch]

theorem readAll_cons (read : Json → Except DecodeError α) (item : Json) (rest : List Json)
    (as : List α) : readAll read (item :: rest) = .ok as ↔
      ∃ a others, read item = .ok a ∧ readAll read rest = .ok others ∧ as = a :: others := by
  rw [readAll]
  cases read item with
  | error e => simp
  | ok a =>
      cases readAll read rest with
      | error e => simp
      | ok others => simp [eq_comm]

theorem list_source (json : Json) (as : List α) (read : d.list.read json = .ok as) (a : α)
    (listed : a ∈ as) : ∃ item ∈ json.children, d.read item = .ok a := by
  cases json with
  | arr items =>
      simp only [list, Json.children] at read ⊢
      induction items generalizing as with
      | nil =>
          cases read
          contradiction
      | cons item rest ih =>
          obtain ⟨own, others, first, later, rfl⟩ := (readAll_cons ..).mp read
          rcases List.mem_cons.mp listed with rfl | behind
          · exact ⟨item, List.mem_cons_self, first⟩
          · obtain ⟨source, own, read⟩ := ih others behind later
            exact ⟨source, List.mem_cons_of_mem _ own, read⟩
  | _ => simp [list, mismatch] at read

theorem mem_readEntries (members : List (String × Json)) (entries : List (String × α))
    (read : readEntries d.read members = .ok entries) (key : String) (a : α) :
    (key, a) ∈ entries ↔ ∃ item, (key, item) ∈ members ∧ d.read item = .ok a := by
  induction members generalizing entries with
  | nil =>
      cases read
      simp
  | cons first rest ih =>
      obtain ⟨own, later, here, behind, rfl⟩ := (readEntries_cons ..).mp read
      obtain ⟨name, item⟩ := first
      simp only [List.mem_cons, Prod.mk.injEq, ih later behind]
      constructor
      · rintro (⟨rfl, rfl⟩ | ⟨source, listed, made⟩)
        · exact ⟨item, .inl ⟨rfl, rfl⟩, here⟩
        · exact ⟨source, .inr listed, made⟩
      · rintro ⟨source, ⟨rfl, rfl⟩ | listed, made⟩
        · exact .inl ⟨rfl, Except.ok.inj (made.symm.trans here)⟩
        · exact .inr ⟨source, listed, made⟩

theorem mem_of_ofList (entries : List (String × α)) (key : String) (a : α)
    (found : (Std.ExtTreeMap.ofList entries)[key]? = some a) : (key, a) ∈ entries := by
  rw [Std.ExtTreeMap.ofList_eq_insertMany_empty] at found
  suffices ∀ table : Std.ExtTreeMap String α, (table.insertMany entries)[key]? = some a →
      (key, a) ∈ entries ∨ table[key]? = some a by
    simpa using this ∅ found
  clear found
  induction entries with
  | nil => simp
  | cons first rest ih =>
      intro table found
      rw [Std.ExtTreeMap.insertMany_cons] at found
      rcases ih _ found with behind | before
      · exact .inl (List.mem_cons_of_mem _ behind)
      · rw [Std.ExtTreeMap.getElem?_insert] at before
        obtain ⟨name, value⟩ := first
        by_cases same : name = key
        · subst same
          simp_all
        · simp_all

/-- An entry of a dictionary was written under its key. Of several it is the last one. -/
theorem dictionary_source (json : Json) (table : Std.ExtTreeMap String α)
    (read : d.dictionary.read json = .ok table) (key : String) (a : α)
    (found : table[key]? = some a) : ∃ item ∈ json.children, d.read item = .ok a := by
  cases json with
  | obj members =>
      cases entries : readEntries d.read members with
      | error e => simp [dictionary, entries] at read
      | ok made =>
          simp only [dictionary, entries, Except.ok.injEq] at read
          subst read
          obtain ⟨item, own, read⟩ :=
            (mem_readEntries members made entries key a).mp (mem_of_ofList made key a found)
          exact ⟨item, List.mem_map_of_mem own, read⟩
  | _ => simp [dictionary, mismatch] at read

end Decoder

end QuestWeb
