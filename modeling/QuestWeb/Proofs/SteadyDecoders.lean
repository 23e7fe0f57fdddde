import QuestWeb.Proofs.DistinctKeys
import QuestWeb.Proofs.RecordForms

/-!
Decoders that are steady: what they read, apart from what is wrong where they read nothing, does not
depend on whether a tree is in canonical form, as long as no key repeats.
-/

namespace QuestWeb

namespace Decoder

variable {α β : Type}

def read? (d : Decoder α) (json : Json) : Option α :=
  (d.read json).toOption

def Steady (d : Decoder α) : Prop :=
  ∀ json : Json, json.Steady d.read?

theorem read?_eq_some (d : Decoder α) (json : Json) (a : α) :
    d.read? json = some a ↔ d.read json = .ok a := by
  rw [read?]
  cases d.read json <;> simp [Except.toOption]

theorem steady_string : Steady string :=
  .flat (fun _ => rfl) (fun _ => rfl)

theorem steady_bool : Steady bool :=
  .flat (fun _ => rfl) (fun _ => rfl)

theorem steady_whole (low high : Int) (expected : String) (make : Int → α) :
    Steady (whole low high expected make) :=
  .flat (fun _ => rfl) (fun _ => rfl)

theorem read?_map (f : α → β) (d : Decoder α) (json : Json) :
    (d.map f).read? json = (d.read? json).map f := by
  simp only [read?, map]
  cases d.read json <;> rfl

theorem Steady.map {d : Decoder α} (steady : d.Steady) (f : α → β) : (d.map f).Steady := by
  intro json
  rw [funext (read?_map f d)]
  exact (steady json).map f

theorem read?_optional (d : Decoder α) (json : Json) (some_ : json ≠ .null) :
    d.optional.read? json = (d.read? json).map some := by
  cases json with
  | null => contradiction
  | _ =>
      simp only [read?, optional]
      cases d.read _ <;> rfl

theorem Steady.optional {d : Decoder α} (steady : d.Steady) : d.optional.Steady := by
  intro json
  by_cases null : json = .null
  · subst null
    exact .own rfl
  · have present (value : Json) (freed : json.free? = some value) : value ≠ .null :=
      fun same => null ((Json.free?_null json value freed).mp same)
    have mapped := (steady json).map some
    constructor
    case same =>
      intro value freed distinct
      rw [read?_optional d value (present value freed), read?_optional d json null]
      exact mapped.same value freed distinct
    case kept =>
      intro value freed
      rw [read?_optional d value (present value freed), read?_optional d json null]
      exact mapped.kept value freed

theorem read?_list (d : Decoder α) (items : List Json) :
    d.list.read? (.arr items) = Json.eachItem d.read? (.arr items) := by
  simp only [read?, list, Json.eachItem]
  induction items with
  | nil => rfl
  | cons item rest ih =>
      rw [List.mapM_cons, ← ih, readAll, read?]
      cases d.read item with
      | error e => rfl
      | ok a => cases readAll d.read rest <;> rfl

theorem Steady.list {d : Decoder α} (steady : d.Steady) : d.list.Steady :=
  .containers (fun _ => .congr_arr (read?_list d) (.items fun item _ => steady item))
    (.const_obj none fun _ => rfl)

theorem readEntries_keys (read : Json → Except DecodeError α) (members : List (String × Json))
    (entries : List (String × α)) (made : readEntries read members = .ok entries) :
    entries.map Prod.fst = members.map Prod.fst := by
  induction members generalizing entries with
  | nil =>
      cases made
      rfl
  | cons first rest ih =>
      obtain ⟨a, later, _, behind, rfl⟩ := (readEntries_cons ..).mp made
      rw [List.map_cons, List.map_cons, ih later behind]

theorem readEntries_isSome (d : Decoder α) (members : List (String × Json)) :
    (readEntries d.read members).toOption.isSome = true ↔
      ∀ member ∈ members, (d.read? member.2).isSome = true := by
  induction members with
  | nil => simp [readEntries, Except.toOption]
  | cons first rest ih =>
      obtain ⟨key, item⟩ := first
      rw [List.forall_mem_cons, ← ih, readEntries, read?]
      cases d.read item with
      | error e => simp [Except.toOption]
      | ok a => cases readEntries d.read rest <;> simp [Except.toOption]

theorem dictionary_isSome (d : Decoder α) (members : List (String × Json)) :
    (d.dictionary.read? (.obj members)).isSome = true ↔
      ∀ member ∈ members, (d.read? member.2).isSome = true := by
  rw [← readEntries_isSome]
  simp only [read?, dictionary]
  cases readEntries d.read members <;> simp [Except.toOption]

/-- The entries of a dictionary whose keys differ. -/
theorem dictionary_entry (d : Decoder α) (members : List (String × Json))
    (distinct : (members.map Prod.fst).Nodup) (table : Std.ExtTreeMap String α)
    (read : d.dictionary.read? (.obj members) = some table) (key : String) (a : α) :
    table[key]? = some a ↔ ∃ item, (key, item) ∈ members ∧ d.read? item = some a := by
  rw [read?_eq_some] at read
  cases made : readEntries d.read members with
  | error e => simp [dictionary, made] at read
  | ok entries =>
      simp only [dictionary, made, Except.ok.injEq] at read
      subst read
      have apart : (entries.map Prod.fst).Nodup := by
        rwa [readEntries_keys d.read members entries made]
      simp only [getElem?_ofList entries apart, mem_readEntries members entries made,
        read?_eq_some]

variable {d : Decoder α} {members values : List (String × Json)}

theorem Steady.dictionary_kept (steady : d.Steady)
    (freed : Json.freeMembers? members = some values)
    (some_ : (d.dictionary.read? (.obj members)).isSome = true) :
    (d.dictionary.read? (.obj values)).isSome = true := by
  rw [dictionary_isSome] at some_ ⊢
  rintro ⟨key, value⟩ listed
  obtain ⟨item, written, free⟩ := Json.freeMembers?_source members values freed key value listed
  exact (steady item).kept value free (some_ (key, item) written)

/-- Where keys differ, what is read for a key is read from its one member, freed or not. -/
theorem Steady.entry_iff (steady : d.Steady) (freed : Json.freeMembers? members = some values)
    (apart : (members.map Prod.fst).Nodup)
    (each : ∀ member ∈ members, member.2.isDistinct = true) (key : String) (a : α) :
    (∃ value, (key, value) ∈ values ∧ d.read? value = some a) ↔
      ∃ item, (key, item) ∈ members ∧ d.read? item = some a := by
  constructor
  · rintro ⟨value, listed, own⟩
    obtain ⟨item, written, free⟩ := Json.freeMembers?_source members values freed key value listed
    exact ⟨item, written, (steady item).same value free (each _ written) ▸ own⟩
  · rintro ⟨item, written, own⟩
    obtain ⟨value, free, listed⟩ :=
      Json.freeMembers?_mem members values freed apart key item written
    exact ⟨value, listed, ((steady item).same value free (each _ written)).trans own⟩

theorem Steady.dictionary_same (steady : d.Steady)
    (freed : Json.freeMembers? members = some values) (apart : (members.map Prod.fst).Nodup)
    (each : ∀ member ∈ members, member.2.isDistinct = true) :
    d.dictionary.read? (.obj values) = d.dictionary.read? (.obj members) := by
  have entries := steady.entry_iff freed apart each
  cases whole : d.dictionary.read? (.obj members) with
  | none =>
      rw [← Option.not_isSome_iff_eq_none, dictionary_isSome] at whole ⊢
      refine fun all => whole ?_
      rintro ⟨key, item⟩ written
      obtain ⟨value, free, listed⟩ :=
        Json.freeMembers?_mem members values freed apart key item written
      rw [← (steady item).same value free (each _ written)]
      exact all (key, value) listed
  | some table =>
      obtain ⟨other, read⟩ :=
        Option.isSome_iff_exists.mp (steady.dictionary_kept freed (by simp [whole]))
      rw [read, Option.some.injEq]
      apply Std.ExtTreeMap.ext_getElem?
      intro key
      apply Option.ext
      intro a
      rw [dictionary_entry d values (Json.freeMembers?_nodup members values freed apart) other read,
        dictionary_entry d members apart table whole, entries]

theorem Steady.dictionary (steady : d.Steady) : d.dictionary.Steady := by
  refine .containers (.const_arr none fun _ => rfl) fun members => ?_
  constructor
  case kept =>
    intro value freed
    obtain ⟨values, inside, rfl⟩ := Json.free?_obj members value freed
    exact steady.dictionary_kept inside
  case same =>
    intro value freed distinct
    obtain ⟨values, inside, rfl⟩ := Json.free?_obj members value freed
    obtain ⟨apart, each⟩ := (Json.isDistinct_obj members).mp distinct
    exact steady.dictionary_same inside apart each

end Decoder

namespace Fields

variable {α β : Type}

def ofArray? (fields : Fields α) : Json → Option α
  | .arr items => (fields.fromItems items).toOption.map Prod.fst
  | _ => none

structure Steady (fields : Fields α) : Prop where
  objects : ∀ json : Json, json.Steady fields.ofObject?
  arrays : ∀ json : Json, json.Steady fields.ofArray?
  taken : ∃ n, ∀ items a left, fields.fromItems items = .ok (a, left) → left = items.drop n

theorem ofObject?_field (name : String) (aliases : List String) (d : Decoder α)
    (default : Option α) (members : List (String × Json)) :
    (field name aliases d default).ofObject? (.obj members) =
      Json.readUnder ((name :: aliases).contains ·) d.read? default (.obj members) := by
  have all := occurrences_filter (name :: aliases) 0 members
  simp only [ofObject?, field, Json.readUnder]
  generalize members.filter ((name :: aliases).contains ·.1) = only at all ⊢
  cases only with
  | nil =>
      rw [List.map_nil, List.map_eq_nil_iff] at all
      rw [all]
      cases default <;> rfl
  | cons first rest =>
      obtain ⟨⟨place, _⟩, later, found, rfl, more⟩ := List.map_eq_cons_iff.mp all
      rw [found]
      cases rest with
      | nil =>
          rw [List.map_nil, List.map_eq_nil_iff] at more
          rw [more]
          simp only [Json.readOnly, Decoder.read?]
          cases d.read first.2 <;> rfl
      | cons again others =>
          obtain ⟨_, _, rfl, _, _⟩ := List.map_eq_cons_iff.mp more
          simp only [Json.readOnly]
          cases d.read first.2 <;> rfl

theorem ofArray?_field (name : String) (aliases : List String) (d : Decoder α)
    (default : Option α) (item : Json) (rest : List Json) :
    (field name aliases d default).ofArray? (.arr (item :: rest)) = d.read? item := by
  simp only [ofArray?, field, Decoder.read?]
  cases d.read item <;> rfl

theorem steady_first (name : String) (aliases : List String) {d : Decoder α} (steady : d.Steady)
    (default : Option α) (items : List Json) :
    (Json.arr items).Steady (field name aliases d default).ofArray? := by
  cases items with
  | nil => exact .own rfl
  | cons item rest =>
      have own := ofArray?_field name aliases d default
      constructor
      case same =>
        intro value freed distinct
        obtain ⟨values, inside, rfl⟩ := Json.free?_arr _ value freed
        obtain ⟨value, others, here, _, rfl⟩ := (Json.freeItems?_cons ..).mp inside
        rw [own, own]
        exact (steady item).same value here
          ((Json.isDistinct_arr _).mp distinct item List.mem_cons_self)
      case kept =>
        intro value freed
        obtain ⟨values, inside, rfl⟩ := Json.free?_arr _ value freed
        obtain ⟨value, others, here, _, rfl⟩ := (Json.freeItems?_cons ..).mp inside
        rw [own, own]
        exact (steady item).kept value here

theorem steady_field (name : String) (aliases : List String) {d : Decoder α} (steady : d.Steady)
    (default : Option α) : (field name aliases d default).Steady where
  objects := .containers (.const_arr none fun _ => rfl) fun members =>
    .congr_obj (ofObject?_field name aliases d default)
      (.under _ default fun member _ => steady member.2)
  arrays := .containers (steady_first name aliases steady default) (.const_obj none fun _ => rfl)
  taken := ⟨1, fun items a left read => by
    rw [List.drop_one]
    exact (field_fromItems name aliases d default items left a read).1⟩

theorem steady_required (name : String) {d : Decoder α} (steady : d.Steady) :
    (required name d).Steady :=
  steady_field name [] steady none

theorem steady_withDefault (name : String) {d : Decoder α} (steady : d.Steady) (default : α) :
    (withDefault name d default).Steady :=
  steady_field name [] steady (some default)

theorem ofObject?_seq (f : Fields (α → β)) (x : Fields α) (json : Json) :
    (f <*> x).ofObject? json = (f.ofObject? json).bind ((x.ofObject? json).map ·) := by
  cases json with
  | obj members =>
      simp only [ofObject?, Seq.seq]
      cases f.fromMembers members <;> cases x.fromMembers members <;> rfl
  | _ => rfl

theorem ofArray?_seq (f : Fields (α → β)) (x : Fields α) (n : Nat)
    (taken : ∀ items g left, f.fromItems items = .ok (g, left) → left = items.drop n)
    (json : Json) : (f <*> x).ofArray? json =
      (f.ofArray? json).bind ((x.ofArray? (json.dropItems n)).map ·) := by
  cases json with
  | arr items =>
      simp only [ofArray?, Seq.seq, Json.dropItems]
      cases first : f.fromItems items with
      | error e => rfl
      | ok made =>
          obtain ⟨g, left⟩ := made
          obtain rfl := taken items g left first
          cases second : x.fromItems (items.drop n) <;> simp [second, Except.toOption]
  | _ => rfl

theorem steady_pure (a : α) : (pure a : Fields α).Steady where
  objects := .containers (.const_arr none fun _ => rfl) (.const_obj (some a) fun _ => rfl)
  arrays := .containers (.const_arr (some a) fun _ => rfl) (.const_obj none fun _ => rfl)
  taken := ⟨0, fun items b left read => by
    obtain ⟨_, rfl⟩ := Prod.mk.inj (Except.ok.inj read)
    rfl⟩

theorem Steady.seq {f : Fields (α → β)} {x : Fields α} (first : f.Steady) (second : x.Steady) :
    (f <*> x).Steady := by
  obtain ⟨n, took⟩ := first.taken
  obtain ⟨m, takes⟩ := second.taken
  constructor
  case objects =>
    intro json
    rw [funext (ofObject?_seq f x)]
    exact (first.objects json).seq (second.objects json)
  case arrays =>
    intro json
    rw [funext (ofArray?_seq f x n took)]
    exact (first.arrays json).seq (Json.Steady.drop (second.arrays _))
  case taken =>
    refine ⟨n + m, fun items b left read => ?_⟩
    obtain ⟨g, rest, a, here, behind, _⟩ := (fromItems_seq_ok ..).mp read
    rw [takes rest a left behind, took items g rest here, List.drop_drop]

theorem Steady.map {x : Fields α} (steady : x.Steady) (f : α → β) : (f <$> x).Steady :=
  (steady_pure f).seq steady

end Fields

namespace Decoder

variable {α : Type}

theorem read?_record_obj (type name : String) (fields : Fields α) (members : List (String × Json)) :
    (record type name fields).read? (.obj members) = fields.ofObject? (.obj members) := by
  simp only [read?, record, Fields.ofObject?]
  cases fields.fromMembers members with
  | ok a => rfl
  | error failure => cases failure <;> rfl

theorem read?_record_arr (type name : String) (fields : Fields α) (n : Nat)
    (taken : ∀ items a left, fields.fromItems items = .ok (a, left) → left = items.drop n)
    (items : List Json) : (record type name fields).read? (.arr items) =
      if items.length ≤ n then fields.ofArray? (.arr items) else none := by
  simp only [read?, record, Fields.ofArray?]
  cases read : fields.fromItems items with
  | ok made =>
      obtain ⟨a, left⟩ := made
      have rest := taken items a left read
      by_cases short : items.length ≤ n
      · rw [List.drop_of_length_le short] at rest
        subst rest
        simp [short, Except.toOption]
      · have many : left ≠ [] := by
          rw [rest, Ne, List.drop_eq_nil_iff]
          exact short
        obtain ⟨first, others, rfl⟩ := List.exists_cons_of_ne_nil many
        simp [short, Except.toOption]
  | error e => cases e <;> simp [Except.toOption]

theorem steady_record (type name : String) {fields : Fields α} (steady : fields.Steady) :
    (record type name fields).Steady := by
  obtain ⟨n, taken⟩ := steady.taken
  have objects := read?_record_obj type name fields
  have arrays := read?_record_arr type name fields n taken
  refine .containers (fun items => ?_) (fun members => ?_)
  · constructor
    case same =>
      intro value freed distinct
      obtain ⟨values, inside, rfl⟩ := Json.free?_arr items value freed
      rw [arrays, arrays, Json.freeItems?_length items values inside,
        (steady.arrays _).same _ freed distinct]
    case kept =>
      intro value freed some_
      obtain ⟨values, inside, rfl⟩ := Json.free?_arr items value freed
      rw [arrays] at some_ ⊢
      rw [Json.freeItems?_length items values inside]
      by_cases short : items.length ≤ n
      · rw [if_pos short] at some_ ⊢
        exact (steady.arrays _).kept _ freed some_
      · simp [short] at some_
  · exact .congr_obj objects (steady.objects _)

end Decoder

end QuestWeb
