import QuestWeb.Proofs.Canonical
import QuestWeb.Proofs.Results

/-!
Values carried by JSON. A decoder reads a value back from the tree that was written for it and also
from its canonical form, and decoders put together from such decoders do so as well.
-/

namespace QuestWeb

namespace Json

mutual

theorem free?_isSome : (json : Json) → json.free?.isSome = json.isReadable
  | .null | .bool _ | .num _ | .str _ | .unreadable => rfl
  | .arr items => by simp [free?, isReadable, freeItems?_isSome items]
  | .obj members => by simp [free?, isReadable, freeMembers?_isSome members]

theorem freeItems?_isSome : (items : List Json) → (freeItems? items).isSome = areReadable items
  | [] => rfl
  | item :: rest => by
      rw [areReadable, ← free?_isSome item, ← freeItems?_isSome rest, freeItems?]
      cases item.free? <;> cases freeItems? rest <;> rfl

theorem freeMembers?_isSome :
    (members : List (String × Json)) → (freeMembers? members).isSome = membersReadable members
  | [] => rfl
  | (key, item) :: rest => by
      rw [membersReadable, ← free?_isSome item, ← freeMembers?_isSome rest, freeMembers?]
      cases item.free? <;> cases freeMembers? rest <;> rfl

end

theorem membersReadable_iff (members : List (String × Json)) :
    membersReadable members = true ↔ ∀ member ∈ members, member.2.isReadable = true := by
  induction members with
  | nil => simp [membersReadable]
  | cons first rest ih => simp [membersReadable, ih]

mutual

theorem readable_of_free? : (json value : Json) → json.free? = some value → value.isReadable = true
  | .null, _, rfl | .bool _, _, rfl | .num _, _, rfl | .str _, _, rfl => rfl
  | .arr items, value, freed => by
      simp only [free?, Option.map_eq_some_iff] at freed
      obtain ⟨values, freed, rfl⟩ := freed
      exact readable_of_freeItems? items values freed
  | .obj members, value, freed => by
      simp only [free?, Option.map_eq_some_iff] at freed
      obtain ⟨values, freed, rfl⟩ := freed
      exact readable_of_freeMembers? members values freed

theorem readable_of_freeItems? : (items values : List Json) → freeItems? items = some values →
    areReadable values = true
  | [], _, rfl => rfl
  | item :: rest, values, freed => by
      unfold freeItems? at freed
      cases first : item.free? with
      | none => simp [first] at freed
      | some value =>
          cases later : freeItems? rest with
          | none => simp [first, later] at freed
          | some others =>
              simp only [first, later, Option.some.injEq] at freed
              subst freed
              rw [areReadable, readable_of_free? item value first,
                readable_of_freeItems? rest others later, Bool.and_true]

theorem readable_of_freeMembers? : (members values : List (String × Json)) →
    freeMembers? members = some values → membersReadable values = true
  | [], _, rfl => rfl
  | (key, item) :: rest, values, freed => by
      obtain ⟨value, others, first, later, rfl⟩ := freeMembers?_cons key item rest values freed
      have here := readable_of_free? item value first
      have behind := readable_of_freeMembers? rest others later
      rw [membersReadable_iff] at behind ⊢
      intro member listed
      rcases mem_placeMember _ member others listed with rfl | old
      · exact here
      · exact behind member old

end

def spread (slots : List (String × Option Json)) : List (String × Json) :=
  slots.flatMap fun slot => optionalMember slot.1 slot.2

variable {slots : List (String × Option Json)}

theorem spread_keys (slots : List (String × Option Json)) :
    ((spread slots).map Prod.fst).Sublist (slots.map Prod.fst) := by
  induction slots with
  | nil => exact .slnil
  | cons slot rest ih =>
      obtain ⟨key, value⟩ := slot
      rw [spread, List.flatMap_cons, List.map_append, List.map_cons]
      cases value with
      | none => exact ih.cons key
      | some item => exact ih.cons_cons key

theorem filter_optionalMember (wanted : String → Bool) (key : String) (value : Option Json) :
    (optionalMember key value).filter (wanted ·.1) =
      if wanted key then optionalMember key value else [] := by
  cases value with
  | none => simp [optionalMember]
  | some item =>
      cases asked : wanted key <;> simp [optionalMember, asked]

theorem filter_spread (wanted : String → Bool) (distinct : (slots.map Prod.fst).Nodup)
    (key : String) (value : Option Json) (listed : (key, value) ∈ slots)
    (asked : wanted key = true) (alone : ∀ slot ∈ slots, wanted slot.1 = true → slot.1 = key) :
    (spread slots).filter (wanted ·.1) = optionalMember key value := by
  have none (rest : List (String × Option Json))
      (unwanted : ∀ slot ∈ rest, wanted slot.1 = false) :
      (spread rest).filter (wanted ·.1) = [] := by
    rw [List.filter_eq_nil_iff]
    intro member written
    obtain ⟨slot, own, same⟩ :=
      List.mem_map.mp ((spread_keys rest).subset (List.mem_map_of_mem written))
    simp [← same, unwanted slot own]
  induction slots with
  | nil => simp at listed
  | cons slot rest ih =>
      rw [List.map_cons, List.nodup_cons] at distinct
      rw [spread, List.flatMap_cons, List.filter_append, filter_optionalMember]
      rcases List.mem_cons.mp listed with rfl | behind
      -- The key stands here, so no other slot has a wanted key.
      · have later : (spread rest).filter (wanted ·.1) = [] := by
          refine none rest fun slot own => Bool.eq_false_iff.mpr fun also => distinct.1 ?_
          exact List.mem_map.mpr ⟨slot, own, alone slot (List.mem_cons_of_mem _ own) also⟩
        rw [if_pos asked]
        exact (congrArg _ later).trans (List.append_nil _)
      · have apart : ¬ wanted slot.1 = true := by
          intro also
          apply distinct.1
          exact List.mem_map.mpr ⟨(key, value), behind, (alone slot List.mem_cons_self also).symm⟩
        rw [if_neg apart]
        exact ih distinct.2 behind fun slot own => alone slot (List.mem_cons_of_mem _ own)

theorem spread_readable
    (each : ∀ slot ∈ slots, ∀ item, slot.2 = some item → item.isReadable = true) :
    membersReadable (spread slots) = true := by
  rw [membersReadable_iff]
  intro member written
  obtain ⟨slot, own, inside⟩ := List.mem_flatMap.mp written
  cases value : slot.2 with
  | none => simp [value, optionalMember] at inside
  | some item =>
      simp only [value, optionalMember, List.mem_singleton] at inside
      subst inside
      exact each slot own item value

end Json

namespace Decoder

variable {α β γ : Type}

/-- A tree is read as a value, both as it is written and in canonical form. -/
structure Carries (d : Decoder α) (json : Json) (a : α) : Prop where
  written : d.read json = .ok a
  canonical : ∃ value, json.free? = some value ∧ d.read value = .ok a

/-- A tree that is its own canonical form is only read in one way. -/
theorem Carries.of_free {d : Decoder α} {json : Json} {a : α} (own : json.free? = some json)
    (read : d.read json = .ok a) : Carries d json a :=
  ⟨read, json, own, read⟩

theorem carries_string (text : String) : Carries .string (.str text) text :=
  .of_free rfl rfl

theorem string_null (text : String) : Decoder.string.read .null ≠ .ok text := by
  simp [string, mismatch]

theorem carries_bool (value : Bool) : Carries .bool (.bool value) value :=
  .of_free rfl rfl

theorem Carries.map {d : Decoder α} {json : Json} {a : α} (carries : Carries d json a)
    (f : α → β) : Carries (d.map f) json (f a) := by
  obtain ⟨written, value, freed, read⟩ := carries
  exact ⟨by simp [Decoder.map, written], value, freed, by simp [Decoder.map, read]⟩

theorem read_optional (d : Decoder α) (json : Json) (a : α) (read : d.read json = .ok a)
    (refuses : ∀ a, d.read .null ≠ .ok a) : d.optional.read json = .ok (some a) := by
  cases json with
  | null => exact absurd read (refuses a)
  | _ => simp [optional, read]

theorem Carries.optional {d : Decoder α} {json : Json} {a : α} (carries : Carries d json a)
    (refuses : ∀ a, d.read .null ≠ .ok a) : Carries d.optional json (some a) := by
  obtain ⟨written, value, freed, read⟩ := carries
  exact ⟨read_optional d json a written refuses, value, freed,
    read_optional d value a read refuses⟩

theorem carries_whole (low high : Int) (expected : String) (make : Int → α) (n : Int) (a : α)
    (least : low ≤ n) (most : n ≤ high) (made : make n = a) :
    Carries (whole low high expected make) (.num (.int n)) a := by
  refine .of_free rfl ?_
  simp only [whole, least, most, and_self, ↓reduceIte, made]

theorem carries_int64 (n : Int64) : Carries .int64 (.num (.int n.toInt)) n := by
  apply carries_whole
  case least => exact Int64.le_iff_toInt_le.mp (Int64.minValue_le n)
  case most => exact Int64.le_iff_toInt_le.mp (Int64.le_maxValue n)
  case made => exact Int64.ofInt_toInt n

theorem carries_uint32 (n : UInt32) : Carries .uint32 (.num (.int n.toNat)) n := by
  apply carries_whole
  case least => exact Int.natCast_nonneg _
  case most =>
    have := n.toNat_lt
    simp only [UInt32.size]
    omega
  case made => simp

theorem carries_uint64 (n : UInt64) : Carries .uint64 (.num (.int n.toNat)) n := by
  apply carries_whole
  case least => exact Int.natCast_nonneg _
  case most =>
    have := n.toNat_lt
    simp only [UInt64.size]
    omega
  case made => simp

theorem carries_list (d : Decoder β) (items : List α) (write : α → Json) (back : α → β)
    (each : ∀ a ∈ items, Carries d (write a) (back a)) :
    Carries d.list (.arr (items.map write)) (items.map back) := by
  have all : readAll d.read (items.map write) = .ok (items.map back) ∧
      ∃ values, Json.freeItems? (items.map write) = some values ∧
        readAll d.read values = .ok (items.map back) := by
    induction items with
    | nil => exact ⟨rfl, [], rfl, rfl⟩
    | cons a rest ih =>
        obtain ⟨⟨written, value, free, read⟩, others⟩ := List.forall_mem_cons.mp each
        obtain ⟨writtenRest, values, freed, readRest⟩ := ih others
        exact ⟨by simp [readAll, written, writtenRest], value :: values,
          by simp [Json.freeItems?, free, freed], by simp [readAll, read, readRest]⟩
  obtain ⟨written, values, freed, read⟩ := all
  exact ⟨written, .arr values, by simp [Json.free?, freed], read⟩

theorem carries_items {d : Decoder α} {write : α → Json} (items : List α)
    (each : ∀ a ∈ items, Carries d (write a) a) :
    Carries d.list (.arr (items.map write)) items := by
  have listed := carries_list d items write id each
  rwa [List.map_id] at listed

theorem readEntries_cons (read : Json → Except DecodeError α) (key : String) (item : Json)
    (rest : List (String × Json)) (entries : List (String × α)) :
    readEntries read ((key, item) :: rest) = .ok entries ↔ ∃ a later, read item = .ok a ∧
      readEntries read rest = .ok later ∧ entries = (key, a) :: later := by
  conv => lhs; unfold readEntries
  cases read item with
  | error e => simp
  | ok a => cases readEntries read rest <;> simp [eq_comm]

theorem readEntries_perm (read : Json → Except DecodeError α)
    (members others : List (String × Json)) (moved : members.Perm others)
    (entries : List (String × α)) (made : readEntries read others = .ok entries) :
    ∃ moved : List (String × α), readEntries read members = .ok moved ∧ moved.Perm entries := by
  induction moved generalizing entries with
  | nil => exact ⟨entries, made, .refl _⟩
  | cons member _ ih =>
      obtain ⟨a, later, here, behind, rfl⟩ := (readEntries_cons ..).mp made
      obtain ⟨shifted, read, same⟩ := ih later behind
      exact ⟨(member.1, a) :: shifted, (readEntries_cons ..).mpr ⟨a, shifted, here, read, rfl⟩,
        same.cons _⟩
  | swap first second rest =>
      obtain ⟨a, later, here, behind, rfl⟩ := (readEntries_cons ..).mp made
      obtain ⟨b, last, next, ending, rfl⟩ := (readEntries_cons ..).mp behind
      have inner := (readEntries_cons read first.1 first.2 rest _).mpr ⟨a, last, here, ending, rfl⟩
      exact ⟨_, (readEntries_cons ..).mpr ⟨b, _, next, inner, rfl⟩, .swap _ _ _⟩
  | trans _ _ first second =>
      obtain ⟨middle, read, same⟩ := second entries made
      obtain ⟨moved, readMoved, also⟩ := first middle read
      exact ⟨moved, readMoved, also.trans same⟩

/-- The entries of a table make up the table again, in whatever order they come. -/
theorem ofList_perm_toList (table : Std.ExtTreeMap String α) (entries : List (String × α))
    (moved : entries.Perm table.toList) : Std.ExtTreeMap.ofList entries = table := by
  have distinct : (table.toList.map Prod.fst).Nodup := by
    rw [Std.ExtTreeMap.map_fst_toList_eq_keys]
    exact Std.ExtTreeMap.nodup_keys
  apply Std.ExtTreeMap.ext_getElem?
  intro key
  apply Option.ext
  intro a
  rw [getElem?_ofList entries ((moved.map Prod.fst).nodup_iff.mpr distinct), moved.mem_iff,
    Std.ExtTreeMap.mem_toList_iff_getElem?_eq_some]

theorem readEntries_map (d : Decoder α) (write : α → Json) (entries : List (String × α))
    (each : ∀ entry ∈ entries, Carries d (write entry.2) entry.2) :
    readEntries d.read (entries.map fun (key, a) => (key, write a)) = .ok entries := by
  induction entries with
  | nil => rfl
  | cons entry rest ih =>
      obtain ⟨first, others⟩ := List.forall_mem_cons.mp each
      simp [readEntries, first.written, ih others]

/-- The canonical form moves the entries about. -/
theorem readEntries_free (d : Decoder α) (write : α → Json) (entries : List (String × α))
    (distinct : (entries.map Prod.fst).Nodup)
    (each : ∀ entry ∈ entries, Carries d (write entry.2) entry.2) :
    ∃ values made, Json.freeMembers? (entries.map fun (key, a) => (key, write a)) = some values ∧
      readEntries d.read values = .ok made ∧ made.Perm entries := by
  induction entries with
  | nil => exact ⟨[], [], rfl, rfl, .refl _⟩
  | cons entry rest ih =>
      obtain ⟨⟨_, value, free, read⟩, others⟩ := List.forall_mem_cons.mp each
      rw [List.map_cons, List.nodup_cons] at distinct
      obtain ⟨values, made, freed, readRest, same⟩ := ih distinct.2 others
      have both : Json.freeMembers? ((entry :: rest).map fun (key, a) => (key, write a)) =
          some (Json.placeMember (entry.1, value) values) := by
        simp [Json.freeMembers?, free, freed]
      have new : entry.1 ∉ values.map Prod.fst := by
        intro listed
        have known := Json.freeMembers?_keys _ values freed entry.1 listed
        rw [List.map_map] at known
        exact distinct.1 known
      obtain ⟨moved, readMoved, also⟩ := readEntries_perm d.read _ _
        (Json.placeMember_perm (entry.1, value) values new) ((entry.1, entry.2) :: made)
        (by simp [readEntries, read, readRest])
      exact ⟨_, moved, both, readMoved, also.trans (same.cons entry)⟩

theorem carries_dictionary (d : Decoder α) (table : Std.ExtTreeMap String α) (write : α → Json)
    (each : ∀ (key : String) (a : α), table[key]? = some a → Carries d (write a) a) :
    Carries d.dictionary (.obj (table.toList.map fun (key, a) => (key, write a))) table := by
  have distinct : (table.toList.map Prod.fst).Nodup := by
    rw [Std.ExtTreeMap.map_fst_toList_eq_keys]
    exact Std.ExtTreeMap.nodup_keys
  have listed : ∀ entry ∈ table.toList, Carries d (write entry.2) entry.2 := fun entry own =>
    each entry.1 entry.2 (Std.ExtTreeMap.mem_toList_iff_getElem?_eq_some.mp own)
  obtain ⟨values, made, freed, read, moved⟩ := readEntries_free d write table.toList distinct listed
  constructor
  case written =>
    simp [dictionary, readEntries_map d write table.toList listed,
      ofList_perm_toList table table.toList (.refl _)]
  case canonical =>
    exact ⟨.obj values, by simp [Json.free?, freed],
      by simp [dictionary, read, ofList_perm_toList table made moved]⟩

end Decoder

namespace Fields

variable {α β : Type}

structure Carries (fields : Fields α) (members : List (String × Json)) (a : α) : Prop where
  written : fields.fromMembers members = .ok a
  canonical : ∀ values, Json.freeMembers? members = some values →
    fields.fromMembers values = .ok a

theorem occurrences_filter (names : List String) (place : Nat) (members : List (String × Json)) :
    (occurrences names place members).map Prod.snd =
      (members.filter (names.contains ·.1)).map Prod.snd := by
  induction members generalizing place with
  | nil => rfl
  | cons member rest ih =>
      obtain ⟨key, item⟩ := member
      rw [occurrences, List.filter_cons]
      split <;> simp [ih]

theorem fromMembers_seq (f : Fields (α → β)) (x : Fields α) (members : List (String × Json))
    (g : α → β) (a : α) (first : f.fromMembers members = .ok g)
    (second : x.fromMembers members = .ok a) : (f <*> x).fromMembers members = .ok (g a) := by
  simp [Seq.seq, first, second]

theorem Carries.seq {f : Fields (α → β)} {x : Fields α} {members : List (String × Json)} {g : α → β}
    {a : α} (first : f.Carries members g) (second : x.Carries members a) :
    (f <*> x).Carries members (g a) where
  written := fromMembers_seq f x members g a first.written second.written
  canonical values freed :=
    fromMembers_seq f x values g a (first.canonical values freed) (second.canonical values freed)

theorem carries_pure (a : α) (members : List (String × Json)) :
    (pure a : Fields α).Carries members a :=
  ⟨rfl, fun _ _ => rfl⟩

theorem Carries.map {x : Fields α} {members : List (String × Json)} {a : α} (f : α → β)
    (carries : x.Carries members a) : (f <$> x).Carries members (f a) :=
  (carries_pure f members).seq carries

theorem field_absent (name : String) (aliases : List String) (d : Decoder α) (default : Option α)
    (members : List (String × Json)) (a : α)
    (absent : members.filter ((name :: aliases).contains ·.1) = []) (given : default = some a) :
    (field name aliases d default).fromMembers members = .ok a := by
  have all := occurrences_filter (name :: aliases) 0 members
  rw [absent] at all
  have empty : occurrences (name :: aliases) 0 members = [] := by simpa using all
  simp [field, empty, given]

theorem field_present (name : String) (aliases : List String) (d : Decoder α) (default : Option α)
    (members : List (String × Json)) (key : String) (item : Json) (a : α)
    (only : members.filter ((name :: aliases).contains ·.1) = [(key, item)])
    (read : d.read item = .ok a) :
    (field name aliases d default).fromMembers members = .ok a := by
  have all := occurrences_filter (name :: aliases) 0 members
  rw [only, List.map_cons, List.map_nil] at all
  cases found : occurrences (name :: aliases) 0 members with
  | nil => simp [found] at all
  | cons first rest =>
      rw [found, List.map_cons, List.cons.injEq, List.map_eq_nil_iff] at all
      obtain ⟨same, rfl⟩ := all
      obtain ⟨place, own⟩ := first
      cases same
      simp [field, found, read]

variable {slots : List (String × Option Json)} (distinct : (slots.map Prod.fst).Nodup)

include distinct

/-- A field of which at most one member is written, under any of its names. -/
theorem carries_field (name : String) (aliases : List String) (d : Decoder α) (default : Option α)
    (key : String) (item : Option Json) (a : α) (listed : (key, item) ∈ slots)
    (known : key ∈ name :: aliases)
    (alone : ∀ slot ∈ slots, slot.1 ∈ name :: aliases → slot.1 = key)
    (carries : ∀ content, item = some content → d.Carries content a)
    (absent : item = none → default = some a) :
    (field name aliases d default).Carries (Json.spread slots) a := by
  -- The names of the field pick out one slot, before and behind the canonical form.
  have only := Json.filter_spread ((name :: aliases).contains ·) distinct key item listed
    (List.contains_iff_mem.mpr known) fun slot own also =>
      alone slot own (List.contains_iff_mem.mp also)
  cases item with
  | none =>
      constructor
      case written =>
        exact field_absent name aliases d default (Json.spread slots) a only (absent rfl)
      case canonical =>
        intro values freed
        have none := Json.freeMembers?_none (Json.spread slots) values _ freed only
        exact field_absent name aliases d default values a none (absent rfl)
  | some content =>
      obtain ⟨written, own, free, read⟩ := carries content rfl
      constructor
      case written =>
        exact field_present name aliases d default (Json.spread slots) key content a only written
      case canonical =>
        intro values freed
        obtain ⟨value, also, kept⟩ :=
          Json.freeMembers?_one (Json.spread slots) values _ freed key content only
        rw [free, Option.some.injEq] at also
        exact field_present name aliases d default values key value a kept (also ▸ read)

theorem carries_required (name : String) (d : Decoder α) (item : Json) (a : α)
    (listed : (name, some item) ∈ slots) (carries : d.Carries item a) :
    (required name d).Carries (Json.spread slots) a := by
  refine carries_field distinct name [] d none name (some item) a listed List.mem_cons_self
    (fun _ _ => List.mem_singleton.mp) ?_ (by simp)
  rintro content ⟨⟩
  exact carries

theorem carries_withDefault (name : String) (d : Decoder α) (default : α) (item : Json) (a : α)
    (listed : (name, some item) ∈ slots) (carries : d.Carries item a) :
    (withDefault name d default).Carries (Json.spread slots) a := by
  refine carries_field distinct name [] d (some default) name (some item) a listed
    List.mem_cons_self (fun _ _ => List.mem_singleton.mp) ?_ (by simp)
  rintro content ⟨⟩
  exact carries

theorem carries_optional (name : String) (d : Decoder α) (write : α → Json) (value : Option α)
    (listed : (name, value.map write) ∈ slots) (each : ∀ a, d.Carries (write a) a)
    (refuses : ∀ a, d.read .null ≠ .ok a) :
    (withDefault name d.optional none).Carries (Json.spread slots) value := by
  refine carries_field distinct name [] d.optional (some none) name _ value listed
    List.mem_cons_self (fun _ _ => List.mem_singleton.mp) ?_ ?_
  · intro content written
    obtain ⟨a, rfl, rfl⟩ := Option.map_eq_some_iff.mp written
    exact (each a).optional refuses
  · intro none
    rw [Option.map_eq_none_iff.mp none]

theorem carries_listMember (name : String) (d : Decoder α) (items : List α) (write : α → Json)
    (listed : (name, if items = [] then none else some (.arr (items.map write))) ∈ slots)
    (each : ∀ a ∈ items, d.Carries (write a) a) :
    (withDefault name d.list []).Carries (Json.spread slots) items := by
  refine carries_field distinct name [] d.list (some []) name _ items listed
    List.mem_cons_self (fun _ _ => List.mem_singleton.mp) ?_ ?_
  · intro content written
    split at written
    · contradiction
    · cases written
      exact Decoder.carries_items items each
  · intro none
    split at none
    · simp [*]
    · contradiction

end Fields

theorem Decoder.carries_record {α : Type} (type name : String) (fields : Fields α)
    (slots : List (String × Option Json)) (a : α)
    (readable : ∀ slot ∈ slots, ∀ item, slot.2 = some item → item.isReadable = true)
    (carries : fields.Carries (Json.spread slots) a) :
    Decoder.Carries (.record type name fields) (.obj (Json.spread slots)) a := by
  have free : (Json.freeMembers? (Json.spread slots)).isSome := by
    rw [Json.freeMembers?_isSome, Json.spread_readable readable]
  obtain ⟨values, freed⟩ := Option.isSome_iff_exists.mp free
  constructor
  case written => simp [Decoder.record, carries.written]
  case canonical =>
    exact ⟨.obj values, by simp [Json.free?, freed],
      by simp [Decoder.record, carries.canonical values freed]⟩

end QuestWeb
