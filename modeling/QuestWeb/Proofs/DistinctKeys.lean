import QuestWeb.Proofs.RoundTrip

/-!
Readings of trees with repeated keys. The canonical form drops what was written before the last
member of a key, and a record refuses a key that repeats, so a reading may accept the canonical form
of a tree that it refuses. It is steady where this is the only difference: the canonical form of
what it accepts is accepted as well, and a tree in which no key repeats is read as its canonical
form.
-/

namespace QuestWeb

namespace Json

mutual

def isDistinct : Json → Bool
  | .arr items => areDistinct items
  | .obj members => decide (members.map Prod.fst).Nodup && membersDistinct members
  | _ => true

def areDistinct : List Json → Bool
  | [] => true
  | item :: rest => item.isDistinct && areDistinct rest

def membersDistinct : List (String × Json) → Bool
  | [] => true
  | (_, item) :: rest => item.isDistinct && membersDistinct rest

end

theorem areDistinct_iff (items : List Json) :
    areDistinct items = true ↔ ∀ item ∈ items, item.isDistinct = true := by
  induction items with
  | nil => simp [areDistinct]
  | cons first rest ih => simp [areDistinct, ih]

theorem membersDistinct_iff (members : List (String × Json)) :
    membersDistinct members = true ↔ ∀ member ∈ members, member.2.isDistinct = true := by
  induction members with
  | nil => simp [membersDistinct]
  | cons first rest ih => simp [membersDistinct, ih]

theorem isDistinct_obj (members : List (String × Json)) : (Json.obj members).isDistinct = true ↔
    (members.map Prod.fst).Nodup ∧ ∀ member ∈ members, member.2.isDistinct = true := by
  rw [isDistinct, Bool.and_eq_true, decide_eq_true_iff, membersDistinct_iff]

theorem isDistinct_arr (items : List Json) :
    (Json.arr items).isDistinct = true ↔ ∀ item ∈ items, item.isDistinct = true :=
  areDistinct_iff items

theorem free?_arr (items : List Json) (value : Json)
    (freed : (Json.arr items).free? = some value) :
    ∃ values, freeItems? items = some values ∧ value = .arr values := by
  obtain ⟨values, inside, rfl⟩ := Option.map_eq_some_iff.mp freed
  exact ⟨values, inside, rfl⟩

theorem free?_obj (members : List (String × Json)) (value : Json)
    (freed : (Json.obj members).free? = some value) :
    ∃ values, freeMembers? members = some values ∧ value = .obj values := by
  obtain ⟨values, inside, rfl⟩ := Option.map_eq_some_iff.mp freed
  exact ⟨values, inside, rfl⟩

theorem free?_null (json value : Json) (freed : json.free? = some value) :
    value = .null ↔ json = .null := by
  cases json with
  | arr items =>
      obtain ⟨values, _, rfl⟩ := free?_arr items value freed
      simp
  | obj members =>
      obtain ⟨values, _, rfl⟩ := free?_obj members value freed
      simp
  | unreadable => contradiction
  | _ =>
      cases freed
      rfl

theorem freeItems?_length (items values : List Json) (freed : freeItems? items = some values) :
    values.length = items.length := by
  induction items generalizing values with
  | nil =>
      cases freed
      rfl
  | cons item rest ih =>
      obtain ⟨value, others, _, later, rfl⟩ := (freeItems?_cons ..).mp freed
      rw [List.length_cons, List.length_cons, ih others later]

theorem freeItems?_drop (n : Nat) (items values : List Json)
    (freed : freeItems? items = some values) :
    freeItems? (items.drop n) = some (values.drop n) := by
  induction n generalizing items values with
  | zero => exact freed
  | succ n ih =>
      cases items with
      | nil =>
          cases freed
          rfl
      | cons item rest =>
          obtain ⟨value, others, _, later, rfl⟩ := (freeItems?_cons ..).mp freed
          exact ih rest others later

theorem freeMembers?_source (members values : List (String × Json))
    (freed : freeMembers? members = some values) (key : String) (value : Json)
    (listed : (key, value) ∈ values) : ∃ item, (key, item) ∈ members ∧ item.free? = some value := by
  induction members generalizing values with
  | nil =>
      cases freed
      contradiction
  | cons first rest ih =>
      obtain ⟨own, others, here, later, rfl⟩ := freeMembers?_cons first.1 first.2 rest values freed
      rcases mem_placeMember _ _ _ listed with same | behind
      · obtain ⟨rfl, rfl⟩ := Prod.mk.inj same
        exact ⟨first.2, List.mem_cons_self, here⟩
      · obtain ⟨item, written, free⟩ := ih others later behind
        exact ⟨item, List.mem_cons_of_mem _ written, free⟩

/-- Of keys that differ, none is dropped. -/
theorem freeMembers?_mem (members values : List (String × Json))
    (freed : freeMembers? members = some values) (distinct : (members.map Prod.fst).Nodup)
    (key : String) (item : Json) (listed : (key, item) ∈ members) :
    ∃ value, item.free? = some value ∧ (key, value) ∈ values := by
  induction members generalizing values with
  | nil => contradiction
  | cons first rest ih =>
      rw [List.map_cons, List.nodup_cons] at distinct
      obtain ⟨own, others, here, later, moved⟩ :=
        freeMembers?_perm first.1 first.2 rest values freed distinct.1
      rcases List.mem_cons.mp listed with rfl | behind
      · exact ⟨own, here, moved.mem_iff.mpr List.mem_cons_self⟩
      · obtain ⟨value, free, kept⟩ := ih others later distinct.2 behind
        exact ⟨value, free, moved.mem_iff.mpr (List.mem_cons_of_mem _ kept)⟩

theorem freeMembers?_nodup (members values : List (String × Json))
    (freed : freeMembers? members = some values) (distinct : (members.map Prod.fst).Nodup) :
    (values.map Prod.fst).Nodup := by
  induction members generalizing values with
  | nil =>
      cases freed
      exact .nil
  | cons first rest ih =>
      rw [List.map_cons, List.nodup_cons] at distinct
      obtain ⟨own, others, _, later, moved⟩ :=
        freeMembers?_perm first.1 first.2 rest values freed distinct.1
      rw [(moved.map Prod.fst).nodup_iff, List.map_cons, List.nodup_cons]
      exact ⟨fun listed => distinct.1 (freeMembers?_keys rest others later first.1 listed),
        ih others later distinct.2⟩

theorem freeMembers?_count (members values : List (String × Json)) (wanted : String → Bool)
    (freed : freeMembers? members = some values) (distinct : (members.map Prod.fst).Nodup) :
    (values.filter (wanted ·.1)).length = (members.filter (wanted ·.1)).length := by
  induction members generalizing values with
  | nil =>
      cases freed
      rfl
  | cons first rest ih =>
      rw [List.map_cons, List.nodup_cons] at distinct
      obtain ⟨own, others, _, later, moved⟩ :=
        freeMembers?_perm first.1 first.2 rest values freed distinct.1
      rw [(moved.filter (wanted ·.1)).length_eq]
      cases asked : wanted first.1 <;> simp [asked, ih others later distinct.2]

/-- A reading of a tree that its canonical form has as well, and no other one unless a key
repeats. -/
structure Steady {α : Type} (read : Json → Option α) (json : Json) : Prop where
  same : ∀ value, json.free? = some value → json.isDistinct = true → read value = read json
  kept : ∀ value, json.free? = some value → (read json).isSome = true →
    (read value).isSome = true

namespace Steady

variable {α β : Type} {json : Json}

theorem const (a : Option α) : Steady (fun _ => a) json :=
  ⟨fun _ _ _ => rfl, fun _ _ => id⟩

theorem congr_arr {read other : Json → Option α}
    (agree : ∀ items, read (.arr items) = other (.arr items)) {items : List Json}
    (steady : Steady other (.arr items)) : Steady read (.arr items) where
  same value freed distinct := by
    obtain ⟨values, _, rfl⟩ := free?_arr items value freed
    rw [agree, agree, steady.same _ freed distinct]
  kept value freed := by
    obtain ⟨values, _, rfl⟩ := free?_arr items value freed
    rw [agree, agree]
    exact steady.kept _ freed

theorem congr_obj {read other : Json → Option α}
    (agree : ∀ members, read (.obj members) = other (.obj members))
    {members : List (String × Json)} (steady : Steady other (.obj members)) :
    Steady read (.obj members) where
  same value freed distinct := by
    obtain ⟨values, _, rfl⟩ := free?_obj members value freed
    rw [agree, agree, steady.same _ freed distinct]
  kept value freed := by
    obtain ⟨values, _, rfl⟩ := free?_obj members value freed
    rw [agree, agree]
    exact steady.kept _ freed

theorem const_arr {read : Json → Option α} (a : Option α) (same : ∀ items, read (.arr items) = a)
    (items : List Json) : Steady read (.arr items) :=
  congr_arr same (const a)

theorem const_obj {read : Json → Option α} (a : Option α)
    (same : ∀ members, read (.obj members) = a) (members : List (String × Json)) :
    Steady read (.obj members) :=
  congr_obj same (const a)

theorem own {read : Json → Option α} (free : json.free? = some json) : Steady read json where
  same value freed _ := by rw [Option.some.inj (freed.symm.trans free)]
  kept value freed := by
    rw [Option.some.inj (freed.symm.trans free)]
    exact id

theorem containers {read : Json → Option α} (arrays : ∀ items, Steady read (.arr items))
    (objects : ∀ members, Steady read (.obj members)) : (json : Json) → Steady read json
  | .arr items => arrays items
  | .obj members => objects members
  | .unreadable => ⟨nofun, nofun⟩
  | .null | .bool _ | .num _ | .str _ => own rfl

theorem flat {read : Json → Option α} (items : ∀ items, read (.arr items) = none)
    (members : ∀ members, read (.obj members) = none) (json : Json) : Steady read json :=
  containers (const_arr none items) (const_obj none members) json

theorem map {read : Json → Option α} (steady : Steady read json) (f : α → β) :
    Steady (fun value => (read value).map f) json where
  same value freed distinct := by rw [steady.same value freed distinct]
  kept value freed some_ := by
    rw [Option.isSome_map] at some_ ⊢
    exact steady.kept value freed some_

theorem seq {f : Json → Option (α → β)} {x : Json → Option α} (first : Steady f json)
    (second : Steady x json) : Steady (fun value => (f value).bind ((x value).map ·)) json where
  same value freed distinct := by
    rw [first.same value freed distinct, second.same value freed distinct]
  kept value freed some_ := by
    obtain ⟨b, read⟩ := Option.isSome_iff_exists.mp some_
    obtain ⟨g, readF, made⟩ := Option.bind_eq_some_iff.mp read
    obtain ⟨a, readX, _⟩ := Option.map_eq_some_iff.mp made
    obtain ⟨g, hasF⟩ := Option.isSome_iff_exists.mp (first.kept value freed (by simp [readF]))
    obtain ⟨a, hasX⟩ := Option.isSome_iff_exists.mp (second.kept value freed (by simp [readX]))
    simp [hasF, hasX]

theorem or {read other : Json → Option α} (first : Steady read json) (second : Steady other json) :
    Steady (fun value => (read value).or (other value)) json where
  same value freed distinct := by
    rw [first.same value freed distinct, second.same value freed distinct]
  kept value freed some_ := by
    rw [Option.isSome_or, Bool.or_eq_true] at some_ ⊢
    exact some_.imp (first.kept value freed) (second.kept value freed)

theorem findSome {σ : Type} (forms : List σ) (read : σ → Json → Option α)
    (each : ∀ form ∈ forms, Steady (read form) json) :
    Steady (fun value => forms.findSome? (read · value)) json := by
  induction forms with
  | nil => exact const none
  | cons form rest ih =>
      obtain ⟨first, others⟩ := List.forall_mem_cons.mp each
      have both (value : Json) : (form :: rest).findSome? (read · value) =
          (read form value).or (rest.findSome? (read · value)) := by
        rw [List.findSome?_cons]
        cases read form value <;> rfl
      rw [funext both]
      exact first.or (ih others)

theorem readable {read : Json → Option α} (steady : Steady read json) :
    Steady (fun value => if value.isReadable then read value else none) json := by
  have all (value : Json) (freed : json.free? = some value) :
      json.isReadable = true ∧ value.isReadable = true := by
    rw [← free?_isSome json, freed]
    exact ⟨rfl, readable_of_free? json value freed⟩
  constructor
  case same =>
    intro value freed distinct
    obtain ⟨before, behind⟩ := all value freed
    rw [if_pos before, if_pos behind, steady.same value freed distinct]
  case kept =>
    intro value freed
    obtain ⟨before, behind⟩ := all value freed
    rw [if_pos before, if_pos behind]
    exact steady.kept value freed

end Steady

def eachItem {α : Type} (read : Json → Option α) : Json → Option (List α)
  | .arr items => items.mapM read
  | _ => none

theorem mapM_steady {α : Type} (read : Json → Option α) (items values : List Json)
    (freed : freeItems? items = some values) (each : ∀ item ∈ items, item.Steady read) :
    ((∀ item ∈ items, item.isDistinct = true) → values.mapM read = items.mapM read) ∧
      ((items.mapM read).isSome = true → (values.mapM read).isSome = true) := by
  induction items generalizing values with
  | nil =>
      cases freed
      exact ⟨fun _ => rfl, id⟩
  | cons item rest ih =>
      obtain ⟨value, others, here, later, rfl⟩ := (freeItems?_cons ..).mp freed
      obtain ⟨first, behind⟩ := List.forall_mem_cons.mp each
      obtain ⟨same, kept⟩ := ih others later behind
      constructor
      · intro distinct
        obtain ⟨own, apart⟩ := List.forall_mem_cons.mp distinct
        rw [List.mapM_cons, List.mapM_cons, first.same value here own, same apart]
      · intro some_
        rw [List.mapM_cons] at some_ ⊢
        obtain ⟨as, read⟩ := Option.isSome_iff_exists.mp some_
        obtain ⟨a, readItem, more⟩ := Option.bind_eq_some_iff.mp read
        obtain ⟨rest, readRest, _⟩ := Option.bind_eq_some_iff.mp more
        obtain ⟨a, hasItem⟩ := Option.isSome_iff_exists.mp
          (first.kept value here (by simp [readItem]))
        obtain ⟨as, hasRest⟩ := Option.isSome_iff_exists.mp (kept (by simp [readRest]))
        simp [hasItem, hasRest]

theorem Steady.items {α : Type} {read : Json → Option α} {items : List Json}
    (each : ∀ item ∈ items, item.Steady read) : Steady (eachItem read) (.arr items) where
  same value freed distinct := by
    obtain ⟨values, inside, rfl⟩ := free?_arr items value freed
    exact (mapM_steady read items values inside each).1 ((isDistinct_arr items).mp distinct)
  kept value freed := by
    obtain ⟨values, inside, rfl⟩ := free?_arr items value freed
    exact (mapM_steady read items values inside each).2

def readOnly {α : Type} (read : Json → Option α) (default : Option α) :
    List (String × Json) → Option α
  | [] => default
  | [(_, item)] => read item
  | _ => none

theorem readOnly_many {α : Type} (read : Json → Option α) (default : Option α)
    (members : List (String × Json)) (many : 2 ≤ members.length) :
    readOnly read default members = none := by
  cases members with
  | nil => simp at many
  | cons first rest =>
      cases rest with
      | nil => simp at many
      | cons again others => rfl

def readUnder {α : Type} (wanted : String → Bool) (read : Json → Option α) (default : Option α) :
    Json → Option α
  | .obj members => readOnly read default (members.filter (wanted ·.1))
  | _ => none

theorem Steady.under {α : Type} (wanted : String → Bool) {read : Json → Option α}
    (default : Option α) {members : List (String × Json)}
    (each : ∀ member ∈ members, member.2.Steady read) :
    Steady (readUnder wanted read default) (.obj members) := by
  constructor
  case same =>
    intro value freed distinct
    obtain ⟨values, inside, rfl⟩ := free?_obj members value freed
    obtain ⟨apart, own⟩ := (isDistinct_obj members).mp distinct
    simp only [readUnder]
    cases only : members.filter (wanted ·.1) with
    | nil => rw [freeMembers?_none members values wanted inside only]
    | cons first rest =>
        cases rest with
        | nil =>
            obtain ⟨value, free, kept⟩ :=
              freeMembers?_one members values wanted inside first.1 first.2 only
            have listed : first ∈ members :=
              (List.mem_filter.mp (only ▸ List.mem_singleton_self first)).1
            rw [kept]
            exact (each first listed).same value free (own first listed)
        | cons again others =>
            -- The wanted keys may differ, so two members need not repeat a key.
            have count := freeMembers?_count members values wanted inside apart
            rw [only] at count
            exact readOnly_many read default _ (count ▸ Nat.le_add_left 2 others.length)
  case kept =>
    intro value freed some_
    obtain ⟨values, inside, rfl⟩ := free?_obj members value freed
    simp only [readUnder] at some_ ⊢
    cases only : members.filter (wanted ·.1) with
    | nil =>
        rw [only] at some_
        rw [freeMembers?_none members values wanted inside only]
        exact some_
    | cons first rest =>
        rw [only] at some_
        cases rest with
        | nil =>
            obtain ⟨value, free, kept⟩ :=
              freeMembers?_one members values wanted inside first.1 first.2 only
            have listed : first ∈ members :=
              (List.mem_filter.mp (only ▸ List.mem_singleton_self first)).1
            rw [kept]
            exact (each first listed).kept value free some_
        | cons again others => simp [readOnly] at some_

def dropItems (n : Nat) : Json → Json
  | .arr items => .arr (items.drop n)
  | json => json

theorem Steady.drop {α : Type} {read : Json → Option α} {n : Nat} {json : Json}
    (steady : Steady read (json.dropItems n)) :
    Steady (fun value => read (value.dropItems n)) json := by
  have freed (value : Json) (own : json.free? = some value) :
      (json.dropItems n).free? = some (value.dropItems n) := by
    cases json with
    | arr items =>
        obtain ⟨values, inside, rfl⟩ := free?_arr items value own
        simp [dropItems, free?, freeItems?_drop n items values inside]
    | obj members =>
        obtain ⟨values, _, rfl⟩ := free?_obj members value own
        exact own
    | unreadable => contradiction
    | _ =>
        cases own
        rfl
  constructor
  case same =>
    intro value own distinct
    refine steady.same _ (freed value own) ?_
    cases json with
    | arr items =>
        rw [isDistinct_arr] at distinct
        rw [dropItems, isDistinct_arr]
        exact fun item listed => distinct item (List.mem_of_mem_drop listed)
    | _ => exact distinct
  case kept => exact fun value own => steady.kept _ (freed value own)

end Json

end QuestWeb
