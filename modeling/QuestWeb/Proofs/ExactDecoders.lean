import Mathlib.Data.List.Nodup
import QuestWeb.Proofs.SteadyDecoders
import QuestWeb.Proofs.WireForms

/-!
Decoders that accept one JSON value for each value they read, the one that is written for it, and
what it takes for an object to hold a field that such a decoder reads.
-/

namespace QuestWeb

namespace Json

def members : Json → List (String × Json)
  | .obj members => members
  | _ => []

def under (key : String) (members : List (String × Json)) : List Json :=
  (members.filter (·.1 == key)).map (·.2)

theorem under_cons (key : String) (member : String × Json) (rest : List (String × Json)) :
    under key (member :: rest) =
      if member.1 = key then member.2 :: under key rest else under key rest := by
  by_cases same : member.1 = key <;> simp [under, same]

theorem count_under (key : String) (item : Json) (members : List (String × Json)) :
    (under key members).count item = members.count (key, item) := by
  induction members with
  | nil => rfl
  | cons member rest ih =>
      obtain ⟨own, value⟩ := member
      by_cases same : own = key
      · subst same
        by_cases equal : value = item <;> simp [under_cons, ih, equal]
      · simp [under_cons, ih, same]

theorem length_under (key : String) (members : List (String × Json)) :
    (under key members).length = (members.map Prod.fst).count key := by
  induction members with
  | nil => rfl
  | cons member rest ih =>
      by_cases same : member.1 = key <;> simp [under_cons, ih, same]

theorem under_eq_nil (key : String) (members : List (String × Json)) :
    under key members = [] ↔ ∀ member ∈ members, member.1 ≠ key := by
  simp [under]

theorem perm_iff_under (members others : List (String × Json)) :
    members.Perm others ↔ ∀ key, (under key members).Perm (under key others) := by
  simp only [List.perm_iff_count, count_under]
  exact ⟨fun same key item => same (key, item), fun same member => same member.1 member.2⟩

theorem mem_under (key : String) (item : Json) (members : List (String × Json)) :
    item ∈ under key members ↔ (key, item) ∈ members := by
  simp [under]

theorem under_eq_of_mem (members : List (String × Json)) (distinct : (members.map Prod.fst).Nodup)
    (member : String × Json) (listed : member ∈ members) :
    under member.1 members = [member.2] := by
  have most := List.nodup_iff_count_le_one.mp distinct member.1
  rw [← length_under] at most
  have present := (mem_under member.1 member.2 members).mpr listed
  match alone : under member.1 members with
  | [] => simp [alone] at present
  | [item] =>
      rw [alone, List.mem_singleton] at present
      rw [present]
  | _ :: _ :: _ => simp [alone] at most

theorem perm_members (written members : List (String × Json))
    (distinct : (members.map Prod.fst).Nodup) :
    written.Perm members ↔ (∀ member ∈ members, under member.1 written = [member.2]) ∧
      ∀ member ∈ written, member.1 ∈ members.map Prod.fst := by
  constructor
  · intro same
    refine ⟨fun member listed => ?_, fun member listed =>
      List.mem_map_of_mem (same.mem_iff.mp listed)⟩
    have alike := (perm_iff_under ..).mp same member.1
    rw [under_eq_of_mem members distinct member listed] at alike
    exact List.perm_singleton.mp alike
  · rintro ⟨each, only⟩
    refine (perm_iff_under ..).mpr fun key => ?_
    by_cases known : key ∈ members.map Prod.fst
    · obtain ⟨member, listed, rfl⟩ := List.mem_map.mp known
      rw [each member listed, under_eq_of_mem members distinct member listed]
    · have absent : under key written = [] := (under_eq_nil ..).mpr fun member listed same =>
        known (same ▸ only member listed)
      have unknown : under key members = [] := (under_eq_nil ..).mpr fun member listed same =>
        known (same ▸ List.mem_map_of_mem listed)
      rw [absent, unknown]

theorem under_append (key : String) (members others : List (String × Json)) :
    under key (members ++ others) = under key members ++ under key others := by
  simp [under]

theorem under_optionalMember (key name : String) (value : Option Json) :
    under key (optionalMember name value) = if name = key then value.toList else [] := by
  cases value with
  | none => simp [optionalMember, under]
  | some item => by_cases same : name = key <;> simp [optionalMember, under, same]

theorem single_iff (key : String) (members : List (String × Json)) (spelled kept : Json → Prop) :
    (∃ item, members = [(key, item)] ∧ spelled item ∧ kept item) ↔
      (∃ item, under key members = [item] ∧ spelled item) ∧
        ∀ member ∈ members, member.1 = key ∧ kept member.2 := by
  constructor
  · rintro ⟨item, rfl, own, whole⟩
    exact ⟨⟨item, by simp [under], own⟩, by simpa using whole⟩
  · rintro ⟨⟨item, alone, own⟩, only⟩
    have listed := (mem_under key item members).mp (alone ▸ List.mem_singleton_self item)
    refine ⟨item, List.perm_singleton.mp ((perm_members _ _ (by simp)).mpr ⟨?_, ?_⟩), own,
      (only _ listed).2⟩
    · simpa using alone
    · simpa using fun name value inside => (only (name, value) inside).1

theorem readable_member {value : Json} (readable : value.isReadable = true)
    {member : String × Json} (listed : member ∈ value.members) : member.2.isReadable = true := by
  cases value with
  | obj members => exact (membersReadable_iff members).mp readable member listed
  | _ => simp [members] at listed

end Json

namespace Decoder

variable {α β : Type}

def Exact (d : Decoder α) (write : α → Json) : Prop :=
  ∀ item a, d.read item = .ok a ↔ item = write a

theorem exact_string : string.Exact .str := by
  intro item a
  cases item <;> simp [string, mismatch]

theorem exact_bool : bool.Exact .bool := by
  intro item a
  cases item <;> simp [bool, mismatch]

theorem exact_whole {low high : Int} {expected : String} {make : Int → α} (back : α → Int)
    (carries : ∀ a, (whole low high expected make).Carries (.num (.int (back a))) a)
    (backs : ∀ n, low ≤ n → n ≤ high → back (make n) = n) :
    (whole low high expected make).Exact fun a => .num (.int (back a)) := by
  intro item a
  refine ⟨fun read => ?_, by rintro rfl; exact (carries a).written⟩
  match item with
  | .num (.int n) =>
      simp only [whole] at read
      split at read
      · rename_i inside
        cases read
        exact congrArg (Json.num ∘ .int) (backs n inside.1 inside.2).symm
      · simp at read
  | .num (.float _) | .null | .bool _ | .str _ | .arr _ | .obj _ | .unreadable =>
      simp [whole, mismatch] at read

theorem exact_int64 : int64.Exact fun n => .num (.int n.toInt) := by
  refine exact_whole Int64.toInt carries_int64 fun n least most => ?_
  rw [Int64.toInt_minValue] at least
  rw [Int64.toInt_maxValue] at most
  exact Int64.toInt_ofInt_of_le least (by omega)

theorem exact_uint32 : uint32.Exact fun n => .num (.int n.toNat) := by
  refine exact_whole (fun n : UInt32 => n.toNat) carries_uint32 fun n least most => ?_
  simp only [UInt32.size] at most
  simp
  omega

theorem Exact.map {d : Decoder α} {write : α → Json} (exact : d.Exact write) {f : α → β}
    {g : β → α} (left : ∀ a, g (f a) = a) (right : ∀ b, f (g b) = b) :
    (d.map f).Exact fun b => write (g b) := by
  intro item b
  rw [← exact item (g b)]
  simp only [Decoder.map]
  cases d.read item with
  | error e => simp
  | ok a =>
      simp only [Except.ok.injEq]
      exact ⟨fun same => by rw [← same, left], fun same => by rw [same, right]⟩

end Decoder

theorem QuestNum.exact : QuestNum.decoder.Exact QuestNum.json :=
  Decoder.exact_uint32.map (fun _ => rfl) (fun _ => rfl)

theorem FlagValue.exact : FlagValue.decoder.Exact FlagValue.json := by
  intro item value
  refine ⟨fun read => ?_, by rintro rfl; exact value.carries.written⟩
  match item with
  | .bool _ | .str _ =>
      cases read
      rfl
  | .num n =>
      cases whole : Decoder.int64.read (.num n) with
      | error e => simp [decoder, whole] at read
      | ok number =>
          simp only [decoder, whole, Except.ok.injEq] at read
          subst read
          exact (Decoder.exact_int64 _ number).mp whole
  | .null | .arr _ | .obj _ | .unreadable =>
      simp [decoder, Decoder.int64, Decoder.whole, Decoder.mismatch] at read

namespace Fields

variable {α β : Type}

theorem ofObject?_map (f : α → β) (x : Fields α) (json : Json) :
    (f <$> x).ofObject? json = (x.ofObject? json).map f := by
  cases json with
  | obj members =>
      simp only [ofObject?, fromMembers_map]
      cases x.fromMembers members <;> rfl
  | _ => rfl

theorem ofObject?_field_iff (name : String) (d : Decoder α) (default : Option α)
    (members : List (String × Json)) (a : α) :
    (field name [] d default).ofObject? (.obj members) = some a ↔
      (Json.under name members = [] ∧ default = some a) ∨
        ∃ item, Json.under name members = [item] ∧ d.read item = .ok a := by
  rw [ofObject?_field]
  simp only [Json.readUnder, Json.under, List.contains_cons, List.contains_nil, Bool.or_false]
  generalize members.filter (·.1 == name) = found
  cases found with
  | nil => simp [Json.readOnly]
  | cons first later =>
      cases later with
      | nil => simp [Json.readOnly, Decoder.read?_eq_some]
      | cons again others => simp [Json.readOnly]

theorem ofObject?_exact (name : String) {d : Decoder α} {write : α → Json} (exact : d.Exact write)
    (members : List (String × Json)) (a : α) :
    (required name d).ofObject? (.obj members) = some a ↔
      Json.under name members = [write a] := by
  simp [required, ofObject?_field_iff, exact _ a]

end Fields

end QuestWeb
