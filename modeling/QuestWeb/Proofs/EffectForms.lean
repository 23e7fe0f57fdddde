import QuestWeb.Proofs.ExactDecoders

/-!
Which JSON values are effects, and which of those are the wire form of the effect they are read as.
An object may spell several effects at once, and the first form that it fits decides. The others are
passed over, as is any further member.
-/

namespace QuestWeb

namespace TeleportTarget

def Stands (found : List Json) : Option String → Prop
  | some text => found = [.str text]
  | none => found = [] ∨ found = [.null]

def SpelledBy (target : TeleportTarget) : Json → Prop
  | .obj members =>
      Stands (Json.under "map" members) target.map ∧
        Stands (Json.under "scene" members) target.scene
  | .arr items => Stands (items.take 1) target.map ∧ Stands (items.drop 1) target.scene
  | _ => False

structure IsWire (target : TeleportTarget) (written : List (String × Json)) : Prop where
  parts : (written.filter (·.2 != .null)).Perm target.json.members
  known : ∀ member ∈ written, member.1 = "map" ∨ member.1 = "scene"
  once : (written.map Prod.fst).Nodup

theorem text_iff (item : Json) (part : Option String) :
    Decoder.string.optional.read item = .ok part ↔ Stands [item] part := by
  cases item <;> cases part <;> simp [Decoder.optional, Decoder.string, Decoder.mismatch, Stands]

theorem member_iff (key : String) (members : List (String × Json)) (part : Option String) :
    (Fields.withDefault key (.optional .string) none).ofObject? (.obj members) = some part ↔
      Stands (Json.under key members) part := by
  rw [Fields.withDefault, Fields.ofObject?_field_iff]
  simp only [text_iff]
  cases part <;> simp [Stands]

theorem item_iff (key : String) (items : List Json) (part : Option String) (rest : List Json) :
    (Fields.withDefault key (.optional .string) none).fromItems items = .ok (part, rest) ↔
      Stands (items.take 1) part ∧ rest = items.drop 1 := by
  cases items with
  | nil => cases part <;> simp [Fields.withDefault, Fields.field, Stands, eq_comm]
  | cons item later =>
      rw [List.take_succ_cons, List.take_zero, ← text_iff]
      cases read : Decoder.string.optional.read item <;>
        simp [Fields.withDefault, Fields.field, read, eq_comm]

theorem stands_last (items : List Json) (part : Option String) :
    Stands (items.take 1) part ∧ [] = items.drop 1 ↔ Stands items part := by
  cases items with
  | nil => simp
  | cons item later =>
      cases later with
      | nil => simp
      | cons again others => cases part <;> simp [Stands]

theorem read_iff (target : TeleportTarget) (item : Json) :
    decoder.read item = .ok target ↔ target.SpelledBy item := by
  cases item with
  | obj members =>
      rw [← Decoder.read?_eq_some, decoder, Decoder.read?_record_obj]
      simp only [Fields.ofObject?_seq, Fields.ofObject?_map, Option.bind_eq_some_iff,
        Option.map_eq_some_iff, member_iff, SpelledBy]
      constructor
      · rintro ⟨_, ⟨map, own, rfl⟩, scene, beside, rfl⟩
        exact ⟨own, beside⟩
      · rintro ⟨own, beside⟩
        exact ⟨_, ⟨target.map, own, rfl⟩, target.scene, beside, rfl⟩
  | arr items =>
      simp only [decoder, Decoder.record_ok, reduceCtorEq, false_and, exists_false, false_or,
        Json.arr.injEq, exists_eq_left', Fields.fromItems_seq_ok, Fields.fromItems_map_ok,
        item_iff, SpelledBy, ← stands_last (items.drop 1)]
      constructor
      · rintro ⟨_, _, scene, ⟨map, ⟨own, rfl⟩, rfl⟩, beside, rfl⟩
        exact ⟨own, beside⟩
      · rintro ⟨own, beside⟩
        exact ⟨_, _, target.scene, ⟨target.map, ⟨own, rfl⟩, rfl⟩, beside, rfl⟩
  | null | bool | num | str | unreadable =>
      simp [decoder, Decoder.record, Decoder.mismatch, SpelledBy]

theorem stands_iff (found : List Json) (part : Option String) :
    Stands found part ↔
      found.length ≤ 1 ∧ (found.filter (· != .null)).Perm (part.map Json.str).toList := by
  cases found with
  | nil => cases part <;> simp [Stands]
  | cons item later =>
      cases later with
      | nil => by_cases null : item = .null <;> cases part <;> simp [Stands, null]
      | cons again others => cases part <;> simp [Stands]

theorem under_json (target : TeleportTarget) (key : String) :
    Json.under key target.json.members =
      if key = "map" then (target.map.map Json.str).toList
      else if key = "scene" then (target.scene.map Json.str).toList
      else [] := by
  simp only [json, Json.members, Json.under_append, Json.under_optionalMember]
  grind

theorem under_filter (key : String) (written : List (String × Json)) :
    Json.under key (written.filter (·.2 != .null)) =
      (Json.under key written).filter (· != .null) := by
  simp [Json.under, List.filter_map, List.filter_filter, Bool.and_comm, Function.comp_def]

theorem isWire_iff (target : TeleportTarget) (written : List (String × Json)) :
    target.IsWire written ↔ target.SpelledBy (.obj written) ∧
      ∀ member ∈ written, member.1 = "map" ∨ member.1 = "scene" := by
  rw [SpelledBy, stands_iff, stands_iff]
  constructor
  · rintro ⟨parts, known, once⟩
    have alone (key : String) : (Json.under key written).length ≤ 1 := by
      rw [Json.length_under]
      exact List.nodup_iff_count_le_one.mp once key
    have each (key : String) := (Json.perm_iff_under ..).mp parts key
    simp only [under_filter, under_json] at each
    exact ⟨⟨⟨alone _, by simpa using each "map"⟩, alone _, by simpa using each "scene"⟩, known⟩
  · rintro ⟨⟨map, scene⟩, known⟩
    have each (key : String) : (Json.under key written).length ≤ 1 ∧
        ((Json.under key written).filter (· != .null)).Perm
          (Json.under key target.json.members) := by
      rw [under_json]
      split_ifs with first second
      · exact first ▸ map
      · exact second ▸ scene
      · have absent : Json.under key written = [] := by
          refine (Json.under_eq_nil ..).mpr fun member listed same => ?_
          rcases known member listed with own | own
          · exact first (same ▸ own)
          · exact second (same ▸ own)
        simp [absent]
    refine ⟨(Json.perm_iff_under ..).mpr fun key => ?_, known,
      List.nodup_iff_count_le_one.mpr fun key => ?_⟩
    · rw [under_filter]
      exact (each key).2
    · rw [← Json.length_under]
      exact (each key).1

end TeleportTarget

/-- Where each value is found by one item at most, the value found is the one whose item comes
first. -/
theorem findSome?_placed {α β : Type} (items : List α) (read : α → Option β) (place : β → Nat)
    (fits : β → Prop) (placed : ∀ b, place b < items.length)
    (each : ∀ n item, items[n]? = some item → ∀ b, read item = some b ↔ place b = n ∧ fits b)
    (b : β) :
    items.findSome? read = some b ↔ fits b ∧ ∀ c, fits c → place b ≤ place c := by
  rw [List.findSome?_eq_some_iff]
  constructor
  · rintro ⟨front, item, back, rfl, found, earlier⟩
    obtain ⟨here, fit⟩ := (each front.length item (by simp) b).mp found
    refine ⟨fit, fun c other => Nat.not_lt.mp fun before => ?_⟩
    rw [here] at before
    have listed : (front ++ item :: back)[place c]? = some front[place c] := by
      simp [List.getElem?_append_left before]
    have also := (each (place c) _ listed c).mpr ⟨rfl, other⟩
    rw [earlier _ (List.getElem_mem before)] at also
    simp at also
  · rintro ⟨fit, first⟩
    have here := placed b
    refine ⟨items.take (place b), items[place b], items.drop (place b + 1), by simp,
      (each (place b) _ (List.getElem?_eq_getElem here) b).mpr ⟨rfl, fit⟩, fun item early => ?_⟩
    obtain ⟨n, before, rfl⟩ := List.mem_take_iff_getElem.mp early
    cases found : read items[n] with
    | none => rfl
    | some c =>
        obtain ⟨rfl, other⟩ := (each n _ (List.getElem?_eq_getElem (by omega)) c).mp found
        have := first c other
        omega

namespace Effect

/-- An object spells an effect when what is written for each part of the effect stands under its
key, and nothing else stands under that key. Whether `compute_boss_unlock` is set does not matter,
nor does it how a target is spelled. -/
def SpelledBy (effect : Effect) (members : List (String × Json)) : Prop :=
  match effect with
  | .computeBossUnlock => ∃ set, Json.under "compute_boss_unlock" members = [.bool set]
  | .teleport target => ∃ item, Json.under "teleport" members = [item] ∧ target.SpelledBy item
  | effect => ∀ part ∈ effect.json.members, Json.under part.1 members = [part.2]

def place : Effect → Nat
  | .setFlag .. => 0
  | .incFlag .. => 1
  | .startQuest _ => 2
  | .completeQuest _ => 3
  | .grantSeal _ => 4
  | .setClause _ => 5
  | .setCensureMode _ => 6
  | .computeBossUnlock => 7
  | .teleport _ => 8

/-- The wire object of an effect, its members in any order. -/
def IsWire (effect : Effect) (value : Json) : Prop :=
  match effect with
  | .teleport target =>
      ∃ written, value = .obj [("teleport", .obj written)] ∧ target.IsWire written
  | effect => ∃ written, value = .obj written ∧ written.Perm effect.json.members

/-- What stands under a key of an effect is all kept: `compute_boss_unlock` is set, and a target is
an object without further members. -/
def Keeps (effect : Effect) (item : Json) : Prop :=
  match effect with
  | .computeBossUnlock => item = .bool true
  | .teleport _ => ∃ written, item = .obj written ∧
      ∀ member ∈ written, member.1 = "map" ∨ member.1 = "scene"
  | _ => True

/-- An effect keeps all that an object holds: there is no member besides its parts, and no part of
which something is lost. -/
def KeepsAll (effect : Effect) (members : List (String × Json)) : Prop :=
  ∀ member ∈ members, member.1 ∈ effect.json.members.map Prod.fst ∧ effect.Keeps member.2

section

variable {α β : Type} (members : List (String × Json)) (effect : Effect)

theorem form_single {d : Decoder α} {write : α → Json} (exact : d.Exact write) (key : String)
    (make : α → Effect) :
    (make <$> Fields.required key d).ofObject? (.obj members) = some effect ↔
      ∃ a, make a = effect ∧ Json.under key members = [write a] := by
  simp [Fields.ofObject?_map, Fields.ofObject?_exact key exact, and_comm]

theorem form_pair {d : Decoder α} {write : α → Json} (exact : d.Exact write) {e : Decoder β}
    {writeBeside : β → Json} (exactBeside : e.Exact writeBeside) (key beside : String)
    (make : α → β → Effect) :
    (make <$> Fields.required key d <*> Fields.required beside e).ofObject? (.obj members) =
        some effect ↔
      ∃ a b, make a b = effect ∧ Json.under key members = [write a] ∧
        Json.under beside members = [writeBeside b] := by
  simp only [Fields.ofObject?_seq, Fields.ofObject?_map, Option.bind_eq_some_iff,
    Option.map_eq_some_iff, Fields.ofObject?_exact key exact,
    Fields.ofObject?_exact beside exactBeside]
  constructor
  · rintro ⟨_, ⟨a, own, rfl⟩, b, other, rfl⟩
    exact ⟨a, b, rfl, own, other⟩
  · rintro ⟨a, b, rfl, own, other⟩
    exact ⟨_, ⟨a, own, rfl⟩, b, other, rfl⟩

theorem form_iff (n : Nat) (form : Fields Effect) (listed : forms[n]? = some form) :
    form.ofObject? (.obj members) = some effect ↔
      effect.place = n ∧ effect.SpelledBy members := by
  match n, listed with
  | 0, rfl =>
      rw [form_pair members effect Decoder.exact_string FlagValue.exact]
      cases effect <;> simp [place, SpelledBy, json, Json.members]
  | 1, rfl =>
      rw [form_pair members effect Decoder.exact_string Decoder.exact_int64]
      cases effect <;> simp [place, SpelledBy, json, Json.members]
  | 2, rfl | 3, rfl =>
      rw [form_single members effect QuestNum.exact]
      cases effect <;> simp [place, SpelledBy, json, Json.members]
  | 4, rfl | 5, rfl | 6, rfl =>
      rw [form_single members effect Decoder.exact_string]
      cases effect <;> simp [place, SpelledBy, json, Json.members]
  | 7, rfl =>
      rw [form_single members effect Decoder.exact_bool]
      cases effect <;> simp [place, SpelledBy]
  | 8, rfl =>
      simp only [Fields.ofObject?_map, Option.map_eq_some_iff, Fields.required,
        Fields.ofObject?_field_iff, TeleportTarget.read_iff]
      cases effect <;> simp [place, SpelledBy]

/-- An object is read as the effect that it spells; of several, as the one whose form comes
first. -/
theorem ofJson?_iff : ofJson? (.obj members) = some effect ↔
    effect.SpelledBy members ∧
      ∀ other : Effect, other.SpelledBy members → effect.place ≤ other.place := by
  refine findSome?_placed forms (·.ofObject? (.obj members)) place (SpelledBy · members) ?_ ?_
    effect
  · intro other
    cases other <;> simp [place, forms]
  · exact fun n form listed other => form_iff members other n form listed

end

theorem ofJson?_object (value : Json) (effect : Effect) (read : ofJson? value = some effect) :
    ∃ members, value = .obj members := by
  cases value with
  | obj members => exact ⟨members, rfl⟩
  | _ => simp [ofJson?, forms, Fields.ofObject?] at read

theorem read_iff (value : Json) (effect : Effect) :
    decoder.read value = .ok effect ↔ value.isReadable = true ∧ ofJson? value = some effect := by
  cases readable : value.isReadable <;> cases made : ofJson? value <;>
    simp [decoder, readable, made]

theorem isWire_obj_iff (members : List (String × Json)) (effect : Effect) :
    effect.IsWire (.obj members) ↔ effect.SpelledBy members ∧ effect.KeepsAll members := by
  cases effect with
  | computeBossUnlock =>
      have single := Json.single_iff "compute_boss_unlock" members
        (fun item => ∃ set, item = .bool set) (· = .bool true)
      have wire : (∃ item, members = [("compute_boss_unlock", item)] ∧
          (∃ set, item = .bool set) ∧ item = .bool true) ↔
            members = [("compute_boss_unlock", .bool true)] := by
        constructor
        · rintro ⟨_, alone, -, rfl⟩
          exact alone
        · exact fun alone => ⟨_, alone, ⟨true, rfl⟩, rfl⟩
      have spelled : (∃ item, Json.under "compute_boss_unlock" members = [item] ∧
          ∃ set, item = .bool set) ↔ Effect.computeBossUnlock.SpelledBy members := by
        constructor
        · rintro ⟨_, alone, set, rfl⟩
          exact ⟨set, alone⟩
        · exact fun ⟨set, alone⟩ => ⟨_, alone, set, rfl⟩
      rw [wire, spelled] at single
      simpa [IsWire, KeepsAll, Keeps, json, Json.members] using single
  | teleport target =>
      have single := Json.single_iff "teleport" members target.SpelledBy fun item =>
        ∃ written, item = .obj written ∧ ∀ member ∈ written, member.1 = "map" ∨ member.1 = "scene"
      simp only [IsWire, Json.obj.injEq, TeleportTarget.isWire_iff, SpelledBy, KeepsAll, Keeps,
        json, Json.members, List.map_cons, List.map_nil, List.mem_singleton, ← single]
      constructor
      · rintro ⟨written, alone, spelled, known⟩
        exact ⟨_, alone, spelled, written, rfl, known⟩
      · rintro ⟨_, alone, spelled, written, rfl, known⟩
        exact ⟨written, alone, spelled, known⟩
  | setFlag | incFlag | startQuest | completeQuest | grantSeal | setClause | setCensureMode =>
      simp only [IsWire, Json.obj.injEq, exists_eq_left', SpelledBy, KeepsAll, Keeps, and_true]
      exact Json.perm_members _ _ (by simp [json, Json.members])

def key : Effect → String
  | .setFlag .. => "set_flag"
  | .incFlag .. => "inc_flag"
  | .startQuest _ => "start_quest"
  | .completeQuest _ => "complete_quest"
  | .grantSeal _ => "grant_seal"
  | .setClause _ => "set_clause"
  | .setCensureMode _ => "set_censure_mode"
  | .computeBossUnlock => "compute_boss_unlock"
  | .teleport _ => "teleport"

theorem key_of_spelledBy (members : List (String × Json)) (effect : Effect)
    (spelled : effect.SpelledBy members) : ∃ item, (effect.key, item) ∈ members := by
  have present (key : String) (item : Json) (alone : Json.under key members = [item]) :
      ∃ item, (key, item) ∈ members :=
    ⟨item, (Json.mem_under ..).mp (alone ▸ List.mem_singleton_self item)⟩
  cases effect with
  | computeBossUnlock => exact present _ _ spelled.choose_spec
  | teleport => exact present _ _ spelled.choose_spec.1
  | setFlag | incFlag | startQuest | completeQuest | grantSeal | setClause | setCensureMode =>
      exact present _ _ (spelled _ List.mem_cons_self)

theorem place_of_key (effect other : Effect)
    (shared : other.key ∈ effect.json.members.map Prod.fst) : effect.place = other.place := by
  cases effect <;> cases other <;> simp [key, json, Json.members, place] at shared ⊢

theorem IsWire.readable {effect : Effect} {value : Json} (wire : effect.IsWire value) :
    value.isReadable = true := by
  cases effect with
  | teleport target =>
      obtain ⟨written, rfl, own⟩ := wire
      simp only [Json.isReadable, Json.membersReadable, Bool.and_true, Json.membersReadable_iff]
      intro member listed
      by_cases null : member.2 = .null
      · simp [null, Json.isReadable]
      · refine Json.readable_member target.carries.readable (own.parts.mem_iff.mp ?_)
        exact List.mem_filter.mpr ⟨listed, by simpa using null⟩
  | setFlag | incFlag | startQuest | completeQuest | grantSeal | setClause | setCensureMode
  | computeBossUnlock =>
      obtain ⟨written, rfl, same⟩ := wire
      rw [Json.isReadable, Json.membersReadable_iff]
      intro member listed
      exact Json.readable_member (carries _).readable (same.mem_iff.mp listed)

theorem isWire_iff (effect : Effect) (value : Json) :
    effect.IsWire value ↔ decoder.read value = .ok effect ∧
      ∃ members, value = .obj members ∧ effect.KeepsAll members := by
  constructor
  · intro wire
    obtain ⟨members, rfl⟩ : ∃ members, value = .obj members := by
      cases effect <;> exact ⟨_, wire.choose_spec.1⟩
    obtain ⟨spelled, kept⟩ := (isWire_obj_iff members effect).mp wire
    refine ⟨(read_iff ..).mpr ⟨wire.readable, (ofJson?_iff ..).mpr
      ⟨spelled, fun other also => ?_⟩⟩, members, rfl, kept⟩
    -- Another effect that is spelled has its key in the object, which holds no foreign key.
    obtain ⟨item, listed⟩ := key_of_spelledBy members other also
    exact Nat.le_of_eq (place_of_key effect other (kept _ listed).1)
  · rintro ⟨read, members, rfl, kept⟩
    have spelled := ((ofJson?_iff ..).mp ((read_iff ..).mp read).2).1
    exact (isWire_obj_iff members effect).mpr ⟨spelled, kept⟩

/-- A value is read as the first effect that it spells, and is refused if it spells none. It is the
wire object of the effect that is read exactly if the effect keeps all that it holds. -/
theorem read_exact (value : Json) :
    (∀ effect : Effect, decoder.read value = .ok effect ↔
      value.isReadable = true ∧ ∃ members, value = .obj members ∧ effect.SpelledBy members ∧
        ∀ other : Effect, other.SpelledBy members → effect.place ≤ other.place) ∧
    (∀ effect : Effect, effect.IsWire value ↔
      decoder.read value = .ok effect ∧ ∃ members, value = .obj members ∧
        effect.KeepsAll members) ∧
    ((∀ effect, decoder.read value ≠ .ok effect) →
      decoder.read value = .error (.noVariant "WireEffect")) := by
  refine ⟨fun effect => ?_, fun effect => isWire_iff effect value, fun refused => ?_⟩
  · rw [read_iff]
    constructor
    · rintro ⟨readable, made⟩
      obtain ⟨members, rfl⟩ := ofJson?_object value effect made
      exact ⟨readable, members, rfl, (ofJson?_iff members effect).mp made⟩
    · rintro ⟨readable, members, rfl, first⟩
      exact ⟨readable, (ofJson?_iff members effect).mpr first⟩
  · simp only [decoder] at refused ⊢
    split
    · rename_i effect made
      simp [made] at refused
    · rfl

/-- Two effects in one object: the second one is lost. So is the refusal of an unlocking. -/
theorem merged_effect_lost : ∃ merged negated : Json,
    merged = .obj [("set_flag", .str "A"), ("value", .num (.int 1)),
      ("start_quest", .num (.int 7))] ∧
    decoder.read merged = .ok (.setFlag "A" (.int 1)) ∧
    ¬ (Effect.setFlag "A" (.int 1)).IsWire merged ∧
    negated = .obj [("compute_boss_unlock", .bool false)] ∧
    decoder.read negated = .ok .computeBossUnlock ∧ ¬ Effect.computeBossUnlock.IsWire negated := by
  refine ⟨_, _, rfl, by decide +kernel, ?_, rfl, by decide +kernel, ?_⟩
  · rintro ⟨written, same, order⟩
    cases same
    simpa [json, Json.members] using order.length_eq
  · rintro ⟨written, same, order⟩
    cases same
    simp [json, Json.members] at order

end Effect

end QuestWeb
