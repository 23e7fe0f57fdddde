import QuestWeb.Proofs.RoundTrip
import QuestWeb.Quest.Wire

/-!
What is written for quests and dialogs is read back: every value is carried by its JSON form.
-/

namespace QuestWeb

theorem Decoder.Carries.readable {α : Type} {d : Decoder α} {json : Json} {a : α}
    (carries : d.Carries json a) : json.isReadable = true := by
  obtain ⟨value, freed, _⟩ := carries.canonical
  rw [← Json.free?_isSome, freed]
  rfl

theorem Decoder.readable_list {α : Type} {d : Decoder α} {write : α → Json}
    (each : ∀ a, d.Carries (write a) a) (items : List α) :
    Json.areReadable (items.map write) = true :=
  (carries_items items fun a _ => each a).readable

namespace Fields

variable {α β γ : Type}

theorem fromMembers_map (f : α → β) (x : Fields α) (members : List (String × Json)) :
    (f <$> x).fromMembers members =
      match x.fromMembers members with
      | .ok a => .ok (f a)
      | .error e => .error e := by
  change (pure f <*> x).fromMembers members = _
  simp only [Seq.seq, Pure.pure]
  cases x.fromMembers members <;> rfl

theorem ofObject?_one (make : α → β) (name : String) (d : Decoder α) (key : String) (value : Json) :
    (make <$> required name d).ofObject? (.obj [(key, value)]) =
      if key = name then (d.read value).toOption.map make else none := by
  rw [ofObject?, fromMembers_map]
  by_cases same : key = name
  · cases read : d.read value <;> simp [required, field, occurrences, same, read, Except.toOption]
  · simp [required, field, occurrences, same, Except.toOption]

theorem ofObject?_two (make : α → β → γ) (name other : String) (apart : name ≠ other)
    (d : Decoder α) (e : Decoder β) (key : String) (value : Json) :
    (make <$> required name d <*> required other e).ofObject? (.obj [(key, value)]) = none := by
  -- Whatever its key, the one member leaves a field without a value.
  have missing : ((make <$> required name d).fromMembers [(key, value)]).toOption = none ∨
      ((required other e).fromMembers [(key, value)]).toOption = none := by
    by_cases same : key = name
    · right
      simp [required, field, occurrences, same, apart, Except.toOption]
    · left
      simp [fromMembers_map, required, field, occurrences, same, Except.toOption]
  simp only [ofObject?, Seq.seq]
  generalize (make <$> required name d).fromMembers [(key, value)] = first at missing
  generalize (required other e).fromMembers [(key, value)] = second at missing
  cases first <;> cases second <;> simp_all [Except.toOption]

end Fields

theorem QuestNum.carries (num : QuestNum) : QuestNum.decoder.Carries num.json num :=
  (Decoder.carries_uint32 num.val).map QuestNum.mk

theorem FlagValue.carries (value : FlagValue) : FlagValue.decoder.Carries value.json value := by
  cases value with
  | bool value => exact .of_free rfl rfl
  | text value => exact .of_free rfl rfl
  | int value => exact .of_free rfl (by simp [json, decoder, (Decoder.carries_int64 value).written])

theorem CompareOp.carries (op : CompareOp) : CompareOp.decoder.Carries op.json op := by
  cases op <;> exact .of_free rfl rfl

theorem TeleportTarget.carries (target : TeleportTarget) :
    TeleportTarget.decoder.Carries target.json target := by
  have whole : target.json = .obj (Json.spread
      [("map", target.map.map .str), ("scene", target.scene.map .str)]) := by
    simp [json, Json.spread]
  rw [whole]
  refine Decoder.carries_record _ _ _ _ _ ?readable
    ((Fields.Carries.map TeleportTarget.mk ?map).seq ?scene)
  case readable =>
    simp [Json.isReadable]
  case map =>
    exact Fields.carries_optional (by simp) "map" _ Json.str _ (by simp) Decoder.carries_string
      Decoder.string_null
  case scene =>
    exact Fields.carries_optional (by simp) "scene" _ Json.str _ (by simp) Decoder.carries_string
      Decoder.string_null

namespace Effect

theorem read_of_form (effect : Effect) (value : Json) (readable : value.isReadable = true)
    (made : ofJson? value = some effect) : decoder.read value = .ok effect := by
  simp [decoder, readable, made]

/-- Of an object with one member, the key tells the only form that can fit. -/
theorem ofJson?_one (key : String) (value : Json) :
    ofJson? (.obj [(key, value)]) =
      if key = "start_quest" then (QuestNum.decoder.read value).toOption.map startQuest
      else if key = "complete_quest" then (QuestNum.decoder.read value).toOption.map completeQuest
      else if key = "grant_seal" then (Decoder.string.read value).toOption.map grantSeal
      else if key = "set_clause" then (Decoder.string.read value).toOption.map setClause
      else if key = "set_censure_mode" then
        (Decoder.string.read value).toOption.map setCensureMode
      else if key = "compute_boss_unlock" then
        (Decoder.bool.read value).toOption.map fun _ => computeBossUnlock
      else if key = "teleport" then (TeleportTarget.decoder.read value).toOption.map teleport
      else none := by
  have first (form : Fields Effect) (rest : List (Fields Effect)) (json : Json) :
      (form :: rest).findSome? (·.ofObject? json) =
        (form.ofObject? json).or (rest.findSome? (·.ofObject? json)) := by
    rw [List.findSome?_cons]
    cases form.ofObject? json <;> rfl
  simp only [ofJson?, forms, first, List.findSome?_nil, Fields.ofObject?_one, ne_eq,
    not_false_eq_true, String.reduceEq, Fields.ofObject?_two, Option.none_or, Option.or_none]
  grind

theorem carries_single {α : Type} {d : Decoder α} {item : Json} {a : α} (carries : d.Carries item a)
    (make : α → Effect) (key : String)
    (form : ∀ value, ofJson? (.obj [(key, value)]) = (d.read value).toOption.map make) :
    decoder.Carries (.obj [(key, item)]) (make a) := by
  have single (value : Json) (readable : value.isReadable = true) (read : d.read value = .ok a) :
      decoder.read (.obj [(key, value)]) = .ok (make a) :=
    read_of_form _ _ (by simp [Json.isReadable, Json.membersReadable, readable])
      (by rw [form, read]; rfl)
  constructor
  case written => exact single item carries.readable carries.written
  case canonical =>
    obtain ⟨value, freed, read⟩ := carries.canonical
    refine ⟨.obj [(key, value)], ?_, single value (Json.readable_of_free? _ _ freed) read⟩
    simp [Json.free?, Json.freeMembers?, freed, Json.placeMember]

theorem carries_setFlag (name : String) (flag : FlagValue) :
    decoder.Carries (setFlag name flag).json (setFlag name flag) := by
  have form (value : Json) (readable : value.isReadable = true)
      (read : FlagValue.decoder.read value = .ok flag) :
      decoder.read (.obj [("set_flag", .str name), ("value", value)]) =
        .ok (.setFlag name flag) := by
    apply read_of_form
    · simp [Json.isReadable, Json.membersReadable, readable]
    · simp [ofJson?, forms, Fields.ofObject?, Fields.fromMembers_map, Seq.seq,
        Fields.required, Fields.field, Fields.occurrences, Decoder.string, read,
        Except.toOption]
  constructor
  case written => exact form _ flag.carries.readable flag.carries.written
  case canonical =>
    obtain ⟨value, freed, read⟩ := flag.carries.canonical
    refine ⟨.obj [("set_flag", .str name), ("value", value)], ?_,
      form value (Json.readable_of_free? _ _ freed) read⟩
    have placed := Json.placeMember_before "set_flag" "value" (.str name) value [] (by decide)
    simp only [json, Json.free?, Json.freeMembers?, freed, Json.placeMember_nil, placed,
      Option.map_some]

theorem carries_incFlag (name : String) (delta : Int64) :
    decoder.Carries (incFlag name delta).json (incFlag name delta) := by
  have form (members : List (String × Json))
      (listed : members = [("inc_flag", .str name), ("delta", .num (.int delta.toInt))] ∨
        members = [("delta", .num (.int delta.toInt)), ("inc_flag", .str name)]) :
      ofJson? (.obj members) = some (incFlag name delta) := by
    have read := (Decoder.carries_int64 delta).written
    rcases listed with rfl | rfl <;>
      simp [ofJson?, forms, Fields.ofObject?, Fields.fromMembers_map, Seq.seq, Fields.required,
        Fields.field, Fields.occurrences, Decoder.string, read, Except.toOption]
  constructor
  case written => exact read_of_form _ _ rfl (form _ (.inl rfl))
  case canonical =>
    -- The canonical form sorts the keys, so the change stands before the name.
    refine ⟨.obj [("delta", .num (.int delta.toInt)), ("inc_flag", .str name)], ?_,
      read_of_form _ _ rfl (form _ (.inr rfl))⟩
    have placed := Json.placeMember_behind "inc_flag" "delta" (.str name)
      (.num (.int delta.toInt)) [] (by decide) (by decide)
    simp only [json, Json.free?, Json.freeMembers?, Json.placeMember_nil, placed, Option.map_some]

theorem carries (effect : Effect) : decoder.Carries effect.json effect := by
  cases effect with
  | setFlag name flag => exact carries_setFlag name flag
  | incFlag name delta => exact carries_incFlag name delta
  | startQuest quest => exact carries_single quest.carries _ _ (ofJson?_one "start_quest")
  | completeQuest quest => exact carries_single quest.carries _ _ (ofJson?_one "complete_quest")
  | grantSeal domain =>
      exact carries_single (Decoder.carries_string domain) _ _ (ofJson?_one "grant_seal")
  | setClause clause =>
      exact carries_single (Decoder.carries_string clause) _ _ (ofJson?_one "set_clause")
  | setCensureMode mode =>
      exact carries_single (Decoder.carries_string mode) _ _ (ofJson?_one "set_censure_mode")
  | computeBossUnlock =>
      exact carries_single (Decoder.carries_bool true) _ _ (ofJson?_one "compute_boss_unlock")
  | teleport target => exact carries_single target.carries _ _ (ofJson?_one "teleport")

end Effect

namespace Condition

theorem freeMembers?_comparison (key : String) (first : key < "op")
    {subject sign value ownSubject ownSign ownValue : Json}
    (freedSubject : subject.free? = some ownSubject) (freedSign : sign.free? = some ownSign)
    (freedValue : value.free? = some ownValue) :
    Json.freeMembers? [(key, subject), ("op", sign), ("value", value)] =
      some [(key, ownSubject), ("op", ownSign), ("value", ownValue)] := by
  have second := Json.placeMember_before "op" "value" ownSign ownValue [] (by decide)
  have whole := Json.placeMember_before key "op" ownSubject ownSign [("value", ownValue)] first
  simp only [Json.freeMembers?, freedSubject, freedSign, freedValue, Json.placeMember_nil, second,
    whole]

theorem ofJson?_countTrue (flags : List String) (op : CompareOp) (number : Int64)
    (names sign value : Json) (readNames : Decoder.string.list.read names = .ok flags)
    (readSign : CompareOp.decoder.read sign = .ok op)
    (readValue : Decoder.int64.read value = .ok number) :
    ofJson? (.obj [("count_true", names), ("op", sign), ("value", value)]) =
      some (.countTrue flags op number) := by
  simp [ofJson?, conjunctions, plainForms, Fields.ofObject?, Fields.fromMembers_map, Seq.seq,
    Fields.required, Fields.field, Fields.occurrences, readNames, readSign, readValue,
    Except.toOption]

theorem ofJson?_flag (name : String) (op : CompareOp) (expected : FlagValue) (sign value : Json)
    (readSign : CompareOp.decoder.read sign = .ok op)
    (readValue : FlagValue.decoder.read value = .ok expected) :
    ofJson? (.obj [("flag", .str name), ("op", sign), ("value", value)]) =
      some (.flag name op expected) := by
  cases other : Decoder.int64.read value <;>
    simp [ofJson?, conjunctions, plainForms, Fields.ofObject?, Fields.fromMembers_map, Seq.seq,
      Fields.required, Fields.field, Fields.occurrences, Decoder.string, readSign,
      readValue, other, Except.toOption]

mutual

theorem json_written : (condition : Condition) → ofJson? condition.json = some condition
  | .all conditions => by
      simp [json, ofJson?, conjunctions, listOfJson?, jsonList_written conditions]
  | .countTrue flags op number => by
      have names := Decoder.carries_items flags fun flag _ => Decoder.carries_string flag
      exact ofJson?_countTrue flags op number _ _ _ names.written op.carries.written
        (Decoder.carries_int64 number).written
  | .flag name op expected =>
      ofJson?_flag name op expected _ _ op.carries.written expected.carries.written

theorem jsonList_written :
    (conditions : List Condition) → ofItems? (jsonList conditions) = some conditions
  | [] => rfl
  | condition :: rest => by
      simp [jsonList, ofItems?, json_written condition, jsonList_written rest]

end

mutual

theorem json_back : (condition : Condition) →
    ∃ value, condition.json.free? = some value ∧ ofJson? value = some condition
  | .all conditions => by
      obtain ⟨values, freed, back⟩ := jsonList_back conditions
      refine ⟨.obj [("all", .arr values)], ?_, ?_⟩
      · simp [json, Json.free?, Json.freeMembers?, Json.placeMember, freed]
      · simp [ofJson?, conjunctions, listOfJson?, back]
  | .countTrue flags op number => by
      obtain ⟨names, freedNames, readNames⟩ :=
        (Decoder.carries_items flags fun flag _ => Decoder.carries_string flag).canonical
      obtain ⟨sign, freedSign, readSign⟩ := op.carries.canonical
      have readValue := (Decoder.carries_int64 number).written
      refine ⟨_, ?_, ofJson?_countTrue flags op number names sign _ readNames readSign readValue⟩
      rw [json, Json.free?, freeMembers?_comparison "count_true" (by decide) freedNames freedSign
        rfl, Option.map_some]
  | .flag name op expected => by
      obtain ⟨sign, freedSign, readSign⟩ := op.carries.canonical
      obtain ⟨value, freedValue, readValue⟩ := expected.carries.canonical
      refine ⟨_, ?_, ofJson?_flag name op expected sign value readSign readValue⟩
      rw [json, Json.free?, freeMembers?_comparison "flag" (by decide) rfl freedSign freedValue,
        Option.map_some]

theorem jsonList_back : (conditions : List Condition) → ∃ values,
    Json.freeItems? (jsonList conditions) = some values ∧ ofItems? values = some conditions
  | [] => ⟨[], rfl, rfl⟩
  | condition :: rest => by
      obtain ⟨value, freed, back⟩ := json_back condition
      obtain ⟨values, freedRest, backRest⟩ := jsonList_back rest
      exact ⟨value :: values, by simp [jsonList, Json.freeItems?, freed, freedRest],
        by simp [ofItems?, back, backRest]⟩

end

theorem carries (condition : Condition) : decoder.Carries condition.json condition := by
  obtain ⟨value, freed, back⟩ := condition.json_back
  have readable : condition.json.isReadable = true := by
    rw [← Json.free?_isSome, freed]
    rfl
  exact ⟨by simp [decoder, readable, condition.json_written], value, freed,
    by simp [decoder, Json.readable_of_free? _ _ freed, back]⟩

end Condition

theorem Json.listMember_map {α : Type} (key : String) (items : List α) (write : α → Json) :
    listMember key (items.map write) =
      optionalMember key (if items = [] then none else some (.arr (items.map write))) := by
  cases items <;> rfl

namespace Choice

theorem carries (choice : Choice) : decoder.Carries choice.json choice := by
  have whole : choice.json = .obj (Json.spread [
      ("text", some (.str choice.text)),
      ("next", some (.str choice.next)),
      ("effects", if choice.effects = [] then none
        else some (.arr (choice.effects.map Effect.json))),
      ("conditions", if choice.conditions = [] then none
        else some (.arr (choice.conditions.map Condition.json))),
      ("start_next_available_quest", choice.startNext.map .str)]) := by
    simp [json, Json.spread, Json.listMember_map, Json.optionalMember]
  rw [whole]
  refine Decoder.carries_record _ _ _ _ _ ?readable
    (((((Fields.Carries.map Choice.mk ?text).seq ?next).seq ?effects).seq ?conditions).seq ?start)
  case readable =>
    simp [Json.isReadable, Decoder.readable_list Effect.carries,
      Decoder.readable_list Condition.carries]
  case text | next =>
    exact Fields.carries_required (by simp) _ _ _ _ (by simp) (Decoder.carries_string _)
  case effects =>
    exact Fields.carries_listMember (by simp) "effects" _ _ _ (by simp)
      fun effect _ => effect.carries
  case conditions =>
    exact Fields.carries_listMember (by simp) "conditions" _ _ _ (by simp)
      fun condition _ => condition.carries
  case start =>
    exact Fields.carries_optional (by simp) "start_next_available_quest" _ Json.str _ (by simp)
      Decoder.carries_string Decoder.string_null

end Choice

namespace Node

theorem carries (node : Node) : decoder.Carries node.json node := by
  have whole : node.json = .obj (Json.spread [
      ("speaker", some (.str node.speaker)),
      ("text", some (.str node.text)),
      ("choices", if node.choices = [] then none else some (.arr (node.choices.map Choice.json))),
      ("end", if node.terminal then some (.bool true) else none)]) := by
    cases ends : node.terminal <;>
      simp [json, ends, Json.spread, Json.listMember_map, Json.optionalMember]
  rw [whole]
  refine Decoder.carries_record _ _ _ _ _ ?readable
    ((((Fields.Carries.map Node.mk ?speaker).seq ?text).seq ?choices).seq ?terminal)
  case readable =>
    simp [Json.isReadable, Decoder.readable_list Choice.carries]
  case speaker | text =>
    exact Fields.carries_required (by simp) _ _ _ _ (by simp) (Decoder.carries_string _)
  case choices =>
    exact Fields.carries_listMember (by simp) "choices" _ _ _ (by simp)
      fun choice _ => choice.carries
  case terminal =>
    refine Fields.carries_field (by simp) "end" ["terminal"] _ _ "end"
      (if node.terminal then some (.bool true) else none) _ (by simp) (by simp) (by simp) ?_ ?_
    · intro content written
      cases ends : node.terminal with
      | false => simp [ends] at written
      | true =>
          simp only [ends, ↓reduceIte, Option.some.injEq] at written
          exact written ▸ Decoder.carries_bool true
    · intro absent
      cases ends : node.terminal with
      | false => rfl
      | true => simp [ends] at absent

end Node

namespace Dialog

theorem carries (dialog : Dialog) : decoder.Carries dialog.json dialog := by
  have whole : dialog.json = .obj (Json.spread [
      ("quest_id", dialog.quest.map QuestNum.json),
      ("start", some (.str dialog.start)),
      ("nodes", some (.obj (dialog.nodes.toList.map fun entry => (entry.1, entry.2.json))))]) := by
    simp [json, Json.spread, Json.optionalMember]
  have nodes := Decoder.carries_dictionary Node.decoder dialog.nodes Node.json
    fun _ node _ => node.carries
  rw [whole]
  refine Decoder.carries_record _ _ _ _ _ ?readable
    (((Fields.Carries.map Dialog.mk ?quest).seq ?start).seq ?nodes)
  case readable =>
    simpa [Json.isReadable, QuestNum.json] using nodes.readable
  case quest =>
    exact Fields.carries_optional (by simp) "quest_id" _ QuestNum.json _ (by simp) QuestNum.carries
      (by simp [QuestNum.decoder, Decoder.map, Decoder.uint32, Decoder.whole, Decoder.mismatch])
  case start =>
    exact Fields.carries_withDefault (by simp) "start" _ _ _ _ (by simp) (Decoder.carries_string _)
  case nodes =>
    exact Fields.carries_withDefault (by simp) "nodes" _ _ _ _ (by simp) nodes

end Dialog

theorem Decoder.carries_strings (texts : List String) :
    Decoder.string.list.Carries (Json.strings texts) texts :=
  carries_items texts fun text _ => carries_string text

namespace QuestMeta

theorem carries (notes : QuestMeta) : decoder.Carries notes.json notes := by
  have whole : notes.json = .obj (Json.spread [
      ("type", some (.str notes.kind)),
      ("estimated_minutes", some (.num (.int notes.estimatedMinutes.toNat))),
      ("unique_mechanic", some (.str notes.uniqueMechanic)),
      ("narrative_premise", some (.str notes.narrativePremise)),
      ("player_motivation", some (.str notes.playerMotivation)),
      ("branching_outcomes", some (Json.strings notes.branchingOutcomes)),
      ("failure_states", some (.str notes.failureStates))]) := by
    simp [json, Json.spread, Json.optionalMember]
  rw [whole]
  refine Decoder.carries_record _ _ _ _ _ ?readable
    (((((((Fields.Carries.map QuestMeta.mk ?kind).seq ?minutes).seq ?mechanic).seq ?premise).seq
      ?motivation).seq ?branching).seq ?failure)
  case readable =>
    simp [Json.isReadable, (Decoder.carries_strings _).readable]
  case kind | mechanic | premise | motivation | failure =>
    exact Fields.carries_required (by simp) _ _ _ _ (by simp) (Decoder.carries_string _)
  case minutes =>
    exact Fields.carries_required (by simp) "estimated_minutes" _ _ _ (by simp)
      (Decoder.carries_uint32 _)
  case branching =>
    exact Fields.carries_withDefault (by simp) "branching_outcomes" _ _ _ _ (by simp)
      (Decoder.carries_strings _)

end QuestMeta

namespace Quest

/-- A quest as it is read back: its domain is looked up by its key again. -/
def reread (quest : Quest) : Quest :=
  { quest with domain := .ofName quest.domain.key }

-- Unfolded first, since comparing both quests field by field would evaluate the domain.
@[simp]
theorem reread_id (quest : Quest) : quest.reread.id = quest.id := by simp only [reread]

@[simp]
theorem reread_num (quest : Quest) : quest.reread.num = quest.num := by simp only [reread]

@[simp]
theorem reread_domain (quest : Quest) : quest.reread.domain = .ofName quest.domain.key := by
  simp only [reread]

@[simp]
theorem reread_dependencies (quest : Quest) :
    quest.reread.dependencies = quest.dependencies := by
  simp only [reread]

@[simp]
theorem reread_outcomes (quest : Quest) : quest.reread.outcomes = quest.outcomes := by
  simp only [reread]

theorem json_spread (quest : Quest) : quest.json = .obj (Json.spread [
    ("quest_id", some (.str quest.id)),
    ("quest_num", some quest.num.json),
    ("name", some (.str quest.name)),
    ("region", some (.str quest.region)),
    ("location", quest.location.map .str),
    ("authority_domain", some quest.domain.json),
    ("dependencies", some (.arr (quest.dependencies.map QuestNum.json))),
    ("availability_conditions", if quest.availability = [] then none
      else some (.arr (quest.availability.map Condition.json))),
    ("outcomes", some (.arr (quest.outcomes.map Effect.json))),
    ("is_terminal", some (.bool quest.isTerminal)),
    ("tags", some (Json.strings quest.tags)),
    ("objectives", some (Json.strings quest.objectives)),
    ("rewards", some (Json.strings quest.rewards)),
    ("_meta", quest.notes.map QuestMeta.json)]) := by
  simp [json, Json.spread, Json.listMember_map, Json.optionalMember]

theorem carries (quest : Quest) : decoder.Carries quest.json quest.reread := by
  rw [json_spread]
  refine Decoder.carries_record _ _ _ _ _ ?readable
    ((((((((((((((Fields.Carries.map Quest.mk ?id).seq ?num).seq ?name).seq ?region).seq
      ?location).seq ?domain).seq ?dependencies).seq ?availability).seq ?outcomes).seq
      ?terminal).seq ?tags).seq ?objectives).seq ?rewards).seq ?notes)
  case readable =>
    have notes (notes : QuestMeta) := notes.carries.readable
    simp [Json.isReadable, Decoder.readable_list QuestNum.carries, QuestNum.json,
      Decoder.readable_list Condition.carries, Decoder.readable_list Effect.carries,
      AuthorityDomain.json, (Decoder.carries_strings _).readable, notes]
  case id | name | region =>
    exact Fields.carries_required (by simp) _ _ _ _ (by simp) (Decoder.carries_string _)
  case num =>
    exact Fields.carries_required (by simp) "quest_num" _ _ _ (by simp) quest.num.carries
  case location =>
    exact Fields.carries_optional (by simp) "location" _ Json.str _ (by simp)
      Decoder.carries_string Decoder.string_null
  case domain =>
    exact Fields.carries_withDefault (by simp) "authority_domain" _ _ _ _
      (by simp [AuthorityDomain.json]) ((Decoder.carries_string _).map _)
  case dependencies =>
    exact Fields.carries_withDefault (by simp) "dependencies" _ _ _ _ (by simp)
      (Decoder.carries_items _ fun num _ => num.carries)
  case availability =>
    exact Fields.carries_listMember (by simp) "availability_conditions" _ _ _ (by simp)
      fun condition _ => condition.carries
  case outcomes =>
    exact Fields.carries_withDefault (by simp) "outcomes" _ _ _ _ (by simp)
      (Decoder.carries_items _ fun effect _ => effect.carries)
  case terminal =>
    exact Fields.carries_withDefault (by simp) "is_terminal" _ _ _ _ (by simp)
      (Decoder.carries_bool _)
  case tags | objectives | rewards =>
    exact Fields.carries_withDefault (by simp) _ _ _ _ _ (by simp) (Decoder.carries_strings _)
  case notes =>
    exact Fields.carries_optional (by simp) "_meta" _ QuestMeta.json _ (by simp) QuestMeta.carries
      (by simp [QuestMeta.decoder, Decoder.record, Decoder.mismatch])

end Quest

end QuestWeb
