import QuestWeb.Proofs.Chapters
import QuestWeb.Proofs.JsonText
import QuestWeb.Quest.Wire
import QuestWeb.Web.Write

/-!
The files of a web are read back from their texts: quest records and dialogs are made of whole
numbers and nest a few containers.
-/

namespace QuestWeb

namespace Json

theorem Plain.mono {room more : Nat} {json : Json} (plain : Plain room json) (le : room ≤ more) :
    Plain more json := by
  induction plain generalizing more with
  | null => exact .null
  | bool value => exact .bool value
  | str text => exact .str text
  | int n low high => exact .int n low high
  | arr items each ih =>
      obtain ⟨more, rfl⟩ : ∃ less, more = less + 1 := ⟨more - 1, by omega⟩
      exact .arr items fun item listed => ih item listed (by omega)
  | obj members each ih =>
      obtain ⟨more, rfl⟩ : ∃ less, more = less + 1 := ⟨more - 1, by omega⟩
      exact .obj members fun member listed => ih member listed (by omega)

theorem plain_strings (room : Nat) (texts : List String) :
    Plain (room + 1) (strings texts) := by
  apply Plain.arr
  simp only [List.forall_mem_map]
  exact fun text _ => .str text

theorem plain_optionalMember (room : Nat) (key : String) (value : Option Json)
    (each : ∀ own ∈ value, Plain room own) :
    ∀ member ∈ optionalMember key value, Plain room member.2 := by
  cases value <;> simp_all [optionalMember]

theorem plain_listMember {room : Nat} (key : String) (items : List Json)
    (each : ∀ item ∈ items, Plain room item) :
    ∀ member ∈ listMember key items, Plain (room + 1) member.2 := by
  unfold listMember
  split
  · simp
  · simpa using .arr items each

end Json

open Json (Plain)

theorem QuestNum.plain (room : Nat) (num : QuestNum) : Plain room num.json := by
  have small := num.val.toNat_lt
  exact .int _ (by omega) (by omega)

theorem plain_int64 (room : Nat) (n : Int64) : Plain room (.num (.int n.toInt)) := by
  have low := n.le_toInt
  have high := n.toInt_lt
  exact .int _ low (by omega)

theorem FlagValue.plain (room : Nat) (value : FlagValue) : Plain room value.json := by
  cases value with
  | bool value => exact .bool value
  | int value => exact plain_int64 room value
  | text value => exact .str value

theorem TeleportTarget.plain (room : Nat) (target : TeleportTarget) :
    Plain (room + 1) target.json := by
  apply Plain.obj
  rw [List.forall_mem_append]
  constructor
  · apply Json.plain_optionalMember
    simp [Plain.str]
  · apply Json.plain_optionalMember
    simp [Plain.str]

theorem Effect.plain (room : Nat) (effect : Effect) : Plain (room + 2) effect.json := by
  cases effect with
  | setFlag name value => exact .obj _ (by simp [Plain.str, value.plain])
  | incFlag name delta => exact .obj _ (by simp [Plain.str, plain_int64])
  | startQuest num => exact .obj _ (by simp [num.plain])
  | completeQuest num => exact .obj _ (by simp [num.plain])
  | grantSeal domain => exact .obj _ (by simp [Plain.str])
  | setClause clause => exact .obj _ (by simp [Plain.str])
  | setCensureMode mode => exact .obj _ (by simp [Plain.str])
  | computeBossUnlock => exact .obj _ (by simp [Plain.bool])
  | teleport target => exact .obj _ (by simp [target.plain])

theorem Condition.plain_flag (room : Nat) (name : String) (op : CompareOp) (value : FlagValue) :
    Plain (room + 1) (Condition.flag name op value).json := by
  rw [json]
  exact .obj _ (by simp [Plain.str, CompareOp.json, value.plain])

theorem Condition.plain_countTrue (room : Nat) (flags : List String) (op : CompareOp)
    (value : Int64) : Plain (room + 2) (Condition.countTrue flags op value).json := by
  have names : Plain (room + 1) (.arr (flags.map .str)) := Json.plain_strings room flags
  rw [json]
  exact .obj _ (by simp [Plain.str, CompareOp.json, plain_int64, names])

theorem Condition.plain_all (room : Nat) (conditions : List Condition)
    (each : ∀ condition ∈ conditions, Plain room condition.json) :
    Plain (room + 2) (Condition.all conditions).json := by
  have list (own : List Condition) : jsonList own = own.map json := by
    induction own with
    | nil => rfl
    | cons first rest ih => rw [jsonList, ih, List.map_cons]
  have items : Plain (room + 1) (.arr (jsonList conditions)) := by
    rw [list]
    exact .arr _ (List.forall_mem_map.mpr each)
  rw [json]
  exact .obj _ (by simp [items])

theorem QuestMeta.plain (room : Nat) (notes : QuestMeta) : Plain (room + 2) notes.json := by
  have minutes : Plain (room + 1) (.num (.int notes.estimatedMinutes.toNat)) := by
    have small := notes.estimatedMinutes.toNat_lt
    exact .int _ (by omega) (by omega)
  exact .obj _ (by simp [Plain.str, minutes, Json.plain_strings])

theorem Quest.plain (room : Nat) (quest : Quest)
    (each : ∀ condition ∈ quest.availability, Plain (room + 2) condition.json) :
    Plain (room + 4) quest.json := by
  have nums : Plain (room + 3) (.arr (quest.dependencies.map QuestNum.json)) :=
    .arr _ (List.forall_mem_map.mpr fun num _ => num.plain _)
  have outcomes : Plain (room + 3) (.arr (quest.outcomes.map Effect.json)) :=
    .arr _ (List.forall_mem_map.mpr fun effect _ => effect.plain room)
  have availability := Json.plain_listMember "availability_conditions"
    (quest.availability.map Condition.json) (List.forall_mem_map.mpr each)
  have place := Json.plain_optionalMember (room + 3) "location"
    (quest.location.map .str) (by simp [Plain.str])
  have notes := Json.plain_optionalMember (room + 3) "_meta"
    (quest.notes.map QuestMeta.json) (by simp [QuestMeta.plain])
  refine .obj _ ?_
  simp only [List.forall_mem_append, List.forall_mem_cons, List.not_mem_nil, false_implies,
    implies_true, and_true]
  exact ⟨⟨⟨⟨⟨⟨.str _, quest.num.plain _, .str _, .str _⟩, place⟩, .str _, nums⟩, availability⟩,
    outcomes, .bool _, Json.plain_strings _ _, Json.plain_strings _ _, Json.plain_strings _ _⟩,
    notes⟩

theorem Choice.plain (room : Nat) (choice : Choice)
    (each : ∀ condition ∈ choice.conditions, Plain (room + 2) condition.json) :
    Plain (room + 4) choice.json := by
  have effects := Json.plain_listMember "effects" (choice.effects.map Effect.json)
    (List.forall_mem_map.mpr fun effect _ => effect.plain room)
  have conditions := Json.plain_listMember "conditions" (choice.conditions.map Condition.json)
    (List.forall_mem_map.mpr each)
  have next := Json.plain_optionalMember (room + 3) "start_next_available_quest"
    (choice.startNext.map .str) (by simp [Plain.str])
  refine .obj _ ?_
  simp only [List.forall_mem_append, List.forall_mem_cons, List.not_mem_nil, false_implies,
    implies_true, and_true]
  exact ⟨⟨⟨⟨.str _, .str _⟩, effects⟩, conditions⟩, next⟩

theorem Node.plain (room : Nat) (node : Node)
    (each : ∀ choice ∈ node.choices, Plain (room + 1) choice.json) :
    Plain (room + 3) node.json := by
  have choices := Json.plain_listMember "choices" (node.choices.map Choice.json)
    (List.forall_mem_map.mpr each)
  have mark : ∀ member ∈ if node.terminal then [("end", Json.bool true)] else [],
      Plain (room + 2) member.2 := by
    cases node.terminal <;> simp [Plain.bool]
  refine .obj _ ?_
  simp only [List.forall_mem_append, List.forall_mem_cons, List.not_mem_nil, false_implies,
    implies_true, and_true]
  exact ⟨⟨⟨.str _, .str _⟩, choices⟩, mark⟩

theorem Dialog.plain (room : Nat) (dialog : Dialog)
    (each : ∀ (id : String) (node : Node), dialog.nodes[id]? = some node → Plain room node.json) :
    Plain (room + 2) dialog.json := by
  have owner := Json.plain_optionalMember (room + 1) "quest_id"
    (dialog.quest.map QuestNum.json) (by simp [QuestNum.plain])
  refine .obj _ ?_
  simp only [List.forall_mem_append, List.forall_mem_cons, List.not_mem_nil, false_implies,
    implies_true, and_true]
  refine ⟨owner, .str _, .obj _ (List.forall_mem_map.mpr ?_)⟩
  rintro ⟨id, node⟩ listed
  exact each id node (Std.ExtTreeMap.mem_toList_iff_getElem?_eq_some.mp listed)

namespace Web

theorem availability_plain (catalog : Catalog) (role : Role) (condition : Condition)
    (listed : condition ∈ availability catalog role) : Plain 4 condition.json := by
  have count (flags : List String) (op : CompareOp) (value : Int64) :
      Plain 4 (Condition.all [.countTrue flags op value]).json := by
    apply Condition.plain_all 2
    simp [Condition.plain_countTrue 0]
  cases role <;> simp only [availability, List.mem_singleton, List.not_mem_nil] at listed
  case keystone =>
    subst listed
    exact count _ _ _
  all_goals
    subst listed
    exact Condition.plain_flag 3 _ _ _

theorem DialogPlan.Scene.plain {plan : DialogPlan} {id : String} {choice : Choice}
    (scene : DialogPlan.Scene plan id choice) : Plain 4 choice.json := by
  apply Choice.plain 0
  intro condition listed
  suffices ∃ name op value, condition = .flag name op value by
    obtain ⟨name, op, value, rfl⟩ := this
    exact Condition.plain_flag 1 name op value
  cases scene with
  | answer text name delta conditions scored flags => exact flags condition listed
  | bind text domain told => exact ⟨_, _, _, List.mem_singleton.mp listed⟩
  | _ => simp [DialogPlan.choice] at listed

namespace Made

variable {catalog : Catalog} {web : Web} (made : Made catalog web)

include made

theorem questList_parsed : Json.parse? web.questListJson.document = some web.questListJson := by
  have each : ∀ quest ∈ web.quests, Plain 6 quest.json := by
    intro quest listed
    obtain ⟨role, _, recorded⟩ := made.recorded quest listed
    apply Quest.plain 2
    rw [recorded.availability]
    exact availability_plain catalog role
  have plain : Plain 7 web.questListJson := .arr _ (List.forall_mem_map.mpr each)
  exact (plain.mono (by decide)).parsed

theorem dialog_parsed (entry : QuestNum × Dialog) (listed : entry ∈ web.entries) :
    Json.parse? entry.2.json.document = some entry.2.json := by
  obtain ⟨role, _, _, scripted⟩ := made.scripted entry listed
  have plain : Plain 9 entry.2.json := by
    apply Dialog.plain 7
    intro id node standing
    apply Node.plain 4
    intro choice offered
    have told : Plain 4 choice.json := by
      cases scripted.staged id node standing with
      | ending speaker text => simp at offered
      | playing _ speaker text choices before scenes open_ => exact (scenes choice offered).plain
    exact told.mono (by decide)
  exact (plain.mono (by decide)).parsed

end Made

end Web

end QuestWeb
