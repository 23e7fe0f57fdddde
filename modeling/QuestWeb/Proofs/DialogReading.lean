import QuestWeb.Engine.Source
import QuestWeb.Proofs.SteadyDecoders
import QuestWeb.Proofs.Storage

/-!
The two ways to a dialog. The gate loads a file as free JSON and reads the dialog from that; the
engine reads the dialog from the file itself. They differ where a key repeats, and at a place that
cannot be read and is not asked for.
-/

namespace QuestWeb

theorem QuestNum.steady : QuestNum.decoder.Steady :=
  Decoder.Steady.map (Decoder.steady_whole _ _ _ _) QuestNum.mk

theorem FlagValue.steady : FlagValue.decoder.Steady :=
  .flat (fun _ => rfl) (fun _ => rfl)

namespace CompareOp

theorem read?_sign (text : String) (value : Json) : decoder.read? (.obj [(text, value)]) =
    if value = .null then (read text).toOption else none := by
  simp only [Decoder.read?, decoder]
  cases read text with
  | error e => simp [Except.toOption]
  | ok op => cases value <;> simp [Decoder.mismatch, Except.toOption]

theorem read?_members (members : List (String × Json)) (count : members.length ≠ 1) :
    decoder.read? (.obj members) = none := by
  cases members with
  | nil => rfl
  | cons first rest =>
      cases rest with
      | nil => contradiction
      | cons again others => rfl

/-- The sign is the only key; written twice it is refused, though the canonical form is not. -/
theorem steady : decoder.Steady := by
  refine .containers (.const_arr none fun _ => rfl) (fun members => ?_)
  by_cases single : members.length = 1
  · obtain ⟨⟨text, item⟩, rfl⟩ := List.length_eq_one_iff.mp single
    have same (value : Json) (freed : (Json.obj [(text, item)]).free? = some value) :
        decoder.read? value = decoder.read? (.obj [(text, item)]) := by
      obtain ⟨values, inside, rfl⟩ := Json.free?_obj _ value freed
      obtain ⟨content, _, here, later, rfl⟩ := Json.freeMembers?_cons _ _ _ _ inside
      cases later
      simp only [Json.placeMember_nil, read?_sign, Json.free?_null item content here]
    constructor
    case same => exact fun value freed _ => same value freed
    case kept => exact fun value freed => same value freed ▸ id
  · constructor
    case same =>
      intro value freed distinct
      obtain ⟨values, inside, rfl⟩ := Json.free?_obj members value freed
      have count := Json.freeMembers?_count members values (fun _ => true) inside
        ((Json.isDistinct_obj members).mp distinct).1
      rw [List.filter_eq_self.mpr fun _ _ => rfl, List.filter_eq_self.mpr fun _ _ => rfl] at count
      rw [read?_members members single, read?_members values (count ▸ single)]
    case kept =>
      intro value _ some_
      simp [read?_members members single] at some_

end CompareOp

theorem TeleportTarget.steady : TeleportTarget.decoder.Steady := by
  apply Decoder.steady_record
  have map := (Fields.steady_withDefault "map" Decoder.steady_string.optional none).map
    TeleportTarget.mk
  exact map.seq (Fields.steady_withDefault "scene" Decoder.steady_string.optional none)

namespace Effect

theorem forms_steady : ∀ form ∈ forms, form.Steady := by
  have quest (name : String) := Fields.steady_required name QuestNum.steady
  have text (name : String) := Fields.steady_required name Decoder.steady_string
  simp only [forms, List.forall_mem_cons]
  refine ⟨?setFlag, ?incFlag, (quest _).map _, (quest _).map _, (text _).map _, (text _).map _,
    (text _).map _, ?computeBossUnlock, ?teleport, List.forall_mem_nil _⟩
  case setFlag => exact ((text _).map _).seq (Fields.steady_required _ FlagValue.steady)
  case incFlag =>
    exact ((text _).map _).seq (Fields.steady_required _ (Decoder.steady_whole _ _ _ _))
  case computeBossUnlock => exact (Fields.steady_required _ Decoder.steady_bool).map _
  case teleport => exact (Fields.steady_required _ TeleportTarget.steady).map _

theorem read?_eq (json : Json) :
    decoder.read? json = if json.isReadable then ofJson? json else none := by
  simp only [Decoder.read?, decoder]
  generalize (if json.isReadable then ofJson? json else none) = read
  cases read <;> rfl

theorem steady : decoder.Steady := by
  intro json
  rw [funext read?_eq]
  exact .readable (.findSome forms Fields.ofObject? fun form listed =>
    (forms_steady form listed).objects json)

end Effect

namespace Condition

theorem plainForms_steady : ∀ form ∈ plainForms, form.Steady := by
  have sign := Fields.steady_required "op" CompareOp.steady
  have flags := Fields.steady_required "count_true" Decoder.steady_string.list
  have name := Fields.steady_required "flag" Decoder.steady_string
  simp only [plainForms, List.forall_mem_cons]
  refine ⟨?countTrue, ?flag, List.forall_mem_nil _⟩
  case countTrue =>
    exact ((flags.map _).seq sign).seq (Fields.steady_required _ (Decoder.steady_whole _ _ _ _))
  case flag => exact ((name.map _).seq sign).seq (Fields.steady_required _ FlagValue.steady)

theorem conjunctions_eq (members : List (String × Json)) :
    conjunctions members = (members.filter (·.1 == "all")).map (listOfJson? ·.2) := by
  induction members with
  | nil => rfl
  | cons first rest ih =>
      obtain ⟨key, item⟩ := first
      by_cases same : key = "all" <;> simp [conjunctions, same, ih]

theorem ofJson?_obj (members : List (String × Json)) : ofJson? (.obj members) =
    ((Json.readUnder (· == "all") listOfJson? none (.obj members)).map Condition.all).or
      (plainForms.findSome? (·.ofObject? (.obj members))) := by
  rw [ofJson?, conjunctions_eq]
  simp only [Json.readUnder]
  generalize members.filter (·.1 == "all") = only
  cases only with
  | nil => rfl
  | cons first rest =>
      obtain ⟨key, item⟩ := first
      simp only [Json.readOnly, List.map_cons]
      cases rest <;> simp only [List.map_nil, List.map_cons] <;> cases listOfJson? item <;> rfl

theorem ofItems?_eq (items : List Json) : ofItems? items = items.mapM ofJson? := by
  induction items with
  | nil => rfl
  | cons item rest ih =>
      rw [List.mapM_cons, ← ih, ofItems?]
      cases ofJson? item <;> cases ofItems? rest <;> rfl

mutual

theorem ofJson?_steady : (json : Json) → json.Steady ofJson?
  | .obj members => .congr_obj ofJson?_obj
      (.or ((Json.Steady.under _ none (members_steady members)).map Condition.all)
        (.findSome plainForms Fields.ofObject? fun form listed =>
          (plainForms_steady form listed).objects (.obj members)))
  | .arr items => .const_arr none (fun _ => rfl) items
  | .unreadable => ⟨nofun, nofun⟩
  | .null | .bool _ | .num _ | .str _ => .own rfl

theorem listOfJson?_steady : (json : Json) → json.Steady listOfJson?
  | .arr items => .congr_arr ofItems?_eq (.items (items_steady items))
  | .obj members => .const_obj none (fun _ => rfl) members
  | .unreadable => ⟨nofun, nofun⟩
  | .null | .bool _ | .num _ | .str _ => .own rfl

theorem items_steady : (items : List Json) → ∀ item ∈ items, item.Steady ofJson?
  | [] => nofun
  | item :: rest => List.forall_mem_cons.mpr ⟨ofJson?_steady item, items_steady rest⟩

theorem members_steady : (members : List (String × Json)) →
    ∀ member ∈ members, member.2.Steady listOfJson?
  | [] => nofun
  | (_, item) :: rest => List.forall_mem_cons.mpr ⟨listOfJson?_steady item, members_steady rest⟩

end

theorem read?_eq (json : Json) :
    decoder.read? json = if json.isReadable then ofJson? json else none := by
  simp only [Decoder.read?, decoder]
  generalize (if json.isReadable then ofJson? json else none) = read
  cases read <;> rfl

theorem steady : decoder.Steady := by
  intro json
  rw [funext read?_eq]
  exact .readable (ofJson?_steady json)

end Condition

theorem Choice.steady : Choice.decoder.Steady := by
  apply Decoder.steady_record
  have text := (Fields.steady_required "text" Decoder.steady_string).map Choice.mk
  have next := text.seq (Fields.steady_required "next" Decoder.steady_string)
  have effects := next.seq (Fields.steady_withDefault "effects" Effect.steady.list [])
  have conditions := effects.seq (Fields.steady_withDefault "conditions" Condition.steady.list [])
  exact conditions.seq (Fields.steady_withDefault "start_next_available_quest"
    Decoder.steady_string.optional none)

theorem Node.steady : Node.decoder.Steady := by
  apply Decoder.steady_record
  have speaker := (Fields.steady_required "speaker" Decoder.steady_string).map Node.mk
  have text := speaker.seq (Fields.steady_required "text" Decoder.steady_string)
  have choices := text.seq (Fields.steady_withDefault "choices" Choice.steady.list [])
  exact choices.seq (Fields.steady_field "end" ["terminal"] Decoder.steady_bool (some false))

theorem Dialog.steady : Dialog.decoder.Steady := by
  apply Decoder.steady_record
  have quest := (Fields.steady_withDefault "quest_id" QuestNum.steady.optional none).map Dialog.mk
  have start := quest.seq (Fields.steady_withDefault "start" Decoder.steady_string "")
  exact start.seq (Fields.steady_withDefault "nodes" Node.steady.dictionary ∅)

namespace DialogFolder

variable (folder : DialogFolder) (key : DialogKey)

def fileOf : DialogKey → String
  | .quest num => folder.layout.questDialog num
  | .location key => folder.layout.locationDialog key

def json? : Option Json :=
  (folder.tree.readText (Path.under folder.root (folder.fileOf key))).toOption.bind Json.parse?

/-- The dialog as the gate reads it. -/
def checkedDialog? : Option Dialog :=
  (Dataset.loadDocument folder.tree folder.root (folder.fileOf key)).toOption.bind fun document =>
    (document.read Dialog.decoder).toOption

def loaded? : DialogKey → Option Document
  | .quest num =>
      (Dataset.load folder.tree folder.root folder.layout).questDialogs[num.fileName]?
  | .location key =>
      (Dataset.load folder.tree folder.root folder.layout).locationDialogs[locationFileName key]?

/-- The dialog as the engine reads it. -/
def playedDialog? : Option Dialog :=
  (DialogSource.fetch folder key).toOption

theorem checkedDialog?_eq : folder.checkedDialog? key =
    (folder.json? key).bind fun json => json.free?.bind Dialog.decoder.read? := by
  unfold checkedDialog? json? Dataset.loadDocument Json.parseFree?
  cases folder.tree.readText (Path.under folder.root (folder.fileOf key)) with
  | error e => rfl
  | ok text =>
      simp only [Except.toOption, Option.bind_some]
      cases Json.parse? text with
      | none => rfl
      | some json =>
          cases free : json.free? with
          | none => simp [free]
          | some value =>
              simp only [Option.bind_some, free, Document.read, Decoder.read?]
              cases Dialog.decoder.read value <;> rfl

theorem checkedDialog?_loaded (document : Document) (loaded : folder.loaded? key = some document) :
    folder.checkedDialog? key = (document.read Dialog.decoder).toOption := by
  have read : Dataset.loadDocument folder.tree folder.root (folder.fileOf key) = .ok document := by
    cases key with
    | quest num => exact ((Dataset.getElem?_loadFolder ..).mp loaded).2
    | location key => exact ((Dataset.getElem?_loadFolder ..).mp loaded).2
  rw [checkedDialog?, read]
  rfl

theorem pathOf_eq : folder.pathOf key = Path.under folder.root (folder.fileOf key) := by
  cases key <;> rfl

theorem playedDialog?_eq :
    folder.playedDialog? key = (folder.json? key).bind Dialog.decoder.read? := by
  simp only [playedDialog?, DialogSource.fetch, json?, FileTree.readDocument, pathOf_eq,
    Decoder.ofText?]
  cases folder.tree.readText (Path.under folder.root (folder.fileOf key)) with
  | error e => rfl
  | ok text =>
      simp only [Except.toOption, Option.bind_some]
      cases Json.parse? text with
      | none => rfl
      | some json =>
          simp only [Option.bind_some, Decoder.read?]
          cases Dialog.decoder.read json <;> rfl

/-- Where every place can be read and no key repeats, the gate and the engine read one dialog, or
none. Where keys repeat, the gate still reads a dialog if the engine does; and it reads none where
something cannot be read. The document that a dataset has loaded for the dialog is read in the
gate's way. -/
theorem dialogs_read_alike :
    (folder.json? key = none →
      folder.checkedDialog? key = none ∧ folder.playedDialog? key = none) ∧
    (∀ json, folder.json? key = some json →
      (json.isReadable = true → json.isDistinct = true →
        folder.checkedDialog? key = folder.playedDialog? key) ∧
      (json.isReadable = true → (folder.playedDialog? key).isSome = true →
        (folder.checkedDialog? key).isSome = true) ∧
      (json.isReadable = false → folder.checkedDialog? key = none)) ∧
    ∀ document, folder.loaded? key = some document →
      folder.checkedDialog? key = (document.read Dialog.decoder).toOption := by
  refine ⟨?unspelled, ?spelled, folder.checkedDialog?_loaded key⟩
  all_goals rw [checkedDialog?_eq, playedDialog?_eq]
  case unspelled =>
    intro none
    rw [none]
    exact ⟨rfl, rfl⟩
  case spelled =>
    intro json spelled
    rw [spelled, Option.bind_some, Option.bind_some, ← json.free?_isSome]
    cases freed : json.free? with
    | none => simp
    | some value =>
        have steady := Dialog.steady json
        exact ⟨fun _ distinct => steady.same value freed distinct,
          fun _ => steady.kept value freed, nofun⟩

def holding (text : String) : DialogFolder where
  tree := {
    files := (∅ : Std.ExtTreeMap Path FileContent).insert ["data", "dialogs", "quest_001.json"]
      (.text text)
    folders := .ofList [["data"], ["data", "dialogs"]]
    here := [] }
  root := ""
  layout := .standard

theorem dialogs_read_alike_bridge :
    let folder := holding "\x7b\"start\": \"bridge\", \"note\": [null, \x7b\x7d]\x7d"
    folder.checkedDialog? (.quest ⟨1⟩) = folder.playedDialog? (.quest ⟨1⟩) := by
  intro folder
  have spelled : folder.json? (.quest ⟨1⟩) =
      some (.obj [("start", .str "bridge"), ("note", .arr [.null, .obj []])]) := by
    decide +kernel
  exact ((dialogs_read_alike folder (.quest ⟨1⟩)).2.1 _ spelled).1 (by decide) (by decide)

def startTwice : String :=
  "\x7b\"start\": \"well\", \"start\": \"bridge\"\x7d"

def startBeyond : String :=
  "\x7b\"start\": \"bridge\", \"depth\": 1e999\x7d"

def flagTwice : String :=
  "\x7b\"nodes\": \x7b\"bridge\": [\"\", \"\", [[\"\", \"\", [" ++
    "\x7b\"set_flag\": \"A\", \"set_flag\": \"B\", \"value\": 1, \"start_quest\": 7\x7d" ++
    "]]]]\x7d\x7d"

/-- The gate reads what the engine refuses, refuses what the engine reads, and reads another effect
than the engine. -/
theorem dialogs_read_apart :
    (((holding startTwice).checkedDialog? (.quest ⟨1⟩)).map (·.start) = some "bridge" ∧
      (holding startTwice).playedDialog? (.quest ⟨1⟩) = none) ∧
    ((holding startBeyond).checkedDialog? (.quest ⟨1⟩) = none ∧
      ((holding startBeyond).playedDialog? (.quest ⟨1⟩)).map (·.start) = some "bridge") ∧
    ((holding flagTwice).checkedDialog? (.quest ⟨1⟩)).map (·.effects) =
      some [("bridge", .setFlag "B" (.int 1))] ∧
    ((holding flagTwice).playedDialog? (.quest ⟨1⟩)).map (·.effects) =
      some [("bridge", .startQuest ⟨7⟩)] := by
  refine ⟨⟨?_, ?_⟩, ⟨?_, ?_⟩, ?_, ?_⟩
  all_goals decide +kernel

end DialogFolder

end QuestWeb
