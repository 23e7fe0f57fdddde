import QuestWeb.Proofs.Findings
import QuestWeb.Proofs.Run

/-!
What a dataset without findings promises the engine. The dialogs that pass the checks are put into
memory and played over the quests of the dataset: every one of them starts, every choice on offer
can be taken, and no effect names a quest that is not there.
-/

namespace QuestWeb

theorem Report.warnAll_errors (report : Report) (warnings : List String) :
    (report.warnAll warnings).errors = report.errors := by
  induction warnings generalizing report with
  | nil => rfl
  | cons warning rest ih =>
      refine (ih (report.warn warning)).trans ?_
      unfold warn
      split <;> rfl

namespace Dataset

def readLocationDialogs (dataset : Dataset) : List (String × Dialog) :=
  dataset.locationDialogs.toList.filterMap fun (name, document) =>
    ((document.read Dialog.decoder).toOption).map (name, ·)

def dialogTable (dataset : Dataset) (place : String → String) : DialogTable :=
  .ofEntries
    ((dataset.quests.filterMap fun quest =>
        (dataset.questDialog? quest.num).map (DialogKey.quest quest.num, ·)) ++
      dataset.readLocationDialogs.map fun (name, dialog) => (.ofLocation (place name), dialog))

end Dataset

structure Dataset.Playable (dataset : Dataset) : Prop where
  quests : ∀ quest ∈ dataset.quests, ∃ dialog, dataset.questDialog? quest.num = some dialog ∧
    dialog.quest = some quest.num ∧ dialog.defects (some quest.num) = [] ∧
      Validator.EffectsResolve dataset dialog
  locations : ∀ (name : String) (document : Document),
    dataset.locationDialogs[name]? = some document →
      ∃ dialog, document.read Dialog.decoder = .ok dialog ∧ dialog.defects none = [] ∧
        Validator.EffectsResolve dataset dialog
  outcomes : ∀ quest ∈ dataset.quests, ∀ effect ∈ quest.outcomes, dataset.Resolves effect

theorem Validator.playable_of_clean (validator : Validator) (dataset : Dataset)
    (present : dataset.questsDocument.isSome = true)
    (clean : (validator.validate dataset).errors = []) : dataset.Playable := by
  simp only [validate, Report.warnAll_errors, List.append_eq_nil_iff] at clean
  obtain ⟨⟨⟨⟨⟨⟨⟨loaded, quests⟩, dialogs⟩, locations⟩, _⟩, _⟩, _⟩, _⟩ := clean
  refine ⟨?_, (checkLocationDialogs_eq_nil dataset).mp locations, ?_⟩
  · intro quest listed
    exact (questDialogFindings_eq_nil validator dataset loaded quest.num).mp
      (List.flatMap_eq_nil_iff.mp dialogs quest listed)
  · intro quest listed effect outcome
    have stated : dataset.questsDocument.isNone = false := by
      rw [Option.isNone_eq_false_iff]
      exact present
    simp only [checkQuests, stated, Bool.false_eq_true, ↓reduceIte, List.append_eq_nil_iff]
      at quests
    exact eachQuest_outcomes validator dataset ∅ dataset.quests quests.1.2 quest listed effect
      outcome

namespace Dataset.Playable

variable {dataset : Dataset} (playable : dataset.Playable) (place : String → String)

include playable

theorem questDialog_loaded (quest : Quest) (listed : quest ∈ dataset.quests) :
    ∃ dialog, (dataset.dialogTable place).get? (.quest quest.num) = some dialog := by
  obtain ⟨dialog, found, _⟩ := playable.quests quest listed
  apply DialogTable.get?_of_mem
  rw [List.map_append, List.mem_append]
  refine .inl (List.mem_map.mpr ⟨(.quest quest.num, dialog), ?_, rfl⟩)
  exact List.mem_filterMap.mpr ⟨quest, listed, by simp [found]⟩

theorem locationDialog_loaded (name : String) (document : Document)
    (found : dataset.locationDialogs[name]? = some document) :
    ∃ dialog, (dataset.dialogTable place).get? (.ofLocation (place name)) = some dialog := by
  obtain ⟨dialog, read, _⟩ := playable.locations name document found
  apply DialogTable.get?_of_mem
  rw [List.map_append, List.mem_append]
  refine .inr (List.mem_map.mpr ⟨(.ofLocation (place name), dialog), ?_, rfl⟩)
  refine List.mem_map.mpr ⟨(name, dialog), ?_, rfl⟩
  exact List.mem_filterMap.mpr ⟨(name, document),
    Std.ExtTreeMap.mem_toList_iff_getElem?_eq_some.mpr found, by simp [read, Except.toOption]⟩

theorem loaded_playable (key : DialogKey) (dialog : Dialog)
    (found : (dataset.dialogTable place).get? key = some dialog) :
    dialog.Playable ∧ Validator.EffectsResolve dataset dialog := by
  rcases List.mem_append.mp (DialogTable.mem_of_get? _ _ _ found) with quest | location
  · obtain ⟨quest, listed, entry⟩ := List.mem_filterMap.mp quest
    obtain ⟨own, read, _, sound, resolve⟩ := playable.quests quest listed
    rw [read] at entry
    cases entry
    exact ⟨((Dialog.defects_eq_nil _ _).mp sound).1, resolve⟩
  · obtain ⟨⟨name, own⟩, member, entry⟩ := List.mem_map.mp location
    cases entry
    obtain ⟨⟨file, document⟩, present, read⟩ := List.mem_filterMap.mp member
    obtain ⟨other, again, sound, resolve⟩ := playable.locations file document
      (Std.ExtTreeMap.mem_toList_iff_getElem?_eq_some.mp present)
    simp only [again, Except.toOption, Option.map_some, Option.some.injEq, Prod.mk.injEq] at read
    obtain ⟨rfl, rfl⟩ := read
    exact ⟨((other.defects_eq_nil _).mp sound).1, resolve⟩

end Dataset.Playable

namespace Engine

structure Guarded (dataset : Dataset) (place : String → String) (engine : Engine DialogTable) :
    Prop where
  quest_starts : ∀ quest ∈ dataset.quests, (engine.start (.quest quest.num)).1 = true
  location_starts : ∀ (name : String) (document : Document),
    dataset.locationDialogs[name]? = some document →
      (engine.start (.ofLocation (place name))).1 = true
  chooses : ∀ index choice, (index, choice) ∈ engine.offeredChoices → ∃ step next,
    engine.choose index = (.ok step, next) ∧
      next.state = replay engine.state (engine.history index)
  finishes : ∀ position, engine.active = some position → ∃ node,
    engine.currentNode? = some node ∧ (position.finished = true ↔ node.choices = [])
  resolves : ∀ index, ∀ entry ∈ engine.history index, dataset.Resolves entry.effect

theorem Attached.guarded {engine : Engine DialogTable} (attached : engine.Attached)
    {dataset : Dataset} (playable : dataset.Playable) (place : String → String)
    (source : engine.source = dataset.dialogTable place) (quests : engine.quests = dataset.quests) :
    engine.Guarded dataset place := by
  have sound (key : DialogKey) (dialog : Dialog) (found : engine.source.get? key = some dialog) :
      dialog.Playable ∧ Validator.EffectsResolve dataset dialog :=
    playable.loaded_playable place key dialog (source ▸ found)
  have starts (key : DialogKey)
      (loaded : ∃ dialog, (dataset.dialogTable place).get? key = some dialog) :
      (engine.start key).1 = true := by
    obtain ⟨dialog, found⟩ := loaded
    rw [← source] at found
    have shape := (sound key dialog found).1
    exact (attached.start_true key dialog found
      ((dialog.fatalDefect?_eq_none).mpr ⟨shape.start, shape.named⟩)).1
  constructor
  case quest_starts =>
    intro quest listed
    exact starts _ (playable.questDialog_loaded place quest listed)
  case location_starts =>
    intro name document found
    exact starts _ (playable.locationDialog_loaded place name document found)
  case chooses =>
    intro index choice offered
    obtain ⟨position, target, resolves⟩ := attached.choose_offered
      (fun key dialog found => (sound key dialog found).1) index choice offered
    obtain ⟨step, next, chosen⟩ := choose_of_resolves engine index position choice target resolves
    exact ⟨step, next, chosen, choose_state engine next index step chosen⟩
  case finishes =>
    intro position active
    obtain ⟨dialog, node, cached, standing, finished⟩ := attached.standing position active
    refine ⟨node, by simp [currentNode?, active, cached, standing], ?_⟩
    rw [finished]
    exact ((sound _ dialog (attached.cached _ _ cached).1).1).terminal position.node node standing
  case resolves =>
    intro index entry member
    obtain ⟨position, choice, target, resolves, source⟩ := mem_history engine index entry member
    rcases source with chosen | ⟨quest, listed, outcome⟩ | ⟨quest, listed, starts⟩
    · obtain ⟨dialog, node, cached, standing, picked, _⟩ := resolves.reaches
      exact (sound _ dialog (attached.cached _ _ cached).1).2 position.node node standing
        choice (List.mem_of_getElem? picked) entry.effect chosen
    · exact playable.outcomes quest (quests ▸ listed) entry.effect outcome
    · intro num named
      rw [starts, Effect.quest?, Option.some.injEq] at named
      rw [quests] at listed
      exact List.find?_isSome.mpr ⟨quest, listed, by simpa using named⟩

/-- A dataset that the validator has nothing against can be played without an error, from any
state and whatever the player does. -/
theorem run_guarded (validator : Validator) (dataset : Dataset) (place : String → String)
    (present : dataset.questsDocument.isSome = true)
    (clean : (validator.validate dataset).errors = []) (state : GameState) (moves : List Move) :
    ((Engine.new (dataset.dialogTable place) dataset.quests state).run moves).Guarded
      dataset place := by
  have attached := (attached_new (dataset.dialogTable place) dataset.quests state).run moves
  exact attached.guarded (validator.playable_of_clean dataset present clean) place
    (run_source _ moves) (run_quests _ moves)

def hamlet : Dataset :=
  let talk (quest : Option QuestNum) (effects : List Effect) : Dialog := {
    quest
    start := "ask"
    nodes := (∅ : Std.ExtTreeMap String Node)
      |>.insert "ask" ⟨"Miller", "Well?", [⟨"Yes.", "end", effects, [], none⟩], false⟩
      |>.insert "end" ⟨"Miller", "Good.", [], true⟩ }
  let quest : Quest := {
    id := "quest.mill.arc", num := ⟨1⟩, name := "The mill", region := "Valley"
    location := some "Mill", domain := .unbound, dependencies := [], availability := []
    outcomes := [.startQuest ⟨1⟩], isTerminal := false, tags := [], objectives := []
    rewards := [], notes := none }
  { layout := .standard
    quests := [quest]
    records := 1
    questsDocument := some ⟨"data/quests.json", .arr [quest.json]⟩
    questDialogs := (∅ : Documents).insert "quest_001.json"
      ⟨"quest_001.json", (talk (some ⟨1⟩) [.startQuest ⟨1⟩, .completeQuest ⟨1⟩]).json⟩
    locationDialogs := (∅ : Documents).insert "dlg_mill.json"
      ⟨"dlg_mill.json", (talk none []).json⟩
    items := none
    encounters := none
    maps := [⟨"valley.json", .obj [("regions", .arr [.obj [("id", .str "mill")]])]⟩]
    loadErrors := [] }

def hamletValidator : Validator where
  config := {
    ValidatorConfig.standard with
    minQuests := 1
    canonicalFiles := ["data/quests.json", "quest_001.json", "dlg_mill.json", "valley.json"] }
  questId := ⟨#[.done], 0⟩
  inlineId := ⟨#[], 0⟩
  allowedDomains := [""]

theorem run_guarded_hamlet :
    ((Engine.new (hamlet.dialogTable id) hamlet.quests .initial).run
      [.start (.quest ⟨1⟩), .choose 0]).Guarded hamlet id :=
  run_guarded hamletValidator hamlet id (by decide +kernel) (by decide +kernel) .initial _

end Engine

end QuestWeb
