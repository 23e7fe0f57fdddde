import QuestWeb.Proofs.Calls

/-!
What becomes of a choice. Wherever an engine can come to, over dialogs in memory or in files that
change, a choice is taken exactly if it is offered and leads to a node of the dialog; each refusal
has one cause, and leaves everything as it was.
-/

namespace QuestWeb.Engine

inductive Event (σ : Type) : Type 1 where
  | call (c : Call σ)
  /-- Another game takes the place of the state. -/
  | restore (state : GameState)
  /-- Other quests take the place of the list. -/
  | relist (quests : List Quest)
  /-- The source holds other dialogs from now on. -/
  | replace (source : σ)

variable {σ : Type}

def dialog? (engine : Engine σ) : Option Dialog :=
  engine.active.bind fun position => engine.cache.get? position.key

def LeadsOn (engine : Engine σ) (choice : Choice) : Prop :=
  ∃ dialog, engine.dialog? = some dialog ∧ dialog.hasNode choice.next = true

def Underway (engine : Engine σ) (position : Position) : Prop :=
  engine.active = some position ∧ position.finished = false

/-- When each answer is given to a choice, and what a refusal leaves. -/
structure Decides (engine : Engine σ) (index : Nat) : Prop where
  taken : (∃ step, (engine.choose index).1 = .ok step) ↔
    ∃ position choice, engine.Underway position ∧ (index, choice) ∈ engine.offeredChoices ∧
      engine.LeadsOn choice
  idle : (engine.choose index).1 = .error .noActiveDialog ↔ engine.active = none
  ended : (engine.choose index).1 = .error .finished ↔
    ∃ position, engine.active = some position ∧ position.finished = true
  unavailable : ∀ node place, (engine.choose index).1 = .error (.choiceUnavailable node place) ↔
    place = index ∧ ∃ position, engine.Underway position ∧ position.node = node ∧
      ∀ choice, (index, choice) ∉ engine.offeredChoices
  missing : ∀ node, (engine.choose index).1 = .error (.missingNode node) ↔
    ∃ position choice, engine.Underway position ∧ (index, choice) ∈ engine.offeredChoices ∧
      choice.next = node ∧ ¬ engine.LeadsOn choice
  only : ∀ e, (engine.choose index).1 = .error e → e = .noActiveDialog ∨ e = .finished ∨
    (∃ node place, e = .choiceUnavailable node place) ∨ ∃ node, e = .missingNode node
  elsewhere : ∀ position, engine.active = some position →
    (engine.choose index).1 ≠ .error (.missingNode position.node)
  kept : ∀ e, (engine.choose index).1 = .error e → (engine.choose index).2 = engine

theorem Grounded.call [DialogSource σ] {engine : Engine σ} (grounded : engine.Grounded)
    (c : Call σ) : (engine.call c).Grounded := by
  cases c with
  | start key => exact grounded.start key
  | load key => exact (grounded.load key).1
  | choose index => exact grounded.choose index
  | invalidate key => exact grounded.invalidate key
  | endDialog => exact grounded.endDialog
  | insert key dialog =>
      have forgotten := grounded.invalidate key
      exact ⟨forgotten.usable, forgotten.standing⟩

def happen [DialogSource σ] (engine : Engine σ) : Event σ → Engine σ
  | .call c => engine.call c
  | .restore state => { engine with state }
  | .relist quests => { engine with quests }
  | .replace source => { engine with source }

def happenAll [DialogSource σ] (engine : Engine σ) (events : List (Event σ)) : Engine σ :=
  events.foldl happen engine

theorem Grounded.happen [DialogSource σ] {engine : Engine σ} (grounded : engine.Grounded)
    (event : Event σ) : (engine.happen event).Grounded := by
  cases event with
  | call c => exact grounded.call c
  | restore | relist | replace => exact ⟨grounded.usable, grounded.standing⟩

theorem Grounded.happenAll [DialogSource σ] {engine : Engine σ} (grounded : engine.Grounded)
    (events : List (Event σ)) : (engine.happenAll events).Grounded := by
  induction events generalizing engine with
  | nil => exact grounded
  | cons event rest ih => exact ih (grounded.happen event)

theorem decides_idle (engine : Engine σ) (index : Nat) (idle : engine.active = none) :
    engine.Decides index := by
  have answer : engine.choose index = (.error .noActiveDialog, engine) := by
    simp [Engine.choose, resolve, idle]
  constructor <;> simp [answer, idle, Underway]

theorem decides_finished (engine : Engine σ) (index : Nat) (position : Position)
    (active : engine.active = some position) (finished : position.finished = true) :
    engine.Decides index := by
  have answer : engine.choose index = (.error .finished, engine) := by
    simp [Engine.choose, resolve, active, finished]
  constructor <;> simp [answer, active, finished, Underway]

/-- On a node that is at hand the answer hangs on the choice at the index: whether there is one
that is offered, and then whether its target is there. -/
theorem decides_underway (engine : Engine σ) (index : Nat) (position : Position) (dialog : Dialog)
    (node : Node) (active : engine.active = some position) (finished : position.finished = false)
    (cached : engine.cache.get? position.key = some dialog)
    (standing : dialog.node? position.node = some node) : engine.Decides index := by
  have here : engine.dialog? = some dialog := by simp [dialog?, active, cached]
  have underway (other : Position) : engine.Underway other ↔ other = position := by
    simp only [Underway, active, Option.some.injEq]
    exact ⟨fun ⟨same, _⟩ => same.symm, by rintro rfl; exact ⟨rfl, finished⟩⟩
  have offers (choice : Choice) : (index, choice) ∈ engine.offeredChoices ↔
      node.choices[index]?.filter (Choice.isOffered · engine.state) = some choice := by
    simp [mem_offeredChoices, active, finished, cached, standing, Option.filter_eq_some_iff]
  cases listed : node.choices[index]?.filter (Choice.isOffered · engine.state) with
  | none =>
      have answer : engine.choose index =
          (.error (.choiceUnavailable position.node index), engine) := by
        simp [Engine.choose, resolve, active, finished, cached, standing, listed]
      constructor
      case unavailable =>
        intro id place
        simp [answer, underway, offers, listed, @eq_comm _ index place, and_comm]
      all_goals simp [answer, active, finished, underway, offers, listed]
  | some choice =>
      cases led : dialog.node? choice.next with
      | none =>
          have answer : engine.choose index = (.error (.missingNode choice.next), engine) := by
            simp [Engine.choose, resolve, active, finished, cached, standing, listed, led]
          have astray : ¬ engine.LeadsOn choice := by
            simp [LeadsOn, here, Dialog.hasNode_iff, led]
          -- The node where the player stands is there, so it is not the one that is missing.
          have elsewhere : choice.next ≠ position.node := by
            intro same
            rw [same, standing] at led
            simp at led
          constructor <;>
            simp [answer, active, finished, underway, offers, listed, astray, elsewhere]
      | some next =>
          have leads : engine.LeadsOn choice := by
            simp [LeadsOn, here, Dialog.hasNode_iff, led]
          obtain ⟨step, answer⟩ : ∃ step, (engine.choose index).1 = .ok step := by
            simp [Engine.choose, resolve, active, finished, cached, standing, listed, led]
          constructor <;> simp [answer, active, finished, underway, offers, listed, leads]

theorem Grounded.decides {engine : Engine σ} (grounded : engine.Grounded) (index : Nat) :
    engine.Decides index := by
  cases active : engine.active with
  | none => exact decides_idle engine index active
  | some position =>
      cases finished : position.finished with
      | true => exact decides_finished engine index position active finished
      | false =>
          obtain ⟨dialog, node, cached, standing, _⟩ := grounded.standing position active
          exact decides_underway engine index position dialog node active finished cached standing

/-- Whatever happens to an engine, at every index a choice is taken exactly if it is offered and
leads to a node, each refusal has its own cause, and a refusal changes nothing. -/
theorem choose_exact [DialogSource σ] (source : σ) (quests : List Quest) (state : GameState)
    (events : List (Event σ)) (index : Nat) :
    ((Engine.new source quests state).happenAll events).Decides index :=
  ((grounded_new source quests state).happenAll events).decides index

end QuestWeb.Engine
