import QuestWeb.Proofs.Calls

/-!
Dialogs that are put in while the engine plays. Whatever is done to an engine over a table, another
game taking the place of the state included, the cache holds what the table holds now, the engine
stands on a node of a cached dialog, and a dialog that was put in is the one that is served from
then on.
-/

namespace QuestWeb.Engine

inductive Operation : Type 1 where
  | call (c : Call DialogTable)
  /-- Another game takes the place of the state. -/
  | restore (state : GameState)

def Operation.inserts? : Operation → Option DialogKey
  | .call (.insert key _) => some key
  | _ => none

def operate (engine : Engine DialogTable) : Operation → Engine DialogTable
  | .call c => engine.call c
  | .restore state => { engine with state }

def operateAll (engine : Engine DialogTable) (operations : List Operation) : Engine DialogTable :=
  operations.foldl operate engine

/-- Every dialog in the cache is the one that the source holds, and can be entered at its start. The
position is a node of a cached dialog, finished when that node is terminal, and that is the current
node. -/
structure Coherent (engine : Engine DialogTable) : Prop where
  cached : ∀ key dialog, engine.cache.get? key = some dialog →
    engine.source.get? key = some dialog ∧
      dialog.hasNode dialog.start = true ∧ Text.isBlankText dialog.start = false
  standing : ∀ position, engine.active = some position → ∃ dialog node,
    engine.cache.get? position.key = some dialog ∧ dialog.node? position.node = some node ∧
      position.finished = node.terminal ∧ engine.currentNode? = some node

/-- The dialog is what the engine loads under the key, and what it enters there unless it has no
usable start. -/
structure Serves (engine : Engine DialogTable) (key : DialogKey) (dialog : Dialog) : Prop where
  loads : (engine.load key).1 =
    match fatalDefect? dialog with
    | none => .ok dialog
    | some reason => .error (.unusable key reason)
  starts : (engine.start key).1 = (fatalDefect? dialog).isNone
  enters : fatalDefect? dialog = none → (engine.start key).2.cache.get? key = some dialog ∧
    ∃ node, dialog.node? dialog.start = some node ∧
      (engine.start key).2.active = some ⟨key, dialog.start, node.terminal⟩ ∧
      (engine.start key).2.currentNode? = some node
  refuses : fatalDefect? dialog ≠ none → (engine.start key).2.active = none

variable {engine : Engine DialogTable}

theorem Attached.operate (attached : engine.Attached) (operation : Operation) :
    (engine.operate operation).Attached := by
  cases operation with
  | call c => exact attached.call c
  | restore state => exact ⟨attached.cached, attached.standing⟩

/-- Nothing but an insertion under a key changes the dialog that the source holds there. -/
theorem operate_source (engine : Engine DialogTable) (operation : Operation) (key : DialogKey)
    (other : operation.inserts? ≠ some key) :
    (engine.operate operation).source.get? key = engine.source.get? key := by
  cases operation with
  | restore state => rfl
  | call c =>
      by_cases play : c.isPlay = true
      · exact congrArg (DialogTable.get? · key) (call_source engine c play)
      · cases c with
        | insert own dialog =>
            have apart : own ≠ key := fun same => other (congrArg some same)
            simp [operate, call, insertDialog, invalidate, DialogTable.get?_insert, apart]
        | start | load | choose | invalidate | endDialog => exact absurd rfl play

theorem Attached.coherent (attached : engine.Attached) : engine.Coherent where
  cached key dialog present :=
    have ⟨listed, usable⟩ := attached.cached key dialog present
    ⟨listed, (dialog.fatalDefect?_eq_none).mp usable⟩
  standing := attached.currentNode

/-- A dialog without a usable start is refused. It can not be in the cache. -/
theorem Attached.load_unusable (attached : engine.Attached) (key : DialogKey) (dialog : Dialog)
    (listed : engine.source.get? key = some dialog) (reason : DialogDefect)
    (fatal : fatalDefect? dialog = some reason) :
    engine.load key = (.error (.unusable key reason), engine) := by
  cases hit : engine.cache.get? key with
  | some kept =>
      obtain ⟨also, usable⟩ := attached.cached key kept hit
      rw [listed, Option.some.injEq] at also
      subst also
      simp [fatal] at usable
  | none => simp [Engine.load, hit, DialogSource.fetch, listed, fatal]

theorem Attached.serves (attached : engine.Attached) (key : DialogKey) (dialog : Dialog)
    (listed : engine.source.get? key = some dialog) : engine.Serves key dialog := by
  cases fatal : fatalDefect? dialog with
  | some reason =>
      have refused := attached.endDialog.load_unusable key dialog listed reason fatal
      have idle : engine.start key = (false, engine.endDialog) := by
        rw [Engine.start, refused]
      refine ⟨?_, ?_, ?_, ?_⟩
      · rw [attached.load_unusable key dialog listed reason fatal, fatal]
      · rw [idle, fatal]
        rfl
      · simp [fatal]
      · exact fun _ => congrArg (·.2.active) idle
  | none =>
      obtain ⟨next, loaded⟩ := attached.load_ok key dialog listed fatal
      obtain ⟨started, node, found, active⟩ := attached.start_true key dialog listed fatal
      -- The dialog that is entered is in the cache, so it is the source's, which is the listed one.
      have after := attached.start key
      obtain ⟨entered, here, cached, standing, _, current⟩ := after.currentNode _ active
      have source : (engine.start key).2.source = engine.source := move_source engine (.start key)
      have same := (after.cached key entered cached).1
      rw [source, listed, Option.some.injEq] at same
      subst same
      rw [found, Option.some.injEq] at standing
      subst standing
      refine ⟨?_, ?_, fun _ => ⟨cached, node, found, active, current⟩, ?_⟩
      · rw [loaded, fatal]
      · rw [started, fatal]
        rfl
      · exact fun unusable => absurd fatal unusable

theorem Attached.operateAll (attached : engine.Attached) (operations : List Operation) :
    (engine.operateAll operations).Attached := by
  induction operations generalizing engine with
  | nil => exact attached
  | cons operation rest ih => exact ih (attached.operate operation)

theorem operateAll_source (engine : Engine DialogTable) (operations : List Operation)
    (key : DialogKey) (others : ∀ operation ∈ operations, operation.inserts? ≠ some key) :
    (engine.operateAll operations).source.get? key = engine.source.get? key := by
  induction operations generalizing engine with
  | nil => rfl
  | cons operation rest ih =>
      obtain ⟨other, later⟩ := List.forall_mem_cons.mp others
      exact (ih (engine.operate operation) later).trans (operate_source engine operation key other)

/-- Whatever is done to an engine over a table, its cache and its position stay coherent with the
table, and a dialog that is put in is served from then on, until another one takes its place. -/
theorem operations_coherent (source : DialogTable) (quests : List Quest) (state : GameState)
    (operations : List Operation) :
    ((Engine.new source quests state).operateAll operations).Coherent ∧
      ∀ front key dialog back, operations = front ++ .call (.insert key dialog) :: back →
        (∀ later ∈ back, later.inserts? ≠ some key) →
          ((Engine.new source quests state).operateAll operations).Serves key dialog := by
  have attached := (attached_new source quests state).operateAll operations
  refine ⟨attached.coherent, ?_⟩
  rintro front key dialog back rfl others
  apply attached.serves
  rw [operateAll, List.foldl_append]
  refine (operateAll_source _ back key others).trans ?_
  simp [operate, call, insertDialog, DialogTable.get?_insert]

def ferry (said : String) : Dialog where
  quest := none
  start := "shore"
  nodes := .ofList [
    ("shore", Node.mk "Ferryman" said [⟨"Go on board.", "deck", [], [], none⟩] false),
    ("deck", Node.mk "Ferryman" "Off we go." [] true)]

/-- The ferry's dialog is replaced while it is played, and another game is restored. -/
theorem replaced_ferry_served : ∃ operations : List Operation,
    operations = [
      .call (.insert (.location "ferry") (ferry "Wait.")),
      .call (.start (.location "ferry")),
      .call (.insert (.location "ferry") (ferry "Come.")),
      .restore .initial] ∧
    ((Engine.new .empty [] .initial).operateAll operations).Serves (.location "ferry")
      (ferry "Come.") ∧ fatalDefect? (ferry "Come.") = none := by
  refine ⟨_, rfl, ?_, by decide +kernel⟩
  refine (operations_coherent .empty [] .initial _).2
    [.call (.insert (.location "ferry") (ferry "Wait.")), .call (.start (.location "ferry"))]
    (.location "ferry") (ferry "Come.") [.restore .initial] rfl ?_
  simp [Operation.inserts?]

end QuestWeb.Engine
