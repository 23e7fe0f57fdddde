import QuestWeb.Proofs.DialogShape
import QuestWeb.Proofs.Outcomes

/-!
Runs of the engine: dialogs are started and choices are taken in any order. Whatever the player
does, the engine stands on a node of a dialog that it fetched from its source.
-/

namespace QuestWeb

namespace DialogTable

theorem get?_insert (table : DialogTable) (key other : DialogKey) (dialog : Dialog) :
    (table.insert key dialog).get? other =
      if key = other then some dialog else table.get? other := by
  cases key with
  | quest num =>
      cases other with
      | quest other => simp [insert, get?, Std.ExtTreeMap.getElem?_insert]
      | location other => simp [insert, get?]
  | location name =>
      cases other with
      | quest other => simp [insert, get?]
      | location other => simp [insert, get?, Std.ExtTreeMap.getElem?_insert]

theorem get?_erase (table : DialogTable) (key other : DialogKey) :
    (table.erase key).get? other = if key = other then none else table.get? other := by
  cases key with
  | quest num =>
      cases other with
      | quest other => simp [erase, get?, Std.ExtTreeMap.getElem?_erase]
      | location other => simp [erase, get?]
  | location name =>
      cases other with
      | quest other => simp [erase, get?]
      | location other => simp [erase, get?, Std.ExtTreeMap.getElem?_erase]

theorem get?_empty (key : DialogKey) : empty.get? key = none := by
  cases key <;> simp [empty, get?]

def ofEntries (entries : List (DialogKey × Dialog)) : DialogTable :=
  entries.foldl (fun table (key, dialog) => table.insert key dialog) empty

theorem get?_foldl (entries : List (DialogKey × Dialog)) (table : DialogTable) (key : DialogKey) :
    (entries.foldl (fun table (key, dialog) => table.insert key dialog) table).get? key =
      ((entries.findRev? (·.1 == key)).map (·.2)).or (table.get? key) := by
  induction entries generalizing table with
  | nil => rfl
  | cons entry rest ih =>
      -- A later entry under the same key hides this one.
      rw [List.foldl_cons, ih, get?_insert, List.findRev?]
      cases rest.findRev? (·.1 == key) with
      | some found => rfl
      | none => by_cases same : entry.1 = key <;> simp [same]

theorem mem_of_get? (entries : List (DialogKey × Dialog)) (key : DialogKey) (dialog : Dialog)
    (found : (ofEntries entries).get? key = some dialog) : (key, dialog) ∈ entries := by
  rw [ofEntries, get?_foldl, get?_empty, Option.or_none, Option.map_eq_some_iff] at found
  obtain ⟨⟨other, _⟩, last, rfl⟩ := found
  have same : other = key := by
    rw [List.findRev?_eq_find?_reverse] at last
    simpa using List.find?_some last
  subst same
  rw [List.findRev?_eq_find?_reverse] at last
  simpa using List.mem_of_find?_eq_some last

theorem get?_of_mem (entries : List (DialogKey × Dialog)) (key : DialogKey)
    (listed : key ∈ entries.map (·.1)) : ∃ dialog, (ofEntries entries).get? key = some dialog := by
  rw [ofEntries, get?_foldl, get?_empty, Option.or_none, ← Option.isSome_iff_exists,
    Option.isSome_map, List.findRev?_eq_find?_reverse, List.find?_isSome]
  obtain ⟨entry, member, same⟩ := List.mem_map.mp listed
  exact ⟨entry, by simpa using member, by simpa using same⟩

theorem ofQuestDialogs_eq (dialogs : List (QuestNum × Dialog)) :
    ofQuestDialogs dialogs = ofEntries (dialogs.map fun (num, dialog) => (.quest num, dialog)) := by
  simp [ofQuestDialogs, ofEntries, List.foldl_map]

end DialogTable

theorem mem_availableQuests (quests : List Quest) (state : GameState) (quest : Quest) :
    quest ∈ availableQuests quests state ↔ quest ∈ quests ∧ quest.isAvailable state = true := by
  rw [availableQuests, List.mem_mergeSort, List.mem_filter]

namespace Engine

inductive Move where
  | start (key : DialogKey)
  | choose (index : Nat)
  deriving DecidableEq, Repr

variable {σ : Type}

def move [DialogSource σ] (engine : Engine σ) : Move → Engine σ
  | .start key => (engine.start key).2
  | .choose index => (engine.choose index).2

def run [DialogSource σ] (engine : Engine σ) (moves : List Move) : Engine σ :=
  moves.foldl move engine

structure Resolves (engine : Engine σ) (index : Nat) (position : Position) (choice : Choice)
    (target : Node) : Prop where
  active : engine.active = some position
  playing : position.finished = false
  reaches : ∃ dialog node, engine.cache.get? position.key = some dialog ∧
    dialog.node? position.node = some node ∧ node.choices[index]? = some choice ∧
    dialog.node? choice.next = some target
  offered : Choice.isOffered choice engine.state = true

theorem resolve_ok (engine : Engine σ) (index : Nat) (position : Position) (choice : Choice)
    (target : Node) :
    engine.resolve index = .ok (position, choice, target) ↔
      engine.Resolves index position choice target := by
  constructor
  · intro resolved
    unfold resolve at resolved
    split at resolved
    · simp at resolved
    · rename_i active
      split at resolved
      · simp at resolved
      · rename_i playing
        split at resolved
        · simp at resolved
        · rename_i cached
          split at resolved
          · simp at resolved
          · rename_i standing
            split at resolved
            · simp at resolved
            · rename_i picked
              split at resolved
              · simp at resolved
              · rename_i led
                simp only [Except.ok.injEq, Prod.mk.injEq] at resolved
                obtain ⟨rfl, rfl, rfl⟩ := resolved
                obtain ⟨listed, offered⟩ := Option.filter_eq_some_iff.mp picked
                exact ⟨active, by simpa using playing, ⟨_, _, cached, standing, listed, led⟩,
                  offered⟩
  · rintro ⟨active, playing, ⟨dialog, node, cached, standing, listed, led⟩, offered⟩
    have picked : Option.filter (Choice.isOffered · engine.state) (some choice) = some choice := by
      simp [Option.filter, offered]
    simp [resolve, active, playing, cached, standing, listed, picked, led]

theorem mem_offeredChoices (engine : Engine σ) (index : Nat) (choice : Choice) :
    (index, choice) ∈ engine.offeredChoices ↔
      ∃ position dialog node, engine.active = some position ∧ position.finished = false ∧
        engine.cache.get? position.key = some dialog ∧ dialog.node? position.node = some node ∧
        node.choices[index]? = some choice ∧ Choice.isOffered choice engine.state = true := by
  unfold offeredChoices isFinished currentNode?
  cases active : engine.active with
  | none => simp
  | some position =>
      by_cases finished : position.finished = true
      · simp [finished]
      · simp only [Option.any_some, finished, Bool.false_eq_true, ↓reduceIte]
        cases cached : engine.cache.get? position.key with
        | none => simp [cached]
        | some dialog =>
            cases standing : dialog.node? position.node with
            | none => simp [cached, standing]
            | some node =>
                simp only [standing, Option.bind_some, List.mem_map, List.mem_filter,
                  List.mem_zipIdx_iff_getElem?, Prod.exists, Prod.mk.injEq, Option.some.injEq]
                constructor
                · rintro ⟨picked, place, ⟨listed, holds⟩, rfl, rfl⟩
                  exact ⟨position, dialog, node, rfl, by simpa using finished, cached, standing,
                    listed, holds⟩
                · rintro ⟨_, _, _, rfl, _, same, here, listed, holds⟩
                  rw [cached, Option.some.injEq] at same
                  subst same
                  rw [standing, Option.some.injEq] at here
                  subst here
                  exact ⟨choice, index, ⟨listed, holds⟩, rfl, rfl⟩

theorem Resolves.mem_offered {engine : Engine σ} {index : Nat} {position : Position}
    {choice : Choice} {target : Node} (resolves : engine.Resolves index position choice target) :
    (index, choice) ∈ engine.offeredChoices := by
  obtain ⟨dialog, node, cached, standing, listed, _⟩ := resolves.reaches
  exact (mem_offeredChoices engine index choice).mpr
    ⟨position, dialog, node, resolves.active, resolves.playing, cached, standing, listed,
      resolves.offered⟩

theorem choose_of_resolves (engine : Engine σ) (index : Nat) (position : Position)
    (choice : Choice) (target : Node) (resolves : engine.Resolves index position choice target) :
    ∃ step next, engine.choose index = (.ok step, next) := by
  have resolved := (resolve_ok engine index position choice target).mpr resolves
  unfold choose
  rw [resolved]
  exact ⟨_, _, rfl⟩

theorem choose_error (engine next : Engine σ) (index : Nat) (e : TraversalError)
    (refused : engine.choose index = (.error e, next)) : next = engine := by
  unfold choose at refused
  split at refused
  · exact (Prod.mk.inj refused).2.symm
  · simp at refused

/-- A choice is refused and changes nothing, or it leads on and changes the state and the
position. -/
theorem choose_cases (engine : Engine σ) (index : Nat) :
    (engine.choose index).2 = engine ∨ ∃ position choice target,
      engine.Resolves index position choice target ∧
        (engine.choose index).2 = { engine with
          state := replay engine.state (engine.history index)
          active := some { position with node := choice.next, finished := target.terminal } } := by
  cases chosen : engine.choose index with
  | mk answer next =>
      cases answer with
      | error e => exact .inl (choose_error engine next index e chosen)
      | ok step =>
          obtain ⟨position, choice, target, resolved, _, same⟩ :=
            choose_ok engine next index step chosen
          exact .inr ⟨position, choice, target, (resolve_ok _ _ _ _ _).mp resolved, same⟩

theorem history_nil (engine next : Engine σ) (index : Nat) (e : TraversalError)
    (refused : engine.choose index = (.error e, next)) : engine.history index = [] := by
  unfold history
  cases failed : engine.resolve index with
  | error _ => rfl
  | ok target => simp [choose, failed] at refused

theorem mem_log (quests : List Quest) (state : GameState) (effects : List Effect)
    (entry : Applied) (member : entry ∈ log quests state effects) :
    entry.effect ∈ effects ∨ ∃ quest ∈ quests, entry.effect ∈ quest.outcomes := by
  induction effects generalizing state with
  | nil => simp [log] at member
  | cons effect rest ih =>
      simp only [log, List.cons_append, List.mem_cons, List.mem_append] at member
      rcases member with rfl | follows | later
      · exact .inl List.mem_cons_self
      · obtain ⟨quest, listed, own, _, _⟩ := following_owner quests state effect entry follows
        obtain ⟨outcome, inside, rfl⟩ := List.mem_map.mp own
        exact .inr ⟨quest, listed, inside⟩
      · rcases ih _ later with chosen | outcome
        · exact .inl (List.mem_cons_of_mem _ chosen)
        · exact .inr outcome

theorem nextQuest?_listed (quests : List Quest) (state : GameState) (choice : Choice)
    (num : QuestNum) (next : nextQuest? quests state choice = some num) :
    ∃ quest ∈ quests, quest.num = num := by
  unfold nextQuest? at next
  split at next
  · simp at next
  · dsimp only at next
    split at next
    · simp at next
    · obtain ⟨quest, found, rfl⟩ := Option.map_eq_some_iff.mp next
      have available := List.mem_of_find?_eq_some found
      exact ⟨quest, ((mem_availableQuests quests state quest).mp available).1, rfl⟩

/-- What a choice applies comes from the choice itself, from the outcomes of a quest, or starts the
next quest. -/
theorem mem_history (engine : Engine σ) (index : Nat) (entry : Applied)
    (member : entry ∈ engine.history index) :
    ∃ position choice target, engine.Resolves index position choice target ∧
      (entry.effect ∈ choice.effects ∨
        (∃ quest ∈ engine.quests, entry.effect ∈ quest.outcomes) ∨
        ∃ quest ∈ engine.quests, entry.effect = .startQuest quest.num) := by
  unfold history at member
  split at member
  · simp at member
  · rename_i position choice target resolved
    refine ⟨position, choice, target,
      (resolve_ok engine index position choice target).mp resolved, ?_⟩
    rcases List.mem_append.mp member with logged | started
    · exact (mem_log _ _ _ entry logged).imp_right .inl
    · obtain ⟨num, next, rfl⟩ := List.mem_map.mp started
      obtain ⟨quest, listed, rfl⟩ := nextQuest?_listed _ _ _ num (Option.mem_toList.mp next)
      exact .inr (.inr ⟨quest, listed, rfl⟩)

theorem load_frame [DialogSource σ] (engine : Engine σ) (key : DialogKey) :
    ∃ cache, (engine.load key).2 = { engine with cache } := by
  unfold load
  repeat' split
  all_goals exact ⟨_, rfl⟩

theorem start_frame [DialogSource σ] (engine : Engine σ) (key : DialogKey) :
    ∃ cache active, (engine.start key).2 = { engine with cache, active } := by
  obtain ⟨cache, kept⟩ := load_frame engine.endDialog key
  unfold start
  split
  · rename_i loaded
    rw [loaded] at kept
    exact ⟨cache, none, kept⟩
  · rename_i loaded
    rw [loaded] at kept
    subst kept
    exact ⟨cache, _, rfl⟩

theorem choose_frame (engine : Engine σ) (index : Nat) :
    ∃ state active, (engine.choose index).2 = { engine with state, active } := by
  unfold choose
  split
  · exact ⟨_, _, rfl⟩
  · exact ⟨_, _, rfl⟩

theorem start_state [DialogSource σ] (engine : Engine σ) (key : DialogKey) :
    (engine.start key).2.state = engine.state := by
  obtain ⟨cache, active, same⟩ := start_frame engine key
  rw [same]

theorem move_frame [DialogSource σ] (engine : Engine σ) (m : Move) :
    ∃ cache state active, engine.move m = { engine with cache, state, active } := by
  cases m with
  | start key =>
      obtain ⟨cache, active, same⟩ := start_frame engine key
      exact ⟨cache, engine.state, active, same⟩
  | choose index =>
      obtain ⟨state, active, same⟩ := choose_frame engine index
      exact ⟨engine.cache, state, active, same⟩

theorem run_frame [DialogSource σ] (engine : Engine σ) (moves : List Move) :
    ∃ cache state active, engine.run moves = { engine with cache, state, active } := by
  induction moves generalizing engine with
  | nil => exact ⟨_, _, _, rfl⟩
  | cons m rest ih =>
      obtain ⟨_, _, _, first⟩ := move_frame engine m
      obtain ⟨cache, state, active, later⟩ := ih (engine.move m)
      exact ⟨cache, state, active, later.trans (by rw [first])⟩

theorem move_quests [DialogSource σ] (engine : Engine σ) (m : Move) :
    (engine.move m).quests = engine.quests := by
  obtain ⟨_, _, _, same⟩ := move_frame engine m
  rw [same]

theorem move_source [DialogSource σ] (engine : Engine σ) (m : Move) :
    (engine.move m).source = engine.source := by
  obtain ⟨_, _, _, same⟩ := move_frame engine m
  rw [same]

theorem run_quests [DialogSource σ] (engine : Engine σ) (moves : List Move) :
    (engine.run moves).quests = engine.quests := by
  obtain ⟨_, _, _, same⟩ := run_frame engine moves
  rw [same]

theorem run_source [DialogSource σ] (engine : Engine σ) (moves : List Move) :
    (engine.run moves).source = engine.source := by
  obtain ⟨_, _, _, same⟩ := run_frame engine moves
  rw [same]

/-- Every dialog that is kept can be entered, and the position is a node of one of them, finished
when that node is terminal. What the source holds does not matter. -/
structure Grounded (engine : Engine σ) : Prop where
  usable : ∀ key dialog, engine.cache.get? key = some dialog → fatalDefect? dialog = none
  standing : ∀ position, engine.active = some position → ∃ dialog node,
    engine.cache.get? position.key = some dialog ∧ dialog.node? position.node = some node ∧
      position.finished = node.terminal

theorem grounded_new (source : σ) (quests : List Quest) (state : GameState) :
    (Engine.new source quests state).Grounded where
  usable := by simp [Engine.new, DialogTable.get?_empty]
  standing := by simp [Engine.new]

namespace Grounded

variable {engine : Engine σ} (grounded : engine.Grounded)

include grounded

theorem endDialog : engine.endDialog.Grounded :=
  ⟨grounded.usable, by simp [Engine.endDialog]⟩

theorem invalidate (key : DialogKey) : (engine.invalidate key).Grounded := by
  constructor
  case usable =>
    intro other dialog present
    simp only [Engine.invalidate, DialogTable.get?_erase] at present
    split at present
    · simp at present
    · exact grounded.usable other dialog present
  case standing =>
    intro position active
    obtain ⟨playing, other⟩ := Option.filter_eq_some_iff.mp active
    obtain ⟨dialog, node, cached, standing⟩ := grounded.standing position playing
    have apart : key ≠ position.key := by
      rintro rfl
      simp at other
    exact ⟨dialog, node, by simpa [Engine.invalidate, DialogTable.get?_erase, apart] using cached,
      standing⟩

theorem keep (key : DialogKey) (dialog : Dialog) (usable : fatalDefect? dialog = none)
    (absent : engine.cache.get? key = none) :
    Grounded { engine with cache := engine.cache.insert key dialog } := by
  constructor
  case usable =>
    intro other kept present
    simp only [DialogTable.get?_insert] at present
    split at present
    · cases present
      exact usable
    · exact grounded.usable other kept present
  -- The dialog that is being played was kept before, so it is another one.
  case standing =>
    intro position active
    obtain ⟨kept, node, cached, standing⟩ := grounded.standing position active
    have apart : key ≠ position.key := by
      rintro rfl
      simp [absent] at cached
    exact ⟨kept, node, by simpa [DialogTable.get?_insert, apart] using cached, standing⟩

variable [DialogSource σ]

theorem load (key : DialogKey) : (engine.load key).2.Grounded ∧
    ∀ dialog, (engine.load key).1 = .ok dialog →
      (engine.load key).2.cache.get? key = some dialog ∧ fatalDefect? dialog = none := by
  unfold Engine.load
  cases hit : engine.cache.get? key with
  | some kept =>
      refine ⟨grounded, ?_⟩
      rintro _ ⟨⟩
      exact ⟨hit, grounded.usable key kept hit⟩
  | none =>
      cases DialogSource.fetch engine.source key with
      | error e => exact ⟨grounded, nofun⟩
      | ok found =>
          cases fatal : fatalDefect? found with
          | some reason => simpa [fatal] using grounded
          | none =>
              simp only [fatal]
              refine ⟨grounded.keep key found fatal hit, ?_⟩
              rintro _ ⟨⟩
              exact ⟨by simp [DialogTable.get?_insert], fatal⟩

theorem start (key : DialogKey) : (engine.start key).2.Grounded := by
  obtain ⟨after, cached⟩ := grounded.endDialog.load key
  unfold Engine.start
  cases loaded : engine.endDialog.load key with
  | mk answer next =>
      rw [loaded] at after cached
      cases answer with
      | error e => exact after
      | ok dialog =>
          obtain ⟨hit, usable⟩ := cached dialog rfl
          obtain ⟨node, found⟩ := (dialog.hasNode_iff dialog.start).mp
            ((dialog.fatalDefect?_eq_none).mp usable).1
          refine ⟨after.usable, ?_⟩
          rintro position ⟨⟩
          exact ⟨dialog, node, hit, found, by simp [Dialog.startNode?, found]⟩

omit [DialogSource σ] in
theorem choose (index : Nat) : (engine.choose index).2.Grounded := by
  rcases choose_cases engine index with same | ⟨position, choice, target, resolves, same⟩
  · rw [same]
    exact grounded
  · obtain ⟨dialog, _, cached, _, _, led⟩ := resolves.reaches
    rw [same]
    refine ⟨grounded.usable, ?_⟩
    rintro _ ⟨⟩
    exact ⟨dialog, target, cached, led, rfl⟩

end Grounded

/-- Every dialog in the cache is the source's and has a start, and the position is a node of a
cached dialog, finished when that node is terminal. -/
structure Attached (engine : Engine DialogTable) : Prop where
  cached : ∀ key dialog, engine.cache.get? key = some dialog →
    engine.source.get? key = some dialog ∧ fatalDefect? dialog = none
  standing : ∀ position, engine.active = some position → ∃ dialog node,
    engine.cache.get? position.key = some dialog ∧ dialog.node? position.node = some node ∧
      position.finished = node.terminal

theorem attached_new (source : DialogTable) (quests : List Quest) (state : GameState) :
    (Engine.new source quests state).Attached where
  cached := by simp [Engine.new, DialogTable.get?_empty]
  standing := by simp [Engine.new]

theorem Attached.grounded {engine : Engine DialogTable} (attached : engine.Attached) :
    engine.Grounded where
  usable key dialog present := (attached.cached key dialog present).2
  standing := attached.standing

theorem Attached.currentNode {engine : Engine DialogTable} (attached : engine.Attached)
    (position : Position) (active : engine.active = some position) : ∃ dialog node,
      engine.cache.get? position.key = some dialog ∧ dialog.node? position.node = some node ∧
        position.finished = node.terminal ∧ engine.currentNode? = some node := by
  obtain ⟨dialog, node, cached, standing, finished⟩ := attached.standing position active
  exact ⟨dialog, node, cached, standing, finished,
    by simp [currentNode?, active, cached, standing]⟩

theorem Attached.endDialog {engine : Engine DialogTable} (attached : engine.Attached) :
    engine.endDialog.Attached where
  cached := attached.cached
  standing := by simp [Engine.endDialog]

theorem Attached.invalidate {engine : Engine DialogTable} (attached : engine.Attached)
    (key : DialogKey) : (engine.invalidate key).Attached := by
  refine ⟨?_, (attached.grounded.invalidate key).standing⟩
  intro other dialog present
  simp only [Engine.invalidate, DialogTable.get?_erase] at present
  split at present
  · simp at present
  · exact attached.cached other dialog present

/-- The dialog that is replaced is forgotten first, so no other one in the cache is touched. -/
theorem Attached.insertDialog {engine : Engine DialogTable} (attached : engine.Attached)
    (key : DialogKey) (dialog : Dialog) : (engine.insertDialog key dialog).Attached := by
  have forgotten := attached.invalidate key
  refine ⟨?_, forgotten.standing⟩
  intro other kept present
  obtain ⟨listed, usable⟩ := forgotten.cached other kept present
  have apart : key ≠ other := by
    rintro rfl
    simp [Engine.insertDialog, Engine.invalidate, DialogTable.get?_erase] at present
  refine ⟨?_, usable⟩
  simpa [Engine.insertDialog, DialogTable.get?_insert, apart] using listed

theorem Attached.load {engine : Engine DialogTable} (attached : engine.Attached)
    (key : DialogKey) (dialog : Dialog) (next : Engine DialogTable)
    (loaded : engine.load key = (.ok dialog, next)) :
    next.Attached ∧ next.cache.get? key = some dialog := by
  obtain ⟨grounded, kept⟩ := attached.grounded.load key
  rw [loaded] at grounded kept
  refine ⟨⟨?_, grounded.standing⟩, (kept dialog rfl).1⟩
  unfold Engine.load at loaded
  -- What is in the cache was the source's when it came in, and the source does not change.
  cases hit : engine.cache.get? key with
  | some kept =>
      simp only [hit, Prod.mk.injEq, Except.ok.injEq] at loaded
      obtain ⟨rfl, rfl⟩ := loaded
      exact attached.cached
  | none =>
      cases fetched : engine.source.get? key with
      | none => simp [hit, DialogSource.fetch, fetched] at loaded
      | some found =>
          cases fatal : fatalDefect? found with
          | some reason => simp [hit, DialogSource.fetch, fetched, fatal] at loaded
          | none =>
              simp only [hit, DialogSource.fetch, fetched, fatal, Prod.mk.injEq,
                Except.ok.injEq] at loaded
              obtain ⟨rfl, rfl⟩ := loaded
              intro other dialog present
              rw [DialogTable.get?_insert] at present
              split at present
              · rename_i same
                subst same
                simp only [Option.some.injEq] at present
                subst present
                exact ⟨fetched, fatal⟩
              · exact attached.cached other dialog present

theorem load_error [DialogSource σ] (engine next : Engine σ) (key : DialogKey)
    (e : TraversalError) (refused : engine.load key = (.error e, next)) : next = engine := by
  unfold load at refused
  repeat' split at refused
  all_goals simp_all

/-- A dialog of the source that has a start can be loaded. -/
theorem Attached.load_ok {engine : Engine DialogTable} (attached : engine.Attached)
    (key : DialogKey) (dialog : Dialog) (listed : engine.source.get? key = some dialog)
    (usable : fatalDefect? dialog = none) : ∃ next, engine.load key = (.ok dialog, next) := by
  unfold Engine.load
  cases hit : engine.cache.get? key with
  | some kept =>
      have same := (attached.cached key kept hit).1
      rw [listed, Option.some.injEq] at same
      exact ⟨engine, by rw [same]⟩
  | none =>
      refine ⟨{ engine with cache := engine.cache.insert key dialog }, ?_⟩
      simp [DialogSource.fetch, listed, usable]

theorem Attached.start_true {engine : Engine DialogTable} (attached : engine.Attached)
    (key : DialogKey) (dialog : Dialog) (listed : engine.source.get? key = some dialog)
    (usable : fatalDefect? dialog = none) :
    (engine.start key).1 = true ∧ ∃ node, dialog.node? dialog.start = some node ∧
      (engine.start key).2.active = some ⟨key, dialog.start, node.terminal⟩ := by
  obtain ⟨next, loaded⟩ := attached.endDialog.load_ok key dialog listed usable
  obtain ⟨node, found⟩ := (dialog.hasNode_iff dialog.start).mp
    ((dialog.fatalDefect?_eq_none).mp usable).1
  unfold Engine.start
  rw [loaded]
  exact ⟨rfl, node, found, by simp [Dialog.startNode?, found]⟩

theorem Attached.start {engine : Engine DialogTable} (attached : engine.Attached)
    (key : DialogKey) : (engine.start key).2.Attached := by
  refine ⟨?_, (attached.grounded.start key).standing⟩
  unfold Engine.start
  cases loaded : engine.endDialog.load key with
  | mk answer next =>
      cases answer with
      | error e =>
          -- A dialog that can not be loaded leaves no trace but the end of the one before.
          rw [load_error engine.endDialog next key e loaded]
          exact attached.endDialog.cached
      | ok dialog => exact (attached.endDialog.load key dialog next loaded).1.cached

theorem Attached.start_missing {engine : Engine DialogTable} (attached : engine.Attached)
    (key : DialogKey) (missing : engine.source.get? key = none) :
    (engine.start key).2.active = none := by
  have uncached : engine.cache.get? key = none := by
    cases hit : engine.cache.get? key with
    | none => rfl
    | some dialog =>
        have listed := (attached.cached key dialog hit).1
        rw [missing] at listed
        simp at listed
  simp [Engine.start, Engine.load, Engine.endDialog, uncached, DialogSource.fetch, missing]

theorem Attached.choose {engine : Engine DialogTable} (attached : engine.Attached)
    (index : Nat) : (engine.choose index).2.Attached := by
  refine ⟨?_, (attached.grounded.choose index).standing⟩
  rcases choose_cases engine index with same | ⟨_, _, _, _, same⟩
  all_goals
    rw [same]
    exact attached.cached

theorem Attached.move {engine : Engine DialogTable} (attached : engine.Attached) (m : Move) :
    (engine.move m).Attached := by
  cases m with
  | start key => exact attached.start key
  | choose index => exact attached.choose index

theorem Attached.run {engine : Engine DialogTable} (attached : engine.Attached)
    (moves : List Move) : (engine.run moves).Attached := by
  induction moves generalizing engine with
  | nil => exact attached
  | cons m rest ih => exact ih (attached.move m)

/-- Where every dialog of the source can be played, every choice on offer can be taken. -/
theorem Attached.choose_offered {engine : Engine DialogTable} (attached : engine.Attached)
    (playable : ∀ key dialog, engine.source.get? key = some dialog → dialog.Playable)
    (index : Nat) (choice : Choice) (offered : (index, choice) ∈ engine.offeredChoices) :
    ∃ position target, engine.Resolves index position choice target := by
  obtain ⟨position, dialog, node, active, playing, cached, standing, listed, holds⟩ :=
    (mem_offeredChoices engine index choice).mp offered
  have leads := (playable position.key dialog (attached.cached _ _ cached).1).leads
    position.node node standing choice (List.mem_of_getElem? listed)
  obtain ⟨target, led⟩ := (dialog.hasNode_iff choice.next).mp leads
  exact ⟨position, target, active, playing, ⟨dialog, node, cached, standing, listed, led⟩, holds⟩

end Engine

end QuestWeb
