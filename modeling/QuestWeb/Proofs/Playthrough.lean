import QuestWeb.Proofs.Scenes
import QuestWeb.Proofs.Standing

/-!
The dialogs of a web, played from any state of the game. Whatever is picked, the end is reached
after at most three choices, and on the way the quest is started once and then completed once.
-/

namespace QuestWeb

def Effect.namesQuest (effect : Effect) : Bool :=
  effect.quest?.isSome

def Effect.turn (active : Option QuestNum) : Effect → Option QuestNum
  | .startQuest quest => some quest
  | .completeQuest quest => if active = some quest then none else active
  | _ => active

namespace GameState

theorem activeQuest_apply (state : GameState) (effect : Effect) :
    (state.apply effect).activeQuest = effect.turn state.activeQuest := by
  cases effect with
  | setFlag name value => cases value <;> rfl
  | setClause clause =>
      simp only [apply]
      split <;> rfl
  | _ => rfl

theorem activeQuest_applyAll (state : GameState) (effects : List Effect) :
    (state.applyAll effects).activeQuest = effects.foldl Effect.turn state.activeQuest := by
  induction effects generalizing state with
  | nil => rfl
  | cons effect rest ih =>
      rw [List.foldl_cons, ← activeQuest_apply]
      exact ih (state.apply effect)

end GameState

/-- An effect that names no quest leaves the active one. -/
theorem Effect.foldl_turn_filter (effects : List Effect) (active : Option QuestNum) :
    (effects.filter namesQuest).foldl turn active = effects.foldl turn active := by
  rw [List.foldl_filter]
  congr 1
  funext active effect
  cases effect <;> rfl

namespace Engine

inductive Picks : Nat → Engine DialogTable → List Applied → Engine DialogTable → Prop where
  | none (engine : Engine DialogTable) : Picks 0 engine [] engine
  | more (count : Nat) (engine middle : Engine DialogTable) (applied : List Applied) (index : Nat)
      (choice : Choice) (before : Picks count engine applied middle)
      (offered : (index, choice) ∈ middle.offeredChoices) :
      Picks (count + 1) engine (applied ++ middle.history index) (middle.choose index).2

def questEffects (applied : List Applied) : List Effect :=
  (applied.map (·.effect)).filter Effect.namesQuest

theorem questEffects_append (front back : List Applied) :
    questEffects (front ++ back) = questEffects front ++ questEffects back := by
  simp [questEffects]

theorem activeQuest_replay (state : GameState) (applied : List Applied) :
    (replay state applied).activeQuest =
      (questEffects applied).foldl Effect.turn state.activeQuest := by
  rw [replay, GameState.activeQuest_applyAll, questEffects, Effect.foldl_turn_filter]

end Engine

namespace Web

open Engine

variable {catalog : Catalog} {web : Web}

def questTale (num : QuestNum) (id : String) : List Effect :=
  if id = "start" then []
  else if id = "end" then [.startQuest num, .completeQuest num]
  else [.startQuest num]

theorem DialogPlan.Scene.tale {plan : DialogPlan} {id : String} {c : Choice}
    (scene : DialogPlan.Scene plan id c) :
    questTale plan.num c.next = questTale plan.num id ++ c.effects.filter Effect.namesQuest := by
  cases scene with
  | close text extra told ends => rcases ends with rfl | rfl <;> rfl
  | _ => rfl

theorem Made.questEffects_log (made : Made catalog web) (state : GameState)
    (effects : List Effect) :
    questEffects (log web.quests state effects) = effects.filter Effect.namesQuest := by
  apply filter_log
  intro quest listed effect outcome
  simp [Effect.namesQuest, made.outcome_names_none quest listed effect outcome]

structure Reached (catalog : Catalog) (web : Web) (role : Role) (state : GameState) (count : Nat)
    (applied : List Applied) (id : String) (last : Engine DialogTable) : Prop where
  stands : OnNode catalog web role id last
  replayed : last.state = replay state applied
  left : count + DialogPlan.rank id ≤ 3
  told : questEffects applied = questTale (catalog.layout.num role) id

theorem Reached.choose {role : Role} {state : GameState} {count : Nat} {applied : List Applied}
    {id : String} {engine : Engine DialogTable}
    (reached : Reached catalog web role state count applied id engine) (made : Made catalog web)
    (index : Nat) (choice : Choice) (offered : (index, choice) ∈ engine.offeredChoices) :
    Reached catalog web role state (count + 1) (applied ++ engine.history index) choice.next
      (engine.choose index).2 := by
  obtain ⟨⟨step, next, chosen⟩, scene, further, history⟩ :=
    reached.stands.choose made index choice offered
  have nearer := scene.rank_lt
  have left := reached.left
  constructor
  case stands => exact further
  case replayed =>
    rw [replay_append, ← reached.replayed, chosen]
    exact choose_state engine next index step chosen
  case left => omega
  case told =>
    rw [questEffects_append, reached.told, history, made.questEffects_log]
    exact scene.tale.symm

theorem Reached.picks {role : Role} {engine last : Engine DialogTable} {count : Nat}
    {applied : List Applied} (made : Made catalog web)
    (start : OnNode catalog web role "start" engine) (played : Picks count engine applied last) :
    ∃ id, Reached catalog web role engine.state count applied id last := by
  induction played with
  | none engine => exact ⟨"start", start, rfl, by decide, rfl⟩
  | more count engine middle applied index choice before offered ih =>
      obtain ⟨id, reached⟩ := ih start
      exact ⟨choice.next, reached.choose made index choice offered⟩

structure Playthrough (num : QuestNum) (state : GameState) (count : Nat) (applied : List Applied)
    (last : Engine DialogTable) : Prop where
  bounded : count ≤ 3
  replayed : last.state = replay state applied
  node : ∃ node, last.currentNode? = some node ∧ last.isFinished = node.terminal
  goes_on : last.isFinished = false → last.offeredChoices ≠ []
  succeeds : ∀ index choice, (index, choice) ∈ last.offeredChoices →
    ∃ step next, last.choose index = (.ok step, next)
  completed : last.isFinished = true → last.state.isCompleted num = true
  inactive : last.isFinished = true → last.state.activeQuest = none
  once : last.isFinished = true →
    questEffects applied = [.startQuest num, .completeQuest num]

theorem Reached.playthrough {role : Role} {state : GameState} {count : Nat}
    {applied : List Applied} {id : String} {last : Engine DialogTable}
    (reached : Reached catalog web role state count applied id last) (made : Made catalog web) :
    Playthrough (catalog.layout.num role) state count applied last := by
  have ended : last.isFinished = true ↔ id = "end" := reached.stands.isFinished made
  have told (finished : last.isFinished = true) : questEffects applied =
      [.startQuest (catalog.layout.num role), .completeQuest (catalog.layout.num role)] := by
    rw [reached.told, ended.mp finished]
    rfl
  constructor
  case bounded => exact Nat.le_trans (Nat.le_add_right _ _) reached.left
  case replayed => exact reached.replayed
  case node => exact reached.stands.currentNode
  case goes_on =>
    intro playing
    apply reached.stands.offered made
    rw [ne_eq, ← ended, playing]
    simp
  case succeeds =>
    intro index choice offered
    exact (reached.stands.choose made index choice offered).1
  case completed =>
    intro finished
    have listed : Effect.completeQuest (catalog.layout.num role) ∈ questEffects applied := by
      simp [told finished]
    obtain ⟨entry, member, same⟩ := List.mem_map.mp (List.mem_filter.mp listed).1
    rw [reached.replayed, isCompleted_replay, Bool.or_eq_true, List.any_eq_true]
    exact .inr ⟨entry, member, by simp [same, Effect.completes]⟩
  case inactive =>
    intro finished
    rw [reached.replayed, activeQuest_replay, told finished]
    simp [Effect.turn]
  case once => exact told

/-- The dialog of every quest of a web can be played in every state of the game, and ends whatever
is picked. -/
theorem every_dialog_ends (catalog : Catalog) (web : Web) (generated : generate catalog = .ok web)
    (state : GameState) (quest : Quest) (listed : quest ∈ web.quests) :
    ((web.engine state).start (.quest quest.num)).1 = true ∧
      ((web.engine state).start (.quest quest.num)).2.EndsWithin 3 ∧
        ∀ count applied last,
          Picks count ((web.engine state).start (.quest quest.num)).2 applied last →
            Playthrough quest.num state count applied last := by
  have made := generate_made catalog web generated (generate_ok catalog web generated).2.1
  obtain ⟨role, has, recorded⟩ := made.recorded quest listed
  obtain ⟨started, stands⟩ :=
    OnNode.enter (attached_new web.dialogTable web.quests state) rfl rfl made role has
  rw [recorded.num]
  refine ⟨started, stands.endsWithin made 3 (by decide), ?_⟩
  intro count applied last played
  obtain ⟨id, reached⟩ := Reached.picks made stands played
  rw [start_state] at reached
  exact reached.playthrough made

def numberedClause : GameState :=
  (GameState.initial.apply (.setFlag FlagName.clause (.int 7))).apply
    (.completeQuest (triad.layout.num (.invitation 1)))

theorem invitation_ends_triad : ∃ web quest, generate triad = .ok web ∧ quest ∈ web.quests ∧
    quest.num = triad.layout.num (.invitation 1) ∧
      ((web.engine numberedClause).start (.quest quest.num)).2.EndsWithin 3 ∧
        ∃ last, PlaysOut ((web.engine numberedClause).start (.quest quest.num)).2 last := by
  obtain ⟨web, generated⟩ := generate_triad
  have fits : triad.layout.total < UInt32.size := by decide
  have has : triad.layout.Has (.invitation 1) := by
    unfold WebLayout.Has
    decide
  obtain ⟨quest, listed, recorded⟩ := (generate_made triad web generated fits).record _ has
  obtain ⟨_, ends, _⟩ := every_dialog_ends triad web generated numberedClause quest listed
  exact ⟨web, quest, generated, listed, recorded.num, ends, ends.playsOut⟩

end Web

end QuestWeb
