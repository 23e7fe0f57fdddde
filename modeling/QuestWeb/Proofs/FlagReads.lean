import QuestWeb.Proofs.Flags
import QuestWeb.State.Condition

/-!
What conditions read and effects change. A condition sees nothing of a state but the flags that it
names, so an effect that writes another flag can not change what it says. What is not a flag is
changed by the effects made for it: quests by the effects that name one, the place of the player by
a teleport.
-/

namespace QuestWeb

inductive Condition.Reads : Condition → String → Prop where
  | flag (name : String) (op : CompareOp) (value : FlagValue) : Reads (.flag name op value) name
  | countTrue (names : List String) (op : CompareOp) (value : Int64) (name : String)
      (listed : name ∈ names) : Reads (.countTrue names op value) name
  | all (conditions : List Condition) (condition : Condition) (name : String)
      (listed : condition ∈ conditions) (inside : Reads condition name) :
      Reads (.all conditions) name

namespace Condition

variable (name : String)

@[simp]
theorem reads_flag (own : String) (op : CompareOp) (value : FlagValue) :
    (Condition.flag own op value).Reads name ↔ name = own := by
  constructor
  · rintro ⟨⟩
    rfl
  · rintro rfl
    exact .flag name op value

@[simp]
theorem reads_countTrue (names : List String) (op : CompareOp) (value : Int64) :
    (Condition.countTrue names op value).Reads name ↔ name ∈ names := by
  constructor
  · rintro ⟨⟩
    assumption
  · exact .countTrue names op value name

@[simp]
theorem reads_all (conditions : List Condition) :
    (Condition.all conditions).Reads name ↔ ∃ condition ∈ conditions, condition.Reads name := by
  constructor
  · rintro ⟨⟩
    exact ⟨_, ‹_›, ‹_›⟩
  · rintro ⟨condition, listed, inside⟩
    exact .all conditions condition name listed inside

end Condition

namespace GameState

section Agreement

variable (first second : GameState)

theorem isTrue_congr (name : String) (agree : first.flag? name = second.flag? name) :
    first.isTrue name = second.isTrue name := by
  rw [isTrue, isTrue, agree]

theorem countTrue_congr (names : List String)
    (agree : ∀ name ∈ names, first.flag? name = second.flag? name) :
    first.countTrue names = second.countTrue names := by
  unfold countTrue
  congr 1
  exact List.filter_congr fun name listed => isTrue_congr first second name (agree name listed)

theorem compareFlag_congr (name : String) (op : CompareOp) (value : FlagValue)
    (agree : first.flag? name = second.flag? name) :
    first.compareFlag name op value = second.compareFlag name op value := by
  cases value <;> simp only [compareFlag, compareText, compareNumber, flagText, agree]

mutual

/-- States that agree on the flags of a condition give it the same value. -/
theorem holds_congr : (condition : Condition) →
    (∀ name, condition.Reads name → first.flag? name = second.flag? name) →
      first.holds condition = second.holds condition
  | .flag name op value, agree => by
      rw [holds, holds]
      exact compareFlag_congr first second name op value (agree name (.flag name op value))
  | .countTrue names op value, agree => by
      rw [holds, holds, countTrue_congr first second names fun name listed =>
        agree name (.countTrue names op value name listed)]
  | .all conditions, agree => by
      rw [holds, holds]
      exact holdsAll_congr conditions fun condition listed name inside =>
        agree name (.all conditions condition name listed inside)

theorem holdsAll_congr : (conditions : List Condition) →
    (∀ condition ∈ conditions, ∀ name, condition.Reads name →
      first.flag? name = second.flag? name) →
      first.holdsAll conditions = second.holdsAll conditions
  | [], _ => rfl
  | condition :: rest, agree => by
      obtain ⟨here, others⟩ := List.forall_mem_cons.mp agree
      rw [holdsAll, holdsAll, holds_congr condition here, holdsAll_congr rest others]

end

end Agreement

section Frame

variable (state : GameState) (effect : Effect)

theorem flag?_frame (name : String) (apart : effect.flag? ≠ some name) :
    (state.apply effect).flag? name = state.flag? name := by
  rw [flag?, flag?, strings_frame state name effect apart, scores_frame state name effect apart]

theorem apply_inventory : (state.apply effect).inventory = state.inventory := by
  cases effect with
  | setFlag name value => cases value <;> rfl
  | setClause clause =>
      simp only [apply]
      split <;> rfl
  | _ => rfl

theorem apply_quests (none : effect.quest? = none) :
    (state.apply effect).started = state.started ∧
      (state.apply effect).completed = state.completed ∧
      (state.apply effect).activeQuest = state.activeQuest := by
  cases effect with
  | startQuest | completeQuest => simp [Effect.quest?] at none
  | setFlag name value => cases value <;> exact ⟨rfl, rfl, rfl⟩
  | setClause clause =>
      simp only [apply]
      split <;> exact ⟨rfl, rfl, rfl⟩
  | _ => exact ⟨rfl, rfl, rfl⟩

theorem apply_place (stays : ∀ target, effect ≠ .teleport target) :
    (state.apply effect).currentMap = state.currentMap ∧
      (state.apply effect).currentScene = state.currentScene := by
  cases effect with
  | teleport target => exact absurd rfl (stays target)
  | setFlag name value => cases value <;> exact ⟨rfl, rfl⟩
  | setClause clause =>
      simp only [apply]
      split <;> exact ⟨rfl, rfl⟩
  | _ => exact ⟨rfl, rfl⟩

end Frame

/-- An effect keeps the value of every condition in which the flag that it writes does not occur. It
keeps the inventory and the threshold of the boss always, the quests unless it names a quest, and
the place of the player unless it is a teleport. What is more, states that agree on the flags of a
condition give it the same value, whatever else they differ in. -/
theorem effects_framed (state : GameState) (effect : Effect) :
    (∀ condition : Condition, (∀ name, effect.flag? = some name → ¬ condition.Reads name) →
      (state.apply effect).holds condition = state.holds condition) ∧
    (state.apply effect).inventory = state.inventory ∧
    (state.apply effect).bossSealThreshold = state.bossSealThreshold ∧
    (effect.quest? = none → (state.apply effect).started = state.started ∧
      (state.apply effect).completed = state.completed ∧
      (state.apply effect).activeQuest = state.activeQuest) ∧
    ((∀ target, effect ≠ .teleport target) →
      (state.apply effect).currentMap = state.currentMap ∧
      (state.apply effect).currentScene = state.currentScene) ∧
    ∀ (other : GameState) (condition : Condition),
      (∀ name, condition.Reads name → state.flag? name = other.flag? name) →
        state.holds condition = other.holds condition := by
  refine ⟨fun condition unread => ?_, apply_inventory state effect, apply_threshold state effect,
    apply_quests state effect, apply_place state effect, holds_congr state⟩
  refine holds_congr _ _ condition fun name read => flag?_frame state effect name ?_
  exact fun writes => unread name writes read

def oathGate : Condition :=
  .all [.all [.countTrue ["SEAL_INK", "SEAL_BLOOD"] .ge 2], .flag "CLAUSE_SET" .ne (.text "")]

/-- The seal of another domain leaves the gate shut, and so does all that the states differ in. -/
theorem effects_framed_oathGate :
    (∀ name, (Effect.grantSeal "debt").flag? = some name → ¬ oathGate.Reads name) ∧
    (initial.apply (.grantSeal "debt")).holds oathGate = initial.holds oathGate ∧
    (∀ name, oathGate.Reads name →
      initial.flag? name = (initial.start ⟨4⟩).flag? name) ∧
    initial.holds oathGate = (initial.start ⟨4⟩).holds oathGate ∧
    (initial.apply (.grantSeal "debt")).started = initial.started ∧
    (initial.apply (.grantSeal "debt")).currentMap = initial.currentMap := by
  have writes : (Effect.grantSeal "debt").flag? = some "SEAL_DEBT" := by decide +kernel
  have unread (name : String) (written : (Effect.grantSeal "debt").flag? = some name) :
      ¬ oathGate.Reads name := by
    rw [writes, Option.some.injEq] at written
    subst written
    simp [oathGate]
  have agree (name : String) (_ : oathGate.Reads name) :
      initial.flag? name = (initial.start ⟨4⟩).flag? name := rfl
  obtain ⟨gates, _, _, quests, places, alike⟩ := effects_framed initial (.grantSeal "debt")
  exact ⟨unread, gates oathGate unread, agree, alike _ oathGate agree, (quests rfl).1,
    (places fun _ => nofun).1⟩

end GameState

end QuestWeb
