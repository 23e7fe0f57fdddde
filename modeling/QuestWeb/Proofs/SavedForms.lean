import QuestWeb.Proofs.UpperCase
import QuestWeb.Proofs.WireForms
import QuestWeb.State.Wire

/-!
Saved games, and quests whose domain has its normal form. Nothing that is written is lost when it
is read back.
-/

namespace QuestWeb

theorem Decoder.carries_orNull {α : Type} {d : Decoder α} {write : α → Json} (value : Option α)
    (each : ∀ a, d.Carries (write a) a) (refuses : ∀ a, d.read .null ≠ .ok a) :
    d.optional.Carries (GameState.orNull (value.map write)) value := by
  cases value with
  | none => exact .of_free rfl rfl
  | some a => exact (each a).optional refuses

theorem QuestNum.read_null (num : QuestNum) : QuestNum.decoder.read .null ≠ .ok num := by
  simp [decoder, Decoder.map, Decoder.uint32, Decoder.whole, Decoder.mismatch]

theorem QuestSet.carries (quests : QuestSet) : QuestSet.decoder.Carries quests.json quests := by
  have listed := Decoder.carries_items quests.toList fun num _ => num.carries
  have whole : Std.ExtTreeSet.ofList quests.toList = quests := by
    apply Std.ExtTreeSet.ext_contains
    intro num
    rw [Std.ExtTreeSet.contains_ofList, Std.ExtTreeSet.contains_toList]
  have set := listed.map (Std.ExtTreeSet.ofList ·)
  rwa [whole] at set

theorem GameState.json_spread (state : GameState) : state.json = .obj (Json.spread [
    ("scores", some (.obj (state.scores.toList.map fun entry =>
      (entry.1, .num (.int entry.2.toInt))))),
    ("strings", some (.obj (state.strings.toList.map fun entry => (entry.1, .str entry.2)))),
    ("inventory", some (Json.strings state.inventory)),
    ("active_quest", some (orNull (state.activeQuest.map QuestNum.json))),
    ("started_quests", some state.started.json),
    ("completed_quests", some state.completed.json),
    ("current_map", some (orNull (state.currentMap.map .str))),
    ("current_scene", some (orNull (state.currentScene.map .str))),
    ("boss_seal_threshold", some (.num (.int state.bossSealThreshold.toNat)))]) := by
  simp [json, Json.spread, Json.optionalMember]

theorem GameState.carries (state : GameState) : decoder.Carries state.json state := by
  have scores := Decoder.carries_dictionary .int64 state.scores
    (fun value => .num (.int value.toInt))
    fun _ value _ => Decoder.carries_int64 value
  have strings := Decoder.carries_dictionary .string state.strings .str
    fun _ text _ => Decoder.carries_string text
  have active := Decoder.carries_orNull state.activeQuest QuestNum.carries QuestNum.read_null
  have place (name : Option String) :=
    Decoder.carries_orNull name Decoder.carries_string Decoder.string_null
  rw [json_spread]
  refine Decoder.carries_record _ _ _ _ _ ?readable
    (((((((((Fields.Carries.map GameState.mk ?scores).seq ?strings).seq ?inventory).seq ?active).seq
      ?started).seq ?completed).seq ?map).seq ?scene).seq ?threshold)
  case readable =>
    simp only [List.forall_mem_cons, Option.some.injEq, forall_eq', List.not_mem_nil,
      false_implies, implies_true, and_true]
    exact ⟨scores.readable, strings.readable, (Decoder.carries_strings _).readable,
      active.readable, (QuestSet.carries _).readable, (QuestSet.carries _).readable,
      (place _).readable, (place _).readable, rfl⟩
  case scores => exact Fields.carries_withDefault (by simp) "scores" _ _ _ _ (by simp) scores
  case strings => exact Fields.carries_withDefault (by simp) "strings" _ _ _ _ (by simp) strings
  case inventory =>
    exact Fields.carries_withDefault (by simp) "inventory" _ _ _ _ (by simp)
      (Decoder.carries_strings _)
  case active => exact Fields.carries_withDefault (by simp) "active_quest" _ _ _ _ (by simp) active
  case started =>
    exact Fields.carries_withDefault (by simp) "started_quests" _ _ _ _ (by simp)
      (QuestSet.carries _)
  case completed =>
    exact Fields.carries_withDefault (by simp) "completed_quests" _ _ _ _ (by simp)
      (QuestSet.carries _)
  case map =>
    exact Fields.carries_withDefault (by simp) "current_map" _ _ _ _ (by simp) (place _)
  case scene =>
    exact Fields.carries_withDefault (by simp) "current_scene" _ _ _ _ (by simp) (place _)
  case threshold =>
    exact Fields.carries_withDefault (by simp) "boss_seal_threshold" _ _ _ _ (by simp)
      (Decoder.carries_uint64 _)

/-- A quest whose domain was found by name is read back as it was. -/
theorem Quest.reread_eq (quest : Quest) (name : String) (domain : quest.domain = .ofName name) :
    quest.reread = quest := by
  have same : AuthorityDomain.ofName quest.domain.key = quest.domain := by
    rw [domain, AuthorityDomain.ofName_ofName_key]
  rw [reread, same]

/-- Any other domain comes back changed. -/
example : AuthorityDomain.ofName (AuthorityDomain.narrative "ink").key = .narrative "INK" := by
  decide +kernel

/-- Whatever is written is read back as it was, from the tree itself and from its canonical form.
Only the domain of a quest has to be one that can be found by name. -/
theorem written_read_back :
    (∀ effect : Effect, Effect.decoder.Carries effect.json effect) ∧
      (∀ condition : Condition, Condition.decoder.Carries condition.json condition) ∧
      (∀ choice : Choice, Choice.decoder.Carries choice.json choice) ∧
      (∀ node : Node, Node.decoder.Carries node.json node) ∧
      (∀ dialog : Dialog, Dialog.decoder.Carries dialog.json dialog) ∧
      (∀ state : GameState, GameState.decoder.Carries state.json state) ∧
      ∀ (quest : Quest) (name : String), quest.domain = .ofName name →
        Quest.decoder.Carries quest.json quest := by
  refine ⟨Effect.carries, Condition.carries, Choice.carries, Node.carries, Dialog.carries,
    GameState.carries, ?_⟩
  intro quest name domain
  have carried := quest.carries
  rwa [quest.reread_eq name domain] at carried

def inkQuest : Quest where
  id := "quest.ink.arc.01"
  num := ⟨4⟩
  name := "The Well"
  region := "vale"
  location := none
  domain := .ofName " ink "
  dependencies := [⟨2⟩]
  availability := [.all [.flag "CLAUSE_SET" .ne (.text "")]]
  outcomes := [.incFlag "CENSURE" (-1)]
  isTerminal := false
  tags := []
  objectives := ["Listen."]
  rewards := []
  notes := none

theorem inkQuest_read_back :
    inkQuest.domain = .narrative "INK" ∧ Quest.decoder.Carries inkQuest.json inkQuest := by
  refine ⟨by decide +kernel, ?_⟩
  exact written_read_back.2.2.2.2.2.2 inkQuest " ink " rfl

end QuestWeb
