import QuestWeb.Proofs.Chapters

/-!
The engine inside a dialog of a web, whatever the state of the game is. Before the end there is
always a choice on offer, every choice on offer can be taken, and it leads nearer to the end.
-/

namespace QuestWeb

namespace Engine

/-- The dialog ends after at most so many choices, whichever are taken, and never gets stuck. -/
def EndsWithin : Nat → Engine DialogTable → Prop
  | 0, engine => engine.isFinished = true
  | limit + 1, engine => engine.isFinished = true ∨
      engine.offeredChoices ≠ [] ∧ ∀ index choice, (index, choice) ∈ engine.offeredChoices →
        (∃ step next, engine.choose index = (.ok step, next)) ∧
          EndsWithin limit (engine.choose index).2

inductive PlaysOut : Engine DialogTable → Engine DialogTable → Prop where
  | done (engine : Engine DialogTable) (finished : engine.isFinished = true) :
      PlaysOut engine engine
  | pick (engine last : Engine DialogTable) (index : Nat) (choice : Choice)
      (playing : engine.isFinished = false) (offered : (index, choice) ∈ engine.offeredChoices)
      (rest : PlaysOut (engine.choose index).2 last) : PlaysOut engine last

theorem EndsWithin.playsOut (limit : Nat) (engine : Engine DialogTable)
    (ends : engine.EndsWithin limit) : ∃ last, PlaysOut engine last := by
  induction limit generalizing engine with
  | zero => exact ⟨engine, .done engine ends⟩
  | succ limit ih =>
      cases finished : engine.isFinished with
      | true => exact ⟨engine, .done engine finished⟩
      | false =>
          rcases ends with ended | ⟨some, each⟩
          · simp [finished] at ended
          · obtain ⟨⟨index, choice⟩, offered⟩ := List.exists_mem_of_ne_nil _ some
            obtain ⟨last, rest⟩ := ih _ (each index choice offered).2
            exact ⟨last, .pick engine last index choice finished offered rest⟩

end Engine

namespace Web

variable {catalog : Catalog} {web : Web}

structure OnNode (catalog : Catalog) (web : Web) (role : Role) (id : String)
    (engine : Engine DialogTable) : Prop where
  attached : engine.Attached
  source : engine.source = web.dialogTable
  quests : engine.quests = web.quests
  has : catalog.layout.Has role
  active : ∃ finished, engine.active = some ⟨.quest (catalog.layout.num role), id, finished⟩

theorem OnNode.enter {engine : Engine DialogTable} (attached : engine.Attached)
    (source : engine.source = web.dialogTable) (quests : engine.quests = web.quests)
    (made : Made catalog web) (role : Role) (has : catalog.layout.Has role) :
    (engine.start (.quest (catalog.layout.num role))).1 = true ∧
      OnNode catalog web role "start" (engine.start (.quest (catalog.layout.num role))).2 := by
  obtain ⟨dialog, listed, scripted⟩ := made.load role has
  have playable := scripted.playable
  rw [← source] at listed
  obtain ⟨started, node, _, active⟩ := attached.start_true _ dialog listed
    ((dialog.fatalDefect?_eq_none).mpr ⟨playable.start, playable.named⟩)
  refine ⟨started, attached.start _, ?_, ?_, has, ?_⟩
  · exact (engine.move_source (.start _)).trans source
  · exact (engine.move_quests (.start _)).trans quests
  · exact ⟨node.terminal, by rw [active, scripted.start]⟩

namespace OnNode

variable {role : Role} {id : String} {engine : Engine DialogTable}
  (stands : OnNode catalog web role id engine) (made : Made catalog web)

include stands

theorem currentNode : ∃ node, engine.currentNode? = some node ∧
    engine.isFinished = node.terminal := by
  obtain ⟨finished, active⟩ := stands.active
  obtain ⟨_, node, _, _, terminal, current⟩ := stands.attached.currentNode _ active
  exact ⟨node, current, by simp [Engine.isFinished, active, ← terminal]⟩

include made

theorem standing : ∃ dialog node, engine.cache.get? (.quest (catalog.layout.num role)) =
      some dialog ∧ dialog.node? id = some node ∧ (plan catalog role).Scripted dialog ∧
        engine.isFinished = node.terminal := by
  obtain ⟨finished, active⟩ := stands.active
  obtain ⟨dialog, node, cached, standing, terminal⟩ := stands.attached.standing _ active
  refine ⟨dialog, node, cached, standing, ?_, by simp [Engine.isFinished, active, ← terminal]⟩
  have listed := (stands.attached.cached _ _ cached).1
  rw [stands.source] at listed
  obtain ⟨other, also, same, scripted⟩ := made.loaded _ _ listed
  rw [DialogKey.quest.injEq] at same
  rwa [catalog.layout.num_inj made.fits role other stands.has also same]

theorem isFinished : engine.isFinished = true ↔ id = "end" := by
  obtain ⟨dialog, node, _, standing, scripted, finished⟩ := stands.standing made
  rw [finished]
  cases scripted.staged id node standing with
  | ending speaker text => simp
  | playing _ speaker text choices open_ => simp [DialogPlan.line, open_]

theorem offered (open_ : id ≠ "end") : engine.offeredChoices ≠ [] := by
  obtain ⟨dialog, node, cached, standing, scripted, finished⟩ := stands.standing made
  obtain ⟨mark, active⟩ := stands.active
  have playing : engine.isFinished = false := by
    rw [← Bool.not_eq_true, stands.isFinished made]
    exact open_
  cases scripted.staged id node standing with
  | ending speaker text => exact absurd rfl open_
  | playing _ speaker text choices _ scenes free =>
      obtain ⟨choice, member, conditions⟩ := free
      obtain ⟨index, listed⟩ := List.mem_iff_getElem?.mp member
      have offer : (index, choice) ∈ engine.offeredChoices := by
        refine (Engine.mem_offeredChoices engine index choice).mpr
          ⟨_, dialog, _, active, ?_, cached, standing, listed, ?_⟩
        · simpa [Engine.isFinished, active] using playing
        · simp [Engine.Choice.isOffered, conditions, GameState.holdsAll]
      exact List.ne_nil_of_mem offer

theorem scene (index : Nat) (position : Position) (choice : Choice) (target : Node)
    (resolves : engine.Resolves index position choice target) :
    position.key = .quest (catalog.layout.num role) ∧
      DialogPlan.Scene (plan catalog role) id choice := by
  obtain ⟨mark, active⟩ := stands.active
  have place : position = ⟨.quest (catalog.layout.num role), id, mark⟩ := by
    rw [resolves.active, Option.some.injEq] at active
    exact active
  subst place
  obtain ⟨dialog, node, cached, standing, scripted, _⟩ := stands.standing made
  obtain ⟨_, _, again, here, listed, _⟩ := resolves.reaches
  rw [cached, Option.some.injEq] at again
  subst again
  rw [standing, Option.some.injEq] at here
  subst here
  refine ⟨rfl, ?_⟩
  cases scripted.staged id node standing with
  | ending speaker text => simp at listed
  | playing _ speaker text choices _ scenes _ =>
      exact scenes choice (List.mem_of_getElem? listed)

/-- A choice on offer leads on in the same dialog, and applies its own effects and the outcomes that
follow from them. No choice of the script starts another quest. -/
theorem choose (index : Nat) (choice : Choice) (offer : (index, choice) ∈ engine.offeredChoices) :
    (∃ step next, engine.choose index = (.ok step, next)) ∧
      DialogPlan.Scene (plan catalog role) id choice ∧
        OnNode catalog web role choice.next (engine.choose index).2 ∧
          engine.history index = Engine.log web.quests engine.state choice.effects := by
  have playable (key : DialogKey) (dialog : Dialog)
      (found : engine.source.get? key = some dialog) : dialog.Playable :=
    made.playable key dialog (stands.source ▸ found)
  obtain ⟨position, target, resolves⟩ :=
    stands.attached.choose_offered playable index choice offer
  have resolved := (Engine.resolve_ok engine index position choice target).mpr resolves
  obtain ⟨place, scene⟩ := stands.scene made index position choice target resolves
  refine ⟨Engine.choose_of_resolves engine index position choice target resolves, scene,
    ⟨stands.attached.choose index, ?_, ?_, stands.has, ?_⟩, ?_⟩
  · exact (engine.move_source (.choose index)).trans stands.source
  · exact (engine.move_quests (.choose index)).trans stands.quests
  · exact ⟨target.terminal, by simp [Engine.choose, resolved, place]⟩
  · simp [Engine.history, resolved, stands.quests, Engine.nextQuest?, scene.startNext]

theorem endsWithin (limit : Nat) (enough : DialogPlan.rank id ≤ limit) :
    Engine.EndsWithin limit engine := by
  -- Every choice leads to a node of lower rank.
  induction limit generalizing id engine with
  | zero =>
      by_cases last : id = "end"
      · exact (stands.isFinished made).mpr last
      · obtain ⟨⟨index, choice⟩, offer⟩ := List.exists_mem_of_ne_nil _ (stands.offered made last)
        have less := (stands.choose made index choice offer).2.1.rank_lt
        omega
  | succ limit ih =>
      by_cases last : id = "end"
      · exact .inl ((stands.isFinished made).mpr last)
      · refine .inr ⟨stands.offered made last, ?_⟩
        intro index choice offer
        obtain ⟨taken, scene, further, _⟩ := stands.choose made index choice offer
        have less := scene.rank_lt
        exact ⟨taken, ih further (by omega)⟩

end OnNode

end Web

end QuestWeb
