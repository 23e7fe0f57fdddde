import QuestWeb.Proofs.CatalogCheck
import QuestWeb.Proofs.DialogShape
import QuestWeb.Proofs.Numbering
import QuestWeb.Proofs.Results
import QuestWeb.Web

/-!
The script behind the dialogs of a web. Whatever the texts are, every dialog goes from `start` by
way of `hinge` and `vow`, or of one of them, or directly, to `end`, and a choice does one of a few
things, told by the node that it stands on.
-/

namespace QuestWeb.Web

theorem domainAt_mem (catalog : Catalog) (accepted : catalog.Accepted) (index : Nat) :
    catalog.domainAt index ∈ catalog.domains := by
  have some := List.length_pos_iff.mpr accepted.domains
  have inside : min index (catalog.domains.length - 1) < catalog.domains.length := by omega
  unfold Catalog.domainAt
  rw [List.getElem?_eq_getElem inside, Option.getD_some]
  exact List.getElem_mem inside

theorem domainAt_eq (catalog : Catalog) (index : Nat) (inside : index < catalog.domains.length) :
    catalog.domainAt index = catalog.domains[index] := by
  have least : min index (catalog.domains.length - 1) = index := by omega
  unfold Catalog.domainAt
  rw [least, List.getElem?_eq_getElem inside, Option.getD_some]

theorem domainAt_inj (catalog : Catalog) (part : Catalog.Domain → String)
    (distinct : (catalog.domains.map part).Nodup) (domain other : Nat)
    (inside : domain < catalog.domains.length) (also : other < catalog.domains.length)
    (same : part (catalog.domainAt domain) = part (catalog.domainAt other)) : domain = other := by
  rw [domainAt_eq catalog domain inside, domainAt_eq catalog other also] at same
  refine (List.getElem?_inj ?_ distinct).mp ?_
  · rw [List.length_map]
    exact inside
  · simp [inside, also, same]

namespace DialogPlan

/-- The choices that can stand on a node of a plan's dialog. -/
inductive Scene (plan : DialogPlan) : String → Choice → Prop where
  | proceed (text : String) (told : plan.role ≠ .hearing ∧ plan.role ≠ .finale) :
      Scene plan "start" (choice text "hinge" plan.startEffects [])
  | bind (text : String) (domain : Nat) (told : plan.role = .invitation domain) :
      Scene plan "start" (choice text "vow" (plan.startEffects ++ [.setClause plan.domain.clause])
        [.flag FlagName.clause .eq (.text "")])
  | answer (text name : String) (delta : Int64) (conditions : List Condition)
      (scored : name = FlagName.domainScore plan.domain.key ∨ name = FlagName.censureScore)
      (flags : ∀ condition ∈ conditions, ∃ name op value, condition = .flag name op value) :
      Scene plan "hinge" (choice text "vow" [.incFlag name delta] conditions)
  | enter (text : String) (told : plan.role = .keystone) :
      Scene plan "start" (choice text "vow" plan.startEffects [])
  | judge (text mode : String) (told : plan.role = .hearing)
      (judged : mode = "reduced" ∨ mode = "defied") :
      Scene plan "start" (choice text "vow" (plan.startEffects ++ [.setCensureMode mode]) [])
  | close (text : String) (extra : List Effect) (told : plan.role ≠ .finale)
      (ends : extra = [] ∨ extra = [.computeBossUnlock]) :
      Scene plan "vow" (choice text "end" (plan.completeEffects ++ extra) [])
  | crown (text : String) (domain : Catalog.Domain) (told : plan.role = .finale)
      (listed : domain ∈ plan.catalog.domains) :
      Scene plan "start" (choice text "end"
        (plan.startEffects ++ .setFlag FlagName.ending (.text domain.key) :: plan.completeEffects)
        [])

inductive Staged (plan : DialogPlan) : String → Node → Prop where
  | ending (speaker text : String) : Staged plan "end" ⟨speaker, text, [], true⟩
  | playing (id speaker text : String) (choices : List Choice) (before : id ≠ "end")
      (scenes : ∀ choice ∈ choices, Scene plan id choice)
      (open_ : ∃ choice ∈ choices, choice.conditions = []) :
      Staged plan id (line speaker text choices)

structure Scripted (plan : DialogPlan) (dialog : Dialog) : Prop where
  quest : dialog.quest = some plan.num
  start : dialog.start = "start"
  begins : dialog.hasNode "start" = true
  staged : ∀ id node, dialog.node? id = some node → Staged plan id node
  leads : ∀ id node, dialog.node? id = some node →
    ∀ choice ∈ node.choices, dialog.hasNode choice.next = true

theorem scripted_of_nodes (plan : DialogPlan) (nodes : List (String × Node))
    (distinct : (nodes.map Prod.fst).Nodup) (begins : "start" ∈ nodes.map Prod.fst)
    (staged : ∀ entry ∈ nodes, Staged plan entry.1 entry.2)
    (leads : ∀ entry ∈ nodes, ∀ choice ∈ entry.2.choices, choice.next ∈ nodes.map Prod.fst) :
    Scripted plan (plan.dialog nodes) := by
  have found (id : String) (node : Node) :
      (plan.dialog nodes).node? id = some node ↔ (id, node) ∈ nodes :=
    getElem?_ofList nodes distinct id node
  have has (id : String) (listed : id ∈ nodes.map Prod.fst) :
      (plan.dialog nodes).hasNode id = true := by
    obtain ⟨⟨_, node⟩, member, rfl⟩ := List.mem_map.mp listed
    exact (Dialog.hasNode_iff _ _).mpr ⟨node, (found _ node).mpr member⟩
  refine ⟨rfl, rfl, has "start" begins, ?_, ?_⟩
  · intro id node standing
    exact staged (id, node) ((found id node).mp standing)
  · intro id node standing choice offered
    exact has _ (leads (id, node) ((found id node).mp standing) choice offered)

theorem choices_ok (plan : DialogPlan) (part next : String) (effects : List Effect)
    (templates : List Template) (list : List Choice)
    (made : plan.choices part next effects templates = .ok list) :
    (∀ c ∈ list, ∃ text, c = choice text next effects []) ∧
      (templates ≠ [] → ∃ c ∈ list, c.conditions = []) := by
  have each (c : Choice) (member : c ∈ list) : ∃ text, c = choice text next effects [] := by
    obtain ⟨template, _, filled⟩ := mapM_ok_source _ _ _ made c member
    obtain ⟨text, _, same⟩ := (bind_eq_ok _ _ _).mp filled
    exact ⟨text, ((pure_eq_ok _ _).mp same).symm⟩
  refine ⟨each, fun some => ?_⟩
  obtain ⟨template, rest, rfl⟩ := List.exists_cons_of_ne_nil some
  obtain ⟨c, member, _⟩ := mapM_ok_target _ _ _ made template List.mem_cons_self
  obtain ⟨text, rfl⟩ := each c member
  exact ⟨_, member, rfl⟩

theorem proceedChoices_ok (plan : DialogPlan) (list : List Choice)
    (made : plan.proceedChoices = .ok list) :
    (∀ c ∈ list, ∃ text, c = choice text "hinge" plan.startEffects []) ∧
      (plan.catalog.dialog.proceed ≠ [] → ∃ c ∈ list, c.conditions = []) := by
  have each (c : Choice) (member : c ∈ list) :
      ∃ text, c = choice text "hinge" plan.startEffects [] := by
    obtain ⟨⟨template, index⟩, _, filled⟩ := mapM_ok_source _ _ _ made c member
    obtain ⟨text, _, same⟩ := (bind_eq_ok _ _ _).mp filled
    exact ⟨text, ((pure_eq_ok _ _).mp same).symm⟩
  refine ⟨each, fun some => ?_⟩
  obtain ⟨template, rest, proceed⟩ := List.exists_cons_of_ne_nil some
  obtain ⟨c, member, _⟩ := mapM_ok_target _ _ _ made (template, 0) (by simp [proceed])
  obtain ⟨text, rfl⟩ := each c member
  exact ⟨_, member, rfl⟩

theorem clauseChoices_ok (plan : DialogPlan) (list : List Choice)
    (made : plan.clauseChoices = .ok list) (c : Choice) (member : c ∈ list) :
    Scene plan "start" c ∧ c.next = "vow" := by
  unfold clauseChoices at made
  split at made
  · rename_i domain told
    obtain ⟨text, _, same⟩ := (bind_eq_ok _ _ _).mp made
    rw [pure_eq_ok] at same
    subst same
    rw [List.mem_singleton] at member
    subst member
    exact ⟨.bind text domain told, rfl⟩
  · cases made
    simp at member

theorem opening_ok (plan : DialogPlan) (told : plan.role ≠ .hearing ∧ plan.role ≠ .finale)
    (proceed clause : List Choice)
    (proceeds : ∀ c ∈ proceed, ∃ text, c = choice text "hinge" plan.startEffects [])
    (made : plan.clauseChoices = .ok clause) (c : Choice) (member : c ∈ proceed ++ clause) :
    Scene plan "start" c ∧ (c.next = "hinge" ∨ c.next = "vow") := by
  rcases List.mem_append.mp member with first | bound
  · obtain ⟨text, rfl⟩ := proceeds c first
    exact ⟨.proceed text told, .inl rfl⟩
  · obtain ⟨scene, leads⟩ := plan.clauseChoices_ok clause made c bound
    exact ⟨scene, .inr leads⟩

theorem answers_ok (plan : DialogPlan) (list : List Choice) (made : plan.answers = .ok list) :
    (∀ c ∈ list, Scene plan "hinge" c ∧ c.next = "vow") ∧ ∃ c ∈ list, c.conditions = [] := by
  unfold answers at made
  obtain ⟨answerFor, _, made⟩ := (bind_eq_ok _ _ _).mp made
  obtain ⟨answerAgainst, _, made⟩ := (bind_eq_ok _ _ _).mp made
  obtain ⟨invoke, _, made⟩ := (bind_eq_ok _ _ _).mp made
  rw [pure_eq_ok] at made
  subst made
  constructor
  · intro c member
    simp only [List.mem_cons, List.not_mem_nil, or_false] at member
    rcases member with rfl | rfl | rfl
    · exact ⟨.answer _ _ _ _ (.inl rfl) (by simp), rfl⟩
    · exact ⟨.answer _ _ _ _ (.inr rfl) (by simp), rfl⟩
    · exact ⟨.answer _ _ _ _ (.inr rfl) (by simp), rfl⟩
  · exact ⟨_, List.mem_cons_self, rfl⟩

theorem endNode_ok (plan : DialogPlan) (suffix : String) (node : Node)
    (made : plan.endNode suffix = .ok node) :
    ∃ text, node = ⟨plan.catalog.dialog.narrator, text, [], true⟩ := by
  unfold endNode at made
  obtain ⟨text, _, same⟩ := (bind_eq_ok _ _ _).mp made
  exact ⟨text ++ suffix, ((pure_eq_ok _ _).mp same).symm⟩

theorem endings_ok (plan : DialogPlan) (told : plan.role = .finale) (list : List Choice)
    (made : plan.endings = .ok list) :
    (∀ c ∈ list, Scene plan "start" c ∧ c.next = "end") ∧
      (plan.catalog.domains ≠ [] → ∃ c ∈ list, c.conditions = []) := by
  have each (domain : Catalog.Domain) (c : Choice) (filled : (do
      let text ← render (("ending", domain.ending) :: ("key", domain.key) :: plan.words)
        "final ending" plan.catalog.dialog.finale.choice
      return choice text "end" (plan.startEffects ++
        Effect.setFlag FlagName.ending (.text domain.key) :: plan.completeEffects) []) = .ok c) :
      ∃ text, c = choice text "end" (plan.startEffects ++
        Effect.setFlag FlagName.ending (.text domain.key) :: plan.completeEffects) [] := by
    obtain ⟨text, _, same⟩ := (bind_eq_ok _ _ _).mp filled
    exact ⟨text, ((pure_eq_ok _ _).mp same).symm⟩
  constructor
  · intro c member
    obtain ⟨domain, listed, filled⟩ := mapM_ok_source _ _ _ made c member
    obtain ⟨text, rfl⟩ := each domain c filled
    exact ⟨.crown text domain told listed, rfl⟩
  · intro some
    obtain ⟨domain, rest, domains⟩ := List.exists_cons_of_ne_nil some
    obtain ⟨c, member, filled⟩ := mapM_ok_target _ _ _ made domain (by simp [domains])
    obtain ⟨text, rfl⟩ := each domain c filled
    exact ⟨_, member, rfl⟩

theorem general_scripted (plan : DialogPlan) (accepted : plan.catalog.Accepted)
    (told : plan.role ≠ .hearing ∧ plan.role ≠ .finale) (dialog : Dialog)
    (made : plan.general = .ok dialog) : Scripted plan dialog := by
  unfold general at made
  obtain ⟨proceed, proceedMade, made⟩ := (bind_eq_ok _ _ _).mp made
  obtain ⟨clause, clauseMade, made⟩ := (bind_eq_ok _ _ _).mp made
  obtain ⟨hinge, _, made⟩ := (bind_eq_ok _ _ _).mp made
  obtain ⟨answers, answersMade, made⟩ := (bind_eq_ok _ _ _).mp made
  obtain ⟨close, closeMade, made⟩ := (bind_eq_ok _ _ _).mp made
  obtain ⟨intro_, _, made⟩ := (bind_eq_ok _ _ _).mp made
  obtain ⟨vow, _, made⟩ := (bind_eq_ok _ _ _).mp made
  obtain ⟨ending, endingMade, made⟩ := (bind_eq_ok _ _ _).mp made
  rw [pure_eq_ok] at made
  subst made
  obtain ⟨proceeds, proceedOpen⟩ := plan.proceedChoices_ok proceed proceedMade
  obtain ⟨replies, replyOpen⟩ := plan.answers_ok answers answersMade
  obtain ⟨closes, closeOpen⟩ := plan.choices_ok _ _ _ _ close closeMade
  obtain ⟨closing, rfl⟩ := plan.endNode_ok "" ending endingMade
  have opening := plan.opening_ok told proceed clause proceeds clauseMade
  apply scripted_of_nodes
  case distinct => simp
  case begins => simp
  case staged =>
    simp only [List.forall_mem_cons, List.not_mem_nil, false_implies, implies_true, and_true]
    refine ⟨.playing _ _ _ _ (by simp) (fun c member => (opening c member).1) ?_,
      .playing _ _ _ _ (by simp) (fun c member => (replies c member).1) replyOpen,
      .playing _ _ _ _ (by simp) ?_ (closeOpen accepted.close), .ending _ _⟩
    · obtain ⟨c, member, free⟩ := proceedOpen accepted.proceed
      exact ⟨c, List.mem_append_left _ member, free⟩
    · intro c member
      obtain ⟨text, rfl⟩ := closes c member
      have scene : Scene plan "vow" (choice text "end" (plan.completeEffects ++ []) []) :=
        .close text [] told.2 (.inl rfl)
      rwa [List.append_nil] at scene
  case leads =>
    simp only [List.forall_mem_cons, List.not_mem_nil, false_implies, implies_true, and_true,
      line]
    refine ⟨fun c member => ?_, fun c member => ?_, fun c member => ?_⟩
    · rcases (opening c member).2 with leads | leads <;> simp [leads]
    · simp [(replies c member).2]
    · obtain ⟨text, rfl⟩ := closes c member
      simp [choice]

theorem keystone_scripted (plan : DialogPlan) (accepted : plan.catalog.Accepted)
    (told : plan.role = .keystone) (dialog : Dialog) (made : plan.keystone = .ok dialog) :
    Scripted plan dialog := by
  unfold keystone at made
  obtain ⟨enter, enterMade, made⟩ := (bind_eq_ok _ _ _).mp made
  obtain ⟨opening, _, made⟩ := (bind_eq_ok _ _ _).mp made
  obtain ⟨measure, _, made⟩ := (bind_eq_ok _ _ _).mp made
  obtain ⟨take, _, made⟩ := (bind_eq_ok _ _ _).mp made
  obtain ⟨ending, endingMade, made⟩ := (bind_eq_ok _ _ _).mp made
  rw [pure_eq_ok] at made
  subst made
  obtain ⟨enters, enterOpen⟩ := plan.choices_ok _ _ _ _ enter enterMade
  obtain ⟨closing, rfl⟩ := plan.endNode_ok "" ending endingMade
  apply scripted_of_nodes
  case distinct => simp
  case begins => simp
  case staged =>
    simp only [List.forall_mem_cons, List.not_mem_nil, false_implies, implies_true, and_true]
    refine ⟨.playing _ _ _ _ (by simp) ?_ (enterOpen accepted.enter),
      .playing _ _ _ _ (by simp) ?_ ⟨_, List.mem_singleton_self _, rfl⟩, .ending _ _⟩
    · intro c member
      obtain ⟨text, rfl⟩ := enters c member
      exact .enter text told
    · intro c member
      rw [List.mem_singleton] at member
      subst member
      exact .close take _ (by simp [told]) (.inr rfl)
  case leads =>
    simp only [List.forall_mem_cons, List.not_mem_nil, false_implies, implies_true, and_true,
      line]
    refine ⟨fun c member => ?_, by simp [choice]⟩
    obtain ⟨text, rfl⟩ := enters c member
    simp [choice]

theorem hearing_scripted (plan : DialogPlan) (told : plan.role = .hearing) (dialog : Dialog)
    (made : plan.hearing = .ok dialog) : Scripted plan dialog := by
  unfold hearing at made
  obtain ⟨opening, _, made⟩ := (bind_eq_ok _ _ _).mp made
  obtain ⟨reduce, _, made⟩ := (bind_eq_ok _ _ _).mp made
  obtain ⟨defy, _, made⟩ := (bind_eq_ok _ _ _).mp made
  obtain ⟨verdict, _, made⟩ := (bind_eq_ok _ _ _).mp made
  obtain ⟨finalize, _, made⟩ := (bind_eq_ok _ _ _).mp made
  obtain ⟨ending, endingMade, made⟩ := (bind_eq_ok _ _ _).mp made
  rw [pure_eq_ok] at made
  subst made
  obtain ⟨closing, rfl⟩ := plan.endNode_ok "" ending endingMade
  apply scripted_of_nodes
  case distinct => simp
  case begins => simp
  case staged =>
    simp only [List.forall_mem_cons, List.not_mem_nil, false_implies, implies_true, and_true]
    refine ⟨.playing _ _ _ _ (by simp) ?_ ⟨_, List.mem_cons_self, rfl⟩,
      .playing _ _ _ _ (by simp) ?_ ⟨_, List.mem_singleton_self _, rfl⟩, .ending _ _⟩
    · intro c member
      simp only [List.mem_cons, List.not_mem_nil, or_false] at member
      rcases member with rfl | rfl
      · exact .judge reduce "reduced" told (.inl rfl)
      · exact .judge defy "defied" told (.inr rfl)
    · intro c member
      rw [List.mem_singleton] at member
      subst member
      exact .close finalize _ (by simp [told]) (.inr rfl)
  case leads => simp [line, choice]

theorem finale_scripted (plan : DialogPlan) (accepted : plan.catalog.Accepted)
    (told : plan.role = .finale) (dialog : Dialog) (made : plan.finale = .ok dialog) :
    Scripted plan dialog := by
  unfold finale at made
  obtain ⟨endings, endingsMade, made⟩ := (bind_eq_ok _ _ _).mp made
  obtain ⟨suffix, _, made⟩ := (bind_eq_ok _ _ _).mp made
  obtain ⟨opening, _, made⟩ := (bind_eq_ok _ _ _).mp made
  obtain ⟨ending, endingMade, made⟩ := (bind_eq_ok _ _ _).mp made
  rw [pure_eq_ok] at made
  subst made
  obtain ⟨crowns, crownOpen⟩ := plan.endings_ok told endings endingsMade
  obtain ⟨closing, rfl⟩ := plan.endNode_ok suffix ending endingMade
  apply scripted_of_nodes
  case distinct => simp
  case begins => simp
  case staged =>
    simp only [List.forall_mem_cons, List.not_mem_nil, false_implies, implies_true, and_true]
    exact ⟨.playing _ _ _ _ (by simp) (fun c member => (crowns c member).1)
      (crownOpen accepted.domains), .ending _ _⟩
  case leads =>
    simp only [List.forall_mem_cons, List.not_mem_nil, false_implies, implies_true, and_true,
      line]
    intro c member
    simp [(crowns c member).2]

theorem build_scripted (plan : DialogPlan) (accepted : plan.catalog.Accepted)
    (fits : plan.catalog.layout.total < UInt32.size) (has : plan.catalog.layout.Has plan.role)
    (dialog : Dialog) (made : plan.build = .ok dialog) : Scripted plan dialog := by
  have override := plan.catalog.layout.overrides_num fits plan.role has
  unfold build num at made
  rw [override] at made
  -- Quests are picked out for their own dialogs by number, which tells the role.
  cases told : plan.role with
  | keystone =>
      simp only [told, WebLayout.special?] at made
      exact keystone_scripted plan accepted told dialog made
  | hearing =>
      simp only [told, WebLayout.special?] at made
      exact hearing_scripted plan told dialog made
  | finale =>
      simp only [told, WebLayout.special?] at made
      exact finale_scripted plan accepted told dialog made
  | _ =>
      simp only [told, WebLayout.special?] at made
      exact general_scripted plan accepted (by simp [told]) dialog made

variable {plan : DialogPlan}

theorem Scripted.playable {dialog : Dialog} (scripted : Scripted plan dialog) :
    dialog.Playable where
  start := by
    rw [scripted.start]
    exact scripted.begins
  named := by
    rw [scripted.start]
    decide
  leads := scripted.leads
  terminal := by
    intro id node standing
    cases scripted.staged id node standing with
    | ending speaker text => simp
    | playing id speaker text choices before scenes open_ =>
        obtain ⟨c, member, _⟩ := open_
        simp [line, List.ne_nil_of_mem member]

def rank (id : String) : Nat :=
  if id = "start" then 3 else if id = "hinge" then 2 else if id = "vow" then 1 else 0

theorem Scene.rank_lt {id : String} {c : Choice} (scene : Scene plan id c) :
    rank c.next < rank id := by
  cases scene <;> simp [rank, choice]

theorem Scene.startNext {id : String} {c : Choice} (scene : Scene plan id c) :
    c.startNext = none := by
  cases scene <;> rfl

theorem Scene.open_ {id : String} {c : Choice} (scene : Scene plan id c) : id ≠ "end" := by
  cases scene <;> simp

theorem Scene.quest {id : String} {c : Choice} (scene : Scene plan id c) (effect : Effect)
    (applied : effect ∈ c.effects) (num : QuestNum) (named : effect.quest? = some num) :
    num = plan.num := by
  have own : effect.quest? = none ∨ effect.quest? = some plan.num := by
    cases scene <;>
      simp only [choice, startEffects, completeEffects, List.mem_cons, List.not_mem_nil, or_false,
        List.cons_append, List.nil_append] at applied
    case proceed | enter =>
      subst applied
      exact .inr rfl
    case bind | judge =>
      rcases applied with rfl | rfl
      · exact .inr rfl
      · exact .inl rfl
    case answer =>
      subst applied
      exact .inl rfl
    case crown =>
      rcases applied with rfl | rfl | rfl | rfl
      · exact .inr rfl
      · exact .inl rfl
      · exact .inl rfl
      · exact .inr rfl
    case close extra told ends =>
      rcases applied with rfl | rfl | more
      · exact .inl rfl
      · exact .inr rfl
      · rcases ends with rfl | rfl
        · simp at more
        · rw [List.mem_singleton] at more
          subst more
          exact .inl rfl
  rw [named] at own
  simpa using own

/-- A choice leads to the end exactly when it completes the quest. -/
theorem Scene.completes {id : String} {c : Choice} (scene : Scene plan id c) :
    c.next = "end" ↔ c.effects.any (·.completes plan.num) = true := by
  cases scene with
  | close text extra told ends =>
      rcases ends with rfl | rfl <;>
        simp [choice, completeEffects, Effect.completes]
  | _ => simp [choice, startEffects, completeEffects, Effect.completes]

end DialogPlan

end QuestWeb.Web
