import QuestWeb.Proofs.Numbering
import QuestWeb.Proofs.Results
import QuestWeb.Web

/-!
What can go wrong in a chapter of a web. Whatever the catalog is, a quest or a dialog fails for want
of a word in one of its templates and for nothing else. The same words are there for every quest, so
a chapter is told exactly if its templates ask for no other; only the premise may also ask for the
beat.
-/

namespace QuestWeb

def Template.AsksOnly (template : Template) (names : List String) : Prop :=
  ∀ slot ∈ template.slots, slot ∈ names

namespace Catalog

def wordNames : List String :=
  ["region", "region_id", "key", "clause", "title", "title_lower", "virtue", "wound", "verb",
    "ending", "palette_a", "palette_b", "palette_c", "name_noun", "name_verb", "speaker",
    "domain_count", "seals", "quest_num"]

def Worded (templates : List Template) : Prop :=
  ∀ template ∈ templates, template.AsksOnly wordNames

@[simp]
theorem worded_nil : Worded [] ↔ True :=
  iff_true_intro (by simp [Worded])

@[simp]
theorem worded_cons (template : Template) (rest : List Template) :
    Worded (template :: rest) ↔ template.AsksOnly wordNames ∧ Worded rest :=
  List.forall_mem_cons

@[simp]
theorem worded_append (front back : List Template) :
    Worded (front ++ back) ↔ Worded front ∧ Worded back :=
  List.forall_mem_append

end Catalog

namespace Web

def WantsWords {α : Type} (result : Except Error α) : Prop :=
  ∀ error, result = .error error → ∃ context slot, error = .template context slot

/-- There is a result exactly under this condition, and an error is for want of a word. -/
structure Requires {α : Type} (result : Except Error α) (condition : Prop) : Prop where
  wants : WantsWords result
  met : (∃ a, result = .ok a) ↔ condition

section Results

variable {α β : Type} {P Q : Prop}

theorem WantsWords.pure (a : α) : WantsWords (Pure.pure a : Except Error α) := by
  intro error failed
  cases failed

theorem WantsWords.bind {result : Except Error α} {next : α → Except Error β}
    (first : WantsWords result) (later : ∀ a, WantsWords (next a)) :
    WantsWords (result >>= next) := by
  intro error failed
  cases result with
  | ok a => exact later a error failed
  | error fault =>
      cases failed
      exact first error rfl

theorem Requires.congr {result : Except Error α} (requires : Requires result P) (same : P ↔ Q) :
    Requires result Q :=
  ⟨requires.wants, requires.met.trans same⟩

theorem Requires.pure (a : α) : Requires (Pure.pure a : Except Error α) True :=
  ⟨.pure a, iff_true_intro ⟨a, rfl⟩⟩

/-- What is required later may not depend on what was made before. -/
theorem Requires.bind {result : Except Error α} {next : α → Except Error β}
    (first : Requires result P) (later : ∀ a, Requires (next a) Q) :
    Requires (result >>= next) (P ∧ Q) := by
  refine ⟨first.wants.bind fun a => (later a).wants, ?_⟩
  constructor
  · rintro ⟨b, made⟩
    obtain ⟨a, here, there⟩ := (bind_eq_ok _ _ _).mp made
    exact ⟨first.met.mp ⟨a, here⟩, (later a).met.mp ⟨b, there⟩⟩
  · rintro ⟨met, also⟩
    obtain ⟨a, here⟩ := first.met.mpr met
    obtain ⟨b, there⟩ := (later a).met.mpr also
    exact ⟨b, (bind_eq_ok _ _ _).mpr ⟨a, here, there⟩⟩

theorem Requires.map {result : Except Error α} {last : α → β} (requires : Requires result P) :
    Requires (result >>= fun a => Pure.pure (last a)) P :=
  (requires.bind fun a => .pure (last a)).congr (and_iff_left trivial)

theorem Requires.mapM {f : α → Except Error β} {inputs : List α} {condition : α → Prop}
    (each : ∀ a ∈ inputs, Requires (f a) (condition a)) :
    Requires (inputs.mapM f) (∀ a ∈ inputs, condition a) := by
  induction inputs with
  | nil => exact (Requires.pure []).congr (by simp)
  | cons first rest ih =>
      obtain ⟨here, others⟩ := List.forall_mem_cons.mp each
      rw [List.mapM_cons]
      exact (here.bind fun _ => (ih others).map).congr List.forall_mem_cons.symm

end Results

/-- A text can be filled exactly if every slot has a value. -/
theorem renderSegments_ok_iff (lookup : String → Option String) (segments : List Segment) :
    (∃ text, Template.renderSegments lookup segments = .ok text) ↔
      ∀ slot ∈ Template.slots ⟨segments⟩, (lookup slot).isSome := by
  induction segments with
  | nil => simp [Template.renderSegments, Template.slots]
  | cons segment rest ih =>
      cases segment with
      | literal text =>
          have same : Template.slots ⟨.literal text :: rest⟩ = Template.slots ⟨rest⟩ := rfl
          rw [same, ← ih, Template.renderSegments]
          cases Template.renderSegments lookup rest <;> simp
      | slot name =>
          have same : Template.slots ⟨.slot name :: rest⟩ = name :: Template.slots ⟨rest⟩ := rfl
          rw [same, List.forall_mem_cons, ← ih, Template.renderSegments]
          cases lookup name with
          | none => simp
          | some value => cases Template.renderSegments lookup rest <;> simp

theorem requires_render (words : Words) (context : String) (template : Template) :
    Requires (render words context template) (template.AsksOnly (words.map Prod.fst)) := by
  have filled := renderSegments_ok_iff (List.lookup · words) template.segments
  have known (slot : String) : (List.lookup slot words).isSome ↔ slot ∈ words.map Prod.fst := by
    simp [List.lookup_isSome_iff]
  simp only [known] at filled
  unfold render Template.render
  refine ⟨fun error failed => ?_, Iff.trans ?_ filled⟩
  · split at failed
    · cases failed
    · rename_i slot _
      cases failed
      exact ⟨context, slot, rfl⟩
  · cases Template.renderSegments (List.lookup · words) template.segments <;> simp

theorem forall_mem_zipIdx {α : Type} (items : List α) (P : α → Prop) :
    (∀ entry ∈ items.zipIdx, P entry.1) ↔ ∀ a ∈ items, P a := by
  have told := List.forall_mem_map (f := Prod.fst) (l := items.zipIdx) (P := P)
  rw [List.zipIdx_map_fst] at told
  exact told.symm

def generalTemplates (text : Catalog.DialogText) : List Template :=
  text.proceed ++ [text.hingeOpen, text.hingeLine, text.hingeClose, text.answerFor,
    text.answerAgainst, text.invokeClause] ++ text.close ++ [text.intro, text.vow, text.closing]

def dialogTemplates (text : Catalog.DialogText) : Role → List Template
  | .invitation _ => text.clauseChoice :: generalTemplates text
  | .keystone =>
      text.keystone.enter ++
        [text.keystone.opening, text.keystone.measure, text.keystone.take, text.closing]
  | .hearing =>
      [text.hearing.opening, text.hearing.reduce, text.hearing.defy, text.hearing.verdict,
        text.hearing.finalize, text.closing]
  | .finale =>
      [text.finale.choice, text.finale.endingSuffix, text.finale.opening, text.closing]
  | _ => generalTemplates text

theorem asksOnly_renewed (template : Template) (first second : String)
    (known : first ∈ Catalog.wordNames ∧ second ∈ Catalog.wordNames) :
    template.AsksOnly (first :: second :: Catalog.wordNames) ↔
      template.AsksOnly Catalog.wordNames := by
  have same (slot : String) :
      slot ∈ first :: second :: Catalog.wordNames ↔ slot ∈ Catalog.wordNames := by
    simp only [List.mem_cons]
    constructor
    · rintro (rfl | rfl | listed)
      · exact known.1
      · exact known.2
      · exact listed
    · exact fun listed => .inr (.inr listed)
  simp only [Template.AsksOnly, same]

namespace DialogPlan

variable (plan : DialogPlan) (bound : plan.words.map Prod.fst = Catalog.wordNames)

include bound

theorem requires_fill (part : String) (template : Template) :
    Requires (plan.fill part template) (template.AsksOnly Catalog.wordNames) :=
  bound ▸ requires_render plan.words _ template

/-- A line that is told for every domain. There is a domain, so it is told. -/
theorem requires_lines {α : Type} (some_ : plan.catalog.domains ≠ []) (first second : String)
    (known : first ∈ Catalog.wordNames ∧ second ∈ Catalog.wordNames) (context : String)
    (template : Template) (values : Catalog.Domain → String × String)
    (last : Catalog.Domain → String → α) :
    Requires
      (plan.catalog.domains.mapM fun domain =>
        render ((first, (values domain).1) :: (second, (values domain).2) :: plan.words) context
          template >>= fun text => Pure.pure (last domain text))
      (template.AsksOnly Catalog.wordNames) := by
  have each (domain : Catalog.Domain) (_ : domain ∈ plan.catalog.domains) :
      Requires
        (render ((first, (values domain).1) :: (second, (values domain).2) :: plan.words) context
          template >>= fun text => Pure.pure (last domain text))
        (template.AsksOnly Catalog.wordNames) := by
    refine (requires_render _ _ _).map.congr ?_
    rw [List.map_cons, List.map_cons, bound]
    exact asksOnly_renewed template first second known
  refine (Requires.mapM each).congr ⟨fun all => ?_, fun asks _ _ => asks⟩
  obtain ⟨domain, listed⟩ := List.exists_mem_of_ne_nil _ some_
  exact all domain listed

theorem requires_endNode (suffix : String) :
    Requires (plan.endNode suffix) (plan.catalog.dialog.closing.AsksOnly Catalog.wordNames) :=
  (plan.requires_fill bound _ _).map

theorem requires_choices (part next : String) (effects : List Effect)
    (templates : List Template) :
    Requires (plan.choices part next effects templates) (Catalog.Worded templates) :=
  .mapM fun template _ => (plan.requires_fill bound part template).map

theorem requires_proceedChoices :
    Requires plan.proceedChoices (Catalog.Worded plan.catalog.dialog.proceed) :=
  (Requires.mapM fun entry _ => (plan.requires_fill bound _ entry.1).map).congr
    (forall_mem_zipIdx _ (Template.AsksOnly · Catalog.wordNames))

theorem requires_hingeText (some_ : plan.catalog.domains ≠ []) :
    Requires plan.hingeText
      (plan.catalog.dialog.hingeOpen.AsksOnly Catalog.wordNames ∧
        plan.catalog.dialog.hingeLine.AsksOnly Catalog.wordNames ∧
        plan.catalog.dialog.hingeClose.AsksOnly Catalog.wordNames) := by
  have lines : Requires plan.hingeLines
      (plan.catalog.dialog.hingeLine.AsksOnly Catalog.wordNames) := by
    have told := plan.requires_lines bound some_ "title" "verb" (by decide) "hinge line"
      plan.catalog.dialog.hingeLine (fun domain => (domain.title, domain.verb)) fun _ text => text
    simp only [bind_pure] at told
    exact told
  exact (plan.requires_fill bound _ _).bind fun _ => lines.bind fun _ =>
    (plan.requires_fill bound _ _).map

theorem requires_answers :
    Requires plan.answers
      (plan.catalog.dialog.answerFor.AsksOnly Catalog.wordNames ∧
        plan.catalog.dialog.answerAgainst.AsksOnly Catalog.wordNames ∧
        plan.catalog.dialog.invokeClause.AsksOnly Catalog.wordNames) :=
  (plan.requires_fill bound _ _).bind fun _ => (plan.requires_fill bound _ _).bind fun _ =>
    (plan.requires_fill bound _ _).map

theorem requires_endings (some_ : plan.catalog.domains ≠ []) :
    Requires plan.endings (plan.catalog.dialog.finale.choice.AsksOnly Catalog.wordNames) :=
  plan.requires_lines bound some_ "ending" "key" (by decide) "final ending"
    plan.catalog.dialog.finale.choice (fun domain => (domain.ending, domain.key)) _

theorem requires_general (some_ : plan.catalog.domains ≠ [])
    (ordinary : WebLayout.special? plan.role = none) :
    Requires plan.general (Catalog.Worded (dialogTemplates plan.catalog.dialog plan.role)) := by
  have told (P : Prop) (clause : Requires plan.clauseChoices P) :
      Requires plan.general (P ∧ Catalog.Worded (generalTemplates plan.catalog.dialog)) := by
    refine ((plan.requires_proceedChoices bound).bind fun _ => clause.bind fun _ =>
      (plan.requires_hingeText bound some_).bind fun _ =>
      (plan.requires_answers bound).bind fun _ =>
      (plan.requires_choices bound _ _ _ _).bind fun _ =>
      (plan.requires_fill bound _ _).bind fun _ => (plan.requires_fill bound _ _).bind fun _ =>
      (plan.requires_endNode bound _).map).congr ?_
    simp only [generalTemplates, Catalog.worded_append, Catalog.worded_cons, Catalog.worded_nil,
      and_true, and_assoc]
    exact and_left_comm
  obtain ⟨catalog, role, words⟩ := plan
  cases role with
  | invitation domain =>
      exact (told _ (requires_fill _ bound _ _).map).congr
        (by simp only [dialogTemplates, Catalog.worded_cons])
  | keystone | hearing | finale => simp [WebLayout.special?] at ordinary
  | _ => exact (told True (.pure [])).congr (by simp only [dialogTemplates, true_and])

theorem requires_keystone :
    Requires plan.keystone (Catalog.Worded (dialogTemplates plan.catalog.dialog .keystone)) := by
  refine ((plan.requires_choices bound _ _ _ _).bind fun _ => (plan.requires_fill bound _ _).bind
    fun _ => (plan.requires_fill bound _ _).bind fun _ => (plan.requires_fill bound _ _).bind
    fun _ => (plan.requires_endNode bound _).map).congr ?_
  simp [dialogTemplates]

theorem requires_hearing :
    Requires plan.hearing (Catalog.Worded (dialogTemplates plan.catalog.dialog .hearing)) := by
  refine ((plan.requires_fill bound _ _).bind fun _ => (plan.requires_fill bound _ _).bind fun _ =>
    (plan.requires_fill bound _ _).bind fun _ => (plan.requires_fill bound _ _).bind fun _ =>
    (plan.requires_fill bound _ _).bind fun _ => (plan.requires_endNode bound _).map).congr ?_
  simp [dialogTemplates]

theorem requires_finale (some_ : plan.catalog.domains ≠ []) :
    Requires plan.finale (Catalog.Worded (dialogTemplates plan.catalog.dialog .finale)) := by
  refine ((plan.requires_endings bound some_).bind fun _ => (plan.requires_fill bound _ _).bind
    fun _ => (plan.requires_fill bound _ _).bind fun _ => (plan.requires_endNode bound _).map).congr
    ?_
  simp [dialogTemplates]

theorem requires_build (some_ : plan.catalog.domains ≠ [])
    (fits : plan.catalog.layout.total < UInt32.size) (has : plan.catalog.layout.Has plan.role) :
    Requires plan.build (Catalog.Worded (dialogTemplates plan.catalog.dialog plan.role)) := by
  have own := plan.catalog.layout.overrides_num fits plan.role has
  have general := plan.requires_general bound some_
  obtain ⟨catalog, role, words⟩ := plan
  simp only [build, num, own]
  cases role with
  | keystone => exact requires_keystone _ bound
  | hearing => exact requires_hearing _ bound
  | finale => exact requires_finale _ bound some_
  | _ => exact general rfl

end DialogPlan

def tellingTemplates (catalog : Catalog) : Role → List Template
  | .invitation _ =>
      [catalog.prose.invitationName, catalog.prose.invitationMechanic,
        catalog.prose.invitationBeat]
  | .arc .. => [catalog.prose.arcName, catalog.prose.arcMechanic, catalog.prose.arcBeat]
  | .seal _ => [catalog.prose.arcName, catalog.prose.sealMechanic, catalog.prose.sealBeat]
  | role =>
      let story := (catalog.beat? role).getD catalog.prologue
      [story.mechanic, story.beat.getD catalog.prose.defaultBeat]

section Chapters

variable (catalog : Catalog) (role : Role)

theorem words_names : (words catalog role).map Prod.fst = Catalog.wordNames :=
  rfl

theorem requires_telling :
    Requires (telling catalog role (words catalog role))
      (Catalog.Worded (tellingTemplates catalog role)) := by
  have fill (context : String) (template : Template) :
      Requires (render (words catalog role) context template)
        (template.AsksOnly Catalog.wordNames) := requires_render _ context template
  unfold telling
  cases role with
  | invitation | arc | «seal» =>
      exact ((fill _ _).bind fun _ => (fill _ _).bind fun _ => (fill _ _).map).congr
        (by simp [tellingTemplates])
  | prologue | keystone | hearing | price | finale =>
      exact ((fill _ _).bind fun _ => (fill _ _).map).congr (by simp [tellingTemplates])

theorem requires_quest :
    Requires (quest catalog role (words catalog role))
      (Catalog.Worded (tellingTemplates catalog role) ∧
        catalog.prose.premise.AsksOnly ("beat" :: Catalog.wordNames)) :=
  (requires_telling catalog role).bind fun _ => (requires_render _ _ _).map

theorem requires_chapter (some_ : catalog.domains ≠ [])
    (fits : catalog.layout.total < UInt32.size) (has : catalog.layout.Has role) :
    Requires (chapter catalog role)
      (Catalog.Worded (tellingTemplates catalog role ++ dialogTemplates catalog.dialog role) ∧
        catalog.prose.premise.AsksOnly ("beat" :: Catalog.wordNames)) := by
  have built := DialogPlan.requires_build ⟨catalog, role, words catalog role⟩
    (words_names catalog role) some_ fits has
  refine ((requires_quest catalog role).bind fun _ => built.map).congr ?_
  rw [Catalog.worded_append, and_right_comm]

end Chapters

end Web

end QuestWeb
