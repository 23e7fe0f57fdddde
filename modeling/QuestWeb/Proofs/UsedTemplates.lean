import QuestWeb.Proofs.Chapters
import QuestWeb.Proofs.CheckedWeb

/-!
What comes of a catalog. It is told which templates a web is told with, for not every web comes to
all of them, and with these what the generator gives back: a defect of the catalog, a template that
there is no word for, or a web with all its quests and dialogs.
-/

namespace QuestWeb

namespace Catalog

def commonTemplates (catalog : Catalog) : List Template :=
  let prose := catalog.prose
  let text := catalog.dialog
  [prose.invitationName, prose.invitationMechanic, prose.invitationBeat, prose.arcName,
    prose.sealMechanic, prose.sealBeat] ++
  catalog.beats.map (·.2.mechanic) ++ catalog.beats.filterMap (·.2.beat) ++
  [text.intro, text.hingeOpen, text.hingeLine, text.hingeClose, text.vow, text.closing,
    text.clauseChoice, text.answerFor, text.answerAgainst, text.invokeClause] ++
  text.proceed ++ text.close ++
  [text.keystone.opening, text.keystone.measure, text.keystone.take] ++ text.keystone.enter ++
  [text.hearing.opening, text.hearing.reduce, text.hearing.defy, text.hearing.verdict,
    text.hearing.finalize] ++
  [text.finale.opening, text.finale.choice, text.finale.endingSuffix]

def usedTemplates (catalog : Catalog) : List Template :=
  catalog.commonTemplates ++
  (if 2 ≤ catalog.arcLength then [catalog.prose.arcMechanic, catalog.prose.arcBeat] else []) ++
  if catalog.beats.any (·.2.beat.isNone) then [catalog.prose.defaultBeat] else []

/-- Some template that the web is told with has a slot that there is no word for. Only for the
premise there is a beat beside the other words. -/
def LacksWord (catalog : Catalog) : Prop :=
  (∃ template ∈ catalog.usedTemplates, ∃ slot ∈ template.slots, slot ∉ wordNames) ∨
    ∃ slot ∈ catalog.prose.premise.slots, slot ∉ "beat" :: wordNames

instance (catalog : Catalog) : Decidable catalog.LacksWord :=
  inferInstanceAs (Decidable (_ ∨ _))

end Catalog

namespace Web

theorem asksOnly_beat (beat : Option Template) (default_ : Template) (names : List String) :
    (beat.getD default_).AsksOnly names ↔
      (∀ own, beat = some own → own.AsksOnly names) ∧
        (beat.isNone = true → default_.AsksOnly names) := by
  cases beat <;> simp

theorem worded_beats (catalog : Catalog) :
    (Catalog.Worded (catalog.beats.map (·.2.mechanic)) ∧
        Catalog.Worded (catalog.beats.filterMap (·.2.beat)) ∧
        Catalog.Worded
          (if catalog.beats.any (·.2.beat.isNone) then [catalog.prose.defaultBeat] else [])) ↔
      ∀ entry ∈ catalog.beats, Catalog.Worded
        [entry.2.mechanic, entry.2.beat.getD catalog.prose.defaultBeat] := by
  have default_ : Catalog.Worded
      (if catalog.beats.any (·.2.beat.isNone) then [catalog.prose.defaultBeat] else []) ↔
        ∀ entry ∈ catalog.beats, entry.2.beat.isNone = true →
          catalog.prose.defaultBeat.AsksOnly Catalog.wordNames := by
    split
    · rename_i found
      obtain ⟨entry, listed, without⟩ := List.any_eq_true.mp found
      simp only [Catalog.worded_cons, Catalog.worded_nil, and_true]
      exact ⟨fun asks _ _ _ => asks, fun all => all entry listed without⟩
    · rename_i none
      simp only [List.any_eq_true, not_exists, not_and] at none
      simp only [Catalog.worded_nil, true_iff]
      exact fun entry listed without => absurd without (none entry listed)
  have own : Catalog.Worded (catalog.beats.filterMap (·.2.beat)) ↔
      ∀ entry ∈ catalog.beats, ∀ own, entry.2.beat = some own →
        own.AsksOnly Catalog.wordNames := by
    simp only [Catalog.Worded, List.mem_filterMap]
    constructor
    · exact fun all entry listed own told => all own ⟨entry, listed, told⟩
    · rintro all own ⟨entry, listed, told⟩
      exact all entry listed own told
  have mechanic : Catalog.Worded (catalog.beats.map (·.2.mechanic)) ↔
      ∀ entry ∈ catalog.beats, entry.2.mechanic.AsksOnly Catalog.wordNames :=
    List.forall_mem_map
  rw [mechanic, own, default_]
  simp only [Catalog.worded_cons, Catalog.worded_nil, and_true, asksOnly_beat]
  constructor
  · rintro ⟨mechanics, owns, defaults⟩ entry listed
    exact ⟨mechanics entry listed, owns entry listed, defaults entry listed⟩
  · intro all
    exact ⟨fun entry listed => (all entry listed).1, fun entry listed => (all entry listed).2.1,
      fun entry listed => (all entry listed).2.2⟩

/-- The templates that a web is told with are those of its roles. There is always an invitation and
a seal quest, but a step before the seal quest only in an arc of two quests or more. -/
theorem worded_usedTemplates (catalog : Catalog) (accepted : catalog.Accepted) :
    Catalog.Worded catalog.usedTemplates ↔
      ∀ role, catalog.layout.Has role →
        Catalog.Worded (tellingTemplates catalog role ++ dialogTemplates catalog.dialog role) := by
  have first : 0 < catalog.layout.domains := List.length_pos_iff.mpr accepted.domains
  have beats := worded_beats catalog
  simp only [Catalog.usedTemplates, Catalog.commonTemplates, Catalog.worded_append, and_assoc]
  constructor
  · rintro ⟨prose, mechanics, owns, general, proceed, close, keystone, enter, hearing, finale, arcs,
      default_⟩ role has
    have story := beats.mp ⟨mechanics, owns, default_⟩
    simp only [Catalog.beats, List.forall_mem_cons, Catalog.worded_cons, Catalog.worded_nil,
      and_true] at prose general keystone hearing finale story
    cases role with
    | arc domain step =>
        have long : 2 ≤ catalog.arcLength := Nat.le_trans (Nat.le_add_left 2 step) has.2
        rw [if_pos long] at arcs
        simp only [Catalog.worded_cons, Catalog.worded_nil, and_true] at arcs
        simp [tellingTemplates, dialogTemplates, generalTemplates, *]
    | _ => simp [tellingTemplates, dialogTemplates, generalTemplates, Catalog.beat?, *]
  · intro all
    have invitation := all (.invitation 0) first
    have last := all (.seal 0) ⟨first, accepted.arc⟩
    have prologue := all .prologue trivial
    have keystone := all .keystone trivial
    have hearing := all .hearing trivial
    have price := all .price trivial
    have finale := all .finale trivial
    simp only [tellingTemplates, dialogTemplates, generalTemplates, Catalog.beat?,
      Option.getD_some, Catalog.worded_append, Catalog.worded_cons, Catalog.worded_nil, and_true]
      at invitation last prologue keystone hearing price finale
    obtain ⟨mechanics, owns, default_⟩ := beats.mpr (by simp [Catalog.beats, *])
    refine ⟨by simp [*], mechanics, owns, by simp [*], by simp [*], by simp [*], by simp [*],
      by simp [*], by simp [*], by simp [*], ?_, default_⟩
    split
    · rename_i long
      have arc := all (.arc 0 0) ⟨first, long⟩
      simp only [tellingTemplates, Catalog.worded_cons] at arc
      simp [arc]
    · simp

theorem lacksWord_iff (catalog : Catalog) :
    catalog.LacksWord ↔ ¬ (Catalog.Worded catalog.usedTemplates ∧
      catalog.prose.premise.AsksOnly ("beat" :: Catalog.wordNames)) := by
  simp only [Catalog.LacksWord, Catalog.Worded, Template.AsksOnly,
    Classical.not_and_iff_not_or_not, Classical.not_forall, exists_prop]

section Generate

variable (catalog : Catalog) (fits : catalog.layout.total < UInt32.size)

include fits

theorem requires_words (checked : catalog.validate = .ok ()) :
    Requires (generate catalog) (¬ catalog.LacksWord) := by
  refine (requires_generate catalog fits checked).congr ?_
  rw [lacksWord_iff, Classical.not_not,
    worded_usedTemplates catalog (catalog.validate_eq_ok.mp checked)]

theorem generate_length (web : Web) (generated : generate catalog = .ok web) :
    web.quests.length = catalog.layout.total ∧ web.dialogs.length = catalog.layout.total := by
  have made := generate_made catalog web generated fits
  obtain ⟨_, _, chapters, _, rfl⟩ := generate_ok catalog web generated
  have quests := made.length
  rw [List.length_map] at quests
  exact ⟨by rw [List.length_map, quests], by rw [List.length_map, quests]⟩

end Generate

/-- What comes of any catalog whose quests can be numbered. No operation on the way lacks a value. A
defect is reported exactly if the check of the catalog finds it. If it finds none, a missing word is
reported exactly if one of the templates that the web is told with asks for a word that there is
none for, and in every other case there is a web, with all quests and dialogs of its layout. -/
theorem generate_outcome (catalog : Catalog) (fits : catalog.layout.total < UInt32.size) :
    (Checked.generate catalog).run = some (generate catalog) ∧
    (∀ defect, generate catalog = .error (.catalog defect) ↔ catalog.validate = .error defect) ∧
    (catalog.validate = .ok () →
      ((∃ context slot, generate catalog = .error (.template context slot)) ↔
        catalog.LacksWord)) ∧
    (catalog.validate = .ok () → ¬ catalog.LacksWord →
      ∃ web, generate catalog = .ok web ∧ web.quests.length = catalog.layout.total ∧
        web.dialogs.length = catalog.layout.total) := by
  refine ⟨congrArg ExceptT.run (Checked.generate_eq catalog fits), ?_, ?_, ?_⟩
  · intro defect
    cases checked : catalog.validate with
    | error found => simp [generate, checked]
    | ok =>
        simp only [reduceCtorEq, iff_false]
        intro failed
        obtain ⟨_, _, told⟩ := (requires_words catalog fits checked).wants _ failed
        cases told
  · intro checked
    have requires := requires_words catalog fits checked
    constructor
    · rintro ⟨context, slot, failed⟩
      refine Classical.byContradiction fun none => ?_
      obtain ⟨web, generated⟩ := requires.met.mpr none
      simp [generated] at failed
    · intro lacks
      cases result : generate catalog with
      | error error =>
          obtain ⟨context, slot, rfl⟩ := requires.wants error result
          exact ⟨context, slot, rfl⟩
      | ok web => exact absurd lacks (requires.met.mp ⟨web, result⟩)
  · intro checked none
    obtain ⟨web, generated⟩ := (requires_words catalog fits checked).met.mpr none
    exact ⟨web, generated, generate_length catalog fits web generated⟩

def moonlit (arcLength : Nat) : Catalog :=
  { triad with arcLength, prose := { triad.prose with arcBeat := ⟨[.slot "moon"]⟩ } }

/-- Arcs of a single quest never come to their beat, arcs of two do. -/
theorem generate_outcome_moonlit :
    ((moonlit 1).layout.total < UInt32.size ∧
      ∃ web, generate (moonlit 1) = .ok web ∧ web.quests.length = 11 ∧ web.dialogs.length = 11) ∧
    ((moonlit 2).layout.total < UInt32.size ∧
      ∃ context slot, generate (moonlit 2) = .error (.template context slot)) := by
  have short : (moonlit 1).layout.total < UInt32.size := by decide
  have long : (moonlit 2).layout.total < UInt32.size := by decide
  have valid (arcLength : Nat) (sound : (moonlit arcLength).defect? = none) :
      (moonlit arcLength).validate = .ok () := by rw [Catalog.validate, sound]
  obtain ⟨_, _, _, told⟩ := generate_outcome (moonlit 1) short
  obtain ⟨_, _, failed, _⟩ := generate_outcome (moonlit 2) long
  exact ⟨⟨short, told (valid 1 (by decide +kernel)) (by decide +kernel)⟩,
    long, (failed (valid 2 (by decide +kernel))).mpr (by decide +kernel)⟩

end Web

end QuestWeb
