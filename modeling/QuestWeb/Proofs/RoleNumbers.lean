import QuestWeb.Proofs.CatalogCheck
import QuestWeb.Proofs.ChapterErrors
import QuestWeb.Proofs.Numbering

/-!
Numbers and roles tell each other. The numbers from one to the total stand for one role each, and no
other number stands for any, so a web never comes out other than its layout has it.
-/

namespace QuestWeb

namespace WebLayout

variable (layout : WebLayout)

theorem roleAt?_behind (place : Nat) (behind : layout.total ≤ place) :
    layout.roleAt? place = none := by
  obtain ⟨offset, rfl⟩ := Nat.exists_eq_add_of_le' behind
  rw [total, Nat.add_left_comm]
  exact layout.roleAt?_gate (offset + 4)

theorem roleAt?_eq_some (place : Nat) (role : Role) :
    layout.roleAt? place = some role ↔ layout.Has role ∧ layout.position role = place := by
  constructor
  · intro found
    have inside : place < layout.total := by
      refine Nat.lt_of_not_le fun behind => ?_
      simp [layout.roleAt?_behind place behind] at found
    obtain ⟨other, has, rfl⟩ := layout.exists_role place inside
    rw [layout.roleAt?_position other has, Option.some.injEq] at found
    exact found ▸ ⟨has, rfl⟩
  · rintro ⟨has, rfl⟩
    exact layout.roleAt?_position role has

theorem roles_getElem? (place : Nat) : layout.roles[place]? = layout.roleAt? place := by
  by_cases inside : place < layout.total
  · have listed : place < layout.roles.length := layout.roles_length ▸ inside
    have there : layout.position layout.roles[place] = place := by
      have places := congrArg (·[place]?) layout.roles_position
      simpa [List.getElem?_eq_getElem listed, inside] using places
    have has := (layout.mem_roles _).mp (List.getElem_mem listed)
    rw [List.getElem?_eq_getElem listed]
    exact ((layout.roleAt?_eq_some place _).mpr ⟨has, there⟩).symm
  · rw [layout.roleAt?_behind place (Nat.le_of_not_lt inside), List.getElem?_eq_none_iff,
      layout.roles_length]
    exact Nat.le_of_not_lt inside

section Numbers

variable (fits : layout.total < UInt32.size)

include fits

theorem role?_ofPosition (place : Nat) (inside : place < layout.total) :
    layout.role? (.ofPosition place) = layout.roleAt? place := by
  have value := QuestNum.ofPosition_val place (by omega)
  have positive : (QuestNum.ofPosition place).val ≠ 0 := by
    intro zero
    simp [zero] at value
  simp [role?, QuestNum.position?, positive, value]

theorem role?_eq_some (num : QuestNum) (role : Role) :
    layout.role? num = some role ↔ layout.Has role ∧ num = layout.num role := by
  constructor
  · intro found
    obtain ⟨place, here, told⟩ := Option.bind_eq_some_iff.mp found
    obtain ⟨has, rfl⟩ := (layout.roleAt?_eq_some place role).mp told
    refine ⟨has, (QuestNum.eq_ofPosition_iff num _ ?_).mpr ?_⟩
    · have := layout.position_lt role has
      omega
    · unfold QuestNum.position? at here
      split at here
      · cases here
      · rename_i positive
        have := num.toNat_pos positive
        have same := Option.some.inj here
        omega
  · rintro ⟨has, rfl⟩
    rw [num, layout.role?_ofPosition fits _ (layout.position_lt role has)]
    exact layout.roleAt?_position role has

/-- The numbers that stand for a role are those from one to the total. -/
theorem exists_role?_iff (num : QuestNum) :
    (∃ role, layout.role? num = some role) ↔
      1 ≤ num.val.toNat ∧ num.val.toNat ≤ layout.total := by
  constructor
  · rintro ⟨role, found⟩
    obtain ⟨has, rfl⟩ := (layout.role?_eq_some fits num role).mp found
    have value := layout.num_val fits role has
    have inside := layout.position_lt role has
    omega
  · rintro ⟨positive, most⟩
    obtain ⟨role, has, there⟩ := layout.exists_role (num.val.toNat - 1) (by omega)
    refine ⟨role, (layout.role?_eq_some fits num role).mpr ⟨has, ?_⟩⟩
    exact (QuestNum.eq_ofPosition_iff num _ (by omega)).mpr (by omega)

/-- Whatever the number is, it has a dialog of its own exactly if it stands for a role that has
one. -/
theorem overrides_eq (num : QuestNum) :
    layout.overrides[num]? = (layout.role? num).bind special? := by
  cases found : layout.role? num with
  | some role =>
      obtain ⟨has, rfl⟩ := (layout.role?_eq_some fits num role).mp found
      exact layout.overrides_num fits role has
  | none =>
      have apart (role : Role) (has : layout.Has role) : layout.num role ≠ num := by
        rintro rfl
        simp [(layout.role?_eq_some fits _ role).mpr ⟨has, rfl⟩] at found
      simp [overrides, Std.LawfulEqCmp.compare_eq_iff_eq, apart .keystone trivial,
        apart .hearing trivial, apart .finale trivial]

end Numbers

end WebLayout

namespace Web

section Chapters

variable (catalog : Catalog) (fits : catalog.layout.total < UInt32.size)

include fits

theorem chapterAt_listed (place : Nat) (role : Role)
    (listed : catalog.layout.roles[place]? = some role) :
    catalog.layout.Has role ∧ catalog.layout.position role = place ∧
      chapterAt catalog place role = chapter catalog role := by
  obtain ⟨has, rfl⟩ := (catalog.layout.roleAt?_eq_some place role).mp
    (catalog.layout.roles_getElem? place ▸ listed)
  exact ⟨has, rfl, if_pos ((catalog.layout.role?_eq_some fits _ role).mpr ⟨has, rfl⟩)⟩

/-- A catalog that passes its check has a web exactly if there are words for the templates of all
roles, and for the premise. -/
theorem requires_generate (checked : catalog.validate = .ok ()) :
    Requires (generate catalog)
      ((∀ role, catalog.layout.Has role →
          Catalog.Worded (tellingTemplates catalog role ++ dialogTemplates catalog.dialog role)) ∧
        catalog.prose.premise.AsksOnly ("beat" :: Catalog.wordNames)) := by
  have accepted := catalog.validate_eq_ok.mp checked
  have chapters : Requires
      (catalog.layout.roles.zipIdx.mapM fun entry => chapterAt catalog entry.2 entry.1)
      (∀ entry ∈ catalog.layout.roles.zipIdx,
        Catalog.Worded
            (tellingTemplates catalog entry.1 ++ dialogTemplates catalog.dialog entry.1) ∧
          catalog.prose.premise.AsksOnly ("beat" :: Catalog.wordNames)) := by
    refine .mapM fun entry listed => ?_
    obtain ⟨has, _, told⟩ := chapterAt_listed catalog fits entry.2 entry.1
      (List.mk_mem_zipIdx_iff_getElem?.mp listed)
    rw [told]
    exact requires_chapter catalog entry.1 accepted.domains fits has
  simp only [generate, checked, catalog.layout.roles_length, ↓reduceIte]
  refine chapters.map.congr ?_
  rw [forall_mem_zipIdx _ fun role =>
    Catalog.Worded (tellingTemplates catalog role ++ dialogTemplates catalog.dialog role) ∧
      catalog.prose.premise.AsksOnly ("beat" :: Catalog.wordNames)]
  simp only [catalog.layout.mem_roles]
  constructor
  · exact fun all => ⟨fun role has => (all role has).1, (all .prologue trivial).2⟩
  · rintro ⟨told, premise⟩ role has
    exact ⟨told role has, premise⟩

theorem generate_consistent (what : String) (expected actual : Nat) :
    generate catalog ≠ .error (.inconsistent what expected actual) := by
  intro failed
  cases checked : catalog.validate with
  | error defect => simp [generate, checked] at failed
  | ok =>
      obtain ⟨_, _, told⟩ := (requires_generate catalog fits checked).wants _ failed
      cases told

end Chapters

end Web

namespace WebLayout

/-- In a layout whose places can all be numbered, the numbers from one to the total stand for one
role each, which is the role of that number. So the roles come in the order of their numbers, no web
of the layout is found inconsistent, and the keystone, the hearing and the finale are the quests
with a dialog of their own. -/
theorem roles_numbered (layout : WebLayout) (fits : layout.total < UInt32.size) :
    (∀ num, (∃ role, layout.role? num = some role) ↔
      1 ≤ num.val.toNat ∧ num.val.toNat ≤ layout.total) ∧
    (∀ num role, layout.role? num = some role ↔ layout.Has role ∧ num = layout.num role) ∧
    (layout.roles.length = layout.total ∧ ∀ place < layout.total,
      layout.roles[place]? = layout.role? (.ofPosition place)) ∧
    (∀ catalog, catalog.layout = layout → ∀ what expected actual,
      Web.generate catalog ≠ .error (.inconsistent what expected actual)) ∧
    ∀ num, layout.overrides[num]? = (layout.role? num).bind special? := by
  refine ⟨layout.exists_role?_iff fits, layout.role?_eq_some fits,
    ⟨layout.roles_length, ?_⟩, ?_, layout.overrides_eq fits⟩
  · intro place inside
    rw [layout.role?_ofPosition fits place inside, roles_getElem?]
  · rintro catalog rfl
    exact Web.generate_consistent catalog fits

/-- Three arcs of a single quest: number five is the first seal, and number seven the last. -/
theorem roles_numbered_short :
    (⟨3, 1⟩ : WebLayout).total < UInt32.size ∧
    (⟨3, 1⟩ : WebLayout).role? ⟨5⟩ = some (.seal 0) ∧
    (⟨3, 1⟩ : WebLayout).role? ⟨8⟩ = some .keystone ∧
    ¬ ∃ role, (⟨3, 1⟩ : WebLayout).role? ⟨12⟩ = some role := by
  have fits : (⟨3, 1⟩ : WebLayout).total < UInt32.size := by decide
  obtain ⟨inside, exact, _⟩ := roles_numbered ⟨3, 1⟩ fits
  refine ⟨fits, (exact ⟨5⟩ (.seal 0)).mpr ⟨by simp [Has], by decide⟩,
    (exact ⟨8⟩ .keystone).mpr ⟨trivial, by decide⟩, ?_⟩
  rw [inside]
  decide

end WebLayout

end QuestWeb
