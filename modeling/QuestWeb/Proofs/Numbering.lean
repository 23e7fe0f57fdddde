import QuestWeb.Proofs.QuestNumbers
import QuestWeb.Web.Layout

/-!
The numbering of a web. Every role has its own place, the places of the roles are the numbers below
the total, and a quest only depends on quests that stand before it.
-/

namespace QuestWeb.WebLayout

variable (layout : WebLayout)

def Has : Role → Prop
  | .invitation domain => domain < layout.domains
  | .arc domain step => domain < layout.domains ∧ step + 1 < layout.arcLength
  | .seal domain => domain < layout.domains ∧ 0 < layout.arcLength
  | _ => True

theorem arcRole_has (domain step : Nat) (inside : domain < layout.domains)
    (early : step < layout.arcLength) : layout.Has (layout.arcRole domain step) := by
  unfold arcRole
  split
  · exact ⟨inside, by omega⟩
  · exact ⟨inside, by omega⟩

theorem position_arcRole (domain step : Nat) :
    layout.position (layout.arcRole domain step) = layout.arcPosition domain step := by
  unfold arcRole
  split
  · rename_i last
    simp [position, ← last]
  · rfl

theorem num_arcRole (domain step : Nat) :
    layout.num (layout.arcRole domain step) = layout.arcQuest domain step := by
  rw [num, position_arcRole, arcQuest]

theorem arcRole_step (domain : Nat) :
    (∀ step, layout.Has (.arc domain step) → layout.arcRole domain step = .arc domain step) ∧
      (layout.Has (.seal domain) →
        layout.arcRole domain (layout.arcLength - 1) = .seal domain) := by
  constructor
  · intro step has
    have early : step + 1 ≠ layout.arcLength := Nat.ne_of_lt has.2
    simp [arcRole, early]
  · intro has
    have last : layout.arcLength - 1 + 1 = layout.arcLength := Nat.sub_add_cancel has.2
    simp [arcRole, last]

theorem arc_offset_lt (domain step : Nat) (inside : domain < layout.domains)
    (early : step < layout.arcLength) :
    domain * layout.arcLength + step < layout.domains * layout.arcLength := by
  calc domain * layout.arcLength + step
      < domain * layout.arcLength + layout.arcLength := Nat.add_lt_add_left early _
    _ = (domain + 1) * layout.arcLength := (Nat.succ_mul _ _).symm
    _ ≤ layout.domains * layout.arcLength := Nat.mul_le_mul_right _ inside

theorem arcPosition_lt (domain step : Nat) (inside : domain < layout.domains)
    (early : step < layout.arcLength) : layout.arcPosition domain step < layout.gatesStart := by
  have offset := layout.arc_offset_lt domain step inside early
  simp only [arcPosition, gatesStart]
  omega

theorem position_lt (role : Role) (has : layout.Has role) :
    layout.position role < layout.total := by
  cases role with
  | invitation domain =>
      have inside : domain < layout.domains := has
      simp only [position, total, gatesStart, arcsStart]
      omega
  | arc domain step =>
      have early := layout.arcPosition_lt domain step has.1 (by have := has.2; omega)
      simp only [position, total]
      omega
  | «seal» domain =>
      have early := layout.arcPosition_lt domain (layout.arcLength - 1) has.1
        (by have := has.2; omega)
      simp only [position, total]
      omega
  | _ =>
      simp only [position, total]
      omega

theorem roleAt?_arcPosition (domain step : Nat) (inside : domain < layout.domains)
    (early : step < layout.arcLength) :
    layout.roleAt? (layout.arcPosition domain step) = some (layout.arcRole domain step) := by
  have before := layout.arcPosition_lt domain step inside early
  have offset : layout.arcPosition domain step - layout.arcsStart =
      step + domain * layout.arcLength := by
    simp only [arcPosition]
    omega
  -- Dividing by the length of an arc gives the domain, the rest is the step.
  have quotient : (step + domain * layout.arcLength) / layout.arcLength = domain := by
    rw [Nat.add_mul_div_right _ _ (by omega), Nat.div_eq_of_lt early, Nat.zero_add]
  have remainder : (step + domain * layout.arcLength) % layout.arcLength = step := by
    rw [Nat.add_mul_mod_self_right, Nat.mod_eq_of_lt early]
  have positive : layout.arcPosition domain step ≠ 0 := by
    simp only [arcPosition, arcsStart]
    omega
  have behind : ¬ layout.arcPosition domain step < layout.arcsStart := by
    simp only [arcPosition]
    omega
  simp [roleAt?, positive, behind, before, offset, quotient, remainder]

theorem roleAt?_gate (offset : Nat) :
    layout.roleAt? (layout.gatesStart + offset) =
      match offset with
      | 0 => some .keystone
      | 1 => some .hearing
      | 2 => some .price
      | 3 => some .finale
      | _ => none := by
  have positive : layout.gatesStart + offset ≠ 0 := by
    simp only [gatesStart, arcsStart]
    omega
  have arcs : ¬ layout.gatesStart + offset < layout.arcsStart := by
    simp only [gatesStart]
    omega
  have behind : ¬ layout.gatesStart + offset < layout.gatesStart := by omega
  unfold roleAt?
  rcases offset with _ | _ | _ | _ | offset <;>
    simp only [positive, arcs, behind, ↓reduceIte, Nat.add_sub_cancel_left]

theorem roleAt?_position (role : Role) (has : layout.Has role) :
    layout.roleAt? (layout.position role) = some role := by
  cases role with
  | prologue => simp [roleAt?, position]
  | invitation domain =>
      have inside : domain < layout.domains := has
      have early : 1 + domain < layout.arcsStart := by
        simp only [arcsStart]
        omega
      simp [roleAt?, position, early]
  | arc domain step =>
      have found := layout.roleAt?_arcPosition domain step has.1 (by have := has.2; omega)
      rwa [(layout.arcRole_step domain).1 step has] at found
  | «seal» domain =>
      have found := layout.roleAt?_arcPosition domain (layout.arcLength - 1) has.1
        (by have := has.2; omega)
      rwa [(layout.arcRole_step domain).2 has] at found
  | keystone => exact layout.roleAt?_gate 0
  | hearing => exact layout.roleAt?_gate 1
  | price => exact layout.roleAt?_gate 2
  | finale => exact layout.roleAt?_gate 3

theorem position_inj (role other : Role) (has : layout.Has role) (also : layout.Has other)
    (same : layout.position role = layout.position other) : role = other := by
  have found := layout.roleAt?_position role has
  rw [same, layout.roleAt?_position other also] at found
  exact (Option.some.inj found).symm

theorem flatMap_range (rows width : Nat) :
    ((List.range rows).flatMap fun row => (List.range width).map fun place => row * width + place) =
      List.range (rows * width) := by
  induction rows with
  | zero => simp
  | succ rows ih =>
      rw [List.range_succ, List.flatMap_append, ih, Nat.succ_mul, List.range_add]
      simp

theorem roles_position : layout.roles.map layout.position = List.range layout.total := by
  -- Invitations, arcs and gates each fill a stretch of numbers, one behind the other.
  have arcs : ((List.range layout.domains).flatMap fun domain =>
        (List.range layout.arcLength).map (layout.arcRole domain)).map layout.position =
      (List.range (layout.domains * layout.arcLength)).map (layout.arcsStart + ·) := by
    rw [← flatMap_range, List.map_flatMap, List.map_flatMap]
    congr 1
    funext domain
    simp only [List.map_map]
    refine List.map_congr_left fun step _ => ?_
    simp only [Function.comp_apply, position_arcRole, arcPosition]
    omega
  have invitations : (Role.prologue :: (List.range layout.domains).map .invitation).map
      layout.position = List.range layout.arcsStart := by
    rw [arcsStart, List.range_add]
    simp [position, Function.comp_def]
  rw [roles, List.map_append, List.map_append, invitations, arcs, total, List.range_add,
    gatesStart, List.range_add]
  simp [position, gatesStart, List.range_succ]

theorem roles_length : layout.roles.length = layout.total := by
  have lengths := congrArg List.length layout.roles_position
  simpa using lengths

theorem mem_roles (role : Role) : role ∈ layout.roles ↔ layout.Has role := by
  constructor
  · intro member
    simp only [roles, List.cons_append, List.mem_cons, List.mem_append, List.mem_map,
      List.mem_range, List.mem_flatMap, List.not_mem_nil, or_false] at member
    rcases member with rfl | (⟨domain, inside, rfl⟩ | ⟨domain, inside, step, early, rfl⟩) | gate
    · trivial
    · exact inside
    · exact layout.arcRole_has domain step inside early
    · rcases gate with rfl | rfl | rfl | rfl <;> trivial
  · intro has
    simp only [roles, List.cons_append, List.mem_cons, List.mem_append, List.mem_map,
      List.mem_range, List.mem_flatMap, List.not_mem_nil, or_false]
    cases role with
    | invitation domain => exact .inr (.inl (.inl ⟨domain, has, rfl⟩))
    | arc domain step =>
        exact .inr (.inl (.inr ⟨domain, has.1, step, by have := has.2; omega,
          (layout.arcRole_step domain).1 step has⟩))
    | «seal» domain =>
        exact .inr (.inl (.inr ⟨domain, has.1, layout.arcLength - 1, by have := has.2; omega,
          (layout.arcRole_step domain).2 has⟩))
    | _ => simp

theorem exists_role (place : Nat) (inside : place < layout.total) :
    ∃ role, layout.Has role ∧ layout.position role = place := by
  have member : place ∈ layout.roles.map layout.position := by
    rw [roles_position]
    exact List.mem_range.mpr inside
  obtain ⟨role, listed, same⟩ := List.mem_map.mp member
  exact ⟨role, (layout.mem_roles role).mp listed, same⟩

def special? : Role → Option SpecialDialog
  | .keystone => some .keystone
  | .hearing => some .hearing
  | .finale => some .finale
  | _ => none

section Numbers

variable (fits : layout.total < UInt32.size)

include fits

theorem num_val (role : Role) (has : layout.Has role) :
    (layout.num role).val.toNat = layout.position role + 1 := by
  have early := layout.position_lt role has
  exact QuestNum.ofPosition_val _ (by omega)

theorem num_inj (role other : Role) (has : layout.Has role) (also : layout.Has other)
    (same : layout.num role = layout.num other) : role = other := by
  apply layout.position_inj role other has also
  have left := layout.num_val fits role has
  rw [same, layout.num_val fits other also] at left
  omega

theorem num_eq_iff (role other : Role) (has : layout.Has role) (also : layout.Has other) :
    layout.num role = layout.num other ↔ role = other :=
  ⟨layout.num_inj fits role other has also, congrArg layout.num⟩

/-- The quests with a dialog of their own are the keystone, the hearing and the finale. -/
theorem overrides_num (role : Role) (has : layout.Has role) :
    layout.overrides[layout.num role]? = special? role := by
  have keystone := layout.num_eq_iff fits .keystone role trivial has
  have hearing := layout.num_eq_iff fits .hearing role trivial has
  have finale := layout.num_eq_iff fits .finale role trivial has
  simp only [overrides, Std.ExtTreeMap.getElem?_insert, Std.LawfulEqCmp.compare_eq_iff_eq,
    keystone, hearing, finale, Std.ExtTreeMap.getElem?_empty]
  cases role <;> simp [special?]

end Numbers

theorem arcQuest_before (domain step : Nat) (inside : domain < layout.domains)
    (early : step < layout.arcLength) (num : QuestNum) (named : num = layout.arcQuest domain step)
    (place : Nat) (behind : layout.arcPosition domain step < place) :
    ∃ other, layout.Has other ∧ num = layout.num other ∧ layout.position other < place :=
  ⟨layout.arcRole domain step, layout.arcRole_has domain step inside early,
    named.trans (layout.num_arcRole domain step).symm, layout.position_arcRole domain step ▸ behind⟩

theorem seal_before (domain : Nat) (has : layout.Has (.seal domain)) (num : QuestNum)
    (listed : num ∈ layout.dependencies (.seal domain)) :
    ∃ other, layout.Has other ∧ num = layout.num other ∧
      layout.position other < layout.position (.seal domain) := by
  have inside := has.1
  have positive := has.2
  simp only [dependencies] at listed
  -- With arcs of a single quest the seal quest follows right upon its invitation.
  split at listed
  · rw [List.mem_singleton] at listed
    refine ⟨.invitation domain, has.1, listed, ?_⟩
    simp only [position, arcPosition, arcsStart]
    omega
  · rw [List.mem_singleton] at listed
    refine layout.arcQuest_before domain _ has.1 (by omega) num listed _ ?_
    simp only [position, arcPosition]
    omega

/-- A quest depends on quests with smaller numbers only. -/
theorem dependencies_before (role : Role) (has : layout.Has role) (num : QuestNum)
    (listed : num ∈ layout.dependencies role) :
    ∃ other, layout.Has other ∧ num = layout.num other ∧
      layout.position other < layout.position role := by
  cases role with
  | prologue => simp [dependencies] at listed
  | invitation domain =>
      simp only [dependencies, List.mem_singleton] at listed
      exact ⟨.prologue, trivial, listed, by simp only [position]; omega⟩
  | arc domain step =>
      cases step with
      | zero =>
          simp only [dependencies, List.mem_singleton] at listed
          have inside := has.1
          refine ⟨.invitation domain, has.1, listed, ?_⟩
          simp only [position, arcPosition, arcsStart]
          omega
      | succ step =>
          simp only [dependencies, List.mem_singleton] at listed
          have early := has.2
          refine layout.arcQuest_before domain step has.1 (by omega) num listed _ ?_
          simp only [position, arcPosition]
          omega
  | «seal» domain => exact layout.seal_before domain has num listed
  | keystone =>
      simp only [dependencies, List.mem_singleton] at listed
      refine ⟨.prologue, trivial, listed, ?_⟩
      simp only [position, gatesStart, arcsStart]
      omega
  | hearing =>
      simp only [dependencies, List.mem_singleton] at listed
      exact ⟨.keystone, trivial, listed, by simp only [position]; omega⟩
  | price =>
      simp only [dependencies, List.mem_singleton] at listed
      exact ⟨.hearing, trivial, listed, by simp only [position]; omega⟩
  | finale =>
      simp only [dependencies, List.mem_singleton] at listed
      exact ⟨.price, trivial, listed, by simp only [position]; omega⟩

end QuestWeb.WebLayout
