import QuestWeb.Decoder.Record

/-!
Records in canonical form. Bringing an object into canonical form moves its members about, so what
stands under the names of one field stays what it was.
-/

namespace QuestWeb

namespace Json

theorem placeMember_nil (member : String × Json) : placeMember member [] = [member] :=
  rfl

theorem placeMember_before (key next : String) (item content : Json)
    (rest : List (String × Json)) (less : key < next) :
    placeMember (key, item) ((next, content) :: rest) = (key, item) :: (next, content) :: rest :=
  if_pos less

theorem placeMember_behind (key next : String) (item content : Json)
    (rest : List (String × Json)) (more : ¬ key < next) (apart : key ≠ next) :
    placeMember (key, item) ((next, content) :: rest) =
      (next, content) :: placeMember (key, item) rest :=
  (if_neg more).trans (if_neg apart)

theorem placeMember_perm (member : String × Json) (members : List (String × Json))
    (new : member.1 ∉ members.map Prod.fst) :
    (placeMember member members).Perm (member :: members) := by
  induction members with
  | nil => exact .refl _
  | cons next rest ih =>
      rw [List.map_cons, List.mem_cons, not_or] at new
      unfold placeMember
      split
      · exact .refl _
      · rw [if_neg new.1]
        exact ((ih new.2).cons next).trans (.swap member next rest)

theorem freeItems?_cons (item : Json) (rest values : List Json) :
    freeItems? (item :: rest) = some values ↔ ∃ value others,
      item.free? = some value ∧ freeItems? rest = some others ∧ values = value :: others := by
  rw [freeItems?]
  cases item.free? with
  | none => simp
  | some value =>
      cases freeItems? rest with
      | none => simp
      | some others => simp [eq_comm]

theorem freeMembers?_cons (key : String) (item : Json) (rest values : List (String × Json))
    (freed : freeMembers? ((key, item) :: rest) = some values) :
    ∃ value others, item.free? = some value ∧ freeMembers? rest = some others ∧
      values = placeMember (key, value) others := by
  unfold freeMembers? at freed
  cases first : item.free? with
  | none => simp [first] at freed
  | some value =>
      cases later : freeMembers? rest with
      | none => simp [first, later] at freed
      | some others =>
          simp only [first, later, Option.some.injEq] at freed
          exact ⟨value, others, rfl, rfl, freed.symm⟩

theorem mem_placeMember (member other : String × Json) (members : List (String × Json))
    (listed : other ∈ placeMember member members) : other = member ∨ other ∈ members := by
  induction members with
  | nil => exact .inl (List.mem_singleton.mp listed)
  | cons next rest ih =>
      unfold placeMember at listed
      split at listed
      · exact List.mem_cons.mp listed
      · split at listed
        · exact .inr listed
        · rcases List.mem_cons.mp listed with rfl | behind
          · exact .inr List.mem_cons_self
          · exact (ih behind).imp_right (List.mem_cons_of_mem _)

theorem freeMembers?_keys (members values : List (String × Json))
    (freed : freeMembers? members = some values) (key : String)
    (listed : key ∈ values.map Prod.fst) : key ∈ members.map Prod.fst := by
  induction members generalizing values with
  | nil =>
      cases freed
      simp at listed
  | cons first rest ih =>
      obtain ⟨value, others, _, later, rfl⟩ := freeMembers?_cons first.1 first.2 rest values freed
      obtain ⟨member, found, rfl⟩ := List.mem_map.mp listed
      rw [List.map_cons, List.mem_cons]
      rcases mem_placeMember _ member others found with rfl | behind
      · exact .inl rfl
      · exact .inr (ih others later (List.mem_map.mpr ⟨member, behind, rfl⟩))

/-- The members whose keys differ, each with its value in canonical form. -/
theorem freeMembers?_perm (key : String) (item : Json) (rest values : List (String × Json))
    (freed : freeMembers? ((key, item) :: rest) = some values)
    (new : key ∉ rest.map Prod.fst) :
    ∃ value others, item.free? = some value ∧ freeMembers? rest = some others ∧
      values.Perm ((key, value) :: others) := by
  obtain ⟨value, others, first, later, rfl⟩ := freeMembers?_cons key item rest values freed
  exact ⟨value, others, first, later, placeMember_perm (key, value) others
    fun listed => new (freeMembers?_keys rest others later key listed)⟩

theorem freeMembers?_none (members values : List (String × Json)) (wanted : String → Bool)
    (freed : freeMembers? members = some values)
    (absent : members.filter (wanted ·.1) = []) : values.filter (wanted ·.1) = [] := by
  rw [List.filter_eq_nil_iff] at absent ⊢
  intro member listed asked
  have key := freeMembers?_keys members values freed member.1
    (List.mem_map.mpr ⟨member, listed, rfl⟩)
  obtain ⟨other, also, same⟩ := List.mem_map.mp key
  exact absent other also (same ▸ asked)

theorem filter_placeMember (member : String × Json) (members : List (String × Json))
    (wanted : String → Bool) (unwanted : wanted member.1 = false) :
    (placeMember member members).filter (wanted ·.1) = members.filter (wanted ·.1) := by
  induction members with
  | nil => simp [placeMember, unwanted]
  | cons next rest ih =>
      unfold placeMember
      split
      · simp [unwanted]
      · split
        · rfl
        · simp only [List.filter_cons, ih]

theorem freeMembers?_one (members values : List (String × Json)) (wanted : String → Bool)
    (freed : freeMembers? members = some values) (key : String) (item : Json)
    (only : members.filter (wanted ·.1) = [(key, item)]) :
    ∃ value, item.free? = some value ∧ values.filter (wanted ·.1) = [(key, value)] := by
  induction members generalizing values with
  | nil => simp at only
  | cons first rest ih =>
      obtain ⟨name, content⟩ := first
      obtain ⟨value, others, free, later, rfl⟩ := freeMembers?_cons name content rest values freed
      cases asked : wanted name with
      | true =>
          simp only [List.filter_cons, asked, ↓reduceIte] at only
          obtain ⟨same, none⟩ := List.cons.inj only
          obtain ⟨rfl, rfl⟩ := Prod.mk.inj same
          have absent := freeMembers?_none rest others wanted later none
          -- The member may end up elsewhere, but not under other keys.
          have new : name ∉ others.map Prod.fst := by
            intro listed
            obtain ⟨member, own, rfl⟩ := List.mem_map.mp listed
            exact List.filter_eq_nil_iff.mp absent member own asked
          have kept := (placeMember_perm (name, value) others new).filter (wanted ·.1)
          simp only [List.filter_cons, asked, ↓reduceIte, absent] at kept
          exact ⟨value, free, List.perm_singleton.mp kept⟩
      | false =>
          simp only [List.filter_cons, asked, Bool.false_eq_true, ↓reduceIte] at only
          rw [filter_placeMember (name, value) others wanted asked]
          exact ih others later only

end Json

end QuestWeb
