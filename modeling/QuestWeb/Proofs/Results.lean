import Std.Data.ExtTreeMap

/-!
Results that may be an error, tables made from lists, and counts: what is known of the parts when
the whole is there.
-/

namespace QuestWeb

section Results

variable {ε α β γ : Type}

theorem bind_eq_ok (result : Except ε α) (next : α → Except ε β) (b : β) :
    (result >>= next) = .ok b ↔ ∃ a, result = .ok a ∧ next a = .ok b := by
  cases result <;> simp [bind, Except.bind]

theorem pure_eq_ok (a b : α) : (pure a : Except ε α) = .ok b ↔ a = b := by
  simp [pure, Except.pure]

theorem mapM_cons_ok (f : α → Except ε β) (a : α) (rest : List α) (out : List β) :
    (a :: rest).mapM f = .ok out ↔
      ∃ b others, f a = .ok b ∧ rest.mapM f = .ok others ∧ out = b :: others := by
  rw [List.mapM_cons, bind_eq_ok]
  constructor
  · rintro ⟨b, made, bound⟩
    obtain ⟨others, followed, same⟩ := (bind_eq_ok _ _ _).mp bound
    exact ⟨b, others, made, followed, ((pure_eq_ok _ _).mp same).symm⟩
  · rintro ⟨b, others, made, followed, rfl⟩
    exact ⟨b, made, (bind_eq_ok _ _ _).mpr ⟨others, followed, rfl⟩⟩

/-- What is read off every output of a list can be read off the inputs. -/
theorem mapM_ok_map (f : α → Except ε β) (ofInput : α → γ) (ofOutput : β → γ)
    (each : ∀ a b, f a = .ok b → ofOutput b = ofInput a) (inputs : List α) (outputs : List β)
    (made : inputs.mapM f = .ok outputs) : outputs.map ofOutput = inputs.map ofInput := by
  induction inputs generalizing outputs with
  | nil =>
      rw [List.mapM_nil, pure_eq_ok] at made
      subst made
      rfl
  | cons a rest ih =>
      obtain ⟨b, others, first, later, rfl⟩ := (mapM_cons_ok f a rest outputs).mp made
      simp [each a b first, ih others later]

/-- A step that can be told from less of the input can be made on less of it. -/
theorem mapM_ok_told (f : α → Except ε β) (g : γ → Except ε β) (told : α → γ)
    (each : ∀ a b, f a = .ok b → g (told a) = .ok b) (inputs : List α) (outputs : List β)
    (made : inputs.mapM f = .ok outputs) : (inputs.map told).mapM g = .ok outputs := by
  induction inputs generalizing outputs with
  | nil => exact made
  | cons a rest ih =>
      obtain ⟨b, others, first, later, rfl⟩ := (mapM_cons_ok f a rest outputs).mp made
      exact (mapM_cons_ok g _ _ _).mpr ⟨b, others, each a b first, ih others later, rfl⟩

theorem mapM_ok_source (f : α → Except ε β) (inputs : List α) (outputs : List β)
    (made : inputs.mapM f = .ok outputs) (b : β) (member : b ∈ outputs) :
    ∃ a ∈ inputs, f a = .ok b := by
  induction inputs generalizing outputs with
  | nil =>
      rw [List.mapM_nil, pure_eq_ok] at made
      subst made
      simp at member
  | cons a rest ih =>
      obtain ⟨first, others, here, later, rfl⟩ := (mapM_cons_ok f a rest outputs).mp made
      rcases List.mem_cons.mp member with rfl | behind
      · exact ⟨a, List.mem_cons_self, here⟩
      · obtain ⟨source, listed, same⟩ := ih others later behind
        exact ⟨source, List.mem_cons_of_mem _ listed, same⟩

theorem mapM_ok_target (f : α → Except ε β) (inputs : List α) (outputs : List β)
    (made : inputs.mapM f = .ok outputs) (a : α) (member : a ∈ inputs) :
    ∃ b ∈ outputs, f a = .ok b := by
  induction inputs generalizing outputs with
  | nil => simp at member
  | cons first rest ih =>
      obtain ⟨b, others, here, later, rfl⟩ := (mapM_cons_ok f first rest outputs).mp made
      rcases List.mem_cons.mp member with rfl | behind
      · exact ⟨b, List.mem_cons_self, here⟩
      · obtain ⟨target, listed, same⟩ := ih others later behind
        exact ⟨target, List.mem_cons_of_mem _ listed, same⟩

end Results

section Tables

variable {κ α : Type} [Ord κ] [Std.TransOrd κ]

theorem values_eq (table : Std.ExtTreeMap κ α) : table.values = table.toList.map Prod.snd := by
  have folded : table.values = table.foldr (fun _ value rest => value :: rest) [] := by
    rcases table with ⟨⟨inner⟩⟩
    induction inner using Quotient.ind
    rfl
  rw [folded, Std.ExtTreeMap.foldr_eq_foldr_toList]
  induction table.toList with
  | nil => rfl
  | cons entry rest ih => simp [ih]

variable [Std.LawfulEqOrd κ]

theorem mem_values (table : Std.ExtTreeMap κ α) (value : α) :
    value ∈ table.values ↔ ∃ key : κ, table[key]? = some value := by
  simp [values_eq, Std.ExtTreeMap.mem_toList_iff_getElem?_eq_some]

theorem getElem?_ofList [DecidableEq κ] (entries : List (κ × α))
    (distinct : (entries.map Prod.fst).Nodup) (key : κ) (value : α) :
    (Std.ExtTreeMap.ofList entries)[key]? = some value ↔ (key, value) ∈ entries := by
  have apart : entries.Pairwise fun a b => ¬ compare a.1 b.1 = .eq := by
    rw [List.Nodup, List.pairwise_map] at distinct
    refine distinct.imp fun differs same => ?_
    exact differs (Std.LawfulEqOrd.eq_of_compare same)
  constructor
  · intro found
    by_cases listed : key ∈ entries.map Prod.fst
    · obtain ⟨⟨_, other⟩, member, rfl⟩ := List.mem_map.mp listed
      rw [Std.ExtTreeMap.getElem?_ofList_of_mem Std.ReflCmp.compare_self apart member,
        Option.some.injEq] at found
      exact found ▸ member
    · have absent : (entries.map Prod.fst).contains key = false := by
        rw [← Bool.not_eq_true, List.contains_iff_mem]
        exact listed
      rw [Std.ExtTreeMap.getElem?_ofList_of_contains_eq_false absent] at found
      simp at found
  · intro member
    exact Std.ExtTreeMap.getElem?_ofList_of_mem Std.ReflCmp.compare_self apart member

theorem contains_insert [BEq κ] [LawfulBEq κ] (table : Std.ExtTreeMap κ α) (key other : κ)
    (value : α) :
    (table.insert key value).contains other = (table.contains other || key == other) := by
  rw [Std.ExtTreeMap.contains_insert, Bool.or_comm]
  congr 1
  rw [Bool.eq_iff_iff]
  simp [Std.LawfulEqCmp.compare_eq_iff_eq]

end Tables

theorem nodup_map {α β γ : Type} (list : List α) (told : α → β) (part : α → γ)
    (tells : ∀ a ∈ list, ∀ b ∈ list, part a = part b → told a = told b)
    (distinct : (list.map told).Nodup) : (list.map part).Nodup := by
  rw [List.Nodup, List.pairwise_map] at distinct ⊢
  refine List.Pairwise.imp_of_mem ?_ distinct
  intro a b listed also apart same
  exact apart (tells a listed b also same)

theorem countP_lt {α : Type} (list : List α) (fewer more : α → Bool)
    (less : ∀ a ∈ list, fewer a = true → more a = true) (a : α) (listed : a ∈ list)
    (kept : more a = true) (dropped : fewer a = false) : list.countP fewer < list.countP more := by
  obtain ⟨front, back, rfl⟩ := List.append_of_mem listed
  rw [List.countP_append, List.countP_append, List.countP_cons_of_pos kept,
    List.countP_cons_of_neg (by simp [dropped])]
  have first : front.countP fewer ≤ front.countP more :=
    List.countP_mono_left fun b member => less b (List.mem_append_left _ member)
  have second : back.countP fewer ≤ back.countP more :=
    List.countP_mono_left fun b member =>
      less b (List.mem_append_right _ (List.mem_cons_of_mem _ member))
  omega

end QuestWeb
