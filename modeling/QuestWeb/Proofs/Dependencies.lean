import QuestWeb.Proofs.ClosingEdges
import QuestWeb.Proofs.QuestNumbers
import QuestWeb.Quest.Dependency.Check

/-!
What the check of a quest list asks for: as many quests as there are records, each at the place of
its number, and dependencies on quests of the list that lead into no circle. Where some records
could not be read, places are not compared; the numbers alone then tell that one is missing.
-/

namespace QuestWeb.DependencyGraph

theorem contains_addQuest (graph : DependencyGraph) (quest : Quest) (num : QuestNum) :
    (graph.addQuest quest).contains num = (graph.contains num || quest.num == num) := by
  unfold addQuest add contains
  rw [contains_insert]

theorem mem_dependencies_addQuest (graph : DependencyGraph) (quest : Quest)
    (num other : QuestNum) :
    other ∈ (graph.addQuest quest).dependencies num ↔
      other ∈ graph.dependencies num ∨ quest.num = num ∧ other ∈ quest.dependencies := by
  simp only [addQuest, add, dependencies, Std.ExtTreeMap.getElem?_insert,
    Std.LawfulEqCmp.compare_eq_iff_eq]
  split
  · rename_i same
    subst same
    simp
  · rename_i differs
    simp [differs]

theorem contains_ofQuests (quests : List Quest) (num : QuestNum) :
    (ofQuests quests).contains num = quests.any (·.num == num) := by
  have each (graph : DependencyGraph) : (quests.foldl addQuest graph).contains num =
      (graph.contains num || quests.any (·.num == num)) := by
    induction quests generalizing graph with
    | nil => simp
    | cons quest rest ih =>
        rw [List.foldl_cons, ih, contains_addQuest, List.any_cons, Bool.or_assoc]
  rw [ofQuests, each]
  simp [empty, contains]

theorem mem_dependencies_ofQuests (quests : List Quest) (num other : QuestNum) :
    other ∈ (ofQuests quests).dependencies num ↔
      ∃ quest ∈ quests, quest.num = num ∧ other ∈ quest.dependencies := by
  have each (graph : DependencyGraph) :
      other ∈ (quests.foldl addQuest graph).dependencies num ↔
        other ∈ graph.dependencies num ∨
          ∃ quest ∈ quests, quest.num = num ∧ other ∈ quest.dependencies := by
    induction quests generalizing graph with
    | nil => simp
    | cons quest rest ih =>
        rw [List.foldl_cons, ih, mem_dependencies_addQuest, or_assoc]
        simp
  rw [ofQuests, each]
  simp [empty, dependencies]

theorem dangling_eq_nil (graph : DependencyGraph) :
    graph.dangling = [] ↔
      ∀ num, ∀ other ∈ graph.dependencies num, graph.contains other = true := by
  simp only [dangling, List.flatMap_eq_nil_iff, List.map_eq_nil_iff, List.filter_eq_nil_iff,
    Prod.forall, Std.ExtTreeMap.mem_toList_iff_getElem?_eq_some, Bool.not_eq_true',
    Bool.not_eq_false]
  constructor
  · intro all num other listed
    cases known : graph.edges[num]? with
    | none => simp [dependencies, known] at listed
    | some dependencies_ =>
        simp only [dependencies, known, Option.getD_some] at listed
        exact all num dependencies_ known other listed
  · intro all num dependencies_ known other listed
    exact all num other (by simpa [dependencies, known] using listed)

variable {quests : List Quest}

def Placed (quests : List Quest) : Prop :=
  ∀ (index : Nat) (quest : Quest), quests[index]? = some quest → quest.num = .ofPosition index

theorem misplaced_eq_nil (file : String) (position : Nat) (quests : List Quest) :
    misplaced file position quests = [] ↔ ∀ (index : Nat) (quest : Quest),
      quests[index]? = some quest → quest.num = .ofPosition (position + index) := by
  induction quests generalizing position with
  | nil => simp [misplaced]
  | cons quest rest ih =>
      simp only [misplaced]
      split
      · rename_i here
        rw [ih]
        constructor
        · intro later index other listed
          cases index with
          | zero => cases listed; exact here
          | succ index =>
              rw [later index other (by simpa using listed)]
              congr 1
              omega
        · intro placed index other listed
          rw [placed (index + 1) other (by simpa using listed)]
          congr 1
          omega
      · rename_i elsewhere
        simp only [reduceCtorEq, false_iff]
        exact fun placed => elsewhere (placed 0 quest rfl)

theorem tally_getD (quests : List Quest) (num : QuestNum) :
    ((tally quests)[num]?).getD 0 = quests.countP (·.num == num) := by
  have each (counts : Std.ExtTreeMap QuestNum Nat) : ((quests.foldl
      (fun counts quest => counts.insert quest.num ((counts[quest.num]?).getD 0 + 1))
        counts)[num]?).getD 0 = (counts[num]?).getD 0 + quests.countP (·.num == num) := by
    induction quests generalizing counts with
    | nil => simp
    | cons quest rest ih =>
        rw [List.foldl_cons, ih, List.countP_cons, Std.ExtTreeMap.getElem?_insert]
        simp only [Std.LawfulEqCmp.compare_eq_iff_eq, beq_iff_eq]
        split
        · rename_i same
          subst same
          simp
          omega
        · simp
  rw [tally, each]
  simp

theorem contains_tally (quests : List Quest) (num : QuestNum) :
    (tally quests).contains num = quests.any (·.num == num) := by
  have each (counts : Std.ExtTreeMap QuestNum Nat) : (quests.foldl
      (fun counts quest => counts.insert quest.num ((counts[quest.num]?).getD 0 + 1))
        counts).contains num = (counts.contains num || quests.any (·.num == num)) := by
    induction quests generalizing counts with
    | nil => simp
    | cons quest rest ih =>
        rw [List.foldl_cons, ih, contains_insert, List.any_cons, Bool.or_assoc]
  rw [tally, each]
  simp

theorem numberFindings_eq_nil (file : String) (records : Nat) (num : QuestNum) (count : Nat) :
    numberFindings file records num count = [] ↔
      count ≤ 1 ∧ num.val ≠ 0 ∧ num.val.toNat ≤ records := by
  simp [numberFindings, not_or]

theorem getElem?_tally (quests : List Quest) (num : QuestNum) (count : Nat) :
    (tally quests)[num]? = some count ↔
      (∃ quest ∈ quests, quest.num = num) ∧ (quests.map (·.num)).count num = count := by
  have counted := tally_getD quests num
  have known : (tally quests)[num]?.isSome = true ↔ ∃ quest ∈ quests, quest.num = num := by
    rw [← Std.ExtTreeMap.contains_eq_isSome_getElem?, contains_tally]
    simp
  rw [List.count, List.countP_map, ← known]
  cases found : (tally quests)[num]? with
  | none => simp
  | some number =>
      rw [found, Option.getD_some] at counted
      simp only [Option.some.injEq, Option.isSome_some, true_and, counted]
      rfl

theorem numbers_eq_nil (file : String) (records : Nat) (quests : List Quest) :
    ((tally quests).toList.flatMap fun (num, count) => numberFindings file records num count) = [] ↔
      (quests.map (·.num)).Nodup ∧
        ∀ quest ∈ quests, quest.num.val ≠ 0 ∧ quest.num.val.toNat ≤ records := by
  simp only [List.flatMap_eq_nil_iff, Prod.forall, Std.ExtTreeMap.mem_toList_iff_getElem?_eq_some,
    numberFindings_eq_nil, getElem?_tally, List.nodup_iff_count]
  constructor
  · intro each
    constructor
    · intro num
      by_cases listed : ∃ quest ∈ quests, quest.num = num
      · exact (each num _ ⟨listed, rfl⟩).1
      · rw [List.count_eq_zero_of_not_mem (by simpa using listed)]
        exact Nat.zero_le 1
    · intro quest listed
      exact (each quest.num _ ⟨⟨quest, listed, rfl⟩, rfl⟩).2
  · rintro ⟨once, inside⟩ num count ⟨⟨quest, listed, rfl⟩, rfl⟩
    exact ⟨once quest.num, inside quest listed⟩

theorem missing_eq_nil (file : String) (records : Nat) (quests : List Quest) :
    (List.range records).filterMap (missingNumber? file (tally quests)) = [] ↔
      ∀ position < records, ∃ quest ∈ quests, quest.num = .ofPosition position := by
  simp only [List.filterMap_eq_nil_iff, List.mem_range, missingNumber?, contains_tally]
  simp

/-- Numbers that are distinct and lie in a range, with none of it missing, are as many as the range
has. -/
theorem length_of_numbers (records : Nat) (fits : records < UInt32.size)
    (distinct : (quests.map (·.num)).Nodup)
    (inside : ∀ quest ∈ quests, quest.num.val ≠ 0 ∧ quest.num.val.toNat ≤ records)
    (full : ∀ position < records, ∃ quest ∈ quests, quest.num = .ofPosition position) :
    quests.length = records := by
  have positions : ((List.range records).map QuestNum.ofPosition).Nodup := by
    rw [List.Nodup, List.pairwise_map]
    refine List.Pairwise.imp_of_mem ?_ List.nodup_range
    intro position other low high apart same
    rw [List.mem_range] at low high
    exact apart (QuestNum.ofPosition_inj position other (by omega) (by omega) same)
  have same (num : QuestNum) :
      num ∈ quests.map (·.num) ↔ num ∈ (List.range records).map QuestNum.ofPosition := by
    simp only [List.mem_map, List.mem_range]
    constructor
    · rintro ⟨quest, listed, rfl⟩
      obtain ⟨some_, most⟩ := inside quest listed
      have positive := quest.num.toNat_pos some_
      refine ⟨quest.num.val.toNat - 1, by omega, ?_⟩
      rw [eq_comm, QuestNum.eq_ofPosition_iff _ _ (by omega)]
      omega
    · rintro ⟨position, low, rfl⟩
      exact full position low
  have permuted := (List.perm_ext_iff_of_nodup distinct positions).mpr same
  simpa using permuted.length_eq

def Depends (quests : List Quest) (num other : QuestNum) : Prop :=
  ∃ quest ∈ quests, quest.num = num ∧ other ∈ quest.dependencies

theorem dependsOn_ofQuests (quests : List Quest) :
    (ofQuests quests).DependsOn = Depends quests := by
  funext num other
  exact propext (mem_dependencies_ofQuests quests num other)

/-- Quests numbered without a gap, that depend only on one another and never in a circle. -/
structure Sound (quests : List Quest) (records : Nat) : Prop where
  counted : quests.length = records
  placed : ∀ (index : Nat) (quest : Quest), quests[index]? = some quest →
    quest.num.val.toNat = index + 1
  resolved : ∀ quest ∈ quests, ∀ other ∈ quest.dependencies, ∃ target ∈ quests, target.num = other
  acyclic : ∀ num, ¬ Relation.TransGen (Depends quests) num num

theorem dangling_ofQuests (quests : List Quest) : (ofQuests quests).dangling = [] ↔
    ∀ quest ∈ quests, ∀ other ∈ quest.dependencies, ∃ target ∈ quests, target.num = other := by
  simp only [dangling_eq_nil, mem_dependencies_ofQuests, contains_ofQuests, List.any_eq_true,
    beq_iff_eq]
  constructor
  · exact fun resolved quest listed other depends =>
      resolved quest.num other ⟨quest, listed, rfl, depends⟩
  · rintro resolved _ other ⟨quest, listed, rfl, depends⟩
    exact resolved quest listed other depends

theorem circles_ofQuests (quests : List Quest) : (ofQuests quests).circles = [] ↔
    ∀ num, ¬ Relation.TransGen (Depends quests) num num := by
  rw [circles_eq_nil_iff, Acyclic, dependsOn_ofQuests]

theorem sound_of_check (records : Nat) (file : String) (fits : records < UInt32.size)
    (clean : check quests records file = []) : Sound quests records := by
  simp only [check, List.append_eq_nil_iff, List.map_eq_nil_iff, numbers_eq_nil, missing_eq_nil,
    dangling_ofQuests, circles_ofQuests] at clean
  obtain ⟨⟨⟨⟨misplacements, distinct, inside⟩, full⟩, resolved⟩, acyclic⟩ := clean
  have counted := length_of_numbers records fits distinct inside full
  refine ⟨counted, ?_, resolved, acyclic⟩
  -- With as many quests as records the places were compared.
  rw [if_pos counted.symm, misplaced_eq_nil] at misplacements
  intro index quest listed
  have low := (List.getElem?_eq_some_iff.mp listed).1
  rw [← QuestNum.eq_ofPosition_iff _ _ (by omega), misplacements index quest listed, Nat.zero_add]

namespace Placed

variable (placed : Placed quests)

include placed

theorem exists_quest (position : Nat) (inside : position < quests.length) :
    ∃ quest ∈ quests, quest.num = .ofPosition position :=
  ⟨quests[position], List.getElem_mem inside,
    placed position _ (List.getElem?_eq_getElem inside)⟩

variable (fits : quests.length < UInt32.size)

include fits

theorem nodup : (quests.map (·.num)).Nodup := by
  rw [List.nodup_iff_pairwise_ne, List.pairwise_iff_getElem]
  intro first second low high less same
  rw [List.length_map] at low high
  simp only [List.getElem_map] at same
  rw [placed first _ (List.getElem?_eq_getElem low),
    placed second _ (List.getElem?_eq_getElem high)] at same
  have := QuestNum.ofPosition_inj first second (by omega) (by omega) same
  omega

theorem inside (quest : Quest) (listed : quest ∈ quests) :
    quest.num.val ≠ 0 ∧ quest.num.val.toNat ≤ quests.length := by
  obtain ⟨index, low, rfl⟩ := List.mem_iff_getElem.mp listed
  have place := placed index _ (List.getElem?_eq_getElem low)
  rw [QuestNum.eq_ofPosition_iff _ _ (by omega)] at place
  refine ⟨fun zero => ?_, by omega⟩
  simp [zero] at place

end Placed

theorem Sound.check_eq_nil {records : Nat} (sound : Sound quests records)
    (fits : records < UInt32.size) (file : String) : check quests records file = [] := by
  obtain rfl := sound.counted
  have placed : Placed quests := by
    intro index quest listed
    have low := (List.getElem?_eq_some_iff.mp listed).1
    rw [QuestNum.eq_ofPosition_iff _ _ (by omega)]
    exact sound.placed index quest listed
  simp only [check, ↓reduceIte, List.append_eq_nil_iff, List.map_eq_nil_iff, numbers_eq_nil,
    missing_eq_nil, dangling_ofQuests, circles_ofQuests]
  refine ⟨⟨⟨⟨?_, placed.nodup fits, placed.inside fits⟩, placed.exists_quest⟩, sound.resolved⟩,
    sound.acyclic⟩
  rw [misplaced_eq_nil]
  intro index quest listed
  rw [placed index quest listed, Nat.zero_add]

/-- The check of a quest list finds nothing exactly if the list is sound. -/
theorem check_eq_nil_iff (quests : List Quest) (records : Nat) (file : String)
    (fits : records < UInt32.size) : check quests records file = [] ↔ Sound quests records :=
  ⟨sound_of_check records file fits, fun sound => sound.check_eq_nil fits file⟩

def errand (num : UInt32) (dependencies : List UInt32) : Quest where
  id := ""
  num := ⟨num⟩
  name := ""
  region := ""
  location := none
  domain := .unbound
  dependencies := dependencies.map QuestNum.mk
  availability := []
  outcomes := []
  isTerminal := false
  tags := []
  objectives := []
  rewards := []
  notes := none

/-- Three quests in a row are sound; they are not if the last one waits for the first. -/
theorem check_eq_nil_iff_errands :
    Sound [errand 1 [2], errand 2 [3], errand 3 []] 3 ∧
      ¬ Sound [errand 1 [2], errand 2 [3], errand 3 [1]] 3 := by
  constructor
  · exact (check_eq_nil_iff _ 3 "quests.json" (by decide)).mp (by decide +kernel)
  · rw [← check_eq_nil_iff _ 3 "quests.json" (by decide)]
    decide +kernel

structure Ordered (quests : List Quest) : Prop where
  placed : ∀ (index : Nat) (quest : Quest), quests[index]? = some quest →
    quest.num = .ofPosition index
  earlier : ∀ (index : Nat) (quest : Quest), quests[index]? = some quest →
    ∀ other ∈ quest.dependencies, ∃ before, before < index ∧ other = .ofPosition before

namespace Ordered

variable (ordered : Ordered quests)

include ordered

theorem resolved (quest : Quest) (listed : quest ∈ quests) (other : QuestNum)
    (depends : other ∈ quest.dependencies) : ∃ target ∈ quests, target.num = other := by
  obtain ⟨index, inside, rfl⟩ := List.mem_iff_getElem.mp listed
  obtain ⟨before, less, rfl⟩ :=
    ordered.earlier index _ (List.getElem?_eq_getElem inside) other depends
  exact Placed.exists_quest ordered.placed before (by omega)

variable (fits : quests.length < UInt32.size)

include fits

theorem descends : (ofQuests quests).Descends (·.val.toNat) := by
  -- Numbers rank themselves, since they grow with the positions.
  intro num other listed
  obtain ⟨quest, member, rfl, depends⟩ := (mem_dependencies_ofQuests quests num other).mp listed
  obtain ⟨index, inside, rfl⟩ := List.mem_iff_getElem.mp member
  obtain ⟨before, less, rfl⟩ :=
    ordered.earlier index _ (List.getElem?_eq_getElem inside) other depends
  simp only [ordered.placed index _ (List.getElem?_eq_getElem inside)]
  rw [QuestNum.ofPosition_val before (by omega), QuestNum.ofPosition_val index (by omega)]
  omega

theorem sound : Sound quests quests.length := by
  refine ⟨rfl, ?_, ordered.resolved, ?_⟩
  · intro index quest listed
    have low := (List.getElem?_eq_some_iff.mp listed).1
    rw [ordered.placed index quest listed, QuestNum.ofPosition_val index (by omega)]
  · rw [← dependsOn_ofQuests]
    exact (ordered.descends fits).acyclic

theorem check_eq_nil (file : String) : check quests quests.length file = [] :=
  (ordered.sound fits).check_eq_nil fits file

end Ordered

end QuestWeb.DependencyGraph
