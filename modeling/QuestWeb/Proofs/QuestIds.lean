import QuestWeb.Config
import QuestWeb.Proofs.Chapters
import QuestWeb.Proofs.Construction

/-!
The identifiers of a web. Each is `quest` and two or three plain segments, which is what the
standard pattern asks for, and no two roles share one.
-/

namespace QuestWeb

open Catalog (isClauseChar isPlainClause)

namespace Pattern

def setOf (bounds : List (Nat × Nat)) : CharSet :=
  ⟨bounds.map fun (low, high) => ⟨low, high⟩⟩

def segmentSet : CharSet :=
  setOf [(32, 32), (45, 45), (48, 57), (65, 90), (95, 95), (97, 122), (383, 383), (8490, 8490)]

def segment : Pattern :=
  .repeated (.oneOf segmentSet) 1 none false

def questId : Pattern :=
  ofParts [
    .assert .textStart,
    .oneOf (setOf [(81, 81), (113, 113)]),
    .oneOf (setOf [(85, 85), (117, 117)]),
    .oneOf (setOf [(69, 69), (101, 101)]),
    .oneOf (setOf [(83, 83), (115, 115), (383, 383)]),
    .oneOf (setOf [(84, 84), (116, 116)]),
    .literal ['.'],
    segment,
    .repeated (.seq (.literal ['.']) segment) 1 (some 8) false,
    .assert .textEnd]

theorem parse_standardQuestId :
    parse? ValidatorConfig.standardQuestIdPattern = some questId := by
  decide +kernel

theorem segmentSet_has (c : Char) (plain : isClauseChar c = true) :
    segmentSet.has c.toNat = true := by
  simp only [isClauseChar, Bool.or_eq_true, Bool.and_eq_true, decide_eq_true_eq, beq_iff_eq,
    Char.le_def, UInt32.le_iff_toNat_le] at plain
  simp only [segmentSet, setOf, CharSet.has, CharSet.spansHave, List.map_cons, List.map_nil,
    Bool.or_eq_true, Bool.and_eq_true, decide_eq_true_eq]
  rcases plain with ((letter | digit) | rfl) | rfl
  · change 97 ≤ c.toNat ∧ c.toNat ≤ 122 at letter
    omega
  · change 48 ≤ c.toNat ∧ c.toNat ≤ 57 at digit
    omega
  · decide
  · decide

theorem segment_matches (before : Option Char) (text : String) (rest : List Char)
    (plain : isPlainClause text = true) :
    ∃ last, segment.Matches ⟨before, text.toList ++ rest⟩ ⟨last, rest⟩ := by
  simp only [isPlainClause, Bool.and_eq_true, bne_iff_ne, ne_eq, List.all_eq_true] at plain
  have filled : 1 ≤ text.toList.length := by
    apply List.length_pos_iff.mpr
    simpa using plain.1
  -- Every character of the segment is one round of the repetition.
  have run (chars : List Char) (all : ∀ c ∈ chars, isClauseChar c = true) (before : Option Char) :
      ∃ last, Spot.Repeats (Matches (.oneOf segmentSet)) chars.length ⟨before, chars ++ rest⟩
        ⟨last, rest⟩ := by
    induction chars generalizing before with
    | nil => exact ⟨before, rfl⟩
    | cons c chars ih =>
        obtain ⟨first, others⟩ := List.forall_mem_cons.mp all
        obtain ⟨last, taken⟩ := ih others (some c)
        exact ⟨last, ⟨some c, chars ++ rest⟩,
          ⟨c, chars ++ rest, rfl, segmentSet_has c first, rfl⟩, taken⟩
  obtain ⟨last, taken⟩ := run text.toList plain.2 before
  exact ⟨last, text.toList.length, filled, by simp, taken⟩

end Pattern

namespace Web

def dotted (segments : List String) : List Char :=
  segments.flatMap fun segment => '.' :: segment.toList

end Web

namespace Pattern

open Web (dotted)

theorem segments_match (before : Option Char) (segments : List String)
    (plain : ∀ segment ∈ segments, isPlainClause segment = true) :
    ∃ last, Spot.Repeats (Matches (.seq (.literal ['.']) segment)) segments.length
      ⟨before, dotted segments⟩ ⟨last, []⟩ := by
  induction segments generalizing before with
  | nil => exact ⟨before, rfl⟩
  | cons text rest ih =>
      obtain ⟨first, others⟩ := List.forall_mem_cons.mp plain
      obtain ⟨middle, here⟩ := segment_matches (some '.') text (dotted rest) first
      obtain ⟨last, taken⟩ := ih middle others
      exact ⟨last, ⟨middle, dotted rest⟩,
        ⟨⟨some '.', text.toList ++ dotted rest⟩, ⟨_, rfl, rfl⟩, here⟩, taken⟩

/-- The standard pattern matches two to nine plain segments behind `quest`. -/
theorem questId_matches (segments : List String)
    (plain : ∀ segment ∈ segments, isPlainClause segment = true)
    (least : 2 ≤ segments.length) (most : segments.length ≤ 9) :
    ∃ stop, questId.Matches ⟨none, "quest".toList ++ dotted segments⟩ stop := by
  obtain _ | ⟨text, rest⟩ := segments
  · simp at least
  rw [List.length_cons] at least most
  obtain ⟨first, others⟩ := List.forall_mem_cons.mp plain
  obtain ⟨middle, here⟩ := segment_matches (some '.') text (dotted rest) first
  obtain ⟨last, taken⟩ := segments_match middle rest others
  have head (c : Char) (set : CharSet) (before : Option Char) (ahead : List Char)
      (has : set.has c.toNat = true) :
      Matches (.oneOf set) ⟨before, c :: ahead⟩ ⟨some c, ahead⟩ :=
    ⟨c, ahead, rfl, has, rfl⟩
  refine ⟨⟨last, []⟩, _, ⟨rfl, rfl⟩, _, head 'q' _ _ _ (by decide), _,
    head 'u' _ _ _ (by decide), _, head 'e' _ _ _ (by decide), _, head 's' _ _ _ (by decide), _,
    head 't' _ _ _ (by decide), _, ⟨_, rfl, rfl⟩, _, here, _,
    ⟨rest.length, ?_, ?_, taken⟩, rfl, rfl⟩
  · omega
  · simp
    omega

end Pattern

namespace Web

variable {catalog : Catalog}

def idSegments (catalog : Catalog) : Role → List String
  | .prologue => ["meta", "prologue"]
  | .invitation domain => [(catalog.domainAt domain).clause, "invitation"]
  | .arc domain step => [(catalog.domainAt domain).clause, "arc", twoDigits (step + 1)]
  | .seal domain => [(catalog.domainAt domain).clause, "seal"]
  | .keystone => ["meta", "keystone_trial"]
  | .hearing => ["meta", "censure_hearing"]
  | .price => ["meta", "ladder_price"]
  | .finale => ["meta", "final"]

theorem questId_toList (catalog : Catalog) (role : Role) :
    (questId catalog role).toList = "quest".toList ++ dotted (idSegments catalog role) := by
  cases role <;> simp [questId, idSegments, dotted, String.toList_append]

theorem twoDigits_toList (n : Nat) : ∃ zeros, (twoDigits n).toList =
    List.replicate zeros '0' ++ Nat.toDigits 10 n := by
  unfold twoDigits
  split
  · exact ⟨1, by simp [String.toList_append]⟩
  · exact ⟨0, by simp⟩

theorem twoDigits_inj (m n : Nat) (same : twoDigits m = twoDigits n) : m = n := by
  obtain ⟨zeros, left⟩ := twoDigits_toList m
  obtain ⟨others, right⟩ := twoDigits_toList n
  rw [same, right] at left
  have value := congrArg (Nat.ofDigitChars 10 · 0) left
  simpa [Nat.ofDigitChars_append] using value.symm

theorem twoDigits_plain (n : Nat) : isPlainClause (twoDigits n) = true := by
  obtain ⟨zeros, spelled⟩ := twoDigits_toList n
  have plain (c : Char) (digit : c.isDigit = true) : isClauseChar c = true := by
    simp only [Char.isDigit, Bool.and_eq_true, decide_eq_true_eq] at digit
    simp only [isClauseChar, Bool.or_eq_true, Bool.and_eq_true, decide_eq_true_eq, Char.le_def]
    exact .inl (.inl (.inr digit))
  simp only [isPlainClause, Bool.and_eq_true, bne_iff_ne, ne_eq, List.all_eq_true, spelled]
  constructor
  · intro empty
    simp [empty] at spelled
  · intro c member
    rcases List.mem_append.mp member with zero | digit
    · rw [List.eq_of_mem_replicate zero]
      decide
    · exact plain c (Nat.isDigit_of_mem_toDigits (by decide) (by decide) digit)

theorem plain_free (text : String) (plain : isPlainClause text = true) : '.' ∉ text.toList := by
  simp only [isPlainClause, Bool.and_eq_true, List.all_eq_true] at plain
  intro listed
  have point := plain.2 '.' listed
  simp [isClauseChar] at point

theorem takeWhile_segment (text : String) (rest : List String) (free : '.' ∉ text.toList) :
    (text.toList ++ dotted rest).takeWhile (· != '.') = text.toList := by
  have inside (c : Char) (listed : c ∈ text.toList) : (c != '.') = true := by
    rw [bne_iff_ne]
    intro same
    exact free (same ▸ listed)
  rw [List.takeWhile_append_of_pos inside]
  cases rest <;> simp [dotted]

theorem dotted_inj (left right : List String) (leftFree : ∀ text ∈ left, '.' ∉ text.toList)
    (rightFree : ∀ text ∈ right, '.' ∉ text.toList) (same : dotted left = dotted right) :
    left = right := by
  induction left generalizing right with
  | nil =>
      cases right with
      | nil => rfl
      | cons text rest => simp [dotted] at same
  | cons text rest ih =>
      cases right with
      | nil => simp [dotted] at same
      | cons other others =>
          obtain ⟨free, restFree⟩ := List.forall_mem_cons.mp leftFree
          obtain ⟨otherFree, othersFree⟩ := List.forall_mem_cons.mp rightFree
          have inner : text.toList ++ dotted rest = other.toList ++ dotted others := by
            simpa [dotted] using same
          -- Each side can be read up to the first point.
          have head := congrArg (List.takeWhile (· != '.')) inner
          rw [takeWhile_segment text rest free, takeWhile_segment other others otherFree] at head
          have tail := inner
          rw [head, List.append_cancel_left_eq] at tail
          rw [String.toList_inj.mp head, ih others restFree othersFree tail]

theorem idSegments_plain (accepted : catalog.Accepted) (role : Role) :
    ∀ segment ∈ idSegments catalog role, isPlainClause segment = true := by
  have clause (domain : Nat) : isPlainClause (catalog.domainAt domain).clause = true :=
    (accepted.each _ (domainAt_mem catalog accepted domain)).plain
  cases role <;> simp only [idSegments, List.forall_mem_cons, clause, twoDigits_plain, true_and]
    <;> simp <;> decide

theorem questId_isFound (accepted : catalog.Accepted) (role : Role) :
    Pattern.questId.automaton.isFound (questId catalog role) = true := by
  have least : 2 ≤ (idSegments catalog role).length := by cases role <;> simp [idSegments]
  have most : (idSegments catalog role).length ≤ 9 := by cases role <;> simp [idSegments]
  obtain ⟨stop, matched⟩ :=
    Pattern.questId_matches (idSegments catalog role) (idSegments_plain accepted role) least most
  exact Pattern.questId.isFound_of_matches _ [] _ stop (questId_toList catalog role) matched

/-- No two roles share an identifier. -/
theorem questId_inj (accepted : catalog.Accepted) (role other : Role)
    (has : catalog.layout.Has role) (also : catalog.layout.Has other)
    (same : questId catalog role = questId catalog other) : role = other := by
  have spelled := congrArg String.toList same
  rw [questId_toList, questId_toList, List.append_cancel_left_eq] at spelled
  have segments := dotted_inj _ _
    (fun text listed => plain_free text (idSegments_plain accepted role text listed))
    (fun text listed => plain_free text (idSegments_plain accepted other text listed)) spelled
  have clauses := domainAt_inj catalog (·.clause) accepted.clauses
  -- The last segment tells the kind of role, and the first one its domain.
  cases role <;> cases other <;> simp [idSegments] at segments ⊢
  case invitation.invitation => exact clauses _ _ has also segments
  case «seal».«seal» => exact clauses _ _ has.1 also.1 segments
  case arc.arc =>
    obtain ⟨clause, digits⟩ := segments
    exact ⟨clauses _ _ has.1 also.1 clause, by simpa using twoDigits_inj _ _ digits⟩

end Web

end QuestWeb
