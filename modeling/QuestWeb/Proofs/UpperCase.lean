import Mathlib.Data.List.TakeWhile
import QuestWeb.Quest

/-!
Upper case is final. What a letter becomes is not changed by upper case again, and it is no blank,
so a name is brought into its normal form in one pass.
-/

namespace QuestWeb.Text

/-- Codes as the bits of a number, so that two sets of them are compared in one step. -/
def bits : List Nat → Nat
  | [] => 0
  | code :: rest => 1 <<< code ||| bits rest

theorem testBit_bits (codes : List Nat) (code : Nat) :
    (bits codes).testBit code = true ↔ code ∈ codes := by
  induction codes with
  | nil => simp [bits]
  | cons first rest ih =>
      rw [bits, Nat.testBit_or, Nat.one_shiftLeft, Nat.testBit_two_pow, Bool.or_eq_true, ih,
        decide_eq_true_eq, List.mem_cons, eq_comm]

theorem not_mem_of_bits (codes others : List Nat) (apart : bits codes &&& bits others = 0)
    (code : Nat) (listed : code ∈ codes) : code ∉ others := by
  intro also
  have none := congrArg (Nat.testBit · code) apart
  simp [Nat.testBit_and, (testBit_bits codes code).mpr listed,
    (testBit_bits others code).mpr also] at none

def Shift.codes (shift : Shift) : List Nat :=
  (List.range ((shift.hi - shift.lo) / shift.step + 1)).map (shift.lo + · * shift.step)

theorem Shift.mem_codes (shift : Shift) (code : Nat) (moves : shift.moves code = true) :
    code ∈ shift.codes := by
  simp only [Shift.moves, Bool.and_eq_true, decide_eq_true_eq, beq_iff_eq] at moves
  obtain ⟨⟨low, high⟩, divides⟩ := moves
  refine List.mem_map.mpr ⟨(code - shift.lo) / shift.step, List.mem_range.mpr ?_, ?_⟩
  · have steps := Nat.div_le_div_right (c := shift.step) (Nat.sub_le_sub_right high shift.lo)
    omega
  · rw [Nat.div_mul_cancel (Nat.dvd_of_mod_eq_zero divides)]
    omega

def movedCodes : List Nat :=
  upperShifts.flatMap Shift.codes ++ upperExpansions.map Prod.fst

def reachedCodes : List Nat :=
  (upperShifts.flatMap fun shift => shift.codes.map shift.target) ++
    upperExpansions.flatMap Prod.snd

def blankCodes : List Nat :=
  List.range' 9 5 ++ [0x20, 0x85, 0xA0, 0x1680] ++ List.range' 0x2000 11 ++
    [0x2028, 0x2029, 0x202F, 0x205F, 0x3000]

/-- What upper case leads to is not changed by it again, and is no blank. -/
theorem reached_apart : bits reachedCodes &&& bits (movedCodes ++ blankCodes) = 0 := by
  decide +kernel

theorem reached_valid : ∀ code ∈ reachedCodes, code.isValidChar := by
  decide +kernel

theorem expansions_nonempty : ∀ entry ∈ upperExpansions, entry.2 ≠ [] := by
  decide +kernel

theorem mem_blankCodes (c : Char) (blank : isBlank c = true) : c.toNat ∈ blankCodes := by
  simp only [isBlank, Bool.or_eq_true, Bool.and_eq_true, decide_eq_true_eq, beq_iff_eq] at blank
  simp only [blankCodes, List.mem_append, List.mem_range'_1, List.mem_cons, List.not_mem_nil,
    or_false]
  omega

theorem shift_moved (shift : Shift) (listed : shift ∈ upperShifts) (code : Nat)
    (moves : shift.moves code = true) :
    code ∈ movedCodes ∧ shift.target code ∈ reachedCodes := by
  have own := shift.mem_codes code moves
  constructor
  · exact List.mem_append_left _ (List.mem_flatMap.mpr ⟨shift, listed, own⟩)
  · exact List.mem_append_left _ (List.mem_flatMap.mpr ⟨shift, listed, List.mem_map_of_mem own⟩)

theorem expansion_moved (code : Nat) (codes : List Nat)
    (found : upperExpansions.lookup code = some codes) :
    code ∈ movedCodes ∧ codes ≠ [] ∧ ∀ target ∈ codes, target ∈ reachedCodes := by
  obtain ⟨front, back, split, _⟩ := List.lookup_eq_some_iff.mp found
  have listed : (code, codes) ∈ upperExpansions := by simp [split]
  refine ⟨?_, expansions_nonempty _ listed, fun target own => ?_⟩
  · exact List.mem_append_right _ (List.mem_map_of_mem listed)
  · exact List.mem_append_right _ (List.mem_flatMap.mpr ⟨_, listed, own⟩)

def plainLetters : Shift :=
  ⟨0x61, 0x7A, 1, -32⟩

theorem plainLetters_listed : plainLetters ∈ upperShifts := by
  unfold upperShifts
  exact List.mem_cons_self

theorem upperCode_plain (code : Nat) (plain : code < 0x80) : upperCode code =
    if plainLetters.moves code then [plainLetters.target code] else [code] := by
  have moves : plainLetters.moves code = (decide (0x61 ≤ code) && decide (code ≤ 0x7A)) := by
    simp only [Shift.moves, plainLetters, Nat.mod_one, beq_self_eq_true, Bool.and_true]
    rfl
  rw [moves, upperCode, if_pos plain]
  by_cases letter : 0x61 ≤ code ∧ code ≤ 0x7A
  · have target : plainLetters.target code = code - 0x20 := by
      simp only [Shift.target, plainLetters]
      omega
    simp [letter, target]
  · simp [letter]

/-- Upper case keeps a code, or changes it into some that stand apart from what it changes. -/
theorem upperCode_cases (code : Nat) : upperCode code = [code] ∨
    code ∈ movedCodes ∧ upperCode code ≠ [] ∧ ∀ target ∈ upperCode code, target ∈ reachedCodes := by
  by_cases plain : code < 0x80
  · rw [upperCode_plain code plain]
    by_cases letter : plainLetters.moves code
    · obtain ⟨moved, reached⟩ := shift_moved _ plainLetters_listed code letter
      exact .inr ⟨moved, by simp [letter], by simpa [letter] using reached⟩
    · exact .inl (if_neg letter)
  · cases found : upperExpansions.lookup code with
    | some codes =>
        have expanded := expansion_moved code codes found
        have same : upperCode code = codes := by simp [upperCode, plain, found]
        exact .inr (same ▸ expanded)
    | none =>
        cases shifted : upperShifts.find? (·.moves code) with
        | none =>
            left
            simp [upperCode, plain, found, shifted?, shifted]
        | some shift =>
            obtain ⟨moved, reached⟩ := shift_moved shift (List.mem_of_find?_eq_some shifted) code
              (by simpa using List.find?_some shifted)
            have target : upperCode code = [shift.target code] := by
              simp [upperCode, plain, found, shifted?, shifted]
            exact .inr ⟨moved, by simp [target], by simpa [target] using reached⟩

theorem upperCode_reached (code : Nat) (reached : code ∈ reachedCodes) :
    upperCode code = [code] := by
  have apart := not_mem_of_bits _ _ reached_apart code reached
  rcases upperCode_cases code with kept | ⟨moved, _⟩
  · exact kept
  · exact absurd (List.mem_append_left _ moved) apart

theorem upperChar_cases (c : Char) : upperChar c = [c] ∨
    upperChar c ≠ [] ∧ ∀ d ∈ upperChar c, upperChar d = [d] ∧ isBlank d = false := by
  rcases upperCode_cases c.toNat with kept | ⟨_, some, reached⟩
  · left
    rw [upperChar, kept, List.map_singleton, Char.ofNat_toNat]
  · right
    refine ⟨by simpa [upperChar] using some, ?_⟩
    intro d member
    obtain ⟨code, own, rfl⟩ := List.mem_map.mp member
    have code_eq : (Char.ofNat code).toNat = code := by
      rw [Char.ofNat, dif_pos (reached_valid code (reached code own))]
      rfl
    constructor
    · rw [upperChar, code_eq, upperCode_reached code (reached code own), List.map_singleton]
    · have apart := not_mem_of_bits _ _ reached_apart code (reached code own)
      rw [← Bool.not_eq_true]
      intro blank
      have listed := mem_blankCodes _ blank
      rw [code_eq] at listed
      exact apart (List.mem_append_right _ listed)

theorem upperChar_ne_nil (c : Char) : upperChar c ≠ [] := by
  rcases upperChar_cases c with kept | ⟨some, _⟩
  · simp [kept]
  · exact some

theorem upperChar_upper (c d : Char) (upper : d ∈ upperChar c) : upperChar d = [d] := by
  rcases upperChar_cases c with kept | ⟨_, fixed⟩
  · rw [kept, List.mem_singleton] at upper
    rwa [upper]
  · exact (fixed d upper).1

theorem isBlank_upperChar (c d : Char) (visible : isBlank c = false) (upper : d ∈ upperChar c) :
    isBlank d = false := by
  rcases upperChar_cases c with kept | ⟨_, fixed⟩
  · rw [kept, List.mem_singleton] at upper
    rwa [upper]
  · exact (fixed d upper).2

theorem flatMap_upperChar_eq (chars : List Char) (fixed : ∀ c ∈ chars, upperChar c = [c]) :
    chars.flatMap upperChar = chars := by
  induction chars with
  | nil => rfl
  | cons c rest ih =>
      rw [List.flatMap_cons, fixed c List.mem_cons_self,
        ih fun d later => fixed d (List.mem_cons_of_mem _ later)]
      rfl

theorem upper_upper (text : String) : upper (upper text) = upper text := by
  have fixed : ∀ d ∈ text.toList.flatMap upperChar, upperChar d = [d] := by
    intro d member
    obtain ⟨c, _, own⟩ := List.mem_flatMap.mp member
    exact upperChar_upper c d own
  simp [upper, flatMap_upperChar_eq _ fixed]

structure IsTrimmed (chars : List Char) : Prop where
  front : ∀ c ∈ chars.head?, isBlank c = false
  back : ∀ c ∈ chars.getLast?, isBlank c = false

theorem head?_dropWhile (p : Char → Bool) (chars : List Char) :
    ∀ c ∈ (chars.dropWhile p).head?, p c = false := by
  intro c first
  have stop := List.head?_dropWhile_not p chars
  rwa [Option.mem_def.mp first] at stop

theorem dropWhile_eq_self (p : Char → Bool) (chars : List Char)
    (stop : ∀ c ∈ chars.head?, p c = false) : chars.dropWhile p = chars := by
  cases chars with
  | nil => rfl
  | cons c rest => simp [stop c rfl]

theorem trimChars_trimmed (chars : List Char) : IsTrimmed (trimChars chars) := by
  constructor
  case front =>
    intro c first
    -- Blanks are dropped from the back of what starts with no blank.
    have kept : trimChars chars <+: chars.dropWhile isBlank := by
      rw [trimChars, ← List.reverse_suffix, List.reverse_reverse]
      exact List.dropWhile_suffix isBlank
    obtain ⟨rest, whole⟩ := kept
    apply head?_dropWhile isBlank chars
    rw [← whole, List.head?_append, Option.mem_def.mp first]
    rfl
  case back =>
    rw [trimChars, List.getLast?_reverse]
    exact head?_dropWhile isBlank _

theorem IsTrimmed.trimChars_eq {chars : List Char} (trimmed : IsTrimmed chars) :
    trimChars chars = chars := by
  rw [trimChars, dropWhile_eq_self isBlank chars trimmed.front,
    dropWhile_eq_self isBlank chars.reverse, List.reverse_reverse]
  rw [List.head?_reverse]
  exact trimmed.back

theorem trimChars_eq_nil (chars : List Char) :
    trimChars chars = [] ↔ ∀ c ∈ chars, isBlank c = true := by
  rw [trimChars, List.reverse_eq_nil_iff, List.dropWhile_eq_nil_iff]
  constructor
  · intro rest c member
    rw [← List.takeWhile_append_dropWhile (p := isBlank) (l := chars), List.mem_append] at member
    rcases member with front | back
    · exact List.mem_takeWhile_imp front
    · exact rest c (List.mem_reverse.mpr back)
  · intro all c member
    exact all c (List.dropWhile_subset isBlank (List.mem_reverse.mp member))

theorem trimChars_ne_nil (chars : List Char) :
    trimChars chars ≠ [] ↔ ∃ c ∈ chars, isBlank c = false := by
  simp [trimChars_eq_nil]

theorem trimChars_subset (chars : List Char) : trimChars chars ⊆ chars := by
  intro c listed
  rw [trimChars, List.mem_reverse] at listed
  have kept := List.dropWhile_subset isBlank listed
  exact List.dropWhile_subset isBlank (List.mem_reverse.mp kept)

theorem IsTrimmed.flatMap_upperChar {chars : List Char} (trimmed : IsTrimmed chars) :
    IsTrimmed (chars.flatMap upperChar) := by
  constructor
  case front =>
    cases chars with
    | nil => simp
    | cons c rest =>
        intro d first
        obtain ⟨own, others, grown⟩ := List.exists_cons_of_ne_nil (upperChar_ne_nil c)
        rw [List.flatMap_cons, grown, List.cons_append, List.head?_cons] at first
        cases first
        exact isBlank_upperChar c d (trimmed.front c rfl) (by simp [grown])
  case back =>
    cases last : chars.getLast? with
    | none => simp [List.getLast?_eq_none_iff.mp last]
    | some c =>
        intro d ending
        obtain ⟨before, rfl⟩ := List.getLast?_eq_some_iff.mp last
        have grown := List.getLast?_eq_some_getLast (upperChar_ne_nil c)
        rw [List.flatMap_append, List.flatMap_singleton, List.getLast?_append, grown] at ending
        cases ending
        exact isBlank_upperChar c _ (trimmed.back c last) (List.getLast_mem _)

theorem trim_upper_trim (text : String) : trim (upper (trim text)) = upper (trim text) := by
  have trimmed := (trimChars_trimmed text.toList).flatMap_upperChar
  simp [trim, upper, trimmed.trimChars_eq]

end QuestWeb.Text

namespace QuestWeb.AuthorityDomain

theorem ofName_key (name : String) : (ofName name).key = Text.upper (Text.trim name) := by
  unfold ofName
  dsimp only
  split
  · rename_i blank
    rw [blank, key]
  · split
    · rename_i story
      rw [story, key]
    · rfl

theorem ofName_ofName_key (name : String) : ofName (ofName name).key = ofName name := by
  rw [ofName_key]
  unfold ofName
  rw [Text.trim_upper_trim, Text.upper_upper]

end QuestWeb.AuthorityDomain
