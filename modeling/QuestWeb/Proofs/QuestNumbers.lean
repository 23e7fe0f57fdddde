import QuestWeb.Dataset.Layout

/-!
Quest numbers as places, and as the names of dialog files. A name is read as a quest's exactly if it
is the name of the quest's file with any number of zeros before the digits.
-/

namespace QuestWeb

namespace QuestNum

theorem ofPosition_val (position : Nat) (fits : position + 1 < UInt32.size) :
    (ofPosition position).val.toNat = position + 1 := by
  simp only [ofPosition, Nat.toUInt32_eq, UInt32.toNat_ofNat']
  exact Nat.mod_eq_of_lt fits

theorem ofPosition_inj (position other : Nat) (fits : position + 1 < UInt32.size)
    (also : other + 1 < UInt32.size) (same : ofPosition position = ofPosition other) :
    position = other := by
  have left := ofPosition_val position fits
  rw [same, ofPosition_val other also] at left
  omega

theorem eq_ofPosition_iff (num : QuestNum) (position : Nat) (fits : position + 1 < UInt32.size) :
    num = ofPosition position ↔ num.val.toNat = position + 1 := by
  rw [← ofPosition_val position fits, UInt32.toNat_inj]
  cases num
  simp [ofPosition]

theorem toNat_pos (num : QuestNum) (some_ : num.val ≠ 0) : 0 < num.val.toNat := by
  apply Nat.pos_of_ne_zero
  intro zero
  exact some_ (UInt32.toNat_inj.mp zero)

theorem digits?_eq_some (chars : List Char) (n : Nat) : Text.digits? chars = some n ↔
    chars ≠ [] ∧ (∀ c ∈ chars, c.isDigit = true) ∧ Nat.ofDigitChars 10 chars 0 = n := by
  have value : chars.foldl (fun n c => n * 10 + (c.toNat - 0x30)) 0 =
      Nat.ofDigitChars 10 chars 0 := by
    rw [Nat.ofDigitChars_eq_foldl]
    simp [Nat.mul_comm]
  rw [Text.digits?, value]
  cases chars with
  | nil => simp
  | cons c rest => simp [and_assoc]

theorem toDigits_inj (n other : Nat) (same : Nat.toDigits 10 n = Nat.toDigits 10 other) :
    n = other := by
  simpa [Nat.ofDigitChars_toDigits] using congrArg (Nat.ofDigitChars 10 · 0) same

theorem digitChar_of_isDigit (c : Char) (digit : c.isDigit = true) :
    c.toNat - 48 < 10 ∧ Nat.digitChar (c.toNat - 48) = c := by
  simp only [Char.isDigit, Bool.and_eq_true, decide_eq_true_eq] at digit
  have least : 48 ≤ c.toNat := digit.1
  have most : c.toNat ≤ 57 := digit.2
  refine ⟨by omega, Char.toNat_inj.mp ?_⟩
  rw [Nat.toNat_digitChar_of_lt_ten (by omega)]
  omega

theorem toDigits_append_digits (kept : Nat) (positive : 0 < kept) (digits : List Char)
    (each : ∀ c ∈ digits, c.isDigit = true) :
    Nat.toDigits 10 kept ++ digits = Nat.toDigits 10 (Nat.ofDigitChars 10 digits kept) := by
  induction digits generalizing kept with
  | nil => simp
  | cons c rest ih =>
      obtain ⟨digit, others⟩ := List.forall_mem_cons.mp each
      obtain ⟨small, same⟩ := digitChar_of_isDigit c digit
      calc Nat.toDigits 10 kept ++ c :: rest
        _ = Nat.toDigits 10 kept ++ Nat.toDigits 10 (c.toNat - 48) ++ rest := by
          rw [Nat.toDigits_of_lt_base small, same, List.append_assoc, List.singleton_append]
        _ = Nat.toDigits 10 (10 * kept + (c.toNat - 48)) ++ rest := by
          rw [Nat.toDigits_append_toDigits (by decide) positive small]
        _ = Nat.toDigits 10 (Nat.ofDigitChars 10 rest (10 * kept + (c.toNat - 48))) :=
          ih _ (by omega) others

/-- Digits that are not all zero are those of their number, with zeros before them. -/
theorem exists_zeros (digits : List Char) (each : ∀ c ∈ digits, c.isDigit = true)
    (positive : 0 < Nat.ofDigitChars 10 digits 0) :
    ∃ zeros, digits =
      List.replicate zeros '0' ++ Nat.toDigits 10 (Nat.ofDigitChars 10 digits 0) := by
  induction digits with
  | nil => simp at positive
  | cons c rest ih =>
      obtain ⟨digit, others⟩ := List.forall_mem_cons.mp each
      obtain ⟨small, same⟩ := digitChar_of_isDigit c digit
      have step : Nat.ofDigitChars 10 (c :: rest) 0 =
          Nat.ofDigitChars 10 rest (c.toNat - 48) := by
        rw [Nat.ofDigitChars_cons, Nat.mul_zero, Nat.zero_add]
        rfl
      rw [step] at positive ⊢
      by_cases zero : c.toNat - 48 = 0
      · rw [zero] at positive same ⊢
        obtain ⟨zeros, split⟩ := ih others positive
        refine ⟨zeros + 1, ?_⟩
        rw [List.replicate_succ, List.cons_append, ← split, ← same]
        rfl
      · refine ⟨0, ?_⟩
        rw [← toDigits_append_digits _ (Nat.pos_of_ne_zero zero) rest others,
          Nat.toDigits_of_lt_base small, same]
        rfl

theorem padded_toList (num : QuestNum) : num.padded.toList =
    List.replicate (3 - (Nat.toDigits 10 num.val.toNat).length) '0' ++
      Nat.toDigits 10 num.val.toNat := by
  have digits : (toString num).toList = Nat.toDigits 10 num.val.toNat := Nat.toList_repr
  simp only [padded, String.toList_append, String.toList_ofList, digits, ← String.length_toList]

theorem padded_length (num : QuestNum) : 3 ≤ num.padded.toList.length := by
  rw [padded_toList, List.length_append, List.length_replicate]
  omega

theorem filled_digits (num : QuestNum) (zeros : Nat) :
    Text.digits? (List.replicate zeros '0' ++ num.padded.toList) = some num.val.toNat := by
  rw [digits?_eq_some, padded_toList]
  refine ⟨by simp, ?_, by simp [Nat.ofDigitChars_append]⟩
  intro c listed
  simp only [List.mem_append, List.mem_replicate] at listed
  rcases listed with ⟨_, rfl⟩ | ⟨_, rfl⟩ | digit
  · decide
  · decide
  · exact Nat.isDigit_of_mem_toDigits (by decide) (by decide) digit

theorem stripStart?_eq_some (start chars rest : List Char) :
    Text.stripStart? start chars = some rest ↔ chars = start ++ rest := by
  induction start generalizing chars with
  | nil => simp [Text.stripStart?, eq_comm]
  | cons c start ih =>
      cases chars with
      | nil => simp [Text.stripStart?]
      | cons d chars =>
          by_cases same : c = d
          · simp [Text.stripStart?, same, ih]
          · simp [Text.stripStart?, same, Ne.symm same]

theorem stripEnd?_eq_some (ending chars rest : List Char) :
    Text.stripEnd? ending chars = some rest ↔ chars = rest ++ ending := by
  simp only [Text.stripEnd?, Option.map_eq_some_iff, stripStart?_eq_some]
  constructor
  · rintro ⟨turned, split, rfl⟩
    simpa using congrArg List.reverse split
  · rintro rfl
    exact ⟨rest.reverse, by simp, by simp⟩

def filledName (num : QuestNum) (zeros : Nat) : String :=
  "quest_" ++ (String.ofList (List.replicate zeros '0') ++ num.padded) ++ ".json"

theorem filledName_zero (num : QuestNum) : num.filledName 0 = num.fileName := by
  simp [filledName, fileName]

theorem filledName_toList (num : QuestNum) (zeros : Nat) : (num.filledName zeros).toList =
    "quest_".toList ++ ((List.replicate zeros '0' ++ num.padded.toList) ++ ".json".toList) := by
  simp only [filledName, String.toList_append, String.toList_ofList, List.append_assoc]

theorem ofFileName?_filledName (num : QuestNum) (some_ : num.val ≠ 0) (zeros : Nat) :
    ofFileName? (num.filledName zeros) = some num := by
  have stripped : (Text.stripStart? "quest_".toList (num.filledName zeros).toList).bind
      (Text.stripEnd? ".json".toList) = some (List.replicate zeros '0' ++ num.padded.toList) := by
    rw [(stripStart?_eq_some ..).mpr (num.filledName_toList zeros), Option.bind_some,
      stripEnd?_eq_some]
  have long : 3 ≤ (List.replicate zeros '0' ++ num.padded.toList).length := by
    have := num.padded_length
    rw [List.length_append]
    omega
  have positive := num.toNat_pos some_
  have size : num.val.toNat < UInt32.size := num.val.toNat_lt
  simp only [ofFileName?, stripped, filled_digits, long, positive, size, and_self, ↓reduceIte]
  simp

theorem exists_filled (num : QuestNum) (some_ : num.val ≠ 0) (digits : List Char)
    (least : 3 ≤ digits.length) (valued : Text.digits? digits = some num.val.toNat) :
    ∃ zeros, digits = List.replicate zeros '0' ++ num.padded.toList := by
  obtain ⟨_, each, value⟩ := (digits?_eq_some digits _).mp valued
  obtain ⟨zeros, split⟩ := exists_zeros digits each (value ▸ num.toNat_pos some_)
  rw [value] at split
  have long : 3 ≤ zeros + (Nat.toDigits 10 num.val.toNat).length := by
    simpa [split] using least
  refine ⟨zeros - (3 - (Nat.toDigits 10 num.val.toNat).length), ?_⟩
  rw [padded_toList, ← List.append_assoc, List.replicate_append_replicate, Nat.sub_add_cancel]
  · exact split
  · omega

theorem ofFileName?_parts (name : String) (num : QuestNum)
    (read : ofFileName? name = some num) : ∃ digits,
      (Text.stripStart? "quest_".toList name.toList).bind (Text.stripEnd? ".json".toList) =
        some digits ∧
      3 ≤ digits.length ∧ num.val ≠ 0 ∧ Text.digits? digits = some num.val.toNat := by
  unfold ofFileName? at read
  cases stripped : (Text.stripStart? "quest_".toList name.toList).bind
      (Text.stripEnd? ".json".toList) with
  | none => simp only [stripped, reduceCtorEq] at read
  | some digits =>
      cases valued : Text.digits? digits with
      | none => simp only [stripped, valued, reduceCtorEq] at read
      | some n =>
          simp only [stripped, valued, Option.ite_none_right_eq_some, Option.some.injEq] at read
          obtain ⟨⟨least, positive, fits⟩, rfl⟩ := read
          have same : n.toUInt32.toNat = n := UInt32.toNat_ofNat_of_lt' fits
          refine ⟨digits, rfl, least, fun zero => ?_, by rw [valued, same]⟩
          rw [show n.toUInt32 = 0 from zero] at same
          exact Nat.ne_of_gt positive same.symm

/-- A name that is read as a quest's is the name of its file but for zeros before the digits. -/
theorem ofFileName?_eq_some (name : String) (num : QuestNum) :
    ofFileName? name = some num ↔ num.val ≠ 0 ∧ ∃ zeros, name = num.filledName zeros := by
  constructor
  · intro read
    obtain ⟨digits, stripped, least, some_, valued⟩ := ofFileName?_parts name num read
    obtain ⟨zeros, filled⟩ := num.exists_filled some_ digits least valued
    refine ⟨some_, zeros, String.toList_inj.mp ?_⟩
    obtain ⟨rest, start, ending⟩ := Option.bind_eq_some_iff.mp stripped
    rw [(stripStart?_eq_some ..).mp start, (stripEnd?_eq_some ..).mp ending, filled,
      filledName_toList]
  · rintro ⟨some_, zeros, rfl⟩
    exact num.ofFileName?_filledName some_ zeros

theorem filledName_inj (num other : QuestNum) (zeros more : Nat)
    (same : num.filledName zeros = other.filledName more) : num = other ∧ zeros = more := by
  have spelled := congrArg String.toList same
  rw [filledName_toList, filledName_toList] at spelled
  have digits := List.append_cancel_right (List.append_cancel_left spelled)
  have value := congrArg Text.digits? digits
  rw [filled_digits, filled_digits, Option.some.injEq, UInt32.toNat_inj] at value
  obtain rfl : num = other := by
    cases num
    cases other
    exact congrArg QuestNum.mk value
  exact ⟨rfl, by simpa using congrArg List.length digits⟩

theorem ofFileName?_of_fileName (num : QuestNum) (some_ : num.val ≠ 0) :
    ofFileName? num.fileName = some num := by
  rw [← filledName_zero]
  exact num.ofFileName?_filledName some_ 0

theorem fileName_inj (num other : QuestNum) (same : num.fileName = other.fileName) :
    num = other := by
  rw [← filledName_zero, ← filledName_zero] at same
  exact (filledName_inj num other 0 0 same).1

def Spells (name : String) (num : QuestNum) : Prop :=
  ∃ digits : List Char, name = "quest_" ++ String.ofList digits ++ ".json" ∧ 3 ≤ digits.length ∧
    (∀ c ∈ digits, c.isDigit = true) ∧ Nat.ofDigitChars 10 digits 0 = num.val.toNat

theorem ofFileName?_iff_spells (name : String) (num : QuestNum) :
    ofFileName? name = some num ↔ num.val ≠ 0 ∧ Spells name num := by
  constructor
  · intro read
    obtain ⟨digits, stripped, least, some_, valued⟩ := ofFileName?_parts name num read
    obtain ⟨rest, start, ending⟩ := Option.bind_eq_some_iff.mp stripped
    obtain ⟨_, each, value⟩ := (digits?_eq_some digits _).mp valued
    refine ⟨some_, digits, String.toList_inj.mp ?_, least, each, value⟩
    rw [(stripStart?_eq_some ..).mp start, (stripEnd?_eq_some ..).mp ending]
    simp only [String.toList_append, String.toList_ofList, List.append_assoc]
  · rintro ⟨some_, digits, rfl, least, each, value⟩
    have valued : Text.digits? digits = some num.val.toNat :=
      (digits?_eq_some digits _).mpr ⟨by rintro rfl; simp at least, each, value⟩
    obtain ⟨zeros, filled⟩ := num.exists_filled some_ digits least valued
    refine (ofFileName?_eq_some _ num).mpr ⟨some_, zeros, String.toList_inj.mp ?_⟩
    simp only [filledName_toList, String.toList_append, String.toList_ofList, filled,
      List.append_assoc]

/-- The file of every quest is read as the quest's, no two quests share one, and whatever name is
read as a quest's spells its number. -/
theorem file_names_read :
    (∀ num : QuestNum, num.val ≠ 0 → ofFileName? num.fileName = some num) ∧
    (∀ num other : QuestNum, num.fileName = other.fileName → num = other) ∧
    ∀ (name : String) (num : QuestNum),
      ofFileName? name = some num ↔ num.val ≠ 0 ∧ Spells name num :=
  ⟨ofFileName?_of_fileName, fileName_inj, ofFileName?_iff_spells⟩

/-- The greatest number has a file of its own, and a name with more zeros than needed is read as
well. -/
theorem file_names_read_last :
    ((⟨4294967295⟩ : QuestNum).val ≠ 0 ∧ ofFileName? (fileName ⟨4294967295⟩) = some ⟨4294967295⟩) ∧
    fileName ⟨4294967295⟩ ≠ fileName ⟨429496729⟩ ∧
    ofFileName? "quest_0042.json" = some ⟨42⟩ ∧ Spells "quest_0042.json" ⟨42⟩ := by
  obtain ⟨own, apart, spelled⟩ := file_names_read
  have great : (⟨4294967295⟩ : QuestNum).val ≠ 0 := by decide
  have read : ofFileName? "quest_0042.json" = some ⟨42⟩ := by decide +kernel
  refine ⟨⟨great, own _ great⟩, fun same => ?_, read, ((spelled _ _).mp read).2⟩
  exact absurd (apart _ _ same) (by decide)

end QuestNum

end QuestWeb
