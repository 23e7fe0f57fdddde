import Mathlib.Algebra.Group.Int.Defs
import QuestWeb.Dataset.Access

/-!
Text that is read back. A tree whose numbers are whole and whose containers nest no deeper than the
reader goes is what its text spells.
-/

namespace QuestWeb.Json

theorem quoted_toList (text : String) :
    (quoted text).toList =
      '"' :: (text.toList.flatMap fun c => (escapeChar c).toList) ++ ['"'] := by
  have spelled (chars : List Char) (before : String) :
      (chars.foldl (fun out c => out ++ escapeChar c) before).toList =
        before.toList ++ chars.flatMap fun c => (escapeChar c).toList := by
    induction chars generalizing before with
    | nil => simp
    | cons c rest ih => simp [ih]
  rw [quoted, String.foldl_eq_foldl_toList, String.toList_append, spelled]
  rfl

theorem hexUnit?_control :
    ∀ n < 0x20, hexUnit? '0' '0' (hexDigit (n / 16)) (hexDigit (n % 16)) = some n := by
  decide

theorem Spelling.unit_control (s : Spelling) (n : Nat) (low : n < 0x20) :
    s.unit n = s.char (Char.ofNat n) := by
  have below : isHighSurrogate n = false ∧ isLowSurrogate n = false := by
    simp only [isHighSurrogate, isLowSurrogate, Bool.and_eq_false_iff, decide_eq_false_iff_not]
    omega
  simp [unit, below]

def shortEscapes : List Char := ['"', '\\', '\n', '\r', '\t', '\x08', '\x0c']

theorem readString_short (s : Spelling) (rest : List Char) : ∀ c ∈ shortEscapes,
    readString s ((escapeChar c).toList ++ rest) = readString (s.char c) rest := by
  simp only [shortEscapes, List.forall_mem_cons, List.not_mem_nil, false_implies, implies_true,
    and_true]
  exact ⟨rfl, rfl, rfl, rfl, rfl, rfl, rfl⟩

theorem escapeChar_long (c : Char) (long : c ∉ shortEscapes) :
    escapeChar c =
      if c.toNat < 0x20 then
        "\\u00" ++ String.singleton (hexDigit (c.toNat / 16)) ++
          String.singleton (hexDigit (c.toNat % 16))
      else String.singleton c := by
  simp only [shortEscapes, List.mem_cons, List.not_mem_nil, or_false, not_or] at long
  obtain ⟨quote, slash, newline, return_, tab, back, feed⟩ := long
  have notBack : c.toNat ≠ 8 := fun code => back (by rw [← Char.ofNat_toNat c, code])
  have notFeed : c.toNat ≠ 12 := fun code => feed (by rw [← Char.ofNat_toNat c, code])
  simp only [escapeChar, quote, slash, newline, return_, tab, notBack, notFeed, ↓reduceIte]

theorem readString_escapeChar (s : Spelling) (c : Char) (rest : List Char) :
    readString s ((escapeChar c).toList ++ rest) = readString (s.char c) rest := by
  by_cases short : c ∈ shortEscapes
  · exact readString_short s rest c short
  rw [escapeChar_long c short]
  by_cases low : c.toNat < 0x20
  · have spelled : ("\\u00" ++ String.singleton (hexDigit (c.toNat / 16)) ++
        String.singleton (hexDigit (c.toNat % 16))).toList ++ rest =
        '\\' :: 'u' :: '0' :: '0' :: hexDigit (c.toNat / 16) :: hexDigit (c.toNat % 16) ::
          rest := by
      simp
    rw [if_pos low, spelled, readString, hexUnit?_control c.toNat low]
    simp only [s.unit_control c.toNat low, Char.ofNat_toNat]
  · have quote : c ≠ '"' := by
      rintro rfl
      exact short (by decide)
    have slash : c ≠ '\\' := by
      rintro rfl
      exact short (by decide)
    rw [if_neg low, String.toList_singleton, List.singleton_append, readString]
    · simp [low]
    · exact quote
    · simp [slash]
    · simp [slash]

theorem readString_quoted (text : String) (rest : List Char) :
    readString .start ((text.toList.flatMap fun c => (escapeChar c).toList) ++ '"' :: rest) =
      some (some text, rest) := by
  have spelled (chars before : List Char) :
      readString ⟨before, true, none⟩
        ((chars.flatMap fun c => (escapeChar c).toList) ++ '"' :: rest) =
          some (some (String.ofList (before.reverse ++ chars)), rest) := by
    induction chars generalizing before with
    | nil => simp [readString, Spelling.text?]
    | cons c others ih =>
        rw [List.flatMap_cons, List.append_assoc, readString_escapeChar]
        exact (ih (c :: before)).trans (by simp)
  exact (spelled text.toList []).trans (by simp)

theorem digit?_of_isDigit (c : Char) (digit : c.isDigit = true) :
    digit? c = some (c.toNat - 0x30) := by
  have inside : ('0' ≤ c && c ≤ '9') = true := by
    simpa [Char.isDigit, Char.le_def] using digit
  simp [digit?, inside]

def endsNumber : List Char → Bool
  | [] => true
  | c :: _ => (digit? c).isNone && c != '.' && c != 'e' && c != 'E'

theorem startsWithDigit_of_ends (rest : List Char) (ends : endsNumber rest = true) :
    startsWithDigit rest = false := by
  cases rest with
  | nil => rfl
  | cons c rest =>
      simp only [endsNumber, Bool.and_eq_true, Option.isNone_iff_eq_none] at ends
      simp [startsWithDigit, ends.1.1.1]

theorem exponentPart_of_ends (rest : List Char) (ends : endsNumber rest = true) :
    exponentPart rest = some (none, rest) := by
  cases rest with
  | nil => rfl
  | cons c rest =>
      simp only [endsNumber, Bool.and_eq_true, bne_iff_ne, ne_eq] at ends
      simp [exponentPart, ends.1.2, ends.2]

theorem le_ofDigitChars (digits : List Char) (kept : Nat) :
    kept ≤ Nat.ofDigitChars 10 digits kept := by
  induction digits generalizing kept with
  | nil => simp
  | cons c rest ih =>
      rw [Nat.ofDigitChars_cons]
      exact Nat.le_trans (by omega) (ih _)

/-- The reader keeps all digits of a number that fits a word. -/
theorem wholeDigits_append (digits rest : List Char) (kept : Nat) (exponent : Int)
    (all : ∀ c ∈ digits, c.isDigit = true) (ends : endsNumber rest = true)
    (fits : Nat.ofDigitChars 10 digits kept ≤ largestWord) :
    wholeDigits ⟨kept, exponent, false⟩ (digits ++ rest) =
      (⟨Nat.ofDigitChars 10 digits kept, exponent, false⟩, rest) := by
  induction digits generalizing kept with
  | nil =>
      cases rest with
      | nil => rfl
      | cons c rest =>
          simp only [endsNumber, Bool.and_eq_true, Option.isNone_iff_eq_none] at ends
          simp [wholeDigits, ends.1.1.1]
  | cons c others ih =>
      obtain ⟨digit, later⟩ := List.forall_mem_cons.mp all
      rw [Nat.ofDigitChars_cons] at fits ⊢
      have next : kept * 10 + (c.toNat - 0x30) = 10 * kept + (c.toNat - '0'.toNat) := by
        rw [Nat.mul_comm]
        rfl
      have room : ¬ largestWord < kept * 10 + (c.toNat - 0x30) := by
        have grown := le_ofDigitChars others (10 * kept + (c.toNat - '0'.toNat))
        omega
      rw [List.cons_append, wholeDigits, digit?_of_isDigit c digit]
      simp only [Bool.false_or, room, decide_false, Bool.false_eq_true, ↓reduceIte]
      rw [next]
      exact ih _ later fits

theorem toDigits_head (n : Nat) (positive : 0 < n) : (Nat.toDigits 10 n).head? ≠ some '0' := by
  induction n using Nat.strongRecOn with
  | ind n ih =>
      by_cases small : n < 10
      · rw [Nat.toDigits_of_lt_base small]
        have each : ∀ n < 10, 0 < n → [n.digitChar].head? ≠ some '0' := by decide
        exact each n small positive
      · rw [Nat.toDigits_of_base_le (by decide) (by omega)]
        have before := ih (n / 10) (by omega) (by omega)
        cases digits : Nat.toDigits 10 (n / 10) with
        | nil => exact absurd digits Nat.toDigits_ne_nil
        | cons c rest => simpa [digits] using before

theorem startsWithDigit_toDigits (n : Nat) (rest : List Char) :
    startsWithDigit (Nat.toDigits 10 n ++ rest) = true := by
  cases digits : Nat.toDigits 10 n with
  | nil => exact absurd digits Nat.toDigits_ne_nil
  | cons c others =>
      have digit : c.isDigit = true :=
        Nat.isDigit_of_mem_toDigits (by decide) (by decide) (digits ▸ List.mem_cons_self)
      simp [startsWithDigit, digit?_of_isDigit c digit]

theorem readNumber_digits (negative : Bool) (n : Nat) (fits : n ≤ largestWord) (rest : List Char)
    (ends : endsNumber rest = true) :
    readNumber negative (Nat.toDigits 10 n ++ rest) =
      some (wholeValue negative ⟨n, 0, false⟩, rest) := by
  have digits := startsWithDigit_toDigits n rest
  have stops := startsWithDigit_of_ends rest ends
  have plain := exponentPart_of_ends rest ends
  have point (others : List Char) : rest ≠ '.' :: others := by
    rintro rfl
    simp [endsNumber] at ends
  unfold readNumber
  by_cases positive : 0 < n
  · have head := toDigits_head n positive
    have whole := wholeDigits_append (Nat.toDigits 10 n) rest 0 0
      (fun c listed => Nat.isDigit_of_mem_toDigits (by decide) (by decide) listed) ends
      (by simpa using fits)
    cases spelled : Nat.toDigits 10 n with
    | nil => exact absurd spelled Nat.toDigits_ne_nil
    | cons c others =>
        have other : c ≠ '0' := by simpa [spelled] using head
        rw [Nat.ofDigitChars_ten_toDigits, spelled, List.cons_append] at whole
        rw [spelled, List.cons_append] at digits
        have first : (some c == some '0') = false := by simpa using other
        have apart (tail : List Char) : c :: (others ++ rest) ≠ '0' :: tail := by simp [other]
        simp only [List.cons_append, digits, List.head?_cons, first, Bool.not_true,
          Bool.false_eq_true, ↓reduceIte, Bool.false_and, whole, plain, Option.map_some]
  · obtain rfl : n = 0 := by omega
    simp only [Nat.toDigits_zero, List.singleton_append] at digits ⊢
    simp only [digits, stops, plain, Bool.not_true, Bool.and_false, Bool.false_eq_true, ↓reduceIte,
      Option.map_some]

theorem isSpace_of_isDigit (c : Char) (digit : c.isDigit = true) : isSpace c = false := by
  have apart (d : Char) (other : d.isDigit = false) : c ≠ d := by
    rintro rfl
    simp [other] at digit
  simp [isSpace, apart ' ' (by decide), apart '\t' (by decide), apart '\n' (by decide),
    apart '\r' (by decide)]

theorem readValue_digits (n : Nat) (rest : List Char) (fuel depth : Nat) :
    readValue (fuel + 1) depth (Nat.toDigits 10 n ++ rest) =
      readNumber false (Nat.toDigits 10 n ++ rest) := by
  cases spelled : Nat.toDigits 10 n with
  | nil => exact absurd spelled Nat.toDigits_ne_nil
  | cons c others =>
      have digit : c.isDigit = true :=
        Nat.isDigit_of_mem_toDigits (by decide) (by decide) (spelled ▸ List.mem_cons_self)
      have apart (d : Char) (other : d.isDigit = false) (early late : List Char) :
          c :: early ≠ d :: late := by
        rintro same
        cases same
        simp [other] at digit
      simp only [List.cons_append]
      unfold readValue
      rw [skipSpace, List.dropWhile_cons_of_neg (by simp [isSpace_of_isDigit c digit])]
      split <;> first | rfl | (rename_i same; exact absurd same (apart _ rfl _ _))

theorem numberText_nat (n : Nat) : (numberText (.int n)).toList = Nat.toDigits 10 n :=
  Nat.toList_repr

theorem numberText_negSucc (n : Nat) :
    (numberText (.int (.negSucc n))).toList = '-' :: Nat.toDigits 10 (n + 1) := by
  have spelled : numberText (.int (.negSucc n)) = "-" ++ (n + 1).repr := rfl
  rw [spelled, String.toList_append, Nat.toList_repr]
  rfl

theorem readValue_int (n : Int) (low : -2 ^ 63 ≤ n) (high : n < 2 ^ 64) (rest : List Char)
    (ends : endsNumber rest = true) (fuel depth : Nat) :
    readValue (fuel + 1) depth ((numberText (.int n)).toList ++ rest) =
      some (.num (.int n), rest) := by
  have word : largestWord = 2 ^ 64 - 1 := rfl
  cases n with
  | ofNat n =>
      have fits : n ≤ largestWord := by
        simp only [Int.ofNat_eq_natCast] at high
        omega
      rw [Int.ofNat_eq_natCast, numberText_nat, readValue_digits,
        readNumber_digits false n fits rest ends]
      rfl
  | negSucc n =>
      have fits : n + 1 ≤ largestWord := by omega
      have small : ¬ UInt64.size / 2 < n + 1 := by
        have half : UInt64.size / 2 = 2 ^ 63 := rfl
        omega
      have minus : readValue (fuel + 1) depth ('-' :: (Nat.toDigits 10 (n + 1) ++ rest)) =
          readNumber true (Nat.toDigits 10 (n + 1) ++ rest) := rfl
      rw [numberText_negSucc, List.cons_append, minus, readNumber_digits true _ fits rest ends]
      have negated : -((n + 1 : Nat) : Int) = .negSucc n := rfl
      simp only [wholeValue, Nat.add_one_ne_zero, small, negated, decide_false, Bool.or_self,
        Bool.false_eq_true, ↓reduceIte]

/-- Trees that are read back: their numbers are whole and fit the reader, and at most `room`
containers stand one in the other. -/
inductive Plain : Nat → Json → Prop where
  | null {room : Nat} : Plain room .null
  | bool {room : Nat} (value : Bool) : Plain room (.bool value)
  | str {room : Nat} (text : String) : Plain room (.str text)
  | int {room : Nat} (n : Int) (low : -2 ^ 63 ≤ n) (high : n < 2 ^ 64) : Plain room (.num (.int n))
  | arr {room : Nat} (items : List Json) (each : ∀ item ∈ items, Plain room item) :
      Plain (room + 1) (.arr items)
  | obj {room : Nat} (members : List (String × Json))
      (each : ∀ member ∈ members, Plain room member.2) : Plain (room + 1) (.obj members)

theorem skipSpace_newline (depth : Nat) (rest : List Char) :
    skipSpace ((newline depth).toList ++ rest) = skipSpace rest := by
  have blanks (n : Nat) : skipSpace (List.replicate n ' ' ++ rest) = skipSpace rest := by
    induction n with
    | zero => rfl
    | succ n ih => exact ih
  have spelled : (newline depth).toList = '\n' :: List.replicate (2 * depth) ' ' := by
    simp [newline]
  rw [spelled]
  exact blanks _

theorem readValue_newline (fuel depth level : Nat) (chars : List Char) :
    readValue fuel depth ((newline level).toList ++ chars) = readValue fuel depth chars := by
  cases fuel with
  | zero => rfl
  | succ fuel =>
      unfold readValue
      rw [skipSpace_newline]

theorem readItems_newline (fuel depth level : Nat) (chars : List Char) :
    readItems fuel depth ((newline level).toList ++ chars) = readItems fuel depth chars := by
  cases fuel with
  | zero => rfl
  | succ fuel =>
      unfold readItems
      rw [readValue_newline]

theorem readMembers_newline (fuel depth level : Nat) (chars : List Char) :
    readMembers fuel depth ((newline level).toList ++ chars) = readMembers fuel depth chars := by
  cases fuel with
  | zero => rfl
  | succ fuel =>
      unfold readMembers
      rw [skipSpace_newline]

theorem prettyAt_arr (depth : Nat) (item : Json) (items : List Json) :
    (prettyAt depth (.arr (item :: items))).toList =
      '[' :: ((newline (depth + 1)).toList ++ ((prettyAt (depth + 1) item).toList ++
        ((prettyItems (depth + 1) items).toList ++ ((newline depth).toList ++ [']'])))) := by
  simp [prettyAt]

theorem prettyAt_obj (depth : Nat) (member : String × Json) (members : List (String × Json)) :
    (prettyAt depth (.obj (member :: members))).toList =
      '\x7b' :: ((newline (depth + 1)).toList ++ ((quoted member.1).toList ++ (':' :: ' ' ::
        ((prettyAt (depth + 1) member.2).toList ++ ((prettyMembers (depth + 1) members).toList ++
          ((newline depth).toList ++ ['\x7d'])))))) := by
  simp [prettyAt]

theorem Plain.head {room : Nat} {json : Json} (plain : Plain room json) (depth : Nat) :
    ∃ c rest, (prettyAt depth json).toList = c :: rest ∧ isSpace c = false ∧ c ≠ ']' := by
  cases plain with
  | null => exact ⟨'n', "ull".toList, by simp [prettyAt], by decide, by decide⟩
  | bool value =>
      cases value with
      | false => exact ⟨'f', "alse".toList, by simp [prettyAt], by decide, by decide⟩
      | true => exact ⟨'t', "rue".toList, by simp [prettyAt], by decide, by decide⟩
  | str text =>
      rw [prettyAt, quoted_toList]
      exact ⟨'"', _, rfl, by decide, by decide⟩
  | int n =>
      cases n with
      | ofNat n =>
          rw [prettyAt, Int.ofNat_eq_natCast, numberText_nat]
          cases spelled : Nat.toDigits 10 n with
          | nil => exact absurd spelled Nat.toDigits_ne_nil
          | cons c rest =>
              have digit : c.isDigit = true :=
                Nat.isDigit_of_mem_toDigits (by decide) (by decide) (spelled ▸ List.mem_cons_self)
              refine ⟨c, rest, rfl, isSpace_of_isDigit c digit, ?_⟩
              rintro rfl
              exact absurd digit (by decide)
      | negSucc n =>
          rw [prettyAt, numberText_negSucc]
          exact ⟨'-', _, rfl, by decide, by decide⟩
  | arr items =>
      cases items with
      | nil => exact ⟨'[', [']'], by simp [prettyAt], by decide, by decide⟩
      | cons item rest =>
          rw [prettyAt_arr]
          exact ⟨'[', _, rfl, by decide, by decide⟩
  | obj members =>
      cases members with
      | nil => exact ⟨'\x7b', ['\x7d'], by simp [prettyAt], by decide, by decide⟩
      | cons member rest =>
          rw [prettyAt_obj]
          exact ⟨'\x7b', _, rfl, by decide, by decide⟩

theorem endsNumber_newline (level : Nat) (rest : List Char) :
    endsNumber ((newline level).toList ++ rest) = true := by
  have spelled : (newline level).toList = '\n' :: List.replicate (2 * level) ' ' := by
    simp [newline]
  rw [spelled]
  rfl

section Containers

variable {room : Nat} (depth level : Nat)

theorem readItems_pretty (items : List Json) (item : Json) (rest : List Char) (fuel : Nat)
    (each : ∀ own ∈ item :: items, ∀ tail fuel, endsNumber tail = true →
      2 * (prettyAt depth own).toList.length ≤ fuel →
        readValue fuel depth ((prettyAt depth own).toList ++ tail) = some (own, tail))
    (fuelled : 2 * (prettyAt depth item).toList.length +
      2 * (prettyItems depth items).toList.length < fuel) :
    readItems fuel depth ((prettyAt depth item).toList ++ ((prettyItems depth items).toList ++
      ((newline level).toList ++ ']' :: rest))) = some (item :: items, rest) := by
  induction items generalizing item fuel with
  | nil =>
      obtain ⟨fuel, rfl⟩ : ∃ less, fuel = less + 1 := ⟨fuel - 1, by omega⟩
      have first := each item List.mem_cons_self ((newline level).toList ++ ']' :: rest) fuel
        (endsNumber_newline ..) (by omega)
      have none : (prettyItems depth []).toList = [] := by simp [prettyItems]
      rw [none, List.nil_append, readItems, first]
      simp only [skipSpace_newline]
      rfl
  | cons next others ih =>
      obtain ⟨fuel, rfl⟩ : ∃ less, fuel = less + 1 := ⟨fuel - 1, by omega⟩
      have spelled : (prettyItems depth (next :: others)).toList =
          ',' :: ((newline depth).toList ++ ((prettyAt depth next).toList ++
            (prettyItems depth others).toList)) := by
        simp [prettyItems]
      have longer := congrArg List.length spelled
      simp only [List.length_cons, List.length_append] at longer
      have later := ih next fuel (fun own listed => each own (List.mem_cons_of_mem _ listed))
        (by omega)
      have first := each item List.mem_cons_self
        ((prettyItems depth (next :: others)).toList ++ ((newline level).toList ++ ']' :: rest))
        fuel (by rw [spelled]; rfl) (by omega)
      rw [readItems, first, spelled]
      simp only [List.cons_append, List.append_assoc]
      have comma (chars : List Char) : skipSpace (',' :: chars) = ',' :: chars := rfl
      simp only [comma, readItems_newline, later, Option.map_some]

theorem readMembers_pretty (members : List (String × Json)) (member : String × Json)
    (rest : List Char) (fuel : Nat)
    (each : ∀ own ∈ member :: members, ∀ tail fuel, endsNumber tail = true →
      2 * (prettyAt depth own.2).toList.length ≤ fuel →
        readValue fuel depth ((prettyAt depth own.2).toList ++ tail) = some (own.2, tail))
    (fuelled : 2 * (prettyAt depth member.2).toList.length +
      2 * (prettyMembers depth members).toList.length < fuel) :
    readMembers fuel depth ((quoted member.1).toList ++ (':' :: ' ' ::
      ((prettyAt depth member.2).toList ++ ((prettyMembers depth members).toList ++
        ((newline level).toList ++ '\x7d' :: rest))))) =
      some ((member :: members).map fun own => (some own.1, own.2), rest) := by
  have colon (chars : List Char) : skipSpace (':' :: chars) = ':' :: chars := rfl
  have comma (chars : List Char) : skipSpace (',' :: chars) = ',' :: chars := rfl
  have quote (chars : List Char) : skipSpace ('"' :: chars) = '"' :: chars := rfl
  have blank (fuel : Nat) (chars : List Char) :
      readValue fuel depth (' ' :: chars) = readValue fuel depth chars := by
    cases fuel with
    | zero => rfl
    | succ fuel =>
        unfold readValue
        rfl
  induction members generalizing member fuel with
  | nil =>
      obtain ⟨fuel, rfl⟩ : ∃ less, fuel = less + 1 := ⟨fuel - 1, by omega⟩
      have first := each member List.mem_cons_self ((newline level).toList ++ '\x7d' :: rest) fuel
        (endsNumber_newline ..) (by omega)
      have none : (prettyMembers depth []).toList = [] := by simp [prettyMembers]
      rw [none, List.nil_append, readMembers, quoted_toList]
      simp only [List.cons_append, List.append_assoc, quote, List.nil_append, readString_quoted,
        colon, blank, first, skipSpace_newline]
      rfl
  | cons next others ih =>
      obtain ⟨fuel, rfl⟩ : ∃ less, fuel = less + 1 := ⟨fuel - 1, by omega⟩
      have spelled : (prettyMembers depth (next :: others)).toList =
          ',' :: ((newline depth).toList ++ ((quoted next.1).toList ++ ':' :: ' ' ::
            ((prettyAt depth next.2).toList ++ (prettyMembers depth others).toList))) := by
        simp [prettyMembers]
      have longer := congrArg List.length spelled
      simp only [List.length_cons, List.length_append] at longer
      have later := ih next fuel (fun own listed => each own (List.mem_cons_of_mem _ listed))
        (by omega)
      have first := each member List.mem_cons_self
        ((prettyMembers depth (next :: others)).toList ++
          ((newline level).toList ++ '\x7d' :: rest))
        fuel (by rw [spelled]; rfl) (by omega)
      rw [readMembers, quoted_toList]
      simp only [List.cons_append, List.append_assoc, quote, List.nil_append, readString_quoted,
        colon, blank, first]
      rw [spelled]
      simp only [List.cons_append, List.append_assoc, comma, readMembers_newline, later,
        Option.map_some, List.map_cons]

end Containers

theorem object_some (depth : Nat) (members : List (String × Json)) (shallow : depth < deepest) :
    object depth (members.map fun own => (some own.1, own.2)) = .obj members := by
  have spelled (read : Option String × Json → Option (String × Json))
      (back : ∀ member : String × Json, read (some member.1, member.2) = some member) :
      (members.map fun own => (some own.1, own.2)).mapM read = some members := by
    induction members with
    | nil => rfl
    | cons member rest ih =>
        rw [List.map_cons, List.mapM_cons, ih, back]
        rfl
  unfold object
  rw [spelled _ fun _ => rfl]
  simp [container, shallow]

theorem Plain.filled {room : Nat} {json : Json} (plain : Plain room json) (depth : Nat) :
    0 < (prettyAt depth json).toList.length := by
  obtain ⟨c, rest, spelled, _⟩ := plain.head depth
  simp [spelled]

theorem readValue_arr (fuel depth : Nat) (item : Json) (others : List Json) (tail : List Char)
    (shallow : depth < deepest) {room : Nat} (plain : Plain room item)
    (listed : readItems fuel (depth + 1) ((prettyAt (depth + 1) item).toList ++
      ((prettyItems (depth + 1) others).toList ++ ((newline depth).toList ++ ']' :: tail))) =
        some (item :: others, tail)) :
    readValue (fuel + 1) depth ((prettyAt depth (.arr (item :: others))).toList ++ tail) =
      some (.arr (item :: others), tail) := by
  obtain ⟨c, rest, spelled, blank, other⟩ := plain.head (depth + 1)
  have apart (early late : List Char) : c :: early ≠ ']' :: late := by simp [other]
  have visible (chars : List Char) : skipSpace (c :: chars) = c :: chars := by
    simp [skipSpace, blank]
  have bracket (chars : List Char) : skipSpace ('[' :: chars) = '[' :: chars := rfl
  rw [prettyAt_arr, readValue]
  simp only [List.cons_append, List.append_assoc, bracket, skipSpace_newline]
  rw [spelled] at listed ⊢
  simp only [List.cons_append, List.nil_append, visible] at listed ⊢
  simp only [container, shallow, ↓reduceIte]
  split
  · rename_i same
    exact absurd same (apart _ _)
  · rw [listed]
    rfl

theorem readValue_obj (fuel depth : Nat) (member : String × Json) (others : List (String × Json))
    (tail : List Char) (shallow : depth < deepest)
    (listed : readMembers fuel (depth + 1) ((quoted member.1).toList ++ (':' :: ' ' ::
      ((prettyAt (depth + 1) member.2).toList ++ ((prettyMembers (depth + 1) others).toList ++
        ((newline depth).toList ++ '\x7d' :: tail))))) =
          some ((member :: others).map fun own => (some own.1, own.2), tail)) :
    readValue (fuel + 1) depth ((prettyAt depth (.obj (member :: others))).toList ++ tail) =
      some (.obj (member :: others), tail) := by
  have brace (chars : List Char) : skipSpace ('\x7b' :: chars) = '\x7b' :: chars := rfl
  have quote (chars : List Char) : skipSpace ('"' :: chars) = '"' :: chars := rfl
  rw [prettyAt_obj, readValue]
  simp only [List.cons_append, List.append_assoc, brace, skipSpace_newline]
  rw [quoted_toList] at listed ⊢
  simp only [List.cons_append, List.append_assoc, List.nil_append, quote] at listed ⊢
  split
  · rename_i same
    exact absurd same (by simp)
  · rw [listed, Option.map_some, object_some depth (member :: others) shallow]

/-- A plain tree is read back from its text, whatever follows. -/
theorem Plain.readValue {room : Nat} {json : Json} (plain : Plain room json) (depth : Nat)
    (within : depth + room ≤ deepest) (tail : List Char) (ends : endsNumber tail = true)
    (fuel : Nat) (fuelled : 2 * (prettyAt depth json).toList.length ≤ fuel) :
    readValue fuel depth ((prettyAt depth json).toList ++ tail) = some (json, tail) := by
  have filled := plain.filled depth
  induction plain generalizing depth tail fuel with
  | null =>
      obtain ⟨fuel, rfl⟩ : ∃ less, fuel = less + 1 := ⟨fuel - 1, by omega⟩
      simp [prettyAt, Json.readValue, skipSpace, isSpace]
  | bool value =>
      obtain ⟨fuel, rfl⟩ : ∃ less, fuel = less + 1 := ⟨fuel - 1, by omega⟩
      cases value <;> simp [prettyAt, Json.readValue, skipSpace, isSpace]
  | str text =>
      obtain ⟨fuel, rfl⟩ : ∃ less, fuel = less + 1 := ⟨fuel - 1, by omega⟩
      rw [prettyAt, quoted_toList]
      simp [Json.readValue, skipSpace, isSpace, readString_quoted]
  | int n low high =>
      obtain ⟨fuel, rfl⟩ : ∃ less, fuel = less + 1 := ⟨fuel - 1, by omega⟩
      exact readValue_int n low high tail ends fuel depth
  | arr items each ih =>
      obtain ⟨fuel, rfl⟩ : ∃ less, fuel = less + 1 := ⟨fuel - 1, by omega⟩
      have shallow : depth < deepest := by omega
      cases items with
      | nil => simp [prettyAt, Json.readValue, skipSpace, isSpace, container, shallow]
      | cons item others =>
          have size := congrArg List.length (prettyAt_arr depth item others)
          simp only [List.length_cons, List.length_append] at size
          have listed := readItems_pretty (depth + 1) depth others item tail fuel
            (fun own listed tail fuel ends enough => ih own listed (depth + 1) (by omega) tail ends
              fuel enough ((each own listed).filled _)) (by omega)
          exact readValue_arr fuel depth item others tail shallow (each item List.mem_cons_self)
            listed
  | obj members each ih =>
      obtain ⟨fuel, rfl⟩ : ∃ less, fuel = less + 1 := ⟨fuel - 1, by omega⟩
      have shallow : depth < deepest := by omega
      cases members with
      | nil => simp [prettyAt, Json.readValue, skipSpace, isSpace, container, shallow]
      | cons member others =>
          have size := congrArg List.length (prettyAt_obj depth member others)
          simp only [List.length_cons, List.length_append] at size
          have listed := readMembers_pretty (depth + 1) depth others member tail fuel
            (fun own listed tail fuel ends enough => ih own listed (depth + 1) (by omega) tail ends
              fuel enough ((each own listed).filled _)) (by omega)
          exact readValue_obj fuel depth member others tail shallow listed

theorem Plain.parsed {json : Json} (plain : Plain deepest json) :
    parse? json.document = some json := by
  have spelled : json.document.toList = (prettyAt 0 json).toList ++ ['\n'] := by
    simp [document, pretty]
  have read := plain.readValue 0 (by omega) ['\n'] rfl (2 * json.document.toList.length + 2) (by
    rw [spelled, List.length_append]
    omega)
  rw [← spelled] at read
  unfold parse?
  dsimp only
  rw [read]
  rfl

end QuestWeb.Json
