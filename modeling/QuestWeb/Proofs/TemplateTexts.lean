import QuestWeb.Proofs.UpperCase
import QuestWeb.Template

/-!
The texts of templates. A text can be read exactly if it is made of characters, doubled braces and
slots; what it is read as has a normal form, and every template in that form is read back from the
text that it is printed as.
-/

namespace QuestWeb.Template

def isBrace (c : Char) : Bool :=
  c == '{' || c == '}'

theorem isBrace_eq_false (c : Char) : isBrace c = false ↔ c ≠ '{' ∧ c ≠ '}' := by
  simp [isBrace]

inductive Piece where
  | char (c : Char)
  | slot (inside : List Char)

def spelledChar (c : Char) : List Char :=
  if isBrace c then [c, c] else [c]

namespace Piece

def spelled : Piece → List Char
  | .char c => spelledChar c
  | .slot inside => '{' :: inside ++ ['}']

/-- No brace stands in a slot, and something other than blanks does. -/
def Valid : Piece → Prop
  | .char _ => True
  | .slot inside => (∀ c ∈ inside, isBrace c = false) ∧ ∃ c ∈ inside, Text.isBlank c = false

end Piece

def attach (chars : List Char) : List Segment → List Segment
  | .literal text :: rest => .literal (String.ofList (chars ++ text.toList)) :: rest
  | rest => if chars.isEmpty then rest else .literal (String.ofList chars) :: rest

/-- The segments that pieces stand for. Characters in a row are one literal text, and a slot is
named without the blanks around the name. -/
def segmentsOf : List Piece → List Segment
  | [] => []
  | .char c :: rest => attach [c] (segmentsOf rest)
  | .slot inside :: rest =>
      .slot (String.ofList (Text.trimChars inside)) :: segmentsOf rest

theorem attach_nil (segments : List Segment) : attach [] segments = segments := by
  unfold attach
  split <;> simp

theorem attach_append (front back : List Char) (segments : List Segment) :
    attach (front ++ back) segments = attach front (attach back segments) := by
  cases segments with
  | nil => cases front <;> cases back <;> simp [attach]
  | cons first rest =>
      cases first with
      | literal text => simp [attach]
      | slot name => cases front <;> cases back <;> simp [attach]

theorem flush_eq (before : List Char) : flush before = attach before.reverse [] := by
  cases before <;> simp [flush, attach]

theorem flush_append (before : List Char) (name : String) (rest : List Segment) :
    flush before ++ .slot name :: rest = attach before.reverse (.slot name :: rest) := by
  cases before <;> simp [flush, attach]

theorem scan_char (before rest : List Char) (c : Char) :
    scan (.literal before) (spelledChar c ++ rest) = scan (.literal (c :: before)) rest := by
  by_cases open_ : c = '{'
  · simp [open_, spelledChar, isBrace, scan]
  · by_cases close : c = '}'
    · simp [close, spelledChar, isBrace, scan]
    · simp [open_, close, spelledChar, isBrace, scan]

/-- Inside a slot everything up to the closing brace belongs to its name. -/
theorem scan_inside (before inside rest : List Char)
    (plain : ∀ c ∈ inside, isBrace c = false) :
    scan (.slot before) (inside ++ '}' :: rest) =
      scan (.slot (inside.reverse ++ before)) ('}' :: rest) := by
  induction inside generalizing before with
  | nil => rfl
  | cons c inside ih =>
      obtain ⟨here, others⟩ := List.forall_mem_cons.mp plain
      obtain ⟨open_, close⟩ := (isBrace_eq_false c).mp here
      rw [List.reverse_cons, List.append_assoc, List.singleton_append, ← ih (c :: before) others,
        List.cons_append]
      simp [scan]

theorem scan_close (before rest : List Char) (named : Text.trimChars before.reverse ≠ []) :
    scan (.slot before) ('}' :: rest) =
      prepend [.slot (String.ofList (Text.trimChars before.reverse))]
        (scan (.literal []) rest) := by
  simp [scan, named]

theorem scan_slot (before inside rest : List Char) (valid : (Piece.slot inside).Valid) :
    scan (.literal before) ((Piece.slot inside).spelled ++ rest) =
      prepend (flush before) (prepend [.slot (String.ofList (Text.trimChars inside))]
        (scan (.literal []) rest)) := by
  obtain ⟨plain, visible⟩ := valid
  have named : Text.trimChars (inside.reverse ++ []).reverse ≠ [] := by
    rw [List.append_nil, List.reverse_reverse]
    exact (Text.trimChars_ne_nil inside).mpr visible
  -- What stands in a slot begins with no brace, so the slot's own is not taken for a doubled one.
  have opened : scan (.literal before) ((Piece.slot inside).spelled ++ rest) =
      prepend (flush before) (scan (.slot []) (inside ++ '}' :: rest)) := by
    cases inside with
    | nil => simp at visible
    | cons first inside =>
        have single : first ≠ '{' := by
          rintro rfl
          simp [isBrace] at plain
        simp [Piece.spelled, scan, single]
  rw [opened, scan_inside [] inside rest plain, scan_close _ rest named, List.append_nil,
    List.reverse_reverse]

/-- Pieces are read as the segments that they stand for, whatever literal text stands before. -/
theorem scan_spelled (pieces : List Piece) (valid : ∀ piece ∈ pieces, piece.Valid)
    (before : List Char) :
    scan (.literal before) (pieces.flatMap Piece.spelled) =
      .ok (attach before.reverse (segmentsOf pieces)) := by
  induction pieces generalizing before with
  | nil => exact congrArg Except.ok (flush_eq before)
  | cons piece rest ih =>
      obtain ⟨here, others⟩ := List.forall_mem_cons.mp valid
      cases piece with
      | char c =>
          have later := ih others (c :: before)
          rw [List.reverse_cons, attach_append] at later
          rw [List.flatMap_cons, Piece.spelled, scan_char, later, segmentsOf]
      | slot inside =>
          have later := ih others []
          rw [List.reverse_nil, attach_nil] at later
          rw [List.flatMap_cons, scan_slot before inside _ here, later, segmentsOf,
            ← flush_append]
          rfl

/-- What stands behind the reader where it succeeds: pieces, or the rest of a slot and then
pieces. -/
def Behind (segments : List Segment) : Scan → List Char → Prop
  | .literal before, text => ∃ pieces : List Piece, (∀ piece ∈ pieces, piece.Valid) ∧
      text = pieces.flatMap Piece.spelled ∧ segments = attach before.reverse (segmentsOf pieces)
  | .slot before, text => ∃ (inside : List Char) (pieces : List Piece),
      (∀ c ∈ inside, isBrace c = false) ∧ (∀ piece ∈ pieces, piece.Valid) ∧
      Text.trimChars (before.reverse ++ inside) ≠ [] ∧
      text = inside ++ '}' :: pieces.flatMap Piece.spelled ∧
      segments = .slot (String.ofList (Text.trimChars (before.reverse ++ inside))) ::
        segmentsOf pieces

theorem prepend_eq_ok (front segments : List Segment)
    (result : Except ParseError (List Segment)) :
    prepend front result = .ok segments ↔ ∃ rest, result = .ok rest ∧ segments = front ++ rest := by
  cases result <;> simp [prepend, eq_comm]

theorem behind_char {before text : List Char} {segments : List Segment} (c : Char)
    (behind : Behind segments (.literal (c :: before)) text) :
    Behind segments (.literal before) (spelledChar c ++ text) := by
  obtain ⟨pieces, valid, rfl, rfl⟩ := behind
  refine ⟨.char c :: pieces, List.forall_mem_cons.mpr ⟨trivial, valid⟩, rfl, ?_⟩
  rw [List.reverse_cons, attach_append, segmentsOf]

theorem scan_behind (state : Scan) (text : List Char) (segments : List Segment)
    (read : scan state text = .ok segments) : Behind segments state text := by
  fun_induction scan state text generalizing segments with
  | case1 before =>
      refine ⟨[], by simp, rfl, ?_⟩
      rw [segmentsOf, ← flush_eq]
      exact (Except.ok.inj read).symm
  | case2 before rest ih => exact behind_char '{' (ih segments read)
  | case3 before rest _ ih =>
      obtain ⟨more, inner, rfl⟩ := (prepend_eq_ok _ _ _).mp read
      obtain ⟨inside, pieces, plain, valid, named, rfl, rfl⟩ := ih more inner
      refine ⟨.slot inside :: pieces, List.forall_mem_cons.mpr ⟨⟨plain, ?_⟩, valid⟩, ?_, ?_⟩
      · exact (Text.trimChars_ne_nil inside).mp named
      · simp [Piece.spelled]
      · rw [segmentsOf, ← flush_append]
        rfl
  | case4 before rest ih => exact behind_char '}' (ih segments read)
  | case5 => cases read
  | case6 before c rest _ open_ _ close ih =>
      have here : isBrace c = false := (isBrace_eq_false c).mpr ⟨open_, close⟩
      have single : spelledChar c = [c] := by simp [spelledChar, here]
      have behind := behind_char c (ih segments read)
      rwa [single] at behind
  | case7 => cases read
  | case8 => cases read
  | case9 => cases read
  | case10 before rest name named ih =>
      obtain ⟨more, later, rfl⟩ := (prepend_eq_ok _ _ _).mp read
      obtain ⟨pieces, valid, rfl, rfl⟩ := ih more later
      refine ⟨[], pieces, by simp, valid, ?_, rfl, ?_⟩
      · simpa [name] using named
      · rw [List.reverse_nil, attach_nil, List.append_nil]
        rfl
  | case11 before c rest open_ close ih =>
      obtain ⟨inside, pieces, plain, valid, named, rfl, rfl⟩ := ih segments read
      have here : isBrace c = false := (isBrace_eq_false c).mpr ⟨open_, close⟩
      refine ⟨c :: inside, pieces, List.forall_mem_cons.mpr ⟨here, plain⟩, valid, ?_, rfl, ?_⟩
      · simpa using named
      · simp

/-- A text is read exactly if it is made of pieces, and then as the segments that they stand for. -/
theorem parse_eq_ok (text : String) (segments : List Segment) :
    parse text = .ok ⟨segments⟩ ↔ ∃ pieces : List Piece, (∀ piece ∈ pieces, piece.Valid) ∧
      text.toList = pieces.flatMap Piece.spelled ∧ segments = segmentsOf pieces := by
  have whole : parse text = .ok ⟨segments⟩ ↔ scan (.literal []) text.toList = .ok segments := by
    unfold parse
    cases scan (.literal []) text.toList <;> simp
  rw [whole]
  constructor
  · intro read
    obtain ⟨pieces, valid, spelled, told⟩ := scan_behind _ _ _ read
    rw [List.reverse_nil, attach_nil] at told
    exact ⟨pieces, valid, spelled, told⟩
  · rintro ⟨pieces, valid, spelled, rfl⟩
    rw [spelled, scan_spelled pieces valid [], List.reverse_nil, attach_nil]

structure IsSlotName (name : String) : Prop where
  visible : Text.isBlankText name = false
  trimmed : Text.trim name = name
  plain : ∀ c ∈ name.toList, isBrace c = false

/-- No literal text is empty, no two of them stand side by side, and every slot is named. -/
structure Normal (segments : List Segment) : Prop where
  filled : ∀ text, .literal text ∈ segments → text ≠ ""
  apart : ∀ front first second back,
    segments ≠ front ++ .literal first :: .literal second :: back
  named : ∀ name, .slot name ∈ segments → IsSlotName name

theorem normal_nil : Normal [] where
  filled := by simp
  apart := by simp
  named := by simp

theorem normal_literal (text : String) (rest : List Segment) :
    Normal (.literal text :: rest) ↔
      text ≠ "" ∧ (∀ other more, rest ≠ .literal other :: more) ∧ Normal rest := by
  constructor
  · intro normal
    refine ⟨normal.filled text List.mem_cons_self, ?_, ?_, ?_, ?_⟩
    · rintro other more rfl
      exact normal.apart [] text other more rfl
    · exact fun other listed => normal.filled other (List.mem_cons_of_mem _ listed)
    · rintro front first second back rfl
      exact normal.apart (.literal text :: front) first second back rfl
    · exact fun name listed => normal.named name (List.mem_cons_of_mem _ listed)
  · rintro ⟨filled, alone, normal⟩
    constructor
    · intro other listed
      rcases List.mem_cons.mp listed with same | later
      · exact Segment.literal.inj same ▸ filled
      · exact normal.filled other later
    · intro front first second back same
      cases front with
      | nil => exact alone second back (List.cons.inj same).2
      | cons _ front => exact normal.apart front first second back (List.cons.inj same).2
    · exact fun name listed => normal.named name (by simpa using listed)

theorem normal_slot (name : String) (rest : List Segment) :
    Normal (.slot name :: rest) ↔ IsSlotName name ∧ Normal rest := by
  constructor
  · intro normal
    refine ⟨normal.named name List.mem_cons_self, ?_, ?_, ?_⟩
    · exact fun text listed => normal.filled text (List.mem_cons_of_mem _ listed)
    · rintro front first second back rfl
      exact normal.apart (.slot name :: front) first second back rfl
    · exact fun other listed => normal.named other (List.mem_cons_of_mem _ listed)
  · rintro ⟨named, normal⟩
    constructor
    · exact fun text listed => normal.filled text (by simpa using listed)
    · intro front first second back same
      cases front with
      | nil => cases (List.cons.inj same).1
      | cons _ front => exact normal.apart front first second back (List.cons.inj same).2
    · intro other listed
      rcases List.mem_cons.mp listed with same | later
      · exact Segment.slot.inj same ▸ named
      · exact normal.named other later

theorem normal_attach (c : Char) (segments : List Segment) (normal : Normal segments) :
    Normal (attach [c] segments) := by
  have filled (chars : List Char) : String.ofList (c :: chars) ≠ "" := by simp
  unfold attach
  split
  · rename_i text rest
    obtain ⟨_, alone, others⟩ := (normal_literal text rest).mp normal
    exact (normal_literal _ rest).mpr ⟨filled _, alone, others⟩
  · rename_i first
    exact (normal_literal _ segments).mpr ⟨filled [], first, normal⟩

theorem isSlotName_trimChars (inside : List Char) (valid : (Piece.slot inside).Valid) :
    IsSlotName (String.ofList (Text.trimChars inside)) := by
  obtain ⟨plain, visible⟩ := valid
  have again := (Text.trimChars_trimmed inside).trimChars_eq
  constructor
  · have left := (Text.trimChars_ne_nil inside).mpr visible
    rw [← again, Text.trimChars_ne_nil] at left
    simpa [Text.isBlankText] using left
  · simp [Text.trim, again]
  · rw [String.toList_ofList]
    exact fun c listed => plain c (Text.trimChars_subset inside listed)

/-- Whatever is read has the normal form. -/
theorem normal_segmentsOf (pieces : List Piece) (valid : ∀ piece ∈ pieces, piece.Valid) :
    Normal (segmentsOf pieces) := by
  induction pieces with
  | nil => exact normal_nil
  | cons piece rest ih =>
      obtain ⟨here, others⟩ := List.forall_mem_cons.mp valid
      cases piece with
      | char c => exact normal_attach c _ (ih others)
      | slot inside => exact (normal_slot _ _).mpr ⟨isSlotName_trimChars inside here, ih others⟩

def printedSegment : Segment → List Char
  | .literal text => text.toList.flatMap spelledChar
  | .slot name => '{' :: name.toList ++ ['}']

def print (segments : List Segment) : String :=
  String.ofList (segments.flatMap printedSegment)

def piecesOf : Segment → List Piece
  | .literal text => text.toList.map .char
  | .slot name => [.slot name.toList]

theorem spelled_piecesOf (segments : List Segment) :
    (segments.flatMap piecesOf).flatMap Piece.spelled = segments.flatMap printedSegment := by
  rw [List.flatMap_assoc]
  congr 1
  funext segment
  cases segment with
  | literal text =>
      rw [piecesOf, List.flatMap_map]
      rfl
  | slot name => simp [piecesOf, printedSegment, Piece.spelled]

theorem segmentsOf_chars (chars : List Char) (pieces : List Piece) :
    segmentsOf (chars.map .char ++ pieces) = attach chars (segmentsOf pieces) := by
  induction chars with
  | nil => exact (attach_nil _).symm
  | cons c chars ih =>
      rw [List.map_cons, List.cons_append, segmentsOf, ih, ← attach_append]
      rfl

theorem attach_normal (text : String) (rest : List Segment)
    (normal : Normal (.literal text :: rest)) :
    attach text.toList rest = .literal text :: rest := by
  obtain ⟨filled, alone, _⟩ := (normal_literal text rest).mp normal
  cases rest with
  | nil => simp [attach, filled]
  | cons first more =>
      cases first with
      | literal other => exact absurd rfl (alone other more)
      | slot name => simp [attach, filled]

theorem segmentsOf_piecesOf (segments : List Segment) (normal : Normal segments) :
    segmentsOf (segments.flatMap piecesOf) = segments ∧
      ∀ piece ∈ segments.flatMap piecesOf, piece.Valid := by
  induction segments with
  | nil => simp [segmentsOf]
  | cons first rest ih =>
      rw [List.flatMap_cons]
      cases first with
      | literal text =>
          obtain ⟨same, valid⟩ := ih ((normal_literal text rest).mp normal).2.2
          constructor
          · rw [piecesOf, segmentsOf_chars, same, attach_normal text rest normal]
          · intro piece listed
            rcases List.mem_append.mp listed with own | later
            · obtain ⟨c, _, rfl⟩ := List.mem_map.mp own
              trivial
            · exact valid piece later
      | slot name =>
          obtain ⟨named, others⟩ := (normal_slot name rest).mp normal
          obtain ⟨same, valid⟩ := ih others
          have trimmed : String.ofList (Text.trimChars name.toList) = name := named.trimmed
          constructor
          · simp [piecesOf, segmentsOf, same, trimmed]
          · refine List.forall_mem_cons.mpr ⟨⟨named.plain, ?_⟩, valid⟩
            simpa [Text.isBlankText] using named.visible

theorem parse_print (segments : List Segment) (normal : Normal segments) :
    parse (print segments) = .ok ⟨segments⟩ := by
  obtain ⟨same, valid⟩ := segmentsOf_piecesOf segments normal
  refine (parse_eq_ok _ _).mpr ⟨segments.flatMap piecesOf, valid, ?_, same.symm⟩
  rw [print, String.toList_ofList, spelled_piecesOf]

/-- A text can be read as a template exactly if it is made of characters, doubled braces, and slots
that hold no brace and are not blank, and it is read as the segments that these stand for. What
comes out of reading is exactly what has the normal form, and exactly this is read back from its
printed text. -/
theorem texts_exact (text : String) (segments : List Segment) :
    ((∃ template, parse text = .ok template) ↔ ∃ pieces : List Piece,
      (∀ piece ∈ pieces, piece.Valid) ∧ text.toList = pieces.flatMap Piece.spelled) ∧
    (parse text = .ok ⟨segments⟩ ↔ ∃ pieces : List Piece, (∀ piece ∈ pieces, piece.Valid) ∧
      text.toList = pieces.flatMap Piece.spelled ∧ segments = segmentsOf pieces) ∧
    ((∃ source, parse source = .ok ⟨segments⟩) ↔ Normal segments) ∧
    (parse (print segments) = .ok ⟨segments⟩ ↔ Normal segments) := by
  have normal (source : String) (read : parse source = .ok ⟨segments⟩) : Normal segments := by
    obtain ⟨pieces, valid, _, rfl⟩ := (parse_eq_ok source segments).mp read
    exact normal_segmentsOf pieces valid
  refine ⟨⟨?_, ?_⟩, parse_eq_ok text segments, ⟨?_, ?_⟩, normal _, parse_print segments⟩
  · rintro ⟨⟨own⟩, read⟩
    obtain ⟨pieces, valid, spelled, _⟩ := (parse_eq_ok text own).mp read
    exact ⟨pieces, valid, spelled⟩
  · rintro ⟨pieces, valid, spelled⟩
    exact ⟨_, (parse_eq_ok text _).mpr ⟨pieces, valid, spelled, rfl⟩⟩
  · rintro ⟨source, read⟩
    exact normal source read
  · intro normal
    exact ⟨print segments, parse_print segments normal⟩

/-- Of three braces the outer two are a brace, and the third opens or closes a slot. -/
example : parse "\x7b\x7b\x7b a \x7d\x7d\x7d" =
    .ok ⟨[.literal "\x7b", .slot "a", .literal "\x7d"]⟩ := by
  decide +kernel

end QuestWeb.Template
