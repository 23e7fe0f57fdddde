import QuestWeb.CharSet
import QuestWeb.Text.FoldTable

/-!
Sets closed under case. Two letters are equal up to case when they fold to the same one; this is why
`k` also stands for the Kelvin sign and `s` for the long s.
-/

namespace QuestWeb.Text

def Shift.image (shift : Shift) (span : Span) : List Span :=
  let sent (lo hi : Nat) : Span :=
    ⟨((lo : Int) + shift.delta).toNat, ((hi : Int) + shift.delta).toNat⟩
  let lo := max shift.lo span.lo
  let hi := min shift.hi span.hi
  if hi < lo then []
  else if shift.step = 1 then [sent lo hi]
  else
    (List.range (hi - lo + 1)).filterMap fun k =>
      if shift.moves (lo + k) then some (sent (lo + k) (lo + k)) else none

def Shift.back (shift : Shift) : Shift :=
  ⟨shift.target shift.lo, shift.target shift.hi, shift.step, -shift.delta⟩

end QuestWeb.Text

namespace QuestWeb.CharSet

open Text (Shift foldShifts)

def withImages (shifts : List Shift) (set : CharSet) : CharSet :=
  ofSpans (set.spans ++ shifts.flatMap fun shift => set.spans.flatMap shift.image)

def anyCase (set : CharSet) : CharSet :=
  (set.withImages foldShifts).withImages (foldShifts.map Shift.back)

def asciiShifts : List Shift := [⟨0x41, 0x5A, 1, 0x20⟩, ⟨0x61, 0x7A, 1, -0x20⟩]

def anyAsciiCase (set : CharSet) : CharSet :=
  set.withImages asciiShifts

end QuestWeb.CharSet
