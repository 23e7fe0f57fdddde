import QuestWeb.CharSet

/-!
Sets of characters in writing. A line holds spans between blanks: `AA` is one character, `41-5A` all
from the first to the last, and `100-136/2` every second one of them.

What has several names is asked for in a loose spelling, which has no capitals, blanks, dashes and
underscores.
-/

namespace QuestWeb.CharSet

open Text (Span)

structure Listing where
  names : List String
  lines : List String
  deriving Repr

def hexValue (digits : List Char) : Nat :=
  digits.foldl
    (fun n c => n * 16 + if c.toNat < 0x41 then c.toNat - 0x30 else c.toNat - 0x37) 0

def spansOfWord (word : List Char) : List Span :=
  let lo := hexValue (word.takeWhile fun c => c != '-')
  match word.dropWhile fun c => c != '-' with
  | '-' :: rest =>
      let hi := hexValue (rest.takeWhile fun c => c != '/')
      if rest.contains '/' then
        (List.range ((hi - lo) / 2 + 1)).map fun k => ⟨lo + 2 * k, lo + 2 * k⟩
      else [⟨lo, hi⟩]
  | _ => [⟨lo, lo⟩]

def ofLines (lines : List String) : CharSet :=
  ofSpans (lines.flatMap fun line => (line.splitOn " ").flatMap fun word => spansOfWord word.toList)

def Listing.set (listing : Listing) : CharSet :=
  ofLines listing.lines

def named? (table : List Listing) (name : String) : Option CharSet :=
  (table.find? (·.names.contains name)).map (·.set)

def named (table : List Listing) (name : String) : CharSet :=
  (named? table name).getD nothing

/-- Loose spelling. A leading `is` does not count, unless only a `c` would be left. -/
def looseName (name : String) : String :=
  let (is, rest) := match name.toList with
    | i :: s :: rest =>
        let is := (i = 'i' || i = 'I') && (s = 's' || s = 'S')
        (is, if is then rest else i :: s :: rest)
    | rest => (false, rest)
  let kept := rest.filter fun c => c.toNat < 0x80 && c != ' ' && c != '_' && c != '-'
  let loose := kept.map Char.toLower
  if is && loose = ['c'] then "isc" else String.ofList loose

end QuestWeb.CharSet
