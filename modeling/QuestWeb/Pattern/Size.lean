import QuestWeb.Pattern

/-!
How large the automaton of a pattern would be over bytes, read forwards and read backwards. A
character is up to four bytes long, so a set of characters becomes a set of sequences of byte spans.
Forwards, sequences share their ends, and backwards their beginnings.
-/

namespace QuestWeb.Pattern

open Text (Span)

def encoded (code : Nat) : List Nat :=
  let more (unit : Nat) := 0x80 + code / unit % 0x40
  if code < 0x80 then [code]
  else if code < 0x800 then [0xC0 + code / 0x40, more 1]
  else if code < 0x10000 then [0xE0 + code / 0x1000, more 0x40, more 1]
  else [0xF0 + code / 0x40000, more 0x1000, more 0x40, more 1]

/-- Where the characters from `lo` to `hi` must be parted: the last of the first part and the first
of the second. All of a part have as many bytes, and each byte takes a span of its own. -/
def parting? (lo hi : Nat) : Option (Nat × Nat) :=
  if lo < 0xE000 && 0xD7FF < hi then some (0xD7FF, 0xE000)
  else
    match [0x7F, 0x7FF, 0xFFFF].find? fun last => lo ≤ last && last < hi with
    | some last => some (last, last + 1)
    | none =>
        if hi < 0x80 then none
        else
          [0x40, 0x1000, 0x40000].findSome? fun unit =>
            if lo / unit = hi / unit then none
            else if lo % unit ≠ 0 then some (lo / unit * unit + (unit - 1), (lo / unit + 1) * unit)
            else if hi % unit ≠ unit - 1 then some (hi / unit * unit - 1, hi / unit * unit)
            else none

def sequences : Nat → Nat → Nat → List (List Span)
  | 0, _, _ => []
  | fuel + 1, lo, hi =>
      if hi < lo then []
      else
        match parting? lo hi with
        | some (last, first) => sequences fuel lo last ++ sequences fuel first hi
        | none => [(encoded lo).zipWith Span.mk (encoded hi)]

def sequencesOf (set : CharSet) : List (List Span) :=
  set.spans.flatMap fun span => sequences 32 span.lo span.hi

def beginnings (last : List Span) : List (List Span) → Nat
  | [] => 0
  | row :: rest =>
      let sharing := ((last.zip row).takeWhile fun (a, b) => a == b).length
      row.length - sharing + beginnings row rest

abbrev ByteState := List (Span × Nat)

def numberOf (states : List ByteState) (state : ByteState) : Nat × List ByteState :=
  match states.idxOf? state with
  | some k => (states.length - k, states)
  | none => (states.length + 1, state :: states)

/-- The state that reads some sequences, among the states made so far. Number 0 has read all. -/
def stateOf : Nat → List (List Span) → List ByteState → Nat × List ByteState
  | 0, _, states => (0, states)
  | fuel + 1, rows, states =>
      match rows.filter (!·.isEmpty) with
      | [] => (0, states)
      | rows =>
          let groups := rows.splitBy fun a b => a.head? == b.head?
          let (state, states) := groups.foldl
            (fun (state, states) group =>
              let (next, states) := stateOf fuel (group.map List.tail) states
              match group.head?.bind List.head? with
              | some span => ((span, next) :: state, states)
              | none => (state, states)) (([] : ByteState), states)
          numberOf states state

def stateSize : Nat := 32

def spanSize : Nat := 8

def linkSize : Nat := 4

def forkSize : Nat := stateSize + 2 * linkSize

def setSize (backwards : Bool) (set : CharSet) : Nat :=
  if set.isAscii then 2 * stateSize + spanSize * set.spans.length
  else if backwards then
    let rows := sequencesOf set
    (2 + beginnings [] rows) * stateSize + linkSize * rows.length
  else
    let (_, states) := stateOf 5 (sequencesOf set) []
    states.foldl (fun size state => size + stateSize + spanSize * state.length) stateSize

def textSize (text : List Char) : Nat :=
  text.foldl (fun size c => size + stateSize * c.utf8Size) 0

def automatonSize (backwards : Bool) : Pattern → Nat
  | .empty => stateSize
  | .literal text => textSize text
  | .oneOf set => setSize backwards set
  | .assert _ => stateSize
  | .group _ p => automatonSize backwards p + if backwards then 0 else 2 * stateSize
  | .seq first rest => automatonSize backwards first + automatonSize backwards rest
  | .alt left right =>
      let sides := automatonSize backwards left + automatonSize backwards right
      match right with
      | .alt _ _ => sides + linkSize
      | _ => sides + forkSize + stateSize
  | .repeated p low high _ =>
      let one := automatonSize backwards p
      match low, high with
      | 0, none => one + forkSize + if p.least?.any (0 < ·) then 0 else forkSize + stateSize
      | low, none => low * one + forkSize
      | 0, some 1 => one + forkSize + stateSize
      | low, some high =>
          let must := if low = 0 then stateSize else low * one
          if low = high then must else must + stateSize + (high - low) * (one + forkSize)

def frameSize (backwards : Bool) : Nat :=
  2 * stateSize + spanSize + forkSize + stateSize + if backwards then 0 else 2 * stateSize

def sizeLimit : Nat := 10 * 1024 * 1024

def isSmall (p : Pattern) : Bool :=
  [false, true].all fun backwards =>
    p.automatonSize backwards + frameSize backwards ≤ sizeLimit

end QuestWeb.Pattern
