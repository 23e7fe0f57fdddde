import QuestWeb.Text.Span

/-!
Sets of characters. A set is kept as spans in ascending order with gaps between them, so that a set
has one form only.
-/

namespace QuestWeb

open Text (Span)

structure CharSet where
  spans : List Span
  deriving DecidableEq, Repr

namespace CharSet

/-- The code point after another. None stands between 0xD7FF and 0xE000. -/
def after (code : Nat) : Nat :=
  if code = 0xD7FF then 0xE000 else code + 1

def before (code : Nat) : Nat :=
  if code = 0xE000 then 0xD7FF else code - 1

/-- Joins spans in ascending order that overlap or touch; `first` is the one being made. -/
def joined (first : Span) : List Span → List Span
  | [] => [first]
  | span :: rest =>
      if span.lo ≤ first.hi + 1 then joined ⟨first.lo, max first.hi span.hi⟩ rest
      else first :: joined span rest

def placeSpan (span : Span) : List Span → List Span
  | [] => [span]
  | next :: rest =>
      if span.lo ≤ next.lo then span :: next :: rest else next :: placeSpan span rest

def ofSpans (spans : List Span) : CharSet :=
  match spans.foldr placeSpan [] with
  | [] => ⟨[]⟩
  | first :: rest => ⟨joined first rest⟩

def nothing : CharSet := ⟨[]⟩

def single (code : Nat) : CharSet := ⟨[⟨code, code⟩]⟩

def span (lo hi : Nat) : CharSet :=
  if lo ≤ hi then ⟨[⟨lo, hi⟩]⟩ else nothing

def spansHave (code : Nat) : List Span → Bool
  | [] => false
  | span :: rest => span.lo ≤ code && (code ≤ span.hi || spansHave code rest)

def has (set : CharSet) (code : Nat) : Bool :=
  spansHave code set.spans

def isEmpty (set : CharSet) : Bool :=
  set.spans.isEmpty

def only? (set : CharSet) : Option Nat :=
  match set.spans with
  | [⟨lo, hi⟩] => if lo = hi then some lo else none
  | _ => none

def union (a b : CharSet) : CharSet :=
  ofSpans (a.spans ++ b.spans)

def unions (sets : List CharSet) : CharSet :=
  ofSpans (sets.flatMap (·.spans))

def gaps (start : Nat) : List Span → List Span
  | [] => if start ≤ 0x10FFFF then [⟨start, 0x10FFFF⟩] else []
  | span :: rest =>
      if start < span.lo then ⟨start, before span.lo⟩ :: gaps (after span.hi) rest
      else gaps (after span.hi) rest

def except (set : CharSet) : CharSet :=
  ⟨gaps 0 set.spans⟩

def all : CharSet := nothing.except

def both (a b : CharSet) : CharSet :=
  (a.except.union b.except).except

def minus (a b : CharSet) : CharSet :=
  a.both b.except

def onlyOne (a b : CharSet) : CharSet :=
  (a.minus b).union (b.minus a)

def isAscii (set : CharSet) : Bool :=
  set.spans.all (·.hi < 0x80)

end CharSet

end QuestWeb
