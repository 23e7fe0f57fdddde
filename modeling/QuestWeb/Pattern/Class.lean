import QuestWeb.Pattern.Escape

/-!
Classes: sets of characters between brackets, with spans, named classes, classes within, and
operations on sets. How deep a class is nested counts, since patterns may only be so deep.
-/

namespace QuestWeb.Pattern

def spans (bounds : List (Nat × Nat)) : CharSet :=
  .ofSpans (bounds.map fun (lo, hi) => ⟨lo, hi⟩)

def namedClasses : List (String × CharSet) := [
  ("alnum", spans [(0x30, 0x39), (0x41, 0x5A), (0x61, 0x7A)]),
  ("alpha", spans [(0x41, 0x5A), (0x61, 0x7A)]),
  ("ascii", spans [(0, 0x7F)]),
  ("blank", spans [(9, 9), (0x20, 0x20)]),
  ("cntrl", spans [(0, 0x1F), (0x7F, 0x7F)]),
  ("digit", .asciiDigit),
  ("graph", spans [(0x21, 0x7E)]),
  ("lower", spans [(0x61, 0x7A)]),
  ("print", spans [(0x20, 0x7E)]),
  ("punct", spans [(0x21, 0x2F), (0x3A, 0x40), (0x5B, 0x60), (0x7B, 0x7E)]),
  ("space", .asciiBlank),
  ("upper", spans [(0x41, 0x5A)]),
  ("word", .asciiWord),
  ("xdigit", spans [(0x30, 0x39), (0x41, 0x46), (0x61, 0x66)])]

def namedClass? (chars : List Char) : Option ((Bool × CharSet) × List Char) :=
  match chars with
  | ':' :: rest =>
      let (negated, rest) := match rest with
        | '^' :: rest => (true, rest)
        | rest => (false, rest)
      let name := String.ofList (rest.takeWhile (· != ':'))
      match rest.dropWhile (· != ':'), namedClasses.lookup name with
      | ':' :: ']' :: rest, some set => some ((negated, set), rest)
      | _, _ => none
  | _ => none

inductive SetOp where
  | both
  | minus
  | onlyOne

def SetOp.apply (op : SetOp) (left right : CharSet) : CharSet :=
  match op with
  | .both => left.both right
  | .minus => left.minus right
  | .onlyOne => left.onlyOne right

structure Nested where
  set : CharSet
  depth : Nat

/-- A class being read: the operation that waits for its right side, and since then the sets, how
many there were, and how deep they are nested. -/
structure ClassState where
  pending : Option (Nested × SetOp)
  sets : List CharSet
  depth : Nat

def ClassState.start : ClassState := ⟨none, [], 0⟩

def ClassState.add (state : ClassState) (item : Nested) : ClassState :=
  { state with sets := item.set :: state.sets, depth := max state.depth item.depth }

def ClassState.addSet (state : ClassState) (set : CharSet) : ClassState :=
  state.add ⟨set, 0⟩

def ClassState.items (state : ClassState) : Nested :=
  ⟨.unions state.sets, if state.sets.length ≤ 1 then state.depth else state.depth + 1⟩

def ClassState.value (flags : Flags) (state : ClassState) : Nested :=
  match state.pending with
  | none => state.items
  | some (left, op) =>
      ⟨op.apply (flags.fold left.set) (flags.fold state.items.set),
        max left.depth state.items.depth + 1⟩

def ClassState.operator (flags : Flags) (state : ClassState) (op : SetOp) : ClassState :=
  { ClassState.start with pending := some (state.value flags, op) }

def classSign? (flags : Flags) : List Char → Option (Sign × List Char)
  | [] => none
  | '\\' :: rest => escape? flags rest
  | c :: rest => some (.literal c.toNat false, rest)

def spanFollows (flags : Flags) (chars : List Char) : Bool :=
  match chars with
  | '-' :: rest => flags.ahead? rest != some ']' && flags.ahead? rest != some '-'
  | _ => false

def classSpan? (flags : Flags) (lo hi : Nat) : Option CharSet :=
  if hi < lo || (flags.ascii && hi ≥ 0x80) then none else some (.span lo hi)

def classItem? (flags : Flags) (chars : List Char) : Option (CharSet × List Char) :=
  match classSign? flags chars with
  | some (.literal lo _, rest) =>
      let rest := flags.skip rest
      if spanFollows flags rest then
        match classSign? flags (flags.skip (rest.drop 1)) with
        | some (.literal hi _, rest) => (classSpan? flags lo hi).map (·, rest)
        | _ => none
      else (classSpan? flags lo lo).map (·, rest)
  | some (.set set, rest) =>
      let rest := flags.skip rest
      if spanFollows flags rest then none else some (set, rest)
  | _ => none

def classDashes (flags : Flags) (state : ClassState) : Nat → List Char → ClassState × List Char
  | 0, chars => (state, chars)
  | fuel + 1, chars =>
      match chars with
      | '-' :: rest => classDashes flags (state.addSet (.single 0x2D)) fuel (flags.skip rest)
      | chars => (state, chars)

def classHead (flags : Flags) (chars : List Char) : ClassState × List Char :=
  match chars with
  | ']' :: rest => (ClassState.start.addSet (.single 0x5D), rest)
  | chars => classDashes flags .start chars.length chars

mutual

def class? : Nat → Flags → List Char → Option (Nested × List Char)
  | 0, _, _ => none
  | fuel + 1, flags, chars =>
      let (negated, rest) := match flags.skip chars with
        | '^' :: rest => (true, flags.skip rest)
        | rest => (false, rest)
      let (state, rest) := classHead flags rest
      match classItems? fuel flags state rest with
      | some (inner, rest) =>
          (flags.close? negated inner.set).map fun set => (⟨set, inner.depth + 1⟩, rest)
      | none => none

def classItems? : Nat → Flags → ClassState → List Char → Option (Nested × List Char)
  | 0, _, _, _ => none
  | fuel + 1, flags, state, chars =>
      match flags.skip chars with
      | [] => none
      | ']' :: rest => some (state.value flags, rest)
      | '&' :: '&' :: rest => classItems? fuel flags (state.operator flags .both) rest
      | '-' :: '-' :: rest => classItems? fuel flags (state.operator flags .minus) rest
      | '~' :: '~' :: rest => classItems? fuel flags (state.operator flags .onlyOne) rest
      | '[' :: rest =>
          match namedClass? rest with
          | some ((negated, set), rest) =>
              match flags.close? negated set with
              | some set => classItems? fuel flags (state.addSet set) rest
              | none => none
          | none =>
              match class? fuel flags rest with
              | some (inner, rest) => classItems? fuel flags (state.add inner) rest
              | none => none
      | chars =>
          match classItem? flags chars with
          | some (set, rest) => classItems? fuel flags (state.addSet set) rest
          | none => none

end

end QuestWeb.Pattern
