import QuestWeb.Pattern.Match
import QuestWeb.Proofs.Results

/-!
What a matcher never misses. An automaton accepts at a spot of a text when some run from there gets
done. The threads at a place come through every state that the place lets them reach, so they keep
up with that run until it is done.
-/

namespace QuestWeb

structure Spot where
  before : Option Char
  ahead : List Char

def Spot.place (spot : Spot) : Place :=
  ⟨spot.before, spot.ahead.head?⟩

namespace Automaton

inductive Accepts (states : Array State) : Nat → Spot → Prop where
  | done (state : Nat) (spot : Spot) (here : states[state]? = some .done) :
      Accepts states state spot
  | eat (state next : Nat) (set : CharSet) (before : Option Char) (c : Char) (rest : List Char)
      (here : states[state]? = some (.eat set next)) (fits : set.has c.toNat = true)
      (onward : Accepts states next ⟨some c, rest⟩) : Accepts states state ⟨before, c :: rest⟩
  | check (state next : Nat) (assertion : Assertion) (spot : Spot)
      (here : states[state]? = some (.check assertion next))
      (holds : assertion.holds spot.place = true) (onward : Accepts states next spot) :
      Accepts states state spot
  | fork (state next : Nat) (choices : List Nat) (spot : Spot)
      (here : states[state]? = some (.fork choices)) (listed : next ∈ choices)
      (onward : Accepts states next spot) : Accepts states state spot

def Narrow (states : Array State) : Prop :=
  ∀ (state : Nat) (choices : List Nat), states[state]? = some (.fork choices) → choices.length ≤ 2

/-- States that threads came through at a place: none of them is done, what they eat is among the
moves, and all else they lead to is `reached`. -/
structure Covered (states : Array State) (place : Place) (moves : List (CharSet × Thread))
    (through reached : Nat → Prop) : Prop where
  open_ : ∀ state, through state → states[state]? ≠ some .done
  eats : ∀ state set next, through state → states[state]? = some (.eat set next) →
    ∃ skipped, (set, ⟨next, skipped⟩) ∈ moves
  checks : ∀ state assertion next, through state →
    states[state]? = some (.check assertion next) → assertion.holds place = true → reached next
  forks : ∀ state choices next, through state → states[state]? = some (.fork choices) →
    next ∈ choices → reached next

def Waiting (stack : List Thread) (state : Nat) : Prop :=
  ∃ thread ∈ stack, thread.state = state

def fresh (states : Array State) (seen : Std.HashSet Nat) : Nat :=
  (List.range states.size).countP fun state => !seen.contains state

theorem fresh_insert (states : Array State) (seen : Std.HashSet Nat) (state : Nat)
    (new : seen.contains state = false) (inside : state < states.size) :
    fresh states (seen.insert state) < fresh states seen := by
  refine countP_lt _ _ _ ?_ state (List.mem_range.mpr inside) (by simp [new]) ?_
  · intro other _
    rw [Std.HashSet.contains_insert]
    simp
  · simp

theorem fresh_insert_le (states : Array State) (seen : Std.HashSet Nat) (state : Nat) :
    fresh states (seen.insert state) ≤ fresh states seen := by
  apply List.countP_mono_left
  intro other _
  rw [Std.HashSet.contains_insert]
  simp

theorem fresh_empty (states : Array State) : fresh states ∅ = states.size := by
  simp [fresh]

variable {automaton : Automaton} {place : Place}

theorem Covered.mono {states : Array State} {moves : List (CharSet × Thread)}
    {through reached more : Nat → Prop} (covered : Covered states place moves through reached)
    (wider : ∀ state, reached state → more state) : Covered states place moves through more where
  open_ := covered.open_
  eats := covered.eats
  checks state assertion next came here holds :=
    wider next (covered.checks state assertion next came here holds)
  forks state choices next came here listed :=
    wider next (covered.forks state choices next came here listed)

theorem waiting_cons {thread : Thread} {stack : List Thread} {state : Nat}
    (waiting : Waiting (thread :: stack) state) :
    thread.state = state ∨ Waiting stack state := by
  obtain ⟨other, listed, same⟩ := waiting
  rcases List.mem_cons.mp listed with rfl | behind
  · exact .inl same
  · exact .inr ⟨other, behind, same⟩

def moved (states : Array State) (thread : Thread) : List (CharSet × Thread) :=
  match states[thread.state]? with
  | some (.eat set next) => [(set, ⟨next, thread.skipped⟩)]
  | _ => []

/-- The threads that a thread makes way for at a place. -/
def onward (states : Array State) (place : Place) (thread : Thread) : List Thread :=
  match states[thread.state]? with
  | some (.check assertion next) =>
      if assertion.holds place then [⟨next, thread.skipped⟩] else []
  | some (.fork choices) => choices.map fun next => ⟨next, thread.skipped⟩
  | _ => []

theorem onward_length {states : Array State} (narrow : Narrow states) (thread : Thread) :
    (onward states place thread).length ≤ 2 := by
  unfold onward
  split
  · split <;> simp
  · rename_i choices here
    rw [List.length_map]
    exact narrow _ _ here
  · simp

theorem onward_outside {states : Array State} {thread : Thread}
    (outside : states.size ≤ thread.state) : onward states place thread = [] := by
  simp [onward, outside]

theorem reached_insert {thread : Thread} {stack : List Thread} {seen : Std.HashSet Nat}
    (heirs : List Thread) (state : Nat)
    (reached : seen.contains state = true ∨ Waiting (thread :: stack) state) :
    (seen.insert thread.state).contains state = true ∨ Waiting (heirs ++ stack) state := by
  rw [Std.HashSet.contains_insert, Bool.or_eq_true, beq_iff_eq]
  rcases reached with old | waiting
  · exact .inl (.inr old)
  · rcases waiting_cons waiting with same | ⟨other, behind, same⟩
    · exact .inl (.inl same)
    · exact .inr ⟨other, List.mem_append_right _ behind, same⟩

theorem reached_known {thread : Thread} {stack : List Thread} {seen : Std.HashSet Nat}
    (known : seen.contains thread.state = true) (state : Nat)
    (reached : seen.contains state = true ∨ Waiting (thread :: stack) state) :
    seen.contains state = true ∨ Waiting stack state := by
  rcases reached with through | waiting
  · exact .inl through
  · rcases waiting_cons waiting with same | behind
    · exact .inl (same ▸ known)
    · exact .inr behind

/-- The cover grows by the state of a thread that is not done. -/
theorem Covered.push {states : Array State} {moves : List (CharSet × Thread)}
    {thread : Thread} {stack : List Thread} {seen : Std.HashSet Nat}
    (covered : Covered states place moves (seen.contains · = true)
      fun state => seen.contains state = true ∨ Waiting (thread :: stack) state)
    (open_ : states[thread.state]? ≠ some .done) :
    Covered states place (moved states thread ++ moves)
      ((seen.insert thread.state).contains · = true)
      fun state => (seen.insert thread.state).contains state = true ∨
        Waiting (onward states place thread ++ stack) state := by
  have before (state : Nat) (through : (seen.insert thread.state).contains state = true) :
      state = thread.state ∨ seen.contains state = true := by
    rw [Std.HashSet.contains_insert, Bool.or_eq_true, beq_iff_eq] at through
    exact through.imp_left Eq.symm
  have covered := covered.mono (reached_insert (onward states place thread))
  constructor
  · intro state through
    rcases before state through with rfl | old
    · exact open_
    · exact covered.open_ state old
  · intro state set next through here
    rcases before state through with rfl | old
    · exact ⟨thread.skipped, by simp [moved, here]⟩
    · obtain ⟨skipped, listed⟩ := covered.eats state set next old here
      exact ⟨skipped, List.mem_append_right _ listed⟩
  · intro state assertion next through here holds
    rcases before state through with rfl | old
    · exact .inr ⟨⟨next, thread.skipped⟩, by simp [onward, here, holds], rfl⟩
    · exact covered.checks state assertion next old here holds
  · intro state choices next through here listed
    rcases before state through with rfl | old
    · exact .inr ⟨⟨next, thread.skipped⟩, by simp [onward, here, listed], rfl⟩
    · exact covered.forks state choices next old here listed

theorem Covered.finish {states : Array State} {moves : List (CharSet × Thread)}
    {seen : Std.HashSet Nat}
    (covered : Covered states place moves (seen.contains · = true)
      fun state => seen.contains state = true ∨ Waiting [] state) :
    Covered states place moves.reverse (seen.contains · = true) (seen.contains · = true) where
  open_ := covered.open_
  eats state set next through here := by
    obtain ⟨skipped, listed⟩ := covered.eats state set next through here
    exact ⟨skipped, List.mem_reverse.mpr listed⟩
  checks state assertion next through here holds := by
    simpa [Waiting] using covered.checks state assertion next through here holds
  forks state choices next through here listed := by
    simpa [Waiting] using covered.forks state choices next through here listed

theorem reach_known (fuel : Nat) (thread : Thread) (stack : List Thread)
    (seen : Std.HashSet Nat) (moves : List (CharSet × Thread))
    (known : seen.contains thread.state = true) :
    automaton.reach place (fuel + 1) (thread :: stack) seen moves =
      automaton.reach place fuel stack seen moves := by
  conv => lhs; unfold reach
  simp only [known, ↓reduceIte]

theorem reach_done (fuel : Nat) (thread : Thread) (stack : List Thread)
    (seen : Std.HashSet Nat) (moves : List (CharSet × Thread))
    (new : seen.contains thread.state = false)
    (undone : (automaton.reach place (fuel + 1) (thread :: stack) seen moves).done = none) :
    automaton.states[thread.state]? ≠ some .done := by
  intro here
  simp [reach, new, here] at undone

/-- A thread in a new state that is not done makes way for those it leads to. -/
theorem reach_new (fuel : Nat) (thread : Thread) (stack : List Thread)
    (seen : Std.HashSet Nat) (moves : List (CharSet × Thread))
    (new : seen.contains thread.state = false)
    (open_ : automaton.states[thread.state]? ≠ some .done) :
    automaton.reach place (fuel + 1) (thread :: stack) seen moves =
      automaton.reach place fuel (onward automaton.states place thread ++ stack)
        (seen.insert thread.state) (moved automaton.states thread ++ moves) := by
  conv => lhs; unfold reach
  simp only [new, Bool.false_eq_true, ↓reduceIte, onward, moved]
  cases here : automaton.states[thread.state]? with
  | none => rfl
  | some state =>
      cases state with
      | done => exact absurd here open_
      | eat set next => rfl
      | check assertion next => cases holds : assertion.holds place <;> simp [holds]
      | fork choices => rfl

theorem length_onward (narrow : Narrow automaton.states) (fuel : Nat) (thread : Thread)
    (stack : List Thread) (seen : Std.HashSet Nat)
    (new : seen.contains thread.state = false)
    (enough : stack.length + 1 + 2 * fresh automaton.states seen < fuel + 1) :
    (onward automaton.states place thread ++ stack).length +
      2 * fresh automaton.states (seen.insert thread.state) < fuel := by
  rw [List.length_append]
  rcases Nat.lt_or_ge thread.state automaton.states.size with inside | outside
  · have less := fresh_insert automaton.states seen thread.state new inside
    have short : (onward automaton.states place thread).length ≤ 2 := onward_length narrow thread
    omega
  · have less := fresh_insert_le automaton.states seen thread.state
    rw [onward_outside outside, List.length_nil]
    omega

/-- Where no thread is done, all states are covered that the stack leads to. -/
theorem reach_covered (narrow : Narrow automaton.states) (fuel : Nat) (stack : List Thread)
    (seen : Std.HashSet Nat) (moves : List (CharSet × Thread))
    (enough : stack.length + 2 * fresh automaton.states seen < fuel)
    (covered : Covered automaton.states place moves (seen.contains · = true)
      fun state => seen.contains state = true ∨ Waiting stack state)
    (undone : (automaton.reach place fuel stack seen moves).done = none) :
    ∃ through : Nat → Prop,
      (∀ state, seen.contains state = true ∨ Waiting stack state → through state) ∧
        Covered automaton.states place (automaton.reach place fuel stack seen moves).moves
          through through := by
  -- Every step takes a thread off the stack. A state that is new puts back at most two, and there
  -- is one fewer left that is fresh, so the fuel outlasts the stack.
  induction fuel generalizing stack seen moves with
  | zero => omega
  | succ fuel ih =>
      cases stack with
      | nil => exact ⟨(seen.contains · = true), by simp [Waiting], covered.finish⟩
      | cons thread stack =>
          rw [List.length_cons] at enough
          cases known : seen.contains thread.state with
          | true =>
              rw [reach_known fuel thread stack seen moves known] at undone ⊢
              obtain ⟨through, reached, all⟩ :=
                ih stack seen moves (by omega) (covered.mono (reached_known known)) undone
              exact ⟨through, fun state came => reached state (reached_known known state came), all⟩
          | false =>
              have open_ := reach_done fuel thread stack seen moves known undone
              rw [reach_new fuel thread stack seen moves known open_] at undone ⊢
              obtain ⟨through, reached, all⟩ := ih _ _ _
                (length_onward narrow fuel thread stack seen known enough)
                (covered.push open_) undone
              exact ⟨through, fun state came => reached state (reached_insert _ state came), all⟩

/-- A run that gets done eats, unless it is done at the place. -/
theorem Accepts.move {states : Array State} {moves : List (CharSet × Thread)}
    {through : Nat → Prop} (state : Nat) (spot : Spot)
    (covered : Covered states spot.place moves through through)
    (accepts : Accepts states state spot) (came : through state) :
    ∃ c rest set thread, spot.ahead = c :: rest ∧ (set, thread) ∈ moves ∧
      set.has c.toNat = true ∧ Accepts states thread.state ⟨some c, rest⟩ := by
  -- Checks and forks stay at the place, where the states are covered. The run leaves it by eating.
  induction accepts with
  | done state spot here => exact absurd here (covered.open_ state came)
  | eat state next set before c rest here fits onward ih =>
      obtain ⟨skipped, listed⟩ := covered.eats state set next came here
      exact ⟨c, rest, set, ⟨next, skipped⟩, rfl, listed, fits, onward⟩
  | check state next assertion spot here holds onward ih =>
      exact ih covered (covered.checks state assertion next came here holds)
  | fork state next choices spot here listed onward ih =>
      exact ih covered (covered.forks state choices next came here listed)

/-- Threads keep up with a run: it is done at the place, or one of them eats what it eats. -/
theorem front_accepts (narrow : Narrow automaton.states) (threads : List Thread) (spot : Spot)
    (thread : Thread) (listed : thread ∈ threads)
    (accepts : Accepts automaton.states thread.state spot) :
    (automaton.front spot.place threads).done ≠ none ∨
      ∃ c rest next, spot.ahead = c :: rest ∧ next ∈ (automaton.front spot.place threads).eat c ∧
        Accepts automaton.states next.state ⟨some c, rest⟩ := by
  -- A front that is done may have left out threads, so only an undone one is covered.
  cases undone : (automaton.front spot.place threads).done with
  | some skipped => exact .inl (by simp)
  | none =>
      have nothing (state : Nat) : (∅ : Std.HashSet Nat).contains state = false :=
        Std.HashSet.contains_empty
      have enough : threads.length + 2 * fresh automaton.states ∅ <
          threads.length + 2 * automaton.states.size + 1 := by
        rw [fresh_empty]
        omega
      obtain ⟨through, reached, covered⟩ := reach_covered narrow _ threads ∅ [] enough
        ⟨by simp [nothing], by simp [nothing], by simp [nothing], by simp [nothing]⟩ undone
      obtain ⟨c, rest, set, next, ahead, move, fits, onward⟩ :=
        accepts.move thread.state spot covered (reached _ (.inr ⟨thread, listed, rfl⟩))
      refine .inr ⟨c, rest, next, ahead, List.mem_filterMap.mpr ⟨(set, next), move, ?_⟩, onward⟩
      simp [fits]

/-- A match is never lost again. -/
theorem follow_some (threads : List Thread) (before : Option Char) (eaten : Nat) (best : Found)
    (chars : List Char) : (automaton.follow threads before eaten (some best) chars).isSome := by
  have kept (front : Front) (eaten : Nat) (best : Found) :
      ∃ found, front.best eaten (some best) = some found := by
    unfold Front.best
    split <;> exact ⟨_, rfl⟩
  induction chars generalizing threads before eaten best with
  | nil =>
      obtain ⟨found, same⟩ := kept (automaton.front ⟨before, none⟩
        (automaton.started threads eaten (some best))) eaten best
      simp [follow, same]
  | cons c rest ih =>
      obtain ⟨found, same⟩ := kept (automaton.front ⟨before, some c⟩
        (automaton.started threads eaten (some best))) eaten best
      simp only [follow, same]
      cases (automaton.front ⟨before, some c⟩
        (automaton.started threads eaten (some best))).eat c with
      | nil => rfl
      | cons next others => exact ih (next :: others) (some c) (eaten + 1) found

theorem follow_step (threads : List Thread) (before : Option Char) (eaten : Nat)
    (best : Option Found) (c : Char) (rest : List Char)
    (onward : (automaton.front ⟨before, some c⟩ (automaton.started threads eaten best)).best eaten
        best = none →
      (automaton.follow ((automaton.front ⟨before, some c⟩
        (automaton.started threads eaten best)).eat c) (some c) (eaten + 1) none rest).isSome) :
    (automaton.follow threads before eaten best (c :: rest)).isSome := by
  simp only [follow]
  cases met : (automaton.front ⟨before, some c⟩
      (automaton.started threads eaten best)).best eaten best with
  | none => exact onward met
  | some found =>
      cases (automaton.front ⟨before, some c⟩ (automaton.started threads eaten best)).eat c with
      | nil => rfl
      | cons next others => exact follow_some (next :: others) (some c) (eaten + 1) found rest

/-- What a thread can get done is found. -/
theorem follow_accepts (narrow : Narrow automaton.states) (threads : List Thread)
    (before : Option Char) (eaten : Nat) (best : Option Found) (chars : List Char)
    (thread : Thread) (listed : thread ∈ automaton.started threads eaten best)
    (accepts : Accepts automaton.states thread.state ⟨before, chars⟩) :
    (automaton.follow threads before eaten best chars).isSome := by
  induction chars generalizing threads before eaten best thread with
  | nil =>
      rcases front_accepts narrow _ ⟨before, []⟩ thread listed accepts with done | more
      · obtain ⟨skipped, done⟩ := Option.ne_none_iff_exists'.mp done
        simp only [Spot.place, List.head?_nil] at done
        simp [follow, Front.best, done]
      · obtain ⟨_, _, _, ahead, _⟩ := more
        simp at ahead
  | cons c rest ih =>
      apply follow_step
      intro unmet
      have undone : (automaton.front ⟨before, some c⟩
          (automaton.started threads eaten best)).done = none := by
        cases done : (automaton.front ⟨before, some c⟩
            (automaton.started threads eaten best)).done with
        | none => rfl
        | some skipped => simp [Front.best, done] at unmet
      -- The run is not done here, so it eats, and a thread eats with it.
      have found := front_accepts narrow _ ⟨before, c :: rest⟩ thread listed accepts
      simp only [Spot.place, List.head?_cons] at found
      obtain ⟨_, _, next, ahead, moved, onward⟩ := found.resolve_left fun done => done undone
      obtain ⟨rfl, rfl⟩ := List.cons.inj ahead
      exact ih _ (some c) (eaten + 1) none next (List.mem_append_left _ moved) onward

/-- A match may begin behind any characters. -/
theorem follow_skipped (narrow : Narrow automaton.states) (threads : List Thread)
    (before : Option Char) (eaten : Nat) (skipped chars : List Char)
    (accepts : Accepts automaton.states automaton.start
      ⟨skipped.getLast? <|> before, chars⟩) :
    (automaton.follow threads before eaten none (skipped ++ chars)).isSome := by
  -- While there is no match, a thread starts at every place, whatever the others do.
  induction skipped generalizing threads before eaten with
  | nil =>
      refine follow_accepts narrow threads before eaten none chars ⟨automaton.start, eaten⟩ ?_
        accepts
      simp [started]
  | cons c rest ih =>
      rw [List.cons_append]
      apply follow_step
      intro _
      apply ih
      have last : (rest.getLast? <|> some c) = ((c :: rest).getLast? <|> before) := by
        cases rest <;> simp [List.getLast?_cons]
      rw [last]
      exact accepts

theorem isFound_of_accepts (narrow : Narrow automaton.states) (text : String)
    (skipped chars : List Char) (spelled : text.toList = skipped ++ chars)
    (accepts : Accepts automaton.states automaton.start ⟨skipped.getLast?, chars⟩) :
    automaton.isFound text = true := by
  unfold isFound search?
  rw [spelled]
  apply follow_skipped narrow
  cases last : skipped.getLast? <;> simpa [last] using accepts

end Automaton

end QuestWeb
