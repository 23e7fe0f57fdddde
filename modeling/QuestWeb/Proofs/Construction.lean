import QuestWeb.Proofs.Matching

/-!
The automaton of a pattern accepts what the pattern matches. The states of a part lead on to those
behind it, and the states made for one part are left alone by the making of all others.
-/

namespace QuestWeb

namespace Spot

def Spells (start : Spot) : List Char → Spot → Prop
  | [], stop => start = stop
  | c :: text, stop =>
      ∃ ahead, start.ahead = c :: ahead ∧ Spells ⟨some c, ahead⟩ text stop

def Repeats (step : Spot → Spot → Prop) : Nat → Spot → Spot → Prop
  | 0, start, stop => start = stop
  | count + 1, start, stop => ∃ middle, step start middle ∧ Repeats step count middle stop

end Spot

def Pattern.Matches : Pattern → Spot → Spot → Prop
  | .empty, start, stop => start = stop
  | .literal text, start, stop => start.Spells text stop
  | .oneOf set, start, stop =>
      ∃ c ahead, start.ahead = c :: ahead ∧ set.has c.toNat = true ∧ stop = ⟨some c, ahead⟩
  | .assert assertion, start, stop => start = stop ∧ assertion.holds start.place = true
  | .group _ p, start, stop => p.Matches start stop
  | .repeated p low high _, start, stop =>
      ∃ count, low ≤ count ∧ (∀ limit, high = some limit → count ≤ limit) ∧
        Spot.Repeats p.Matches count start stop
  | .seq first rest, start, stop => ∃ middle, first.Matches start middle ∧ rest.Matches middle stop
  | .alt left right, start, stop => left.Matches start stop ∨ right.Matches start stop

namespace Automaton

structure Extends (old new : Array State) : Prop where
  size : old.size ≤ new.size
  kept : ∀ index, index < old.size → new[index]? = old[index]?
  narrow : Narrow old → Narrow new

def Stand (whole old new : Array State) : Prop :=
  ∀ index, old.size ≤ index → index < new.size → whole[index]? = new[index]?

theorem Extends.refl (states : Array State) : Extends states states :=
  ⟨Nat.le_refl _, fun _ _ => rfl, id⟩

theorem Extends.trans {old middle new : Array State} (first : Extends old middle)
    (second : Extends middle new) : Extends old new where
  size := Nat.le_trans first.size second.size
  kept index inside := by
    rw [second.kept index (Nat.lt_of_lt_of_le inside first.size), first.kept index inside]
  narrow := second.narrow ∘ first.narrow

theorem Stand.first {whole old middle new : Array State} (second : Extends middle new)
    (stand : Stand whole old new) : Stand whole old middle := by
  -- What stands after both additions stands after the first: the second leaves it alone.
  intro index low high
  rw [stand index low (Nat.lt_of_lt_of_le high second.size), second.kept index high]

theorem Stand.second {whole old middle new : Array State} (first : Extends old middle)
    (stand : Stand whole old new) : Stand whole middle new :=
  fun index low high => stand index (Nat.le_trans first.size low) high

theorem extends_push (states : Array State) (state : State)
    (narrow : ∀ choices, state = .fork choices → choices.length ≤ 2) :
    Extends states (states.push state) where
  size := by simp
  kept index inside := by rw [Array.getElem?_push_lt inside, Array.getElem?_eq_getElem inside]
  narrow old index choices here := by
    rw [Array.getElem?_push] at here
    split at here
    · exact narrow choices (Option.some.inj here)
    · exact old index choices here

theorem add_apply (state : State) (states : Array State) :
    add state states = (states.size, states.push state) :=
  rfl

theorem bind_apply {α β : Type} (making : Making α) (next : α → Making β) (states : Array State) :
    (making >>= next) states = next (making states).1 (making states).2 :=
  rfl

theorem pure_apply {α : Type} (a : α) (states : Array State) :
    (pure a : Making α) states = (a, states) :=
  rfl

def Leads (body : Nat → Making Nat) (step : Spot → Spot → Prop) : Prop :=
  ∀ next old, Extends old (body next old).2 ∧
    ∀ whole, Stand whole old (body next old).2 → ∀ start stop, step start stop →
      Accepts whole next stop → Accepts whole (body next old).1 start

theorem Leads.weaken {body : Nat → Making Nat} {step fewer : Spot → Spot → Prop}
    (leads : Leads body step) (less : ∀ start stop, fewer start stop → step start stop) :
    Leads body fewer :=
  fun next old => ⟨(leads next old).1, fun whole stand start stop taken accepts =>
    (leads next old).2 whole stand start stop (less start stop taken) accepts⟩

theorem leads_pure : Leads pure fun start stop => start = stop := by
  intro next old
  refine ⟨Extends.refl old, fun whole _ start stop same accepts => ?_⟩
  rw [pure_apply, same]
  exact accepts

theorem leads_add (state : Nat → State) (step : Spot → Spot → Prop)
    (narrow : ∀ next choices, state next = .fork choices → choices.length ≤ 2)
    (leads : ∀ whole index next start stop, whole[index]? = some (state next) → step start stop →
      Accepts whole next stop → Accepts whole index start) :
    Leads (fun next => add (state next)) step := by
  intro next old
  simp only [add_apply]
  refine ⟨extends_push old (state next) (narrow next), fun whole stand start stop => ?_⟩
  refine leads whole old.size next start stop ?_
  rw [stand old.size (Nat.le_refl _) (by simp), Array.getElem?_push_size]

theorem Leads.before {first rest : Nat → Making Nat} {head tail : Spot → Spot → Prop}
    (heads : Leads first head) (tails : Leads rest tail) :
    Leads (fun next => rest next >>= first)
      fun start stop => ∃ middle, head start middle ∧ tail middle stop := by
  intro next old
  simp only [bind_apply]
  -- Parts are made from the last to the first, since each has to know what comes behind it.
  have second := tails next old
  have opening := heads (rest next old).1 (rest next old).2
  refine ⟨second.1.trans opening.1, fun whole stand start stop taken accepts => ?_⟩
  obtain ⟨middle, front, back⟩ := taken
  exact opening.2 whole (stand.second second.1) start middle front
    (second.2 whole (stand.first opening.1) middle stop back accepts)

theorem Accepts.goOrStop {whole : Array State} {index go stop : Nat} {lazy : Bool} {spot : Spot}
    (here : whole[index]? = some (goOrStop lazy go stop))
    (accepts : Accepts whole go spot ∨ Accepts whole stop spot) : Accepts whole index spot := by
  unfold Automaton.goOrStop at here
  rcases accepts with onward | aside
  · exact .fork index go _ spot here (by cases lazy <;> simp) onward
  · exact .fork index stop _ spot here (by cases lazy <;> simp) aside

theorem goOrStop_narrow (lazy : Bool) (go stop : Nat) (choices : List Nat)
    (same : goOrStop lazy go stop = .fork choices) : choices.length ≤ 2 := by
  unfold goOrStop at same
  cases same
  cases lazy <;> simp

theorem Leads.optional {body : Nat → Making Nat} {step : Spot → Spot → Prop}
    (leads : Leads body step) (lazy : Bool) :
    Leads (fun next => body next >>= fun entry => add (goOrStop lazy entry next))
      fun start stop => start = stop ∨ step start stop := by
  intro next old
  simp only [bind_apply, add_apply]
  obtain ⟨grown, onward⟩ := leads next old
  have last := extends_push (body next old).2 (goOrStop lazy (body next old).1 next)
    (goOrStop_narrow _ _ _)
  refine ⟨grown.trans last, fun whole stand start stop taken accepts => ?_⟩
  have here : whole[(body next old).2.size]? = some (goOrStop lazy (body next old).1 next) := by
    rw [stand _ grown.size (by simp), Array.getElem?_push_size]
  refine .goOrStop here ?_
  rcases taken with rfl | some
  · exact .inr accepts
  · exact .inl (onward whole (stand.first last) start stop some accepts)

theorem Leads.either {left right : Nat → Making Nat} {first second : Spot → Spot → Prop}
    (lefts : Leads left first) (rights : Leads right second) :
    Leads
      (fun next => right next >>= fun other => left next >>= fun one => add (.fork [one, other]))
      fun start stop => first start stop ∨ second start stop := by
  intro next old
  simp only [bind_apply, add_apply]
  obtain ⟨rightGrown, rightOn⟩ := rights next old
  obtain ⟨leftGrown, leftOn⟩ := lefts next (right next old).2
  have last := extends_push (left next (right next old).2).2
    (.fork [(left next (right next old).2).1, (right next old).1]) (by simp)
  refine ⟨(rightGrown.trans leftGrown).trans last, fun whole stand start stop taken accepts => ?_⟩
  have here := stand _ (rightGrown.trans leftGrown).size (by simp)
  rw [Array.getElem?_push_size] at here
  have both := stand.first last
  rcases taken with taken | taken
  · exact .fork _ _ _ start here List.mem_cons_self
      (leftOn whole (both.second rightGrown) start stop taken accepts)
  · exact .fork _ _ _ start here (List.mem_cons_of_mem _ List.mem_cons_self)
      (rightOn whole (both.first leftGrown) start stop taken accepts)

theorem repeats_add (step : Spot → Spot → Prop) (first rest : Nat) (start stop : Spot)
    (taken : Spot.Repeats step (first + rest) start stop) :
    ∃ middle, Spot.Repeats step first start middle ∧ Spot.Repeats step rest middle stop := by
  induction first generalizing start with
  | zero => exact ⟨start, rfl, by rwa [Nat.zero_add] at taken⟩
  | succ first ih =>
      rw [Nat.succ_add] at taken
      obtain ⟨next, one, others⟩ := taken
      obtain ⟨middle, front, back⟩ := ih next others
      exact ⟨middle, ⟨next, one, front⟩, back⟩

theorem leads_copies {body : Nat → Making Nat} {step : Spot → Spot → Prop}
    (leads : Leads body step) (count : Nat) :
    Leads (copies body count) (Spot.Repeats step count) := by
  induction count with
  | zero => exact leads_pure
  | succ count ih =>
      -- The copies made last stand in front, so one step is split off at the other end.
      refine (ih.before leads).weaken fun start stop taken => ?_
      obtain ⟨middle, front, last, one, rfl⟩ := repeats_add step count 1 start stop taken
      exact ⟨middle, front, one⟩

theorem leads_upTo {body : Nat → Making Nat} {step : Spot → Spot → Prop} (leads : Leads body step)
    (lazy : Bool) (limit : Nat) :
    Leads (fun next => upTo body lazy next limit)
      fun start stop => ∃ count, count ≤ limit ∧ Spot.Repeats step count start stop := by
  induction limit with
  | zero =>
      refine leads_pure.weaken fun start stop ⟨count, few, taken⟩ => ?_
      rw [Nat.le_zero.mp few] at taken
      exact taken
  | succ limit ih =>
      refine ((leads.before ih).optional lazy).weaken fun start stop ⟨count, few, taken⟩ => ?_
      cases count with
      | zero => exact .inl taken
      | succ count =>
          obtain ⟨middle, first, rest⟩ := taken
          exact .inr ⟨middle, first, count, by omega, rest⟩

/-- The loop needs the entry of the body and the body needs the loop. A state is set aside for the
loop and filled in once the body is there. -/
theorem again_eq (body : Nat → Making Nat) (lazy : Bool) (next : Nat) (old : Array State) :
    again body lazy next old =
      (((body old.size (old.push .done)).1, old.size),
        (body old.size (old.push .done)).2.setIfInBounds old.size
          (goOrStop lazy (body old.size (old.push .done)).1 next)) :=
  rfl

theorem again_extends {body : Nat → Making Nat} {step : Spot → Spot → Prop}
    (leads : Leads body step) (lazy : Bool) (next : Nat) (old : Array State) :
    Extends old (again body lazy next old).2 := by
  rw [again_eq]
  have opened := extends_push old .done (by simp)
  have grown := (leads old.size (old.push .done)).1
  have inside : old.size < (body old.size (old.push .done)).2.size :=
    Nat.lt_of_lt_of_le (by simp) grown.size
  refine ⟨?_, ?_, ?_⟩
  · simp only [Array.size_setIfInBounds]
    omega
  · intro index low
    have apart : old.size ≠ index := by omega
    rw [Array.getElem?_setIfInBounds_ne apart]
    exact (opened.trans grown).kept index low
  · intro narrow index choices here
    rw [Array.getElem?_setIfInBounds] at here
    split at here
    · exact goOrStop_narrow _ _ _ choices (Option.some.inj here)
    · exact (opened.trans grown).narrow narrow index choices here

/-- A loop leads on from the state behind its body, and from the entry of the body. -/
theorem again_leads {body : Nat → Making Nat} {step : Spot → Spot → Prop} (leads : Leads body step)
    (lazy : Bool) (next : Nat) (old : Array State) :
    Extends old (again body lazy next old).2 ∧
      ∀ whole, Stand whole old (again body lazy next old).2 → ∀ count start stop,
        Spot.Repeats step count start stop → Accepts whole next stop →
          Accepts whole (again body lazy next old).1.2 start ∧
            (0 < count → Accepts whole (again body lazy next old).1.1 start) := by
  refine ⟨again_extends leads lazy next old, ?_⟩
  rw [again_eq]
  obtain ⟨grown, onward⟩ := leads old.size (old.push .done)
  have inside : old.size < (body old.size (old.push .done)).2.size :=
    Nat.lt_of_lt_of_le (by simp) grown.size
  intro whole stand
  have loop : whole[old.size]? =
      some (goOrStop lazy (body old.size (old.push .done)).1 next) := by
    rw [stand old.size (Nat.le_refl _) (by simpa using inside),
      Array.getElem?_setIfInBounds_self_of_lt inside]
  have within : Stand whole (old.push .done) (body old.size (old.push .done)).2 := by
    intro index low high
    rw [Array.size_push] at low
    have apart : old.size ≠ index := by omega
    rw [stand index (by omega) (by simpa using high), Array.getElem?_setIfInBounds_ne apart]
  intro count
  -- Each round goes through the body back to the loop, and the last one leaves it.
  induction count with
  | zero =>
      intro start stop taken accepts
      cases taken
      exact ⟨.goOrStop loop (.inr accepts), fun some => absurd some (Nat.lt_irrefl 0)⟩
  | succ count ih =>
      intro start stop ⟨middle, first, rest⟩ accepts
      have entered := onward whole within start middle first (ih middle stop rest accepts).1
      exact ⟨.goOrStop loop (.inl entered), fun _ => entered⟩

/-- Any number of times. What can not be empty needs no state of its own to be skipped. -/
theorem leads_star {body : Nat → Making Nat} {step : Spot → Spot → Prop} (leads : Leads body step)
    (lazy full : Bool) :
    Leads (fun next => again body lazy next >>= fun loop =>
        if full then pure loop.2 else add (goOrStop lazy loop.1 next))
      fun start stop => ∃ count, Spot.Repeats step count start stop := by
  intro next old
  simp only [bind_apply]
  obtain ⟨grown, loop⟩ := again_leads leads lazy next old
  cases full with
  | true =>
      refine ⟨grown, fun whole stand start stop ⟨count, taken⟩ accepts => ?_⟩
      exact (loop whole stand count start stop taken accepts).1
  | false =>
      simp only [Bool.false_eq_true, ↓reduceIte, add_apply]
      have last := extends_push (again body lazy next old).2
        (goOrStop lazy (again body lazy next old).1.1 next) (goOrStop_narrow _ _ _)
      refine ⟨grown.trans last, fun whole stand start stop ⟨count, taken⟩ accepts => ?_⟩
      have here := stand _ grown.size (by simp)
      rw [Array.getElem?_push_size] at here
      refine .goOrStop here ?_
      -- The body can be empty, so the extra state skips it when there is no round at all.
      cases count with
      | zero =>
          cases taken
          exact .inr accepts
      | succ count =>
          have looped := loop whole (stand.first last) (count + 1) start stop taken accepts
          exact .inl (looped.2 (Nat.succ_pos count))

theorem leads_more {body : Nat → Making Nat} {step : Spot → Spot → Prop} (leads : Leads body step)
    (lazy : Bool) (low : Nat) :
    Leads (fun next => again body lazy next >>= fun loop => copies body low loop.1)
      fun start stop => ∃ count, low < count ∧ Spot.Repeats step count start stop := by
  intro next old
  simp only [bind_apply]
  obtain ⟨grown, loop⟩ := again_leads leads lazy next old
  obtain ⟨copied, onward⟩ := leads_copies leads low (again body lazy next old).1.1
    (again body lazy next old).2
  refine ⟨grown.trans copied, fun whole stand start stop ⟨count, least, taken⟩ accepts => ?_⟩
  rw [← Nat.add_sub_of_le (Nat.le_of_lt least)] at taken
  obtain ⟨middle, front, back⟩ := repeats_add _ _ _ start stop taken
  have looped := loop whole (stand.first copied) _ middle stop back accepts
  exact onward whole (stand.second grown) start middle front (looped.2 (by omega))

theorem literal_leads (text : List Char) :
    Leads (fun next => text.foldrM (fun c next => add (.eat (CharSet.single c.toNat) next)) next)
      fun start stop => start.Spells text stop := by
  induction text with
  | nil => exact leads_pure
  | cons c rest ih =>
      have one := leads_add (fun next => .eat (CharSet.single c.toNat) next)
        (fun start stop => ∃ ahead, start.ahead = c :: ahead ∧ stop = ⟨some c, ahead⟩) (by simp)
        (by
          rintro whole index next ⟨before, _⟩ _ here ⟨ahead, rfl, rfl⟩ accepts
          refine .eat index next _ before c ahead here ?_ accepts
          simp [CharSet.single, CharSet.has, CharSet.spansHave])
      intro next old
      have both := one.before ih next old
      simp only [List.foldrM_cons]
      refine ⟨both.1, fun whole stand start stop ⟨ahead, spelled, later⟩ => ?_⟩
      exact both.2 whole stand start stop ⟨⟨some c, ahead⟩, ⟨ahead, spelled, rfl⟩, later⟩

/-- The states of a pattern lead on along its matches. -/
theorem enter_leads (p : Pattern) : Leads (enter p) p.Matches := by
  induction p with
  | empty => exact leads_pure
  | literal text => exact literal_leads text
  | oneOf set =>
      refine leads_add (fun next => .eat set next) _ (by simp) ?_
      rintro whole index next ⟨before, _⟩ _ here ⟨c, ahead, rfl, fits, rfl⟩ accepts
      exact .eat index next set before c ahead here fits accepts
  | assert assertion =>
      refine leads_add (fun next => .check assertion next) _ (by simp) ?_
      rintro whole index next start _ here ⟨rfl, holds⟩ accepts
      exact .check index next assertion start here holds accepts
  | group index p ih => exact ih
  | seq first rest heads tails => exact heads.before tails
  | alt left right lefts rights => exact lefts.either rights
  | repeated p low high lazy ih =>
      cases high with
      | some high =>
          -- Copies that have to be there come first, then those that may be left out.
          have made : enter (.repeated p low (some high) lazy) = fun next =>
              upTo (enter p) lazy next (high - low) >>= copies (enter p) low := by
            cases low <;> rfl
          rw [made]
          refine ((leads_copies ih low).before (leads_upTo ih lazy (high - low))).weaken ?_
          intro start stop ⟨count, least, most, taken⟩
          have few := most high rfl
          rw [← Nat.add_sub_of_le least] at taken
          obtain ⟨middle, front, back⟩ := repeats_add _ _ _ start stop taken
          exact ⟨middle, front, count - low, by omega, back⟩
      | none =>
          cases low with
          | zero =>
              refine (leads_star ih lazy (p.least?.any (0 < ·))).weaken ?_
              intro start stop ⟨count, _, _, taken⟩
              exact ⟨count, taken⟩
          | succ low =>
              refine (leads_more ih lazy low).weaken ?_
              intro start stop ⟨count, least, _, taken⟩
              exact ⟨count, least, taken⟩

end Automaton

theorem Pattern.isFound_of_matches (p : Pattern) (text : String) (skipped chars : List Char)
    (stop : Spot) (spelled : text.toList = skipped ++ chars)
    (matched : p.Matches ⟨skipped.getLast?, chars⟩ stop) : p.automaton.isFound text = true := by
  obtain ⟨grown, leads⟩ := Automaton.enter_leads p 0 #[.done]
  have narrow : Automaton.Narrow #[.done] := by
    intro index choices here
    cases index <;> simp at here
  have done : Automaton.Accepts p.automaton.states 0 stop :=
    .done 0 stop (grown.kept 0 (by simp))
  exact Automaton.isFound_of_accepts (grown.narrow narrow) text skipped chars spelled
    (leads p.automaton.states (fun _ _ _ => rfl) _ stop matched done)

end QuestWeb
