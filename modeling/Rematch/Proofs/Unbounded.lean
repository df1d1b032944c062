import Rematch.Proofs.Activity

/-!
# Evaluation without bounds

The matchers drain and repeat with a supply of rounds at hand. Here the same steps are taken with loops
that go on for as long as there is something to take up or to repeat, so that an evaluation might have
no end. Every activity does come to an end, and it is what the matchers come to.
-/

namespace Rematch

open Pattern (matchers matcher_size matcher_number)

/--
What an activity comes to, nothing if it never ends. A drain goes on until the stack is as high as it
was or the latest point belongs to another operator, and a loop goes on until a repetition fails, takes
no character or is the last one allowed.
-/
def Activity.evaluate (s : Subject) : Activity → Option Outcome
  | .run number (.sequence parts) pos m => Activity.runParts (number + 1) parts pos m |>.evaluate s
  | .run number (.alternation left right) pos m => do
      match ← Activity.run (number + 1) left pos (m.suspend number pos 0) |>.evaluate s with
      | .matched stop m' => return .matched stop m'
      | .failed _ => Activity.run (number + 1 + left.operatorCount) right pos m |>.evaluate s
  | .run number (.loop body min max) pos m => do
      match ← Activity.iterate number body min max 0 pos m |>.evaluate s with
      | .matched stop m' => return .matched stop m'
      | .failed _ => return .failed m
  | .run number (.group body index) pos m => do
      match ← Activity.run (number + 1) body pos (m.openGroup index pos) |>.evaluate s with
      | .matched stop m' => return .matched stop (m'.capture index pos stop)
      | .failed _ => return .failed m
  | .run number (.atomic body) pos m => do
      match ← Activity.run (number + 1) body pos m |>.evaluate s with
      | .matched stop m' => return .matched stop (m'.keepOldest m.depth)
      | .failed _ => return .failed m
  | .run number (.lookahead body) pos m => do
      match ← Activity.run (number + 1) body pos m |>.evaluate s with
      | .matched _ _ => return .matched pos m
      | .failed _ => return .failed m
  | .run number (.lookbehind body width) pos m =>
      if pos < width then
        return .failed m
      else do
        match ← Activity.run (number + 1) body (pos - width) m |>.evaluate s with
        | .matched stop _ => return if stop = pos then .matched pos m else .failed m
        | .failed _ => return .failed m
  | .run number (.negation body) pos m =>
      if !body.isZeroWidth && s.size ≤ pos then
        return .failed m
      else do
        match ← Activity.run (number + 1) body pos m |>.evaluate s with
        | .matched _ _ => return .failed m
        | .failed _ => return .matched (if body.isZeroWidth then pos else pos + 1) m
  | .run _ p pos m =>
      match Pattern.singleStop? s m.captures pos p with
      | some stop => return .matched stop m
      | none => return .failed m
  | .runParts _ [] pos m => return .matched pos m
  | .runParts number (part :: rest) pos m => do
      match ← Activity.run number part pos m |>.evaluate s with
      | .failed _ => return .failed m
      | .matched next m' =>
          match ← Activity.runParts (number + part.operatorCount) rest next m' |>.evaluate s with
          | .matched stop m'' => return .matched stop m''
          | .failed m'' => Activity.drain number part rest m m'' |>.evaluate s
  | .drain number part rest entry m =>
      match m.points with
      | [] => return .failed entry
      | point :: _ =>
          if m.risesAbove entry && (part.matcher s number).owns point then do
            match ← Activity.resume number part point point.snapshot |>.evaluate s with
            | .failed m' => Activity.drain number part rest entry m' |>.evaluate s
            | .matched next m' =>
                match ← Activity.runParts (number + part.operatorCount) rest next m' |>.evaluate s with
                | .matched stop m'' => return .matched stop m''
                | .failed m'' => Activity.drain number part rest entry m'' |>.evaluate s
          else
            return .failed entry
  | .iterate number body min max count pos m =>
      if max.any (· ≤ count) then
        return Matcher.finish min count pos m
      else do
        let left := if min ≤ count then m.suspend number pos count else m
        match ← Activity.run (number + 1) body pos (left.enterLoop number count pos) |>.evaluate s with
        | .failed _ => return Matcher.finish min count pos m
        | .matched next m' =>
            if next = pos then
              return Matcher.finish min count pos m
            else
              Activity.iterate number body min max (count + 1) next m' |>.evaluate s
  | .resume number (.sequence parts) point m =>
      Activity.resumeParts (number + 1) parts point m |>.evaluate s
  | .resume number (.alternation left right) point m =>
      if point.owner = number then
        if point.choice = 0 then
          Activity.run (number + 1 + left.operatorCount) right point.position m |>.evaluate s
        else
          return .failed m
      else if (left.matcher s (number + 1)).owns point then
        Activity.resume (number + 1) left point m |>.evaluate s
      else if (right.matcher s (number + 1 + left.operatorCount)).owns point then
        Activity.resume (number + 1 + left.operatorCount) right point m |>.evaluate s
      else
        return .failed m
  | .resume number (.loop body min max) point m =>
      if point.owner = number then
        return if min ≤ point.choice then .matched point.position m else .failed m
      else
        match m.loops[number]? with
        | none => return .failed m
        | some mark => do
            match ← Activity.resume (number + 1) body point m |>.evaluate s with
            | .failed m' => return .failed m'
            | .matched next m' =>
                if next = mark.start then
                  return .failed m'
                else
                  Activity.iterate number body min max (mark.count + 1) next m' |>.evaluate s
  | .resume number (.group body index) point m =>
      match m.groupStarts[index]? with
      | none => return .failed m
      | some start => do
          match ← Activity.resume (number + 1) body point m |>.evaluate s with
          | .failed m' => return .failed m'
          | .matched stop m' => return .matched stop (m'.capture index start stop)
  | .resume _ _ _ m => return .failed m
  | .resumeParts _ [] _ m => return .failed m
  | .resumeParts number (part :: rest) point m =>
      if (part.matcher s number).owns point then do
        match ← Activity.resume number part point m |>.evaluate s with
        | .failed m' => return .failed m'
        | .matched next m' => Activity.runParts (number + part.operatorCount) rest next m' |>.evaluate s
      else
        Activity.resumeParts (number + part.operatorCount) rest point m |>.evaluate s
partial_fixpoint

namespace Pattern

open Activity

/-- An operator, run or resumed without bounds, comes to what its matcher does. -/
structure Evaluates (s : Subject) (number : Nat) (p : Pattern) : Prop where
  run : ∀ pos m, evaluate s (.run number p pos m) = some ((p.matcher s number).run pos m)
  resume : ∀ point m,
    evaluate s (.resume number p point m) = some ((p.matcher s number).resume point m)

structure PartsEvaluate (s : Subject) (number : Nat) (parts : List Pattern) : Prop where
  run : ∀ pos m, evaluate s (.runParts number parts pos m) =
    some (Matcher.runParts s.size (matchers s number parts) pos m)
  resume : ∀ point m, evaluate s (.resumeParts number parts point m) =
    some (Matcher.resumeParts s.size point m (matchers s number parts))

namespace Evaluates

variable {s : Subject} {number : Nat} {body left right part : Pattern} {parts rest : List Pattern}

/-! ## Operators that leave nothing to come back to -/

theorem single {p : Pattern}
    (hmatcher : p.matcher s number =
      Matcher.single number fun captures pos => singleStop? s captures pos p)
    (hrun : ∀ pos m, evaluate s (.run number p pos m) =
      match singleStop? s m.captures pos p with
      | some stop => some (.matched stop m)
      | none => some (.failed m))
    (hresume : ∀ point m, evaluate s (.resume number p point m) = some (.failed m)) :
    Evaluates s number p where
  run pos m := by
    rw [hrun, hmatcher, Matcher.single]
    dsimp only
    cases singleStop? s m.captures pos p <;> rfl
  resume point m := by rw [hresume, hmatcher, Matcher.single]

theorem atomic (h : Evaluates s (number + 1) body) : Evaluates s number (.atomic body) where
  run pos m := by
    rw [evaluate, h.run]
    simp only [matcher, Matcher.atomic, Option.bind_eq_bind, Option.bind_some]
    cases (body.matcher s (number + 1)).run pos m <;> rfl
  resume point m := by
    rw [evaluate.eq_def]
    rfl

theorem lookahead (h : Evaluates s (number + 1) body) : Evaluates s number (.lookahead body) where
  run pos m := by
    rw [evaluate, h.run]
    simp only [matcher, Matcher.lookahead, Option.bind_eq_bind, Option.bind_some]
    cases (body.matcher s (number + 1)).run pos m <;> rfl
  resume point m := by
    rw [evaluate.eq_def]
    rfl

theorem lookbehind (h : Evaluates s (number + 1) body) (width : Nat) :
    Evaluates s number (.lookbehind body width) where
  run pos m := by
    rw [evaluate]
    simp only [matcher, Matcher.lookbehind]
    split
    · rfl
    · rw [h.run]
      simp only [Option.bind_eq_bind, Option.bind_some]
      cases (body.matcher s (number + 1)).run (pos - width) m <;> rfl
  resume point m := by
    rw [evaluate.eq_def]
    rfl

theorem negation (h : Evaluates s (number + 1) body) : Evaluates s number (.negation body) where
  run pos m := by
    rw [evaluate]
    simp only [matcher, Matcher.negation]
    split
    · rfl
    · rw [h.run]
      simp only [Option.bind_eq_bind, Option.bind_some]
      cases (body.matcher s (number + 1)).run pos m <;> rfl
  resume point m := by
    rw [evaluate.eq_def]
    rfl

/-! ## Alternations and groups -/

theorem alternation (hleft : Evaluates s (number + 1) left)
    (hright : Evaluates s (number + 1 + left.operatorCount) right) :
    Evaluates s number (.alternation left right) where
  run pos m := by
    rw [evaluate, hleft.run]
    simp only [matcher, Matcher.alternation, matcher_size, Option.bind_eq_bind, Option.bind_some]
    cases (left.matcher s (number + 1)).run pos (m.suspend number pos 0) with
    | matched stop m' => rfl
    | failed m' => exact hright.run pos m
  resume point m := by
    rw [evaluate]
    simp only [matcher, Matcher.alternation, matcher_size]
    split
    · split
      · exact hright.run point.position m
      · rfl
    · split
      · exact hleft.resume point m
      · split
        · exact hright.resume point m
        · rfl

theorem group (h : Evaluates s (number + 1) body) (index : Nat) :
    Evaluates s number (.group body index) where
  run pos m := by
    rw [evaluate, h.run]
    simp only [matcher, Matcher.group, Option.bind_eq_bind, Option.bind_some]
    cases (body.matcher s (number + 1)).run pos (m.openGroup index pos) <;> rfl
  resume point m := by
    rw [evaluate]
    simp only [matcher, Matcher.group]
    cases m.groupStarts[index]? with
    | none => rfl
    | some start =>
        simp only [h.resume, Option.bind_eq_bind, Option.bind_some]
        cases (body.matcher s (number + 1)).resume point m <;> rfl

/-! ## Loops -/

/--
A loop ends by itself: each further repetition takes a character, and at the end of the text none can.
-/
theorem iterate (h : Evaluates s (number + 1) body) (min : Nat) (max : Option Nat)
    {remaining pos : Nat} (enough : s.size - pos ≤ remaining) (count : Nat) (m : Memory) :
    evaluate s (.iterate number body min max count pos m) =
      some ((body.matcher s (number + 1)).iterate number min max remaining count pos m) := by
  have lawful := matcher_lawful s (number + 1) body
  induction remaining generalizing pos count m with
  | zero =>
      rw [evaluate, Matcher.iterate]
      split
      · rfl
      · simp only [h.run, Option.bind_eq_bind, Option.bind_some]
        cases hrun : (body.matcher s (number + 1)).run pos _ with
        | failed m' => rfl
        | matched next m' =>
            have bounds := lawful.stop_bounds hrun
            have stays : next = pos := by omega
            simp only [stays, if_true]
            rfl
  | succ remaining ih =>
      rw [evaluate, Matcher.iterate]
      split
      · rfl
      · simp only [h.run, Option.bind_eq_bind, Option.bind_some]
        cases hrun : (body.matcher s (number + 1)).run pos _ with
        | failed m' => rfl
        | matched next m' =>
            dsimp only
            split
            · rfl
            · have bounds := lawful.stop_bounds hrun
              exact ih (by omega) (count + 1) m'

theorem loop (h : Evaluates s (number + 1) body) (min : Nat) (max : Option Nat) :
    Evaluates s number (.loop body min max) where
  run pos m := by
    rw [evaluate, h.iterate min max (Nat.le_refl _) 0 m]
    simp only [matcher, Matcher.loop, Option.bind_eq_bind, Option.bind_some]
    cases (body.matcher s (number + 1)).iterate number min max (s.size - pos) 0 pos m <;> rfl
  resume point m := by
    rw [evaluate]
    simp only [matcher, Matcher.loop]
    split
    · rfl
    · cases m.loops[number]? with
      | none => rfl
      | some mark =>
          simp only [h.resume, Option.bind_eq_bind, Option.bind_some]
          cases (body.matcher s (number + 1)).resume point m with
          | failed m' => rfl
          | matched next m' =>
              dsimp only
              split
              · rfl
              · exact h.iterate min max (Nat.le_refl _) (mark.count + 1) m'

/-! ## Sequences -/

theorem takes_of_suspends {entry m : Memory} {point : ChoicePoint} {below : List ChoicePoint}
    (suspends : (part.matcher s number).Suspends entry entry.points point below)
    (hstack : m.points = point :: below) : Takes s number part entry m point where
  latest := by rw [hstack, List.head?_cons]
  above := (Memory.risesAbove_iff _ _).mp (Matcher.Lawful.risesAbove_of_suspends suspends hstack)
  owned := suspends.owner

theorem evaluate_drain_next {entry m : Memory} {point : ChoicePoint}
    (hpart : Evaluates s number part) (takes : Takes s number part entry m point) :
    evaluate s (.drain number part rest entry m) =
      match (part.matcher s number).resume point point.snapshot with
      | .failed m' => evaluate s (.drain number part rest entry m')
      | .matched next m' =>
          (evaluate s (.runParts (number + part.operatorCount) rest next m')).bind fun
            | .matched stop m'' => some (.matched stop m'')
            | .failed m'' => evaluate s (.drain number part rest entry m'') := by
  obtain ⟨below, hpoints⟩ := takes.points_eq
  have above := (Memory.risesAbove_iff _ _).mpr takes.above
  rw [evaluate, hpoints]
  simp only [above, takes.owned, Bool.and_self, if_true, hpart.resume, Option.bind_eq_bind,
    Option.bind_some]
  cases (part.matcher s number).resume point point.snapshot <;> rfl

/--
A drain ends by itself: the points of a lawful part have only so many rounds of arrivals left. It then
comes to the same as with any supply of so many rounds.
-/
theorem drain (hpart : Evaluates s number part)
    (hrest : PartsEvaluate s (number + part.operatorCount) rest) {entry : Memory}
    {stack : List ChoicePoint} {rounds : Nat} {arrivals : List Arrival}
    (h : (part.matcher s number).Pending entry entry.points stack rounds arrivals)
    (supply : Rounds) (enough : rounds ≤ supply.count) (m : Memory) (hstack : m.points = stack) :
    evaluate s (.drain number part rest entry m) = some ((part.matcher s number).drain
      (Matcher.runParts s.size (matchers s (number + part.operatorCount) rest)) entry supply m) := by
  induction h generalizing supply m with
  | done =>
      have low := Matcher.Lawful.not_risesAbove_of_points_eq hstack
      rw [Matcher.Lawful.drain_of_not_risesAbove low, evaluate, low]
      split <;> rfl
  | @dead point below m' _ arrivals suspends hresume pending ih =>
      cases supply with
      | none => simp at enough
      | next supply =>
          rw [Rounds.count_next] at enough
          rw [Matcher.Lawful.drain_next suspends hstack,
            hpart.evaluate_drain_next (takes_of_suspends suspends hstack), hresume]
          exact ih (supply ()) (by omega) m' rfl
  | @live point below stop m' _ arrivals suspends hresume reached pending ih =>
      cases supply with
      | none => simp at enough
      | next supply =>
          rw [Rounds.count_next] at enough
          rw [Matcher.Lawful.drain_next suspends hstack,
            hpart.evaluate_drain_next (takes_of_suspends suspends hstack), hresume]
          simp only [hrest.run, Option.bind_some]
          cases hran : Matcher.runParts s.size (matchers s (number + part.operatorCount) rest)
              stop m' with
          | matched stop' m'' => rfl
          | failed m'' =>
              obtain rfl : m'' = m' := Matcher.runParts_failed hran
              exact ih (supply ()) (by omega) m'' rfl

end Evaluates

namespace PartsEvaluate

variable {s : Subject} {number : Nat} {part : Pattern} {parts rest : List Pattern}

theorem nil : PartsEvaluate s number [] where
  run pos m := by
    rw [evaluate]
    rfl
  resume point m := by
    rw [evaluate]
    rfl

theorem cons (hpart : Evaluates s number part)
    (hrest : PartsEvaluate s (number + part.operatorCount) rest) :
    PartsEvaluate s number (part :: rest) where
  run pos m := by
    rw [evaluate, hpart.run]
    simp only [matchers, Matcher.runParts, matcher_size, Option.bind_eq_bind, Option.bind_some]
    cases hrun : (part.matcher s number).run pos m with
    | failed m' => rfl
    | matched next m' =>
        simp only [hrest.run, Option.bind_some]
        cases hran : Matcher.runParts s.size (matchers s (number + part.operatorCount) rest)
            next m' with
        | matched stop m'' => rfl
        | failed m'' =>
            obtain rfl : m'' = m' := Matcher.runParts_failed hran
            obtain ⟨rounds, yields, bound⟩ :=
              (matcher_lawful s number part).yields _ (Nat.le_refl _) pos m ∅
            rw [hrun] at yields
            obtain ⟨others, _, _, pending⟩ := yields
            refine hpart.drain hrest pending _ ?_ m'' rfl
            refine Nat.le_trans ?_ (Rounds.two_pow_le_count_power _ _)
            omega
  resume point m := by
    rw [evaluate]
    simp only [matchers, Matcher.resumeParts, matcher_size]
    split
    · simp only [hpart.resume, Option.bind_eq_bind, Option.bind_some]
      cases (part.matcher s number).resume point m with
      | failed m' => rfl
      | matched next m' => exact hrest.run next m'
    · exact hrest.resume point m

theorem sequence (h : PartsEvaluate s (number + 1) parts) : Evaluates s number (.sequence parts) where
  run pos m := by
    rw [evaluate, h.run]
    rfl
  resume point m := by
    rw [evaluate, h.resume]
    rfl

end PartsEvaluate

mutual

/-- Running or resuming a pattern without bounds comes to an end, in any memory. -/
theorem evaluates (s : Subject) (number : Nat) : (p : Pattern) → Evaluates s number p
  | .sequence parts => (partsEvaluate s (number + 1) parts).sequence
  | .alternation left right =>
      (evaluates s (number + 1) left).alternation (evaluates s _ right)
  | .loop body min max => (evaluates s (number + 1) body).loop min max
  | .group body index => (evaluates s (number + 1) body).group index
  | .atomic body => (evaluates s (number + 1) body).atomic
  | .lookahead body => (evaluates s (number + 1) body).lookahead
  | .lookbehind body width => (evaluates s (number + 1) body).lookbehind width
  | .negation body => (evaluates s (number + 1) body).negation
  | .empty | .literal _ | .anyChar | .digit | .word | .space | .charClass .. | .lineStart
  | .lineEnd | .wordEdge | .backreference _ =>
      .single rfl (fun _ _ => by rw [evaluate.eq_def]; rfl) fun _ _ => by rw [evaluate.eq_def]; rfl

theorem partsEvaluate (s : Subject) (number : Nat) : (parts : List Pattern) →
    PartsEvaluate s number parts
  | [] => .nil
  | part :: rest => .cons (evaluates s number part) (partsEvaluate s _ rest)

end

end Pattern
end Rematch
