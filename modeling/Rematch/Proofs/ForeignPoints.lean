import Rematch.Proofs.Failure
import Rematch.Proofs.Routing

/-!
# Points that cannot be taken up

A user of a session can ask any operator to resume any point. The operator looks for the owner of the
point below it, also within atomic groups and conditions, whose points it could not resume. If there is
nobody to take the point up, nothing that has been passed on the way does anything, and the memory stays
as it is.
-/

namespace Rematch
namespace Pattern

variable {point : ChoicePoint}

/-! ## Who takes up a point -/

def TakesUp : Pattern → (choice : Nat) → Prop
  | .alternation .., choice => choice = 0
  | .loop _ min _, choice => min ≤ choice
  | _, _ => False

/--
The owner of a point is an operator of the pattern that only sequences, alternations, loops and groups
lie above, and takes up the choice.
-/
def Answers (p : Pattern) (number : Nat) (point : ChoicePoint) : Prop :=
  ∃ place node, p.reach? place = some node ∧
    (p.numberAt? place).map (number + ·) = some point.owner ∧ node.TakesUp point.choice

namespace Answers

variable {p : Pattern} {number : Nat}

theorem self (owner : point.owner = number) (taken : p.TakesUp point.choice) :
    p.Answers number point :=
  ⟨[], p, reach?_nil p, by simp [owner], taken⟩

theorem child {child : Pattern} (step : Nat) (passes : p.handsOn = true) (hchild : p.child? step = some child)
    (h : child.Answers (number + p.childNumber step) point) : p.Answers number point := by
  obtain ⟨place, node, reached, numbered, taken⟩ := h
  obtain ⟨reached, numbered⟩ := reach?_of_child step passes hchild reached numbered
  exact ⟨step :: place, node, reached, numbered, taken⟩

end Answers

theorem numberAt?_of_placeOf? {p : Pattern} {number : Nat} {place : Path}
    (h : p.placeOf? number = some place) : p.numberAt? place = some number := by
  have below : number < p.operatorCount := by
    apply Nat.lt_of_not_le
    intro beyond
    rw [placeOf?, ← Nat.add_sub_cancel' beyond, seek_add] at h
    contradiction
  obtain ⟨place', numbered⟩ := exists_numberAt? p number below
  rw [placeOf?_of_numberAt? numbered] at h
  exact Option.some.inj h ▸ numbered

instance : (p : Pattern) → (choice : Nat) → Decidable (p.TakesUp choice)
  | .alternation .., choice => inferInstanceAs (Decidable (choice = 0))
  | .loop _ min _, choice => inferInstanceAs (Decidable (min ≤ choice))
  | .empty, _ | .literal _, _ | .anyChar, _ | .digit, _ | .word, _ | .space, _ | .charClass .., _
  | .lineStart, _ | .lineEnd, _ | .wordEdge, _ | .backreference _, _ | .sequence _, _ | .group .., _
  | .atomic _, _ | .lookahead _, _ | .lookbehind .., _ | .negation _, _ =>
      inferInstanceAs (Decidable False)

theorem answers_iff {p : Pattern} {number : Nat} : p.Answers number point ↔
    number ≤ point.owner ∧ ∃ place ∈ p.placeOf? (point.owner - number),
      ∃ node ∈ p.reach? place, node.TakesUp point.choice := by
  constructor
  · rintro ⟨place, node, reached, numbered, taken⟩
    obtain ⟨below, hbelow, hsum⟩ := Option.map_eq_some_iff.mp numbered
    have found := placeOf?_of_numberAt? hbelow
    have difference : point.owner - number = below := by omega
    exact ⟨by omega, place, difference ▸ found, node, reached, taken⟩
  · rintro ⟨lower, place, found, node, reached, taken⟩
    refine ⟨place, node, reached, ?_, taken⟩
    rw [numberAt?_of_placeOf? found, Option.map_some, Nat.add_sub_cancel' lower]

instance (p : Pattern) (number : Nat) (point : ChoicePoint) : Decidable (p.Answers number point) :=
  decidable_of_iff _ answers_iff.symm

/-! ## Refusal -/

mutual

/-- A pattern in which nobody takes up a point fails to resume it, in the memory that it was given. -/
theorem resume_of_not_answers (s : Subject) (m : Memory) : (p : Pattern) → (number : Nat) →
    ¬ p.Answers number point → (p.matcher s number).resume point m = .failed m
  | .sequence parts, number, h => by
      refine resumeParts_of_not_answers s m parts (number + 1) fun i part found answers => ?_
      refine h (.child i rfl found ?_)
      rwa [childNumber, Nat.add_comm _ 1, ← Nat.add_assoc]
  | .alternation left right, number, h => by
      have refusedLeft := resume_of_not_answers s m left (number + 1) fun answers =>
        h (.child 0 rfl rfl answers)
      have refusedRight := resume_of_not_answers s m right (number + 1 + left.operatorCount)
        fun answers => h (.child 1 rfl rfl (by
          rwa [childNumber, Nat.add_comm _ 1, ← Nat.add_assoc]))
      simp only [matcher, Matcher.alternation, matcher_size, refusedLeft, refusedRight, ite_self]
      split
      · rename_i owner
        have other : point.choice ≠ 0 := fun choice => h (.self owner choice)
        rw [if_neg other]
      · rfl
  | .loop body min max, number, h => by
      have refused := resume_of_not_answers s m body (number + 1) fun answers =>
        h (.child 0 rfl rfl answers)
      simp only [matcher, Matcher.loop, refused]
      split
      · rename_i owner
        have tooFew : ¬ min ≤ point.choice := fun enough => h (.self owner enough)
        rw [if_neg tooFew]
      · split <;> rfl
  | .group body index, number, h => by
      have refused := resume_of_not_answers s m body (number + 1) fun answers =>
        h (.child 0 rfl rfl answers)
      simp only [matcher, Matcher.group, refused]
      split <;> rfl
  | .atomic _, _, _ | .lookahead _, _, _ | .lookbehind .., _, _ | .negation _, _, _ | .empty, _, _
  | .literal _, _, _ | .anyChar, _, _ | .digit, _, _ | .word, _, _ | .space, _, _
  | .charClass .., _, _ | .lineStart, _, _ | .lineEnd, _, _ | .wordEdge, _, _
  | .backreference _, _, _ => rfl

theorem resumeParts_of_not_answers (s : Subject) (m : Memory) : (parts : List Pattern) →
    (number : Nat) → (∀ (i : Nat) (part : Pattern), parts[i]? = some part →
      ¬ part.Answers (number + totalCount (parts.take i)) point) →
    Matcher.resumeParts s.size point m (matchers s number parts) = .failed m
  | [], _, _ => rfl
  | part :: rest, number, h => by
      have refused := resume_of_not_answers s m part number (h 0 part rfl)
      have refusedLater := resumeParts_of_not_answers s m rest (number + part.operatorCount)
        fun i later found => by
          have among := h (i + 1) later (by simpa using found)
          rwa [List.take_succ_cons, totalCount, ← Nat.add_assoc] at among
      simp only [matchers, Matcher.resumeParts, matcher_size, refused, refusedLater, ite_self]

end

/--
A point whose owner is not the pattern itself and cannot be reached through sequences, alternations,
loops and groups, or whose owner does not take up the choice, is refused. The resumption fails and gives
back the memory it was given, whatever memory that is. A session in which it is asked for goes on as if
nothing had been asked.
-/
theorem refused_of_not_answers (s : Subject) {p : Pattern} {number : Nat}
    (h : ¬ p.Answers number point) :
    (∀ m, (p.matcher s number).resume point m = .failed m) ∧
    (∀ (session : Session) (place : Path), session.subject = s → session.current = some point →
      session.pattern.at? place = some p → session.pattern.numberAt? place = some number →
      session.take (.resume place) = (.stop none, session)) := by
  refine ⟨fun m => resume_of_not_answers s m p number h, ?_⟩
  rintro session place rfl current hplace hnumber
  have operator : session.matcher? place = some (p.matcher session.subject number) := by
    simp [Session.matcher?, hplace, hnumber]
  simp only [Session.take, current, operator, Session.settle,
    resume_of_not_answers session.subject session.memory p number h]
  rw [← current]
  rfl

/--
In `(?:x(?>(a|ab)))+` the point of the branches lies within an atomic group. The loop owns it, has begun
a repetition and looks for it as far as the sequence in there, but neither repeats nor runs anything. A
point of nobody and one of too few repetitions are refused as well.
-/
theorem refused_of_not_answers_atomic :
    let branches : Pattern := .alternation (.literal 'a') (.sequence [.literal 'a', .literal 'b'])
    let p : Pattern := .loop (.sequence [.literal 'x', .atomic (.group branches 1)]) 1 none
    let s : Subject := { text := #['x', 'a', 'b'] }
    let m : Memory := ((Memory.suspend ∅ 5 1 0).openGroup 1 1).enterLoop 0 0 0
    let point : ChoicePoint := { owner := 5, position := 1, choice := 0, snapshot := m }
    p.placeOf? 5 = some [0, 1, 0, 0] ∧ (p.matcher s 0).owns point = true ∧
      ¬ p.Answers 0 point ∧ ¬ p.Answers 0 { point with owner := 10 } ∧
      ¬ p.Answers 0 { point with owner := 0 } ∧
      (p.matcher s 0).resume point m = .failed m ∧
      (p.matcher s 0).resume { point with owner := 10 } m = .failed m ∧
      (p.matcher s 0).resume { point with owner := 0 } m = .failed m ∧
      let session : Session := { pattern := p, subject := s, memory := m, current := some point }
      session.take (.resume []) = (.stop none, session) := by
  intro branches p s m point
  have within : ¬ p.Answers 0 point := by decide
  have nobody : ¬ p.Answers 0 { point with owner := 10 } := by decide
  have tooFew : ¬ p.Answers 0 { point with owner := 0 } := by decide
  obtain ⟨refused, unchanged⟩ := refused_of_not_answers s within
  exact ⟨by decide, by decide, within, nobody, tooFew, refused m,
    (refused_of_not_answers s nobody).1 m, (refused_of_not_answers s tooFew).1 m,
    unchanged _ [] rfl rfl (at?_nil p) (numberAt?_nil p)⟩

end Pattern
end Rematch
