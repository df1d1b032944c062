import Rematch.Proofs.Failure

/-!
# Specials of a character class

A character class does not run its specials: it has a test of its own for them, with a negation of its
own. The operator of negation also asks whether its body takes a character, and then wants one to be
left. Before the end of the text the two agree.
-/

namespace Rematch

theorem CharSet.accepts_empty (options : Options) (c : Char) :
    ({} : CharSet).accepts options c = false := by
  simp [accepts, contains, containsFolded]

namespace Pattern

/-- An operator without a body, or the negation of a special. -/
def isSpecial : Pattern → Bool
  | .negation body => body.isSpecial
  | .sequence _ | .alternation .. | .loop .. | .group .. | .atomic _ | .lookahead _
  | .lookbehind .. => false
  | _ => true

def Succeeds (p : Pattern) (s : Subject) (number pos : Nat) (m : Memory) : Prop :=
  ∃ stop after, (p.matcher s number).run pos m = .matched stop after

variable {s : Subject} {number pos : Nat} {m : Memory}

theorem succeeds_iff_of_single {p : Pattern}
    (h : p.matcher s number =
      Matcher.single number fun captures pos => singleStop? s captures pos p) :
    p.Succeeds s number pos m ↔ (singleStop? s m.captures pos p).isSome = true := by
  rw [Succeeds, h]
  simp only [Matcher.single]
  split <;> simp [*]

theorem run_iff_of_succeeds {p : Pattern} {stop : Nat}
    (h : p.Succeeds s number pos m → (p.matcher s number).run pos m = .matched stop m) :
    ((p.matcher s number).run pos m = .matched stop m ↔ p.Succeeds s number pos m) ∧
      ((p.matcher s number).run pos m = .failed m ↔ ¬ p.Succeeds s number pos m) := by
  refine ⟨⟨fun hrun => ⟨stop, m, hrun⟩, h⟩, ?_, ?_⟩
  · rintro hrun ⟨stop', after, matched⟩
    rw [hrun] at matched
    contradiction
  · intro untaken
    cases hrun : (p.matcher s number).run pos m with
    | matched stop' after => exact absurd ⟨stop', after, hrun⟩ untaken
    | failed after => rw [matcher_restores s number p hrun]

/-! ## Negations -/

theorem run_negation_of_succeeds {body : Pattern} (h : (negation body).Succeeds s number pos m) :
    ((negation body).matcher s number).run pos m =
      .matched (if body.isZeroWidth then pos else pos + 1) m := by
  obtain ⟨stop, after, hrun⟩ := h
  simp only [matcher, Matcher.negation] at hrun ⊢
  split at hrun
  · contradiction
  · rename_i allowed
    rw [if_neg allowed]
    split at hrun
    · contradiction
    · rfl

/-- Before the end of the text a negation asks nothing but whether its body matches. -/
theorem succeeds_negation_iff (inside : pos < s.size) (body : Pattern) :
    (negation body).Succeeds s number pos m ↔ ¬ body.Succeeds s (number + 1) pos m := by
  have room : (!body.isZeroWidth && decide (s.size ≤ pos)) = false := by
    simp [Nat.not_le_of_lt inside]
  simp only [Succeeds, matcher, Matcher.negation, room, Bool.false_eq_true, if_false]
  cases (body.matcher s (number + 1)).run pos m <;> simp

/-! ## The test of a class -/

/-- The test of a class for a special agrees with the special as an operator. -/
theorem specialHolds_iff (inside : pos < s.size) : (number : Nat) → (p : Pattern) →
    p.isSpecial = true → (specialHolds s m.captures pos p = true ↔ p.Succeeds s number pos m)
  | number, .negation body, special => by
      -- The test has no rule for widths, and none is needed where a character is left.
      have here : (s.char? pos).isSome = true := by
        rw [Subject.char?, Array.getElem?_eq_getElem inside]
        rfl
      have below := specialHolds_iff inside (number + 1) body special
      rw [specialHolds, here, Bool.true_and, Bool.not_eq_true', ← Bool.not_eq_true, below,
        succeeds_negation_iff inside]
  | number, .charClass set specials, _ => by
      rw [succeeds_iff_of_single rfl, singleStop?]
      split <;> simp [*]
  | number, .empty, _ | number, .literal _, _ | number, .anyChar, _ | number, .digit, _
  | number, .word, _ | number, .space, _ | number, .lineStart, _ | number, .lineEnd, _
  | number, .wordEdge, _ | number, .backreference _, _ => by
      rw [succeeds_iff_of_single rfl]
      rfl

theorem anySpecialHolds_iff {captures : Captures} {specials : List Pattern} :
    anySpecialHolds s captures pos specials = true ↔
      ∃ p ∈ specials, specialHolds s captures pos p = true := by
  induction specials with
  | nil => simp [anySpecialHolds]
  | cons p rest ih => simp [anySpecialHolds, ih]

/-! ## Classes of specials -/

theorem run_charClass_of_succeeds {set : CharSet} {specials : List Pattern}
    (h : (charClass set specials).Succeeds s number pos m) :
    ((charClass set specials).matcher s number).run pos m = .matched (pos + 1) m := by
  have holds := (succeeds_iff_of_single rfl).mp h
  simp only [singleStop?, Option.isSome_ite] at holds
  simp only [matcher, Matcher.single, singleStop?, if_pos holds]

theorem succeeds_charClass_iff (inside : pos < s.size) (number number' : Nat)
    {specials : List Pattern} (special : ∀ p ∈ specials, p.isSpecial = true) :
    (charClass {} specials).Succeeds s number pos m ↔
      ∃ p ∈ specials, p.Succeeds s number' pos m := by
  rw [← specialHolds_iff inside number _ rfl, specialHolds, Subject.char?,
    Array.getElem?_eq_getElem inside]
  simp only [CharSet.accepts_empty, Bool.false_or, anySpecialHolds_iff]
  refine exists_congr fun p => and_congr_right fun member => ?_
  exact specialHolds_iff inside number' p (special p member)

/--
Before the end of the text the test of a class for a special agrees with the special as an operator,
whatever has been captured and however the text is read. So a class of nothing but specials takes the
character at a position if and only if one of them matches there by itself, and the negation of the class
takes it if and only if none does.
-/
theorem special_agrees_with_run (s : Subject) (number number' : Nat) {pos : Nat}
    (inside : pos < s.size) (m : Memory) :
    (∀ p : Pattern, p.isSpecial = true →
      (specialHolds s m.captures pos p = true ↔ p.Succeeds s number pos m)) ∧
    ∀ specials : List Pattern, (∀ p ∈ specials, p.isSpecial = true) →
      let members := (charClass {} specials).matcher s number
      let others := (negation (charClass {} specials)).matcher s number
      (members.run pos m = .matched (pos + 1) m ↔ ∃ p ∈ specials, p.Succeeds s number' pos m) ∧
      (members.run pos m = .failed m ↔ ∀ p ∈ specials, ¬ p.Succeeds s number' pos m) ∧
      (others.run pos m = .matched (pos + 1) m ↔ ∀ p ∈ specials, ¬ p.Succeeds s number' pos m) ∧
      (others.run pos m = .failed m ↔ ∃ p ∈ specials, p.Succeeds s number' pos m) := by
  refine ⟨fun p special => specialHolds_iff inside number p special, ?_⟩
  intro specials special members others
  have taken : ∀ number, (charClass {} specials).Succeeds s number pos m ↔
      ∃ p ∈ specials, p.Succeeds s number' pos m := fun number =>
    succeeds_charClass_iff inside number number' special
  have left : (negation (charClass {} specials)).Succeeds s number pos m ↔
      ¬ ∃ p ∈ specials, p.Succeeds s number' pos m := by
    rw [succeeds_negation_iff inside, taken]
  have membersRun : (members.run pos m = .matched (pos + 1) m ↔ _) ∧
      (members.run pos m = .failed m ↔ _) := run_iff_of_succeeds run_charClass_of_succeeds
  have othersRun : (others.run pos m = .matched (pos + 1) m ↔ _) ∧
      (others.run pos m = .failed m ↔ _) := run_iff_of_succeeds run_negation_of_succeeds
  rw [taken] at membersRun
  rw [left, Classical.not_not] at othersRun
  simp only [not_exists, not_and] at membersRun othersRun
  exact ⟨membersRun.1, membersRun.2, othersRun.1, othersRun.2⟩

/--
Disregarding case, the second letter of `Aa` is what group 1 has captured, though it is no digit and
stands on the edge of a word.
-/
theorem special_agrees_with_run_captured :
    let s : Subject := { text := #['A', 'a'], options := { ignoreCase := true } }
    let m : Memory := Memory.capture ∅ 1 0 1
    let specials : List Pattern :=
      [.negation (.negation (.charClass {} [.digit])), .negation .word, .backreference 1]
    ((charClass {} specials).matcher s 0).run 1 m = .matched 2 m ∧
      ((negation (charClass {} specials)).matcher s 0).run 1 m = .failed m ∧
      ¬ (negation (negation (charClass {} [.digit]))).Succeeds s 0 1 m := by
  intro s m specials
  have inside : 1 < s.size := by decide
  obtain ⟨agrees, classes⟩ := special_agrees_with_run s 0 0 inside m
  obtain ⟨taken, -, -, left⟩ := classes specials (by decide)
  have captured : (backreference 1).Succeeds s 0 1 m := (agrees _ rfl).mp (by decide)
  have found : ∃ p ∈ specials, p.Succeeds s 0 1 m := ⟨.backreference 1, by decide, captured⟩
  refine ⟨taken.mpr found, left.mpr found, ?_⟩
  rw [← agrees _ rfl]
  decide

/-- At the end of the text `\B` can match, but a class that lists it takes no character there. -/
example : (negation wordEdge).Succeeds { text := #[] } 0 0 ∅ ∧
    specialHolds { text := #[] } ∅ 0 (negation wordEdge) = false :=
  ⟨⟨0, ∅, rfl⟩, by decide⟩

end Pattern
end Rematch
