import Rematch.Pattern.Basic

/-!
# Places in a pattern

A place is named by the child numbers that lead to it from the root: the parts of a sequence are
numbered from 0, the branches of an alternation are 0 and 1, and any other body is 0. Equal subtrees
at different places are different operators.
-/

namespace Rematch

/-- The child numbers that lead from the root to a place. -/
abbrev Path := List Nat

namespace Path

/-- What is left of `target` after `place`, if it lies at `place` or below. -/
def below? : (place target : Path) → Option Path
  | [], target => some target
  | _ :: _, [] => none
  | step :: place, step' :: target => if step = step' then below? place target else none

def owns (place target : Path) : Bool :=
  (below? place target).isSome

theorem below?_append (place route : Path) : below? place (place ++ route) = some route := by
  induction place with
  | nil => rfl
  | cons step place ih => simp [below?, ih]

theorem eq_append_of_below? {place target route : Path} (h : below? place target = some route) :
    target = place ++ route := by
  induction place generalizing target with
  | nil => simpa [below?] using h
  | cons step place ih =>
      cases target with
      | nil => simp [below?] at h
      | cons step' target =>
          by_cases hs : step = step'
          · subst hs
            simp only [below?, if_pos] at h
            simp [ih h]
          · simp [below?, hs] at h

theorem below?_eq_some_iff {place target route : Path} :
    below? place target = some route ↔ target = place ++ route :=
  ⟨eq_append_of_below?, fun h => h ▸ below?_append place route⟩

end Path

namespace Pattern

/-- The child with a given number. The specials of a character class are not children. -/
def child? : Pattern → Nat → Option Pattern
  | .sequence parts, i => parts[i]?
  | .alternation left _, 0 => some left
  | .alternation _ right, 1 => some right
  | .loop body .., 0 | .group body _, 0 | .atomic body, 0 | .lookahead body, 0
  | .lookbehind body _, 0 | .negation body, 0 => some body
  | _, _ => none

def at? : Pattern → Path → Option Pattern
  | p, [] => some p
  | p, step :: rest => (p.child? step).bind fun child => child.at? rest

@[simp] theorem at?_nil (p : Pattern) : p.at? [] = some p := by
  cases p <;> rfl

end Pattern

end Rematch
