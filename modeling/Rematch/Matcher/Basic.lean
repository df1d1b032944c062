import Rematch.Memory
import Rematch.Rounds

/-!
# Matchers

A matcher runs an operator at a position and can later take up a choice that the run left open. A
run that fails gives back the memory it was given, whereas a resumption that fails gives back
whatever memory it has reached: choices left in there can still be taken up.
-/

namespace Rematch

inductive Outcome where
  /-- The operator matches up to `stop`. -/
  | matched (stop : Nat) (memory : Memory)
  | failed (memory : Memory)

namespace Outcome

def stop? : Outcome → Option Nat
  | .matched stop _ => some stop
  | .failed _ => none

def memory : Outcome → Memory
  | .matched _ memory => memory
  | .failed memory => memory

end Outcome

/--
A bound on how often an operator can be resumed after one run, as an exponent of two: `base` at the
end of the text, and `rate` more for every character before it. Every resumption uses up a choice
point, so it is enough to bound the points left by the run and by all resumptions together.
-/
structure Retries where
  base : Nat := 0
  rate : Nat := 0
deriving DecidableEq, Repr

namespace Retries

def rounds (retries : Retries) (remaining : Nat) : Rounds :=
  .power (retries.base + retries.rate * remaining) .none

/-- One operator after another: each choice of the first can meet all choices of the second. -/
def andThen (first second : Retries) : Retries where
  base := first.base + second.base
  rate := max first.rate second.rate

def orElse (left right : Retries) : Retries where
  base := left.base + right.base + 2
  rate := max left.rate right.rate

/-- An operator any number of times, each repetition taking at least a character. -/
def repeated (body : Retries) : Retries where
  base := body.base + 3
  rate := body.rate + body.base + 1

end Retries

structure Matcher where
  /-- The number of the operator in the whole pattern. -/
  number : Nat
  /-- How many operators it consists of; they have consecutive numbers. -/
  size : Nat
  retries : Retries
  /-- Matches from a position on. -/
  run : (pos : Nat) → Memory → Outcome
  /--
  Takes up a choice that the operator or one below it left, in a memory that the caller has already
  put back.
  -/
  resume : ChoicePoint → Memory → Outcome

namespace Matcher

/-- Whether a choice point was left by the operator or by one below it. -/
def owns (c : Matcher) (point : ChoicePoint) : Bool :=
  c.number ≤ point.owner && point.owner < c.number + c.size

theorem owns_iff (c : Matcher) (point : ChoicePoint) :
    c.owns point = true ↔ c.number ≤ point.owner ∧ point.owner < c.number + c.size := by
  simp [owns]

end Matcher

end Rematch
