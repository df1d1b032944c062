import Rematch.Matcher.OfPattern

/-!
# Searching a subject

A match attempt at one position, the leftmost match, and the list of matches from left to right that
do not overlap.
-/

namespace Rematch

structure Match where
  start : Nat
  stop : Nat
  groups : Captures
deriving DecidableEq

namespace Match

def span (m : Match) : Span where
  start := m.start
  stop := m.stop

/-- The span of a group, if it took part. Number 0 stands for the whole match. -/
def groupSpan? (m : Match) (index : Nat) : Option Span :=
  if index = 0 then some m.span else m.groups[index]?

def text (m : Match) (s : Subject) : List Char :=
  s.spanText m.span

def groupText? (m : Match) (s : Subject) (index : Nat) : Option (List Char) :=
  (m.groupSpan? index).map s.spanText

end Match

namespace Matcher

/-- Takes up choice points, the latest first, as long as there is no match and points are left. -/
def retry (root : Matcher) : Rounds → Outcome → Outcome
  | .next rounds, .failed m =>
      match m.points with
      | [] => .failed m
      | point :: _ => retry root (rounds ()) (root.resume point point.snapshot)
  | _, outcome => outcome

def attempt (root : Matcher) (length start : Nat) : Outcome :=
  root.retry (root.retries.rounds (length - start)) (root.run start ∅)

def matchAt (root : Matcher) (length start : Nat) : Option Match :=
  if length < start then
    none
  else
    match root.attempt length start with
    | .matched stop m => some { start, stop, groups := m.captures }
    | .failed _ => none

end Matcher

/--
The matches from a position on, found in so many steps, given the match at each position. After a
match the search goes on at its end, or one character after its start if it is empty.
-/
def matchesFrom (matchAt : Nat → Option Match) : (steps pos : Nat) → List Match
  | 0, _ => []
  | steps + 1, pos =>
      match matchAt pos with
      | some m => m :: matchesFrom matchAt steps (max m.stop (m.start + 1))
      | none => matchesFrom matchAt steps (pos + 1)

def nextFrom (matchAt : Nat → Option Match) : (steps pos : Nat) → Option Match × Nat
  | 0, pos => (none, pos)
  | steps + 1, pos =>
      match matchAt pos with
      | some m => (some m, max m.stop (m.start + 1))
      | none => nextFrom matchAt steps (pos + 1)

namespace Pattern

def matchAt (p : Pattern) (s : Subject) (start : Nat) : Option Match :=
  (p.matcher s 0).matchAt s.size start

/-- The leftmost match. The pattern is made ready once for all positions. -/
def search (p : Pattern) (s : Subject) : Option Match :=
  let root := p.matcher s 0
  (List.range (s.size + 1)).findSome? (root.matchAt s.size)

def isMatch (p : Pattern) (s : Subject) : Bool :=
  (p.search s).isSome

def allMatches (p : Pattern) (s : Subject) : List Match :=
  let root := p.matcher s 0
  matchesFrom (root.matchAt s.size) (s.size + 1) 0

/-- A step of a walk over the matches: the next one from `pos` on, and where to go on after it. -/
def next (p : Pattern) (s : Subject) (pos : Nat) : Option Match × Nat :=
  nextFrom (p.matchAt s) (s.size + 1 - pos) pos

theorem matchAt_of_size_lt (p : Pattern) {s : Subject} {start : Nat} (h : s.size < start) :
    p.matchAt s start = none := by
  simp [matchAt, Matcher.matchAt, h]

theorem le_size_of_matchAt {p : Pattern} {s : Subject} {start : Nat} {m : Match}
    (found : p.matchAt s start = some m) : start ≤ s.size := by
  apply Nat.le_of_not_lt
  intro beyond
  rw [matchAt_of_size_lt p beyond] at found
  contradiction

/-- Patterns match alike in a subject if they do so at every position of its text. -/
theorem matchAt_ext {p q : Pattern} {s : Subject}
    (h : ∀ start ≤ s.size, q.matchAt s start = p.matchAt s start) : q.matchAt s = p.matchAt s := by
  funext start
  by_cases inside : start ≤ s.size
  · exact h start inside
  · rw [matchAt_of_size_lt _ (Nat.lt_of_not_le inside),
      matchAt_of_size_lt _ (Nat.lt_of_not_le inside)]

theorem search_eq_findSome? (p : Pattern) (s : Subject) :
    p.search s = (List.range (s.size + 1)).findSome? (p.matchAt s) := rfl

theorem allMatches_eq_matchesFrom (p : Pattern) (s : Subject) :
    p.allMatches s = matchesFrom (p.matchAt s) (s.size + 1) 0 := rfl

section Congruence

variable {p q : Pattern} {s s' : Subject}

theorem search_congr (size : s.size = s'.size)
    (h : ∀ start, p.matchAt s start = q.matchAt s' start) : p.search s = q.search s' := by
  rw [search_eq_findSome?, search_eq_findSome?, size, funext h]

theorem allMatches_congr (size : s.size = s'.size)
    (h : ∀ start, p.matchAt s start = q.matchAt s' start) : p.allMatches s = q.allMatches s' := by
  rw [allMatches_eq_matchesFrom, allMatches_eq_matchesFrom, size, funext h]

end Congruence

end Pattern

end Rematch
