import Rematch.Search

/-!
# Runs in lockstep

All that a run reads of its subject it reads through the operators of the pattern one by one. If none
of them tells two subjects of one length apart, the runs on both take the same steps.
-/

namespace Rematch
namespace Pattern

/-! ## Operators -/

mutual

/-- All operators of a pattern, each before those below it, with the specials of its classes. -/
def operators : Pattern → List Pattern
  | .charClass set specials => .charClass set specials :: partOperators specials
  | .sequence parts => .sequence parts :: partOperators parts
  | .alternation left right => .alternation left right :: (operators left ++ operators right)
  | .loop body min max => .loop body min max :: operators body
  | .group body index => .group body index :: operators body
  | .atomic body => .atomic body :: operators body
  | .lookahead body => .lookahead body :: operators body
  | .lookbehind body width => .lookbehind body width :: operators body
  | .negation body => .negation body :: operators body
  | p => [p]

def partOperators : List Pattern → List Pattern
  | [] => []
  | part :: rest => operators part ++ partOperators rest

end

theorem mem_operators_self (p : Pattern) : p ∈ p.operators := by
  cases p <;> simp [operators]

theorem mem_partOperators {q : Pattern} {parts : List Pattern} :
    q ∈ partOperators parts ↔ ∃ part ∈ parts, q ∈ part.operators := by
  induction parts with
  | nil => simp [partOperators]
  | cons part rest ih => simp [partOperators, ih]

/-! ## Reading -/

/-- An operator, its parts left aside, does not tell two subjects apart. -/
structure ReadsAlike (s s' : Subject) (p : Pattern) : Prop where
  simple : ∀ captures pos, simpleStop? s captures pos p = simpleStop? s' captures pos p
  /-- The set of a class accepts the same characters, place by place. -/
  listed : ∀ {set specials}, p = .charClass set specials → ∀ pos,
    (s.char? pos).map (set.accepts s.options) = (s'.char? pos).map (set.accepts s'.options)

section Lockstep

variable {s s' : Subject}

theorem isSome_char?_congr (size : s.size = s'.size) (pos : Nat) :
    (s.char? pos).isSome = (s'.char? pos).isSome := by
  simp only [Subject.size] at size
  grind [Subject.char?]

mutual

theorem specialHolds_congr (size : s.size = s'.size) (captures : Captures) (pos : Nat) : (p : Pattern) →
    (∀ q ∈ p.operators, ReadsAlike s s' q) →
    specialHolds s captures pos p = specialHolds s' captures pos p
  | .negation p, h => by
      simp only [operators, List.mem_cons, forall_eq_or_imp] at h
      simp only [specialHolds, isSome_char?_congr size pos, specialHolds_congr size captures pos p h.2]
  | .charClass set specials, h => by
      simp only [operators, List.mem_cons, forall_eq_or_imp] at h
      have listed := h.1.listed rfl pos
      have special := anySpecialHolds_congr size captures pos specials h.2
      cases char : s.char? pos <;> cases char' : s'.char? pos <;>
        simp_all [specialHolds]
  | .sequence _, _ | .alternation .., _ | .loop .., _ | .group .., _ | .atomic _, _
  | .lookahead _, _ | .lookbehind .., _ => rfl
  | .empty, h | .literal _, h | .anyChar, h | .digit, h | .word, h | .space, h | .lineStart, h
  | .lineEnd, h | .wordEdge, h | .backreference _, h => by
      simp only [specialHolds, (h _ (mem_operators_self _)).simple]

theorem anySpecialHolds_congr (size : s.size = s'.size) (captures : Captures) (pos : Nat) :
    (specials : List Pattern) →
    (∀ q ∈ partOperators specials, ReadsAlike s s' q) →
    anySpecialHolds s captures pos specials = anySpecialHolds s' captures pos specials
  | [], _ => rfl
  | special :: rest, h => by
      simp only [partOperators, List.forall_mem_append] at h
      rw [anySpecialHolds, anySpecialHolds, specialHolds_congr size captures pos special h.1,
        anySpecialHolds_congr size captures pos rest h.2]

end

theorem singleStop?_congr (size : s.size = s'.size) {p : Pattern}
    (h : ∀ q ∈ p.operators, ReadsAlike s s' q)
    (captures : Captures) (pos : Nat) :
    singleStop? s captures pos p = singleStop? s' captures pos p := by
  cases p with
  | charClass set specials => simp only [singleStop?, specialHolds_congr size captures pos _ h]
  | _ => exact (h _ (mem_operators_self _)).simple captures pos

/-! ## Runs -/

mutual

/-- Subjects that no operator tells apart give the same matcher. -/
theorem matcher_congr (size : s.size = s'.size) (number : Nat) : (p : Pattern) →
    (∀ q ∈ p.operators, ReadsAlike s s' q) → p.matcher s number = p.matcher s' number
  | .sequence parts, h => by
      simp only [operators, List.mem_cons, forall_eq_or_imp] at h
      rw [matcher, matcher, size, matchers_congr size (number + 1) parts h.2]
  | .alternation left right, h => by
      simp only [operators, List.mem_cons, forall_eq_or_imp, List.forall_mem_append] at h
      simp only [matcher, matcher_congr size _ left h.2.1, matcher_congr size _ right h.2.2]
  | .loop body .., h | .group body _, h | .atomic body, h | .lookahead body, h
  | .lookbehind body _, h | .negation body, h => by
      simp only [operators, List.mem_cons, forall_eq_or_imp] at h
      simp only [matcher, size, matcher_congr size (number + 1) body h.2]
  | .empty, h | .literal _, h | .anyChar, h | .digit, h | .word, h | .space, h | .charClass .., h
  | .lineStart, h | .lineEnd, h | .wordEdge, h | .backreference _, h => by
      simp only [matcher, singleStop?_congr size h]

theorem matchers_congr (size : s.size = s'.size) (number : Nat) : (parts : List Pattern) →
    (∀ q ∈ partOperators parts, ReadsAlike s s' q) →
    matchers s number parts = matchers s' number parts
  | [], _ => rfl
  | part :: rest, h => by
      simp only [partOperators, List.forall_mem_append] at h
      simp only [matchers, matcher_congr size number part h.1,
        matchers_congr size _ rest h.2]

end

/-- Subjects that no operator tells apart have the same matches at every position. -/
theorem matchAt_congr (size : s.size = s'.size) {p : Pattern}
    (h : ∀ q ∈ p.operators, ReadsAlike s s' q) (start : Nat) : p.matchAt s start = p.matchAt s' start := by
  rw [matchAt, matchAt, size, matcher_congr size 0 p h]

end Lockstep

end Pattern
end Rematch
