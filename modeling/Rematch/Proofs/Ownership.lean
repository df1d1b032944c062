import Rematch.Matcher.OfPattern

/-!
# Owners of choice points

Operators have consecutive numbers, so a choice point belongs to at most one of two parts, branches
or bodies. The parts of a sequence are also seen as a matcher without the operator above them, which
lets proofs follow the list of parts.
-/

namespace Rematch
namespace Matcher

structure Within (c d : Matcher) : Prop where
  lower : d.number ≤ c.number
  upper : c.number + c.size ≤ d.number + d.size

theorem Within.refl (c : Matcher) : c.Within c :=
  ⟨Nat.le_refl _, Nat.le_refl _⟩

theorem Within.owns {c d : Matcher} {point : ChoicePoint} (h : c.Within d)
    (owned : c.owns point = true) : d.owns point = true := by
  have bounds := (owns_iff c point).mp owned
  have lower := h.lower
  have upper := h.upper
  refine (owns_iff d point).mpr ⟨?_, ?_⟩ <;> omega

/-- A point of an operator belongs to none whose numbers lie all below or all above. -/
theorem not_owns_of_apart {c d : Matcher} {point : ChoicePoint}
    (apart : c.number + c.size ≤ d.number ∨ d.number + d.size ≤ c.number)
    (h : c.owns point = true) : d.owns point = false := by
  have bounds := (owns_iff c point).mp h
  rw [Bool.eq_false_iff]
  intro owned
  have others := (owns_iff d point).mp owned
  omega

/-! ## Parts in a row -/

/-- The parts of a sequence without the sequence itself, from the number of the first part on. -/
def chain (length number : Nat) (parts : List Matcher) : Matcher where
  number
  size := parts.foldr (fun part size => part.size + size) 0
  retries := parts.foldr (fun part retries => part.retries.andThen retries) {}
  run := runParts length parts
  resume point m := resumeParts length point m parts

theorem chain_cons_size (length number number' : Nat) (part : Matcher) (rest : List Matcher) :
    (chain length number (part :: rest)).size = part.size + (chain length number' rest).size :=
  rfl

theorem sequence_size (length number : Nat) (parts : List Matcher) :
    (sequence length number parts).size = (chain length (number + 1) parts).size + 1 := by
  simp only [sequence, chain]
  induction parts with
  | nil => rfl
  | cons part rest ih =>
      simp only [List.foldr_cons, ih]
      omega

/-! ## Parts within the whole -/

section Parts

variable {number : Nat} {body left right : Matcher}

theorem chain_within_first (length : Nat) {part : Matcher} (rest : List Matcher)
    (hnumber : part.number = number) : part.Within (chain length number (part :: rest)) where
  lower := Nat.le_of_eq hnumber.symm
  upper := by
    have size := chain_cons_size length number number part rest
    simp only [chain] at size ⊢
    omega

theorem chain_within_rest (length number : Nat) (part : Matcher) (rest : List Matcher) :
    (chain length (number + part.size) rest).Within (chain length number (part :: rest)) where
  lower := Nat.le_add_right _ _
  upper := by
    have size := chain_cons_size length number (number + part.size) part rest
    simp only [chain] at size ⊢
    omega

theorem sequence_within_chain (length number : Nat) (parts : List Matcher) :
    (chain length (number + 1) parts).Within (sequence length number parts) where
  lower := Nat.le_succ number
  upper := by
    have size := sequence_size length number parts
    simp only [chain, sequence] at size ⊢
    omega

theorem alternation_within_left (right : Matcher) (hnumber : left.number = number + 1) :
    left.Within (alternation number left right) where
  lower := by simp only [alternation]; omega
  upper := by simp only [alternation]; omega

theorem alternation_within_right (hnumber : right.number = number + 1 + left.size) :
    right.Within (alternation number left right) where
  lower := by simp only [alternation]; omega
  upper := by simp only [alternation]; omega

theorem loop_within_body (length min : Nat) (max : Option Nat) (hnumber : body.number = number + 1) :
    body.Within (loop length number body min max) where
  lower := by simp only [loop]; omega
  upper := by simp only [loop]; omega

theorem group_within_body (index : Nat) (hnumber : body.number = number + 1) :
    body.Within (group number body index) where
  lower := by simp only [group]; omega
  upper := by simp only [group]; omega

theorem atomic_within_body (hnumber : body.number = number + 1) :
    body.Within (atomic number body) where
  lower := by simp only [atomic]; omega
  upper := by simp only [atomic]; omega

theorem alternation_owns_self (left right : Matcher) {point : ChoicePoint}
    (h : point.owner = number) : (alternation number left right).owns point = true :=
  (owns_iff _ _).mpr ⟨Nat.le_of_eq h.symm, by simp only [alternation]; omega⟩

theorem loop_owns_self (length : Nat) (body : Matcher) (min : Nat) (max : Option Nat)
    {point : ChoicePoint} (h : point.owner = number) :
    (loop length number body min max).owns point = true :=
  (owns_iff _ _).mpr ⟨Nat.le_of_eq h.symm, by simp only [loop]; omega⟩

end Parts

/-! ## The way down to the owner -/

section Routes

variable {number : Nat} {point : ChoicePoint}

theorem alternation_resume_left {left : Matcher} (right : Matcher)
    (hnumber : left.number = number + 1) (owned : left.owns point = true) (m : Memory) :
    (alternation number left right).resume point m = left.resume point m := by
  have bounds := (owns_iff left point).mp owned
  have other : point.owner ≠ number := by omega
  simp only [alternation, if_neg other, owned, if_true]

theorem alternation_resume_right {left right : Matcher}
    (hnumber : right.number = number + 1 + left.size) (hleft : left.number = number + 1)
    (owned : right.owns point = true) (m : Memory) :
    (alternation number left right).resume point m = right.resume point m := by
  have bounds := (owns_iff right point).mp owned
  have other : point.owner ≠ number := by omega
  have apart : left.owns point = false := not_owns_of_apart (Or.inr (by omega)) owned
  simp only [alternation, if_neg other, apart, owned, if_true, Bool.false_eq_true, if_false]

theorem chain_resume_rest {length : Nat} {part : Matcher} {rest : List Matcher}
    (hnumber : part.number = number)
    (owned : (chain length (number + part.size) rest).owns point = true) (m : Memory) :
    (chain length number (part :: rest)).resume point m =
      (chain length (number + part.size) rest).resume point m := by
  have apart : part.owns point = false :=
    not_owns_of_apart (Or.inr (by simp only [chain]; omega)) owned
  simp only [chain, resumeParts, apart, Bool.false_eq_true, if_false]

end Routes

def Consecutive : (number : Nat) → List Matcher → Prop
  | _, [] => True
  | number, part :: rest => part.number = number ∧ Consecutive (number + part.size) rest

end Matcher

namespace Pattern

theorem matchers_consecutive (s : Subject) (number : Nat) (parts : List Pattern) :
    Matcher.Consecutive number (matchers s number parts) := by
  induction parts generalizing number with
  | nil => trivial
  | cons part rest ih => exact ⟨matcher_number s number part, ih _⟩

/-! ## Numbers and places -/

mutual

theorem exists_numberAt? : (p : Pattern) → (number : Nat) → number < p.operatorCount →
    ∃ place, p.numberAt? place = some number
  | p, 0, _ => ⟨[], numberAt?_nil p⟩
  | .sequence parts, number + 1, h => by
      obtain ⟨i, part, place, hpart, hplace⟩ := exists_numberAt?_among parts number
        (by simpa [operatorCount] using h)
      obtain ⟨below, hbelow, hsum⟩ := Option.map_eq_some_iff.mp hplace
      refine ⟨i :: place, ?_⟩
      simp only [numberAt?, child?, hpart, Option.bind_some, hbelow, childNumber, Option.map_some,
        Option.some.injEq]
      omega
  | .alternation left right, number + 1, h => by
      rw [operatorCount] at h
      by_cases first : number < left.operatorCount
      · obtain ⟨place, hplace⟩ := exists_numberAt? left number first
        refine ⟨0 :: place, ?_⟩
        simp [numberAt?, child?, childNumber, hplace, Nat.add_comm]
      · obtain ⟨place, hplace⟩ := exists_numberAt? right (number - left.operatorCount) (by omega)
        refine ⟨1 :: place, ?_⟩
        simp only [numberAt?, child?, Option.bind_some, hplace, childNumber, Option.map_some,
          Option.some.injEq]
        omega
  | .loop body .., number + 1, h | .group body _, number + 1, h | .atomic body, number + 1, h
  | .lookahead body, number + 1, h | .lookbehind body _, number + 1, h
  | .negation body, number + 1, h => by
      obtain ⟨place, hplace⟩ := exists_numberAt? body number (by simpa [operatorCount] using h)
      refine ⟨0 :: place, ?_⟩
      simp [numberAt?, child?, childNumber, hplace, Nat.add_comm]
  | .empty, number + 1, h | .literal _, number + 1, h | .anyChar, number + 1, h
  | .digit, number + 1, h | .word, number + 1, h | .space, number + 1, h
  | .charClass .., number + 1, h | .lineStart, number + 1, h | .lineEnd, number + 1, h
  | .wordEdge, number + 1, h | .backreference _, number + 1, h => by
      simp [operatorCount] at h

theorem exists_numberAt?_among : (parts : List Pattern) → (number : Nat) →
    number < totalCount parts → ∃ (i : Nat) (part : Pattern) (place : Path),
      parts[i]? = some part ∧
        (part.numberAt? place).map (totalCount (parts.take i) + ·) = some number
  | [], number, h => by simp [totalCount] at h
  | part :: rest, number, h => by
      rw [totalCount] at h
      by_cases first : number < part.operatorCount
      · obtain ⟨place, hplace⟩ := exists_numberAt? part number first
        exact ⟨0, part, place, rfl, by simp [hplace, totalCount]⟩
      · obtain ⟨i, found, place, hfound, hplace⟩ :=
          exists_numberAt?_among rest (number - part.operatorCount) (by omega)
        obtain ⟨below, hbelow, hsum⟩ := Option.map_eq_some_iff.mp hplace
        refine ⟨i + 1, found, place, by simpa using hfound, ?_⟩
        simp only [hbelow, List.take_succ_cons, totalCount, Option.map_some, Option.some.injEq]
        omega

end

end Pattern
end Rematch
