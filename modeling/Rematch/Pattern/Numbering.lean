import Rematch.Pattern.Path

/-!
# Numbers of operators

The operators of a pattern are numbered from the root on, each before the operators below it and
these in the order in which they are written. An operator and all operators below it thus have
consecutive numbers, and two comparisons show whether one operator lies below another.
-/

namespace Rematch
namespace Pattern

mutual

def operatorCount : Pattern → Nat
  | .sequence parts => totalCount parts + 1
  | .alternation left right => operatorCount left + operatorCount right + 1
  | .loop body .. | .group body _ | .atomic body | .lookahead body | .lookbehind body _
  | .negation body => operatorCount body + 1
  | _ => 1

def totalCount : List Pattern → Nat
  | [] => 0
  | part :: rest => operatorCount part + totalCount rest

end

def childNumber : Pattern → (child : Nat) → Nat
  | .sequence parts, i => totalCount (parts.take i) + 1
  | .alternation left _, 1 => left.operatorCount + 1
  | _, _ => 1

/-- The number of the operator at a place, counted from the root. -/
def numberAt? : Pattern → Path → Option Nat
  | _, [] => some 0
  | p, step :: rest =>
      (p.child? step).bind fun child =>
        (child.numberAt? rest).map (p.childNumber step + ·)

mutual

/--
The place of the operator with a number counted from the root, or what is left of the number after
all operators of the pattern.
-/
def seek : Pattern → (number : Nat) → Path ⊕ Nat
  | _, 0 => .inl []
  | .sequence parts, number + 1 => seekAmong 0 parts number
  | .alternation left right, number + 1 =>
      match seek left number with
      | .inl place => .inl (0 :: place)
      | .inr number => (seek right number).map (1 :: ·) id
  | .loop body .., number + 1 | .group body _, number + 1 | .atomic body, number + 1
  | .lookahead body, number + 1 | .lookbehind body _, number + 1
  | .negation body, number + 1 => (seek body number).map (0 :: ·) id
  | _, number + 1 => .inr number

def seekAmong (i : Nat) : List Pattern → (number : Nat) → Path ⊕ Nat
  | [], number => .inr number
  | part :: rest, number =>
      match seek part number with
      | .inl place => .inl (i :: place)
      | .inr number => seekAmong (i + 1) rest number

end

def placeOf? (p : Pattern) (number : Nat) : Option Path :=
  (p.seek number).getLeft?

theorem operatorCount_pos (p : Pattern) : 0 < p.operatorCount := by
  cases p <;> simp [operatorCount]

@[simp] theorem numberAt?_nil (p : Pattern) : p.numberAt? [] = some 0 := by
  cases p <;> rfl

@[simp] theorem placeOf?_zero (p : Pattern) : p.placeOf? 0 = some [] := by
  cases p <;> rfl

mutual

theorem seek_add : (p : Pattern) → (number : Nat) →
    seek p (p.operatorCount + number) = .inr number
  | .sequence parts, number => by
      rw [operatorCount, Nat.add_right_comm, seek, seekAmong_add]
  | .alternation left right, number => by
      rw [operatorCount, Nat.add_right_comm, seek, Nat.add_assoc, seek_add left]
      simp [seek_add right]
  | .loop body .., number | .group body _, number | .atomic body, number
  | .lookahead body, number | .lookbehind body _, number | .negation body, number => by
      rw [operatorCount, Nat.add_right_comm, seek, seek_add body]
      rfl
  | .empty, number | .literal _, number | .anyChar, number | .digit, number | .word, number
  | .space, number | .charClass .., number | .lineStart, number | .lineEnd, number
  | .wordEdge, number | .backreference _, number => by
      simp [operatorCount, Nat.one_add, seek]

theorem seekAmong_add : (parts : List Pattern) → (i number : Nat) →
    seekAmong i parts (totalCount parts + number) = .inr number
  | [], i, number => by simp [seekAmong, totalCount]
  | part :: rest, i, number => by
      rw [totalCount, seekAmong, Nat.add_assoc, seek_add part]
      exact seekAmong_add rest (i + 1) number

end

theorem seekAmong_of_getElem? {parts : List Pattern} {step : Nat} {child : Pattern}
    {number : Nat} {place : Path} (hchild : parts[step]? = some child)
    (hseek : seek child number = .inl place) (i : Nat) :
    seekAmong i parts (totalCount (parts.take step) + number) = .inl ((i + step) :: place) := by
  induction parts generalizing step i with
  | nil => simp at hchild
  | cons part rest ih =>
      cases step with
      | zero =>
          obtain rfl : part = child := by simpa using hchild
          simp [totalCount, seekAmong, hseek]
      | succ step =>
          rw [List.take_succ_cons, totalCount, seekAmong, Nat.add_assoc, seek_add part]
          simp only
          rw [ih (by simpa using hchild) (i + 1), Nat.add_assoc, Nat.add_comm 1]

/-- Seeking the number of a place leads back to the place. -/
theorem seek_of_numberAt? {p : Pattern} {place : Path} {number : Nat}
    (h : p.numberAt? place = some number) : p.seek number = .inl place := by
  induction place generalizing p number with
  | nil =>
      obtain rfl : 0 = number := by simpa using h
      cases p <;> rfl
  | cons step place ih =>
      simp only [numberAt?, Option.bind_eq_some_iff, Option.map_eq_some_iff] at h
      obtain ⟨child, hchild, below, hbelow, rfl⟩ := h
      have hseek := ih hbelow
      cases p with
      | sequence parts =>
          rw [childNumber, Nat.add_right_comm, seek,
            seekAmong_of_getElem? (by simpa [child?] using hchild) hseek, Nat.zero_add]
      | alternation left right =>
          match step, hchild with
          | 0, hchild =>
              obtain rfl : left = child := by simpa [child?] using hchild
              simp [childNumber, Nat.one_add, seek, hseek]
          | 1, hchild =>
              obtain rfl : right = child := by simpa [child?] using hchild
              rw [childNumber, Nat.add_right_comm, seek, seek_add left]
              simp [hseek]
      | loop body _ _ | group body _ | atomic body | lookahead body | lookbehind body _
      | negation body =>
          match step, hchild with
          | 0, hchild =>
              obtain rfl : body = child := by simpa [child?] using hchild
              simp [childNumber, Nat.one_add, seek, hseek]
      | _ => simp [child?] at hchild

/-- The operator with the number of a place stands at that place. -/
theorem placeOf?_of_numberAt? {p : Pattern} {place : Path} {number : Nat}
    (h : p.numberAt? place = some number) : p.placeOf? number = some place := by
  rw [placeOf?, seek_of_numberAt? h]
  rfl

end Pattern
end Rematch
