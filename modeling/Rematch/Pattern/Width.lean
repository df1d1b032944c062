import Rematch.Pattern.Basic

/-!
# Widths and group numbers

What can be said of a pattern without a text: whether it consumes anything, how many characters all
of its matches take, and the highest group number in it.
-/

namespace Rematch
namespace Pattern

/-- An operator that holds at a place rather than taking characters. -/
def isZeroWidth : Pattern → Bool
  | .empty | .lineStart | .lineEnd | .wordEdge => true
  | .lookahead _ | .lookbehind .. => true
  | .negation body => body.isZeroWidth
  | _ => false

/-- A width is a number of 64 bits; a larger one is no width. -/
def width? (n : Nat) : Option Nat :=
  if n < UInt64.size then some n else none

mutual

/--
The number of characters that every match of the pattern takes, if the tree shows one. Branches,
backreferences and repetitions without a fixed count show none, even where all matches agree.
-/
def fixedWidth? : Pattern → Option Nat
  | .literal _ | .anyChar | .digit | .word | .space | .charClass .. => some 1
  | .empty | .lineStart | .lineEnd | .wordEdge => some 0
  | .lookahead _ | .lookbehind .. => some 0
  | .negation body => some (if body.isZeroWidth then 0 else 1)
  | .sequence parts => totalWidth? parts
  | .group body _ | .atomic body => fixedWidth? body
  | .loop body min max =>
      if max = some min then (fixedWidth? body).bind fun width => width? (width * min) else none
  | .alternation .. | .backreference _ => none

def totalWidth? : List Pattern → Option Nat
  | [] => some 0
  | part :: rest =>
      (fixedWidth? part).bind fun width =>
        (totalWidth? rest).bind fun others => width? (width + others)

end

mutual

def groupCount : Pattern → Nat
  | .group body index => max index (groupCount body)
  | .sequence parts => maxGroupCount parts
  | .alternation left right => max (groupCount left) (groupCount right)
  | .loop body .. | .atomic body | .lookahead body | .lookbehind body _
  | .negation body => groupCount body
  | _ => 0

def maxGroupCount : List Pattern → Nat
  | [] => 0
  | part :: rest => max (groupCount part) (maxGroupCount rest)

end

theorem width?_eq_some_iff {n width : Nat} : width? n = some width ↔ n = width ∧ n < UInt64.size := by
  unfold width?
  constructor
  · intro h
    split at h
    · next fits => exact ⟨Option.some.inj h, fits⟩
    · contradiction
  · rintro ⟨rfl, fits⟩
    rw [if_pos fits]

end Pattern
end Rematch
