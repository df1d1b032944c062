import Rematch.Text.Rows

/-!
# Inversion lists

A set of code points given by the points at which membership changes. A property of characters with
a few hundred runs is one ascending list of such points, kept in rows.
-/

namespace Rematch
namespace Text

/--
A set of numbers, given by the ascending points at which membership changes. Every row holds an even
number of points, so that all rows begin outside the set.
-/
structure InversionList where
  rows : List (List Nat)
deriving Repr, DecidableEq

namespace InversionList

/-- Membership of `n` when the numbers below the first boundary have membership `inside`. -/
def memberFrom (inside : Bool) : List Nat → Nat → Bool
  | [], _ => inside
  | boundary :: rest, n => if n < boundary then inside else memberFrom (!inside) rest n

def contains (set : InversionList) (n : Nat) : Bool :=
  memberFrom false (lastRow id n [] set.rows) n

theorem contains_nil (n : Nat) : (InversionList.mk []).contains n = false := rfl

theorem memberFrom_of_lt {inside : Bool} {boundary n : Nat} (rest : List Nat)
    (hlt : n < boundary) : memberFrom inside (boundary :: rest) n = inside := by
  simp [memberFrom, hlt]

theorem memberFrom_of_le {inside : Bool} {boundary n : Nat} (rest : List Nat)
    (hle : boundary ≤ n) :
    memberFrom inside (boundary :: rest) n = memberFrom (!inside) rest n := by
  simp [memberFrom, Nat.not_lt.mpr hle]

end InversionList

end Text
end Rematch
