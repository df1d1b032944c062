import Rematch.Options

/-!
# Character sets

Ranges and single characters, as written between brackets, and membership with and without case.
-/

namespace Rematch

structure CharRange where
  first : Char
  last : Char
deriving DecidableEq, Repr

namespace CharRange

/-- The range between two characters, whichever of them is the smaller. -/
def between (a b : Char) : CharRange :=
  if b < a then ⟨b, a⟩ else ⟨a, b⟩

def contains (range : CharRange) (c : Char) : Bool :=
  range.first ≤ c && c ≤ range.last

theorem contains_iff (range : CharRange) (c : Char) :
    range.contains c = true ↔ range.first ≤ c ∧ c ≤ range.last := by
  simp [contains]

end CharRange

structure CharSet where
  ranges : List CharRange := []
  singles : List Char := []
deriving DecidableEq, Repr

namespace CharSet

def contains (set : CharSet) (c : Char) : Bool :=
  set.singles.contains c || set.ranges.any (·.contains c)

/--
Whether `c` belongs once everything is folded: the singles, the ends of each range, and `c`.
-/
def containsFolded (set : CharSet) (fold : Char → Char) (c : Char) : Bool :=
  let folded := fold c
  set.singles.any (fun single => fold single == folded) ||
    set.ranges.any (fun range => fold range.first ≤ folded && folded ≤ fold range.last)

/-- Membership as the options read it: as written, or else folded if case is disregarded. -/
def accepts (set : CharSet) (options : Options) (c : Char) : Bool :=
  set.contains c || (options.ignoreCase && set.containsFolded options.fold c)

theorem accepts_of_exact {options : Options} (set : CharSet) (exact : options.ignoreCase = false)
    (c : Char) : set.accepts options c = set.contains c := by
  simp [accepts, exact]

end CharSet

end Rematch
