import Rematch.Text.Case

/-!
# Reading options

The four switches that change how a text is read by a pattern.
-/

namespace Rematch

structure Options where
  /-- Literals, character sets and backreferences disregard case. -/
  ignoreCase : Bool := false
  /-- The anchors also hold beside line ends. -/
  multiline : Bool := false
  /-- The wildcard also takes line ends. -/
  singleline : Bool := false
  /-- Case folding follows the whole lower-case mapping. -/
  cultureSensitive : Bool := false
deriving DecidableEq, Repr

namespace Options

/-- The representative of `c` in comparisons: itself, unless case is disregarded. -/
def fold (options : Options) (c : Char) : Char :=
  if options.ignoreCase then Text.fold options.cultureSensitive c else c

theorem fold_of_exact {options : Options} (exact : options.ignoreCase = false) (c : Char) :
    options.fold c = c := by
  simp [fold, exact]

end Options

end Rematch
