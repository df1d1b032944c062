import Rematch.Matcher.Single
import Rematch.Pattern.Width

/-!
# The results of a pattern

All ways in which a pattern matches from a position, in the order of preference: for each, where it
ends and what has been captured. Nothing is suspended or resumed here; every operator is a function
from captures and a position to a list.
-/

namespace Rematch

structure Result where
  stop : Nat
  captures : Captures
deriving DecidableEq

namespace Result

def ofCount (min count pos : Nat) (captures : Captures) : List Result :=
  if count < min then [] else [{ stop := pos, captures }]

/--
How many repetitions there are in the end if `count` are complete and each further one takes the
preferred result of `body`. A repetition that takes no character does not count.
-/
def preferredCount (body : Captures → Nat → List Result) (max : Option Nat) :
    (remaining count : Nat) → Captures → (pos : Nat) → Nat
  | 0, count, _, _ => count
  | remaining + 1, count, captures, pos =>
      if max.any (· ≤ count) then
        count
      else
        match body captures pos with
        | [] => count
        | first :: _ =>
            if first.stop = pos then
              count
            else
              preferredCount body max remaining (count + 1) first.captures first.stop

/--
The results of repeating `body`, of which `count` repetitions are complete. A repetition must take a
character: if the preferred one takes none, no further repetition is tried, and any other that takes
none is left out. Every repetition takes one of the `remaining` characters.
-/
def iterate (body : Captures → Nat → List Result) (min : Nat) (max : Option Nat) :
    (remaining count : Nat) → Captures → (pos : Nat) → List Result
  | 0, count, captures, pos => ofCount min count pos captures
  | remaining + 1, count, captures, pos =>
      if max.any (· ≤ count) then
        ofCount min count pos captures
      else
        match body captures pos with
        | [] => ofCount min count pos captures
        | first :: others =>
            if first.stop = pos then
              ofCount min count pos captures
            else
              ((first :: others).flatMap fun result =>
                if result.stop = pos then []
                else iterate body min max remaining (count + 1) result.captures result.stop) ++
                ofCount min count pos captures

end Result

namespace Pattern

mutual

/--
The results of a pattern with given captures at a position, the preferred one first. A loop commits to
the preferred result of each repetition until it has made enough of them, and has none if it does not
get there.
-/
def results (s : Subject) : Pattern → Captures → (pos : Nat) → List Result
  | .sequence parts, captures, pos => partResults s parts captures pos
  | .alternation left right, captures, pos =>
      results s left captures pos ++ results s right captures pos
  | .loop body min max, captures, pos =>
      if Result.preferredCount (results s body) max (s.size - pos) 0 captures pos < min then []
      else Result.iterate (results s body) min max (s.size - pos) 0 captures pos
  | .group body index, captures, pos =>
      (results s body captures pos).map fun result =>
        { result with captures := result.captures.insert index { start := pos, stop := result.stop } }
  | .atomic body, captures, pos => (results s body captures pos).take 1
  | .lookahead body, captures, pos =>
      if (results s body captures pos).isEmpty then [] else [{ stop := pos, captures }]
  | .lookbehind body width, captures, pos =>
      if pos < width then []
      else if (results s body captures (pos - width)).head?.any (·.stop = pos) then
        [{ stop := pos, captures }]
      else []
  | .negation body, captures, pos =>
      if !body.isZeroWidth && s.size ≤ pos then []
      else if (results s body captures pos).isEmpty then
        [{ stop := if body.isZeroWidth then pos else pos + 1, captures }]
      else []
  | p, captures, pos =>
      match singleStop? s captures pos p with
      | some stop => [{ stop, captures }]
      | none => []

def partResults (s : Subject) : List Pattern → Captures → (pos : Nat) → List Result
  | [], captures, pos => [{ stop := pos, captures }]
  | part :: rest, captures, pos =>
      (results s part captures pos).flatMap fun result =>
        partResults s rest result.captures result.stop

end

end Pattern

end Rematch
