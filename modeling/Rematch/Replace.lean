import Rematch.Search

/-!
# Replacing and splitting

A subject with its matches replaced, and the pieces between its matches. Both walk the list of
matches with the end of the last one; a match that begins before it is passed over.
-/

namespace Rematch
namespace Subject

variable (s : Subject)

def replaceFrom (replacement : Match → List Char) : (last : Nat) → List Match → List Char
  | last, [] => s.slice last s.size
  | last, m :: rest =>
      if m.start < last then
        replaceFrom replacement last rest
      else
        s.slice last m.start ++ replacement m ++ replaceFrom replacement m.stop rest

/-- The pieces of the text from `last` on, cut at every match, also at an empty one that is there. -/
def piecesFrom : (last : Nat) → List Match → List (List Char)
  | last, [] => [s.slice last s.size]
  | last, m :: rest =>
      if ¬ (m.start = m.stop ∧ m.start = last) ∧ m.start < last then
        piecesFrom last rest
      else
        s.slice last m.start :: piecesFrom m.stop rest

end Subject

namespace Pattern

def replaceWith (p : Pattern) (s : Subject) (replacement : Match → List Char) : List Char :=
  s.replaceFrom replacement 0 (p.allMatches s)

def split (p : Pattern) (s : Subject) : List (List Char) :=
  s.piecesFrom 0 (p.allMatches s)

end Pattern

end Rematch
