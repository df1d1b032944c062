import Rematch.Matcher.Combinators
import Rematch.Matcher.Single
import Rematch.Pattern.Numbering
import Rematch.Pattern.Width

/-!
# The matcher of a pattern

Each operator of a pattern becomes a matcher for one subject, under its number in the whole pattern.
-/

namespace Rematch
namespace Pattern

mutual

/-- The matcher of a pattern whose root has a given number. -/
def matcher (s : Subject) (number : Nat) : Pattern → Matcher
  | .sequence parts => Matcher.sequence s.size number (matchers s (number + 1) parts)
  | .alternation left right =>
      let left := matcher s (number + 1) left
      Matcher.alternation number left (matcher s (number + 1 + left.size) right)
  | .loop body min max => Matcher.loop s.size number (matcher s (number + 1) body) min max
  | .group body index => Matcher.group number (matcher s (number + 1) body) index
  | .atomic body => Matcher.atomic number (matcher s (number + 1) body)
  | .lookahead body => Matcher.lookahead number (matcher s (number + 1) body)
  | .lookbehind body width => Matcher.lookbehind number (matcher s (number + 1) body) width
  | .negation body =>
      Matcher.negation s.size number (matcher s (number + 1) body) body.isZeroWidth
  | p => Matcher.single number fun captures pos => singleStop? s captures pos p

def matchers (s : Subject) (number : Nat) : List Pattern → List Matcher
  | [] => []
  | part :: rest =>
      let part := matcher s number part
      part :: matchers s (number + part.size) rest

end

theorem matcher_number (s : Subject) (number : Nat) (p : Pattern) :
    (p.matcher s number).number = number := by
  cases p <;> rfl

mutual

theorem matcher_size (s : Subject) (number : Nat) :
    (p : Pattern) → (p.matcher s number).size = p.operatorCount
  | .sequence parts => matchers_size s (number + 1) parts
  | .alternation left right => by
      simp [matcher, Matcher.alternation, operatorCount, matcher_size s _ left,
        matcher_size s _ right]
  | .loop body .. => by simp [matcher, Matcher.loop, operatorCount, matcher_size s _ body]
  | .group body _ => by simp [matcher, Matcher.group, operatorCount, matcher_size s _ body]
  | .atomic body => by simp [matcher, Matcher.atomic, operatorCount, matcher_size s _ body]
  | .lookahead body => by simp [matcher, Matcher.lookahead, operatorCount, matcher_size s _ body]
  | .lookbehind body _ => by
      simp [matcher, Matcher.lookbehind, operatorCount, matcher_size s _ body]
  | .negation body => by simp [matcher, Matcher.negation, operatorCount, matcher_size s _ body]
  | .empty | .literal _ | .anyChar | .digit | .word | .space | .charClass .. | .lineStart
  | .lineEnd | .wordEdge | .backreference _ => rfl

theorem matchers_size (s : Subject) (number : Nat) : (parts : List Pattern) →
    (matchers s number parts).foldr (fun part size => part.size + size) 1 = totalCount parts + 1
  | [] => rfl
  | part :: rest => by
      simp only [matchers, List.foldr_cons, totalCount, matcher_size s number part,
        matchers_size s _ rest]
      omega

end

end Pattern
end Rematch
