import Rematch.Pattern.Width

/-!
# Written patterns

The text of a pattern. Operators that bind more loosely than their place are wrapped in a group that
captures nothing; the width of a lookbehind and the number of a group are not written.
-/

namespace Rematch
namespace Pattern

/-- The characters that mean something else unless a backslash stands before them. -/
def isMeta (c : Char) : Bool :=
  ['^', '$', '.', '*', '+', '?', '(', ')', '[', ']', '{', '|', '\\'].contains c

def literalText (c : Char) : List Char :=
  if c = '\n' then ['\\', 'n']
  else if c = '\r' then ['\\', 'r']
  else if c = '\t' then ['\\', 't']
  else if isMeta c then ['\\', c]
  else [c]

/-- A single character as written between brackets, where also the hyphen is escaped. -/
def singleText (c : Char) : List Char :=
  if c = '-' then ['\\', c] else literalText c

/-- The singles and then the ranges of a set; the ends of a range stand as they are. -/
def setText (set : CharSet) : List Char :=
  set.singles.flatMap singleText ++ set.ranges.flatMap fun range => [range.first, '-', range.last]

def boundsText : Nat → Option Nat → List Char
  | 0, none => ['*']
  | 1, none => ['+']
  | 0, some 1 => ['?']
  | min, none => ['{'] ++ Nat.toDigits 10 min ++ [',', '}']
  | min, some max =>
      if min = max then
        ['{'] ++ Nat.toDigits 10 min ++ ['}']
      else
        ['{'] ++ Nat.toDigits 10 min ++ [','] ++ Nat.toDigits 10 max ++ ['}']

/-- What a repetition sign written after the pattern would not apply to as a whole. -/
def isCompound : Pattern → Bool
  | .sequence _ | .alternation .. | .loop .. => true
  | _ => false

/-- What would take its neighbours in a sequence for parts of its branches. -/
def isAlternation : Pattern → Bool
  | .alternation .. => true
  | _ => false

mutual

def printBefore (rest : List Char) : Pattern → List Char
  | .empty => rest
  | .literal c => literalText c ++ rest
  | .anyChar => '.' :: rest
  | .digit => '\\' :: 'd' :: rest
  | .word => '\\' :: 'w' :: rest
  | .space => '\\' :: 's' :: rest
  | .charClass set specials => '[' :: (setText set ++ printAllBefore (']' :: rest) specials)
  | .lineStart => '^' :: rest
  | .lineEnd => '$' :: rest
  | .wordEdge => '\\' :: 'b' :: rest
  | .backreference index => '\\' :: (Nat.toDigits 10 index ++ rest)
  | .sequence parts => printPartsBefore rest parts
  | .alternation left right => printBefore ('|' :: printBefore rest right) left
  | .loop body min max =>
      if body.isCompound then
        '(' :: '?' :: ':' :: printBefore (')' :: (boundsText min max ++ rest)) body
      else
        printBefore (boundsText min max ++ rest) body
  | .group body _ => '(' :: printBefore (')' :: rest) body
  | .atomic body => '(' :: '?' :: '>' :: printBefore (')' :: rest) body
  | .lookahead body => '(' :: '?' :: '=' :: printBefore (')' :: rest) body
  | .lookbehind body _ => '(' :: '?' :: '<' :: '=' :: printBefore (')' :: rest) body
  | .negation .digit => '\\' :: 'D' :: rest
  | .negation .word => '\\' :: 'W' :: rest
  | .negation .space => '\\' :: 'S' :: rest
  | .negation .wordEdge => '\\' :: 'B' :: rest
  | .negation (.charClass set specials) =>
      '[' :: '^' :: (setText set ++ printAllBefore (']' :: rest) specials)
  | .negation (.lookahead body) => '(' :: '?' :: '!' :: printBefore (')' :: rest) body
  | .negation (.lookbehind body _) => '(' :: '?' :: '<' :: '!' :: printBefore (')' :: rest) body
  | .negation body =>
      if body.isZeroWidth then
        '(' :: '?' :: '!' :: printBefore (')' :: rest) body
      else
        '(' :: '?' :: '!' :: printBefore (')' :: '.' :: rest) body

def printAllBefore (rest : List Char) : List Pattern → List Char
  | [] => rest
  | p :: ps => printBefore (printAllBefore rest ps) p

def printPartsBefore (rest : List Char) : List Pattern → List Char
  | [] => rest
  | part :: parts =>
      if part.isAlternation then
        '(' :: '?' :: ':' :: printBefore (')' :: printPartsBefore rest parts) part
      else
        printBefore (printPartsBefore rest parts) part

end

def print (p : Pattern) : List Char :=
  p.printBefore []

mutual

/-- What stands behind the text of a pattern does not change it. -/
theorem printBefore_append (rest more : List Char) :
    (p : Pattern) → printBefore (rest ++ more) p = printBefore rest p ++ more
  | .charClass set specials => by
      simp [printBefore, ← printAllBefore_append, List.append_assoc]
  | .sequence parts => by simp [printBefore, printPartsBefore_append]
  | .alternation left right => by
      rw [printBefore, printBefore, printBefore_append rest more right, ← List.cons_append,
        printBefore_append _ more left]
  | .loop body min max => by
      simp only [printBefore]
      split <;> simp [← printBefore_append _ more body]
  | .group body _ => by simp [printBefore, ← printBefore_append _ more body]
  | .atomic body => by simp [printBefore, ← printBefore_append _ more body]
  | .lookahead body => by simp [printBefore, ← printBefore_append _ more body]
  | .lookbehind body _ => by simp [printBefore, ← printBefore_append _ more body]
  | .negation body => by
      have ih := fun rest => printBefore_append rest more body
      cases body with
      | charClass set specials => simp [printBefore, ← printAllBefore_append, List.append_assoc]
      | empty | literal c | anyChar | digit | word | space | lineStart | lineEnd | wordEdge
      | backreference index => simp [printBefore, isZeroWidth]
      | lookahead body | lookbehind body width => simpa [printBefore] using ih rest
      | _ =>
          simp only [printBefore] at ih ⊢
          split
          · simpa using ih (')' :: rest)
          · simpa using ih (')' :: '.' :: rest)
  | .empty | .literal _ | .anyChar | .digit | .word | .space | .lineStart | .lineEnd | .wordEdge
  | .backreference _ => by simp [printBefore]

theorem printAllBefore_append (rest more : List Char) :
    (ps : List Pattern) → printAllBefore (rest ++ more) ps = printAllBefore rest ps ++ more
  | [] => rfl
  | p :: ps => by
      rw [printAllBefore, printAllBefore, printAllBefore_append rest more ps,
        printBefore_append _ more p]

theorem printPartsBefore_append (rest more : List Char) :
    (parts : List Pattern) →
      printPartsBefore (rest ++ more) parts = printPartsBefore rest parts ++ more
  | [] => rfl
  | part :: parts => by
      simp only [printPartsBefore, printPartsBefore_append rest more parts]
      split <;> simp [← printBefore_append _ more part]

end

theorem printBefore_eq (rest : List Char) (p : Pattern) :
    printBefore rest p = p.print ++ rest := by
  rw [print, ← printBefore_append, List.nil_append]

theorem print_alternation (left right : Pattern) :
    (Pattern.alternation left right).print = left.print ++ '|' :: right.print := by
  rw [print, printBefore, printBefore_eq, ← print]

theorem print_group (body : Pattern) (index : Nat) :
    (Pattern.group body index).print = '(' :: (body.print ++ [')']) := by
  rw [print, printBefore, printBefore_eq]

instance : ToString Pattern := ⟨fun p => String.ofList p.print⟩

end Pattern
end Rematch
