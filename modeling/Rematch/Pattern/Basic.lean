import Rematch.CharSet

/-!
# Patterns

The tree of operators that a pattern stands for, its decidable equality, and the constructors that
join or repeat patterns.
-/

namespace Rematch

/-- An operator together with the operators it is built from. -/
inductive Pattern where
  /-- Matches the empty text. -/
  | empty
  /-- Matches one given character. -/
  | literal (c : Char)
  /-- Matches any character, line ends only if the options say so. -/
  | anyChar
  /-- Matches a decimal digit. -/
  | digit
  /-- Matches a word character. -/
  | word
  /-- Matches a blank character. -/
  | space
  /-- Matches a character of the set or one that a special accepts. -/
  | charClass (set : CharSet) (specials : List Pattern)
  /-- Holds at the start of the text, in multiline reading also after a line end. -/
  | lineStart
  /-- Holds at the end of the text, in multiline reading also before a line end. -/
  | lineEnd
  /-- Holds between a word character and anything else. -/
  | wordEdge
  /-- Matches the text captured by a group, or the empty text if there is none. -/
  | backreference (index : Nat)
  /-- Matches its parts one after the other. -/
  | sequence (parts : List Pattern)
  /-- Matches what its left branch matches, and failing that what its right branch matches. -/
  | alternation (left right : Pattern)
  /-- Matches its body from `min` up to `max` times, as often as it can; `none` is no limit. -/
  | loop (body : Pattern) (min : Nat) (max : Option Nat)
  /-- Matches its body and captures the text under `index`. -/
  | group (body : Pattern) (index : Nat)
  /-- Matches its body and gives up its other ways of matching. -/
  | atomic (body : Pattern)
  /-- Holds where its body matches. -/
  | lookahead (body : Pattern)
  /-- Holds where its body matches the `width` characters just before. -/
  | lookbehind (body : Pattern) (width : Nat)
  /-- Holds, or takes a character, where its body does not match. -/
  | negation (body : Pattern)
deriving Repr, Inhabited

namespace Pattern

/-! ## Equality -/

mutual

def same : Pattern → Pattern → Bool
  | .empty, .empty => true
  | .literal c, .literal d => c == d
  | .anyChar, .anyChar => true
  | .digit, .digit => true
  | .word, .word => true
  | .space, .space => true
  | .charClass set specials, .charClass set' specials' => set == set' && sameAll specials specials'
  | .lineStart, .lineStart => true
  | .lineEnd, .lineEnd => true
  | .wordEdge, .wordEdge => true
  | .backreference index, .backreference index' => index == index'
  | .sequence parts, .sequence parts' => sameAll parts parts'
  | .alternation left right, .alternation left' right' => same left left' && same right right'
  | .loop body min max, .loop body' min' max' =>
      same body body' && min == min' && max == max'
  | .group body index, .group body' index' => same body body' && index == index'
  | .atomic body, .atomic body' => same body body'
  | .lookahead body, .lookahead body' => same body body'
  | .lookbehind body width, .lookbehind body' width' => same body body' && width == width'
  | .negation body, .negation body' => same body body'
  | _, _ => false

def sameAll : List Pattern → List Pattern → Bool
  | [], [] => true
  | p :: ps, q :: qs => same p q && sameAll ps qs
  | _, _ => false

end

mutual

theorem same_iff : (p q : Pattern) → (same p q = true ↔ p = q)
  | .charClass _ specials, q => by cases q <;> simp [same, sameAll_iff specials]
  | .sequence parts, q => by cases q <;> simp [same, sameAll_iff parts]
  | .alternation left right, q => by cases q <;> simp [same, same_iff left, same_iff right]
  | .loop body _ _, q => by cases q <;> simp [same, same_iff body, and_assoc]
  | .group body _, q => by cases q <;> simp [same, same_iff body]
  | .atomic body, q => by cases q <;> simp [same, same_iff body]
  | .lookahead body, q => by cases q <;> simp [same, same_iff body]
  | .lookbehind body _, q => by cases q <;> simp [same, same_iff body]
  | .negation body, q => by cases q <;> simp [same, same_iff body]
  | .empty, q => by cases q <;> simp [same]
  | .literal _, q => by cases q <;> simp [same]
  | .anyChar, q => by cases q <;> simp [same]
  | .digit, q => by cases q <;> simp [same]
  | .word, q => by cases q <;> simp [same]
  | .space, q => by cases q <;> simp [same]
  | .lineStart, q => by cases q <;> simp [same]
  | .lineEnd, q => by cases q <;> simp [same]
  | .wordEdge, q => by cases q <;> simp [same]
  | .backreference _, q => by cases q <;> simp [same]

theorem sameAll_iff : (ps qs : List Pattern) → (sameAll ps qs = true ↔ ps = qs)
  | [], qs => by cases qs <;> simp [sameAll]
  | p :: ps, qs => by cases qs <;> simp [sameAll, same_iff p, sameAll_iff ps]

end

instance : DecidableEq Pattern := fun p q =>
  decidable_of_iff (same p q = true) (same_iff p q)

/-! ## Joining and repeating -/

/-- The patterns of a list in order; a list of fewer than two needs no sequence around it. -/
def concat : List Pattern → Pattern
  | [] => .empty
  | [p] => p
  | parts => .sequence parts

def star (body : Pattern) : Pattern :=
  .loop body 0 none

def plus (body : Pattern) : Pattern :=
  .loop body 1 none

def optional (body : Pattern) : Pattern :=
  .loop body 0 (some 1)

@[simp] theorem concat_nil : concat [] = .empty := rfl

@[simp] theorem concat_singleton (p : Pattern) : concat [p] = p := rfl

@[simp] theorem concat_cons_cons (p q : Pattern) (rest : List Pattern) :
    concat (p :: q :: rest) = .sequence (p :: q :: rest) := rfl

end Pattern

end Rematch
