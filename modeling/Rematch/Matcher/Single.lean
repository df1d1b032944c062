import Rematch.Pattern.Basic
import Rematch.Subject
import Rematch.Text.Alphanumeric

/-!
# Operators at one position

The operators without a body, which look at the text around one position and leave nothing to come
back to. Characters that an operator takes are compared as the options of the subject say.
-/

namespace Rematch
namespace Subject

def take? (s : Subject) (accept : Char → Bool) (pos : Nat) : Option Nat :=
  if (s.char? pos).any accept then some (pos + 1) else none

def stay? (holds : Bool) (pos : Nat) : Option Nat :=
  if holds then some pos else none

def atStart (s : Subject) (pos : Nat) : Bool :=
  pos == 0 || (s.options.multiline && (s.charBefore? pos).any Text.isNewline)

def atEnd (s : Subject) (pos : Nat) : Bool :=
  pos == s.size || (s.options.multiline && (s.char? pos).any Text.isNewline)

def atBoundary (s : Subject) (pos : Nat) : Bool :=
  (s.charBefore? pos).any Text.isWordChar != (s.char? pos).any Text.isWordChar

/-- The position after a second occurrence of a span's text, compared character by character. -/
def again? (s : Subject) (span : Span) (pos : Nat) : Option Nat :=
  let stop := pos + span.length
  if stop ≤ s.size ∧ (s.spanText span).map s.fold = (s.slice pos stop).map s.fold then
    some stop
  else
    none

end Subject

namespace Pattern

variable (s : Subject) (captures : Captures) (pos : Nat)

def simpleStop? : Pattern → Option Nat
  | .empty => some pos
  | .literal c => s.take? (fun d => s.fold d == s.fold c) pos
  | .anyChar => s.take? (fun d => s.options.singleline || !Text.isNewline d) pos
  | .digit => s.take? Text.isDecimal pos
  | .word => s.take? Text.isWordChar pos
  | .space => s.take? Text.isSpace pos
  | .lineStart => Subject.stay? (s.atStart pos) pos
  | .lineEnd => Subject.stay? (s.atEnd pos) pos
  | .wordEdge => Subject.stay? (s.atBoundary pos) pos
  | .backreference index =>
      match captures[index]? with
      | none => some pos
      | some span => s.again? span pos
  | _ => none

mutual

/--
Whether a special of a character class accepts the character at `pos`. A negated special accepts a
character that the special itself does not.
-/
def specialHolds : Pattern → Bool
  | .negation p => (s.char? pos).isSome && !specialHolds p
  | .charClass set specials =>
      match s.char? pos with
      | none => false
      | some c => set.accepts s.options c || anySpecialHolds specials
  | p => (simpleStop? s captures pos p).isSome

def anySpecialHolds : List Pattern → Bool
  | [] => false
  | p :: rest => specialHolds p || anySpecialHolds rest

end

/-- Where an operator without a body ends, if it matches; a class takes a character it accepts. -/
def singleStop? : Pattern → Option Nat
  | .charClass set specials =>
      if specialHolds s captures pos (.charClass set specials) then some (pos + 1) else none
  | p => simpleStop? s captures pos p

variable {s captures pos} {index : Nat}

theorem simpleStop?_of_uncaptured (h : captures[index]? = none) :
    simpleStop? s captures pos (.backreference index) = some pos := by
  unfold simpleStop?
  dsimp only
  rw [h]

theorem simpleStop?_of_captured {span : Span} (h : captures[index]? = some span) :
    simpleStop? s captures pos (.backreference index) = s.again? span pos := by
  unfold simpleStop?
  dsimp only
  rw [h]

end Pattern
end Rematch
