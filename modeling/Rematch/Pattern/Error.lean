import Rematch.Pattern.Print
import Rematch.Text.Quoted

/-!
# Malformed patterns

The three causes for which a text is not a pattern, and their wording.
-/

namespace Rematch

def byteLength : List Char → Nat
  | [] => 0
  | c :: text => c.utf8Size + byteLength text

@[simp] theorem byteLength_nil : byteLength [] = 0 := rfl

@[simp] theorem byteLength_cons (c : Char) (text : List Char) :
    byteLength (c :: text) = c.utf8Size + byteLength text := rfl

@[simp] theorem byteLength_append (text rest : List Char) :
    byteLength (text ++ rest) = byteLength text + byteLength rest := by
  induction text with
  | nil => simp
  | cons c text ih =>
      rw [List.cons_append, byteLength_cons, byteLength_cons, ih, Nat.add_assoc]

inductive PatternError where
  /-- Nothing that a pattern may go on with stands at byte `offset`, where `rest` begins. -/
  | unexpectedInput (offset : Nat) (rest : List Char)
  /-- A repetition asks for at least `min` and at most `max`, which is less. -/
  | boundsOutOfOrder (min max : Nat)
  /-- The body of a lookbehind has no fixed width. -/
  | lookbehindWidth (body : Pattern)
deriving Repr, DecidableEq

namespace PatternError

def message : PatternError → String
  | .unexpectedInput offset rest =>
      "unexpected input at offset " ++ toString offset ++ ": " ++ String.ofList (Text.quoted rest)
  | .boundsOutOfOrder min max =>
      "quantifier bounds \x7b" ++ toString min ++ "," ++ toString max ++ "\x7d are out of order"
  | .lookbehindWidth body =>
      "lookbehind `" ++ toString body ++ "` does not match a fixed number of characters"

end PatternError

namespace Pattern

/-- A repetition between two bounds, which must be in order. -/
def bounded (body : Pattern) (min : Nat) (max : Option Nat) : Except PatternError Pattern :=
  match max with
  | some most =>
      if most < min then .error (.boundsOutOfOrder min most) else .ok (.loop body min max)
  | none => .ok (.loop body min none)

/-- A lookbehind, whose body must have a fixed width. -/
def behind (body : Pattern) : Except PatternError Pattern :=
  match body.fixedWidth? with
  | some width => .ok (.lookbehind body width)
  | none => .error (.lookbehindWidth body)

end Pattern

end Rematch
