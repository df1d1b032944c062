import Rematch.CharSet
import Rematch.Text.Space
import Std.Data.ExtTreeMap

/-!
# Subjects

A subject is a text together with the options by which it is read. Positions count characters: `i`
is the place before the character with index `i`, and the length of the text is its end.
-/

namespace Rematch

/-- A stretch of a text, from `start` up to but not including `stop`. -/
structure Span where
  start : Nat
  stop : Nat
deriving DecidableEq, Repr

namespace Span

def length (span : Span) : Nat :=
  span.stop - span.start

def isEmpty (span : Span) : Bool :=
  span.start == span.stop

end Span

abbrev Captures := Std.ExtTreeMap Nat Span

structure Subject where
  text : Array Char
  options : Options := {}
deriving DecidableEq, Repr

namespace Subject

def ofString (text : String) (options : Options) : Subject where
  text := text.toList.toArray
  options := options

def size (s : Subject) : Nat :=
  s.text.size

def char? (s : Subject) (pos : Nat) : Option Char :=
  s.text[pos]?

def charBefore? (s : Subject) : Nat → Option Char
  | 0 => none
  | pos + 1 => s.char? pos

def fold (s : Subject) (c : Char) : Char :=
  s.options.fold c

/-- The characters from one position up to another. -/
def slice (s : Subject) (start stop : Nat) : List Char :=
  (s.text.extract start stop).toList

def spanText (s : Subject) (span : Span) : List Char :=
  s.slice span.start span.stop

@[simp] theorem slice_zero_size (s : Subject) : s.slice 0 s.size = s.text.toList := by
  simp [slice, size]

theorem slice_self (s : Subject) (pos : Nat) : s.slice pos pos = [] := by
  simp [slice]

theorem slice_append (s : Subject) {a b c : Nat} (hab : a ≤ b) (hbc : b ≤ c) :
    s.slice a b ++ s.slice b c = s.slice a c := by
  unfold slice
  rw [← Array.toList_append, Array.extract_append_extract, Nat.min_eq_left hab,
    Nat.max_eq_right hbc]

end Subject

end Rematch
