import Rematch.Replace

/-!
# Texts in bytes

A text in UTF-8 and the offset of each of its positions. Replacing and splitting in bytes keep two
cursors, the position after the last match and its offset. A slice that would begin or end inside a
character, or past its end, does not exist.
-/

namespace Rematch

def utf8 (text : List Char) : ByteArray :=
  (String.ofList text).toUTF8

/-- A text in UTF-8, with the offset of every character and of the end. -/
structure Encoded where
  bytes : ByteArray
  offsets : Array Nat

/-- The offset of every character of a text that begins at `start`, and of its end. -/
def offsetsFrom : (start : Nat) → List Char → List Nat
  | start, [] => [start]
  | start, c :: text => start :: offsetsFrom (start + c.utf8Size) text

def Subject.encode (s : Subject) : Encoded where
  bytes := utf8 s.text.toList
  offsets := (offsetsFrom 0 s.text.toList).toArray

namespace Encoded

variable (text : Encoded)

def slice? (start stop : Nat) : Option ByteArray :=
  if start ≤ stop ∧ start ∈ text.offsets ∧ stop ∈ text.offsets then
    some (text.bytes.extract start stop)
  else
    none

def spanBytes? (span : Span) : Option ByteArray := do
  let start ← text.offsets[span.start]?
  let stop ← text.offsets[span.stop]?
  text.slice? start stop

def piecesFrom : (parts : List ByteArray) → (last lastOffset : Nat) → List Match →
    Option (List ByteArray)
  | parts, _, lastOffset, [] => do
      let piece ← text.slice? lastOffset text.bytes.size
      some (parts ++ [piece])
  | parts, last, lastOffset, m :: rest =>
      if ¬ (m.start = m.stop ∧ m.start = last) ∧ m.start < last then
        piecesFrom parts last lastOffset rest
      else do
        let start ← text.offsets[m.start]?
        let piece ← text.slice? lastOffset start
        let stop ← text.offsets[m.stop]?
        piecesFrom (parts ++ [piece]) m.stop stop rest

/-- Appends the text from `last` on, with every match replaced by what a replacer returns. -/
def replaceFrom {μ : Type → Type} [Monad μ] (replacer : Match → μ (List Char)) :
    (result : ByteArray) → (last lastOffset : Nat) → List Match → OptionT μ ByteArray
  | result, _, lastOffset, [] => do
      let piece ← OptionT.mk (pure (text.slice? lastOffset text.bytes.size))
      return result ++ piece
  | result, last, lastOffset, m :: rest =>
      if m.start < last then
        replaceFrom replacer result last lastOffset rest
      else do
        let start ← OptionT.mk (pure text.offsets[m.start]?)
        let piece ← OptionT.mk (pure (text.slice? lastOffset start))
        let replacement ← OptionT.lift (replacer m)
        let stop ← OptionT.mk (pure text.offsets[m.stop]?)
        replaceFrom replacer (result ++ piece ++ utf8 replacement) m.stop stop rest

end Encoded

namespace Pattern

def replaceBytes {μ : Type → Type} [Monad μ] (p : Pattern) (s : Subject)
    (replacer : Match → μ (List Char)) : OptionT μ ByteArray :=
  s.encode.replaceFrom replacer ByteArray.empty 0 0 (p.allMatches s)

def splitBytes (p : Pattern) (s : Subject) : Option (List ByteArray) :=
  s.encode.piecesFrom [] 0 0 (p.allMatches s)

end Pattern

end Rematch
