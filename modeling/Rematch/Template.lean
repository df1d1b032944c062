import Rematch.Replace
import Rematch.Text.Alphanumeric

/-!
# Replacement templates

A template is text in which `$` has a meaning: `$$` is a single `$`, `$&` and `$0` are the whole
match, and `$` with a number is the text of a group, or nothing if the group took no part. Any other
`$` stands for itself.
-/

namespace Rematch
namespace Template

inductive Place where
  /-- In plain text. -/
  | text
  /-- After a `$`. -/
  | sign
  /-- In the number of a group, `index` as far as it has been read. -/
  | number (index : Nat)
deriving DecidableEq, Repr

/-- The largest group number; a number that is larger counts as this one. -/
def maxIndex : Nat :=
  UInt64.size - 1

def addDigit (index : Nat) (digit : Char) : Nat :=
  min (10 * index + (digit.toNat - '0'.toNat)) maxIndex

variable (whole : List Char) (group : Nat → List Char)

/-- The expansion of a template from some place on, given the texts of the match and of its groups. -/
def expandFrom : Place → List Char → List Char
  | .text, [] => []
  | .text, c :: rest => if c = '$' then expandFrom .sign rest else c :: expandFrom .text rest
  | .sign, [] => ['$']
  | .sign, c :: rest =>
      if c = '$' then
        '$' :: expandFrom .text rest
      else if c = '&' ∨ c = '0' then
        whole ++ expandFrom .text rest
      else if Text.isDecimal c then
        expandFrom (.number (addDigit 0 c)) rest
      else
        '$' :: c :: expandFrom .text rest
  | .number index, [] => group index
  | .number index, c :: rest =>
      if Text.isDecimal c then
        expandFrom (.number (addDigit index c)) rest
      else if c = '$' then
        group index ++ expandFrom .sign rest
      else
        group index ++ c :: expandFrom .text rest

def expand (template : List Char) (s : Subject) (m : Match) : List Char :=
  expandFrom (m.text s) (fun index => (m.groupText? s index).getD []) .text template

end Template

namespace Pattern

def replace (p : Pattern) (s : Subject) (template : List Char) : List Char :=
  p.replaceWith s (Template.expand template s)

end Pattern

end Rematch
