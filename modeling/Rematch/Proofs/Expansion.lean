import Mathlib.Logic.ExistsUnique
import Rematch.Pattern.Token
import Rematch.Template

/-!
# What a template means

A template falls into pieces, read from left to right: plain text, the whole match, and groups by number.
There is one way to read a template, and its expansion is what the pieces stand for, one after the other.
-/

namespace Rematch
namespace Template

open Token

/-! ## Pieces -/

inductive Piece where
  /-- Stands for these characters. -/
  | plain (text : List Char)
  /-- Stands for the match. -/
  | whole
  /-- Stands for the group whose number is written with these digits. -/
  | group (digits : List Char)
deriving DecidableEq, Repr

/--
How a template is read. The number of a group does not begin with `0` and has all digits that there are;
nothing is read as the number of a group after `$0`.
-/
inductive ReadsAs : (template : List Char) → List Piece → Prop
  | done : ReadsAs [] []
  | plain {c rest pieces} (noSign : c ≠ '$') : ReadsAs rest pieces →
      ReadsAs (c :: rest) (.plain [c] :: pieces)
  | last : ReadsAs ['$'] [.plain ['$']]
  | doubled {rest pieces} : ReadsAs rest pieces →
      ReadsAs ('$' :: '$' :: rest) (.plain ['$'] :: pieces)
  | whole {c rest pieces} (sign : c = '&' ∨ c = '0') : ReadsAs rest pieces →
      ReadsAs ('$' :: c :: rest) (.whole :: pieces)
  | group {c rest pieces} (digit : Text.isDecimal c = true) (nonzero : c ≠ '0') :
      ReadsAs (rest.dropWhile Text.isDecimal) pieces →
      ReadsAs ('$' :: c :: rest) (.group (c :: rest.takeWhile Text.isDecimal) :: pieces)
  | kept {c rest pieces} (single : c ≠ '$') (noWhole : c ≠ '&') (noDigit : Text.isDecimal c = false) :
      ReadsAs rest pieces → ReadsAs ('$' :: c :: rest) (.plain ['$', c] :: pieces)

/-- What a piece stands for. There is no group whose number takes more than 64 bits. -/
def Piece.expansion (s : Subject) (m : Match) : Piece → List Char
  | .plain text => text
  | .whole => m.text s
  | .group digits =>
      if decimalValue digits < UInt64.size then (m.groupText? s (decimalValue digits)).getD [] else []

def escape (text : List Char) : List Char :=
  text.flatMap fun c => if c = '$' then ['$', '$'] else [c]

/-! ## Reading -/

theorem ne_of_isDecimal {c : Char} (digit : Text.isDecimal c = true) : c ≠ '$' ∧ c ≠ '&' := by
  constructor <;> rintro rfl <;> exact absurd digit (by decide)

namespace ReadsAs

theorem total (template : List Char) : ∃ pieces, ReadsAs template pieces := by
  match template with
  | [] => exact ⟨_, .done⟩
  | [c] =>
      by_cases sign : c = '$'
      · subst sign
        exact ⟨_, .last⟩
      · exact ⟨_, .plain sign .done⟩
  | c :: d :: rest =>
      by_cases sign : c = '$'
      · subst sign
        by_cases digit : Text.isDecimal d = true ∧ d ≠ '0'
        · obtain ⟨pieces, reads⟩ := total (rest.dropWhile Text.isDecimal)
          exact ⟨_, .group digit.1 digit.2 reads⟩
        · obtain ⟨pieces, reads⟩ := total rest
          by_cases doubled : d = '$'
          · subst doubled
            exact ⟨_, .doubled reads⟩
          · by_cases whole : d = '&' ∨ d = '0'
            · exact ⟨_, .whole whole reads⟩
            · rw [not_or] at whole
              have noDigit : Text.isDecimal d = false := by simpa [whole.2] using digit
              exact ⟨_, .kept doubled whole.1 noDigit reads⟩
      · obtain ⟨pieces, reads⟩ := total (d :: rest)
        exact ⟨_, .plain sign reads⟩
termination_by template.length
decreasing_by
  · -- the text behind the digits of a number
    have shorter := (List.dropWhile_sublist Text.isDecimal (l := rest)).length_le
    simp only [List.length_cons]
    omega
  · simp only [List.length_cons]
    omega
  · simp

theorem unique {template : List Char} {pieces others : List Piece} (h : ReadsAs template pieces)
    (h' : ReadsAs template others) : pieces = others := by
  -- the first two characters settle by which rule a template is read
  induction h generalizing others with
  | done => cases h'; rfl
  | plain noSign _ ih =>
      cases h' with
      | plain _ rest => rw [ih rest]
      | _ => contradiction
  | last =>
      cases h' with
      | plain noSign _ => contradiction
      | last => rfl
  | doubled _ ih =>
      cases h' with
      | doubled rest => rw [ih rest]
      | whole sign _ => simp at sign
      | group digit _ _ => exact absurd rfl (ne_of_isDecimal digit).1
      | _ => contradiction
  | whole sign _ ih =>
      cases h' with
      | whole _ rest => rw [ih rest]
      | doubled => simp at sign
      | group digit nonzero _ => exact absurd sign (not_or.mpr ⟨(ne_of_isDecimal digit).2, nonzero⟩)
      | kept _ noWhole noDigit _ =>
          obtain rfl | rfl := sign
          · contradiction
          · exact absurd noDigit (by decide)
      | plain noSign _ => contradiction
  | group digit nonzero _ ih =>
      cases h' with
      | group _ _ rest => rw [ih rest]
      | whole sign _ => exact absurd sign (not_or.mpr ⟨(ne_of_isDecimal digit).2, nonzero⟩)
      | doubled => exact absurd rfl (ne_of_isDecimal digit).1
      | kept _ _ noDigit _ => simp [digit] at noDigit
      | plain noSign _ => contradiction
  | kept single noWhole noDigit _ ih =>
      cases h' with
      | kept _ _ _ rest => rw [ih rest]
      | whole sign _ =>
          obtain rfl | rfl := sign
          · contradiction
          · exact absurd noDigit (by decide)
      | group digit _ _ => simp [digit] at noDigit
      | _ => contradiction

end ReadsAs

/-! ## Expanding -/

/-- Digits added one by one give their number, or the largest one if they stand for a larger one. -/
theorem foldl_addDigit (digits : List Char) (n : Nat) :
    digits.foldl addDigit (min n maxIndex) =
      min (digits.foldl (fun n d => 10 * n + (d.toNat - '0'.toNat)) n) maxIndex := by
  induction digits generalizing n with
  | nil => rfl
  | cons d digits ih =>
      have next : addDigit (min n maxIndex) d = min (10 * n + (d.toNat - '0'.toNat)) maxIndex := by
        simp only [addDigit]
        omega
      rw [List.foldl_cons, List.foldl_cons, next, ih]

theorem expandFrom_number (whole : List Char) (group : Nat → List Char) (index : Nat)
    (rest : List Char) :
    expandFrom whole group (.number index) rest =
      group ((rest.takeWhile Text.isDecimal).foldl addDigit index) ++
        expandFrom whole group .text (rest.dropWhile Text.isDecimal) := by
  induction rest generalizing index with
  | nil => simp [expandFrom]
  | cons c rest ih =>
      by_cases digit : Text.isDecimal c = true
      · simp [expandFrom, digit, ih]
      · by_cases sign : c = '$'
        · subst sign
          simp [expandFrom, digit]
        · simp [expandFrom, digit, sign]

/--
The group that is looked up is the one that the piece names: every number of more than 64 bits is read as
the largest one, and no group has that number.
-/
theorem group_expansion {s : Subject} {m : Match} (free : m.groups[maxIndex]? = none)
    (digits : List Char) :
    (m.groupText? s (digits.foldl addDigit 0)).getD [] = (Piece.group digits).expansion s m := by
  have read : digits.foldl addDigit 0 = min (decimalValue digits) maxIndex :=
    foldl_addDigit digits 0
  simp only [Piece.expansion]
  split
  · next fits =>
      have below : decimalValue digits ≤ maxIndex := Nat.le_sub_one_of_lt fits
      rw [read, Nat.min_eq_left below]
  · next exceeds =>
      have nowhere : m.groupText? s maxIndex = none := by
        rw [Match.groupText?, Match.groupSpan?, if_neg (by decide), free, Option.map_none]
      have beyond : maxIndex ≤ decimalValue digits := by
        simp only [maxIndex]
        omega
      rw [read, Nat.min_eq_right beyond, nowhere, Option.getD_none]

theorem ReadsAs.expand_eq {template : List Char} {pieces : List Piece} (h : ReadsAs template pieces)
    {s : Subject} {m : Match} (free : m.groups[maxIndex]? = none) :
    expand template s m = pieces.flatMap (Piece.expansion s m) := by
  simp only [expand]
  induction h with
  | done => rfl
  | plain noSign _ ih => simp [expandFrom, noSign, ih, Piece.expansion]
  | last => rfl
  | doubled _ ih => simp [expandFrom, ih, Piece.expansion]
  | whole sign _ ih => obtain rfl | rfl := sign <;> simp [expandFrom, ih, Piece.expansion]
  | group digit nonzero _ ih =>
      obtain ⟨single, noWhole⟩ := ne_of_isDecimal digit
      rw [List.flatMap_cons, ← group_expansion free, ← ih]
      simp [expandFrom, expandFrom_number, digit, single, noWhole, nonzero]
  | @kept c _ _ single noWhole noDigit _ ih =>
      have nonzero : c ≠ '0' := by
        rintro rfl
        exact absurd noDigit (by decide)
      simp [expandFrom, single, noWhole, nonzero, noDigit, ih, Piece.expansion]

theorem expand_escape (text : List Char) (s : Subject) (m : Match) :
    expand (escape text) s m = text := by
  simp only [expand]
  induction text with
  | nil => rfl
  | cons c text ih =>
      by_cases sign : c = '$' <;> simp_all [escape, expandFrom]

/--
A template can be read in exactly one way, and its expansion for a match is what its pieces stand for, if no
group has the largest number. A text with every sign doubled expands to itself, so that every match is
replaced by the text.
-/
theorem expand_by_pieces (template : List Char) :
    (∃! pieces, ReadsAs template pieces) ∧
      (∀ pieces, ReadsAs template pieces → ∀ (s : Subject) (m : Match), m.groups[maxIndex]? = none →
        expand template s m = pieces.flatMap (Piece.expansion s m)) ∧
      (∀ s m, expand (escape template) s m = template) ∧
      ∀ (p : Pattern) (s : Subject), p.replace s (escape template) = p.replaceWith s fun _ => template := by
  obtain ⟨pieces, reads⟩ := ReadsAs.total template
  refine ⟨⟨pieces, reads, fun others h => h.unique reads⟩, fun pieces reads s m free =>
    reads.expand_eq free, expand_escape template, fun p s => ?_⟩
  have constant : expand (escape template) s = fun _ => template :=
    funext (expand_escape template s)
  rw [Pattern.replace, constant]

/--
A group of two digits, the whole match with a digit after it, a number of more than 64 bits, and a last
sign.
-/
theorem expand_by_pieces_overlong :
    let template := "$12$00$18446744073709551616a$".toList
    let s : Subject := { text := #['a', 'b', 'c'] }
    let m : Match := { start := 0, stop := 3, groups := (∅ : Captures).insert 12 ⟨1, 2⟩ }
    let pieces : List Piece :=
      [.group ['1', '2'], .whole, .plain ['0'], .group "18446744073709551616".toList, .plain ['a'],
        .plain ['$']]
    ReadsAs template pieces ∧ m.groups[maxIndex]? = none ∧
      expand template s m = ['b', 'a', 'b', 'c', '0', 'a', '$'] ∧
      expand (escape template) s m = template := by
  intro template s m pieces
  have reads : ReadsAs template pieces :=
    .group (by decide) (by decide) <| .whole (.inr rfl) <| .plain (by decide) <|
      .group (by decide) (by decide) <| .plain (by decide) .last
  have free : m.groups[maxIndex]? = none := by decide
  obtain ⟨-, expands, escaped, -⟩ := expand_by_pieces template
  have meaning : pieces.flatMap (Piece.expansion s m) = ['b', 'a', 'b', 'c', '0', 'a', '$'] := by decide
  exact ⟨reads, free, (expands pieces reads s m free).trans meaning, escaped s m⟩

end Template
end Rematch
