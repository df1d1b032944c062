import Rematch.Proofs.Scanners

/-!
# Progress of the parsers

Every part of a pattern takes a character, so that a repetition of parts comes to an end, and branches can
take nothing, so that they refuse no text. A parser gives up if and only if there is an error to report.
This holds whatever a group may contain, and therefore at every depth.
-/

namespace Rematch
namespace Descent

open Token Descent.Parser

/-! ## Repetition signs -/

inductive Signs : Pattern → List Char → Context → Reply Pattern × Context → Prop
  | stop {node : Pattern} {input : List Char} {ctx : Context} (noSign : scanRepeats input = none) :
      Signs node input ctx (.ok input node, ctx)
  | next {node node' : Pattern} {input rest : List Char} {ctx : Context} {min : Nat} {max : Option Nat}
      {result : Reply Pattern × Context} (sign : scanRepeats input = some (.repeats min max, rest))
      (made : node.bounded min max = .ok node') (later : Signs node' rest ctx result) :
      Signs node input ctx result
  | outOfOrder {node : Pattern} {input rest : List Char} {ctx : Context} {min : Nat} {max : Option Nat}
      {e : PatternError} (sign : scanRepeats input = some (.repeats min max, rest))
      (refused : node.bounded min max = .error e) :
      Signs node input ctx (fail input e input ctx)

variable (lib : Combinators)

theorem repeated_signs (node : Pattern) (input : List Char) (ctx : Context) :
    Signs node input ctx (repeated lib node input ctx) := by
  have computes := quantifier_computes lib
  cases found : scanRepeats input with
  | none =>
      obtain ⟨setback, refused⟩ := computes.of_none (by rw [found]; rfl) ctx
      rw [repeated_of_refused refused]
      exact .stop found
  | some parts =>
      obtain ⟨token, rest⟩ := parts
      obtain ⟨min, max, lexeme, rfl, sign, rfl⟩ := scanRepeats_eq_some_iff.mp found
      have taken := computes.of_some (by rw [found]; rfl) ctx
      have shorter := (quantifier_lawful lib).length_lt taken
      cases made : node.bounded min max with
      | ok node' =>
          rw [repeated_of_ok taken made]
          exact .next found made (repeated_signs node' rest ctx)
      | error e =>
          rw [repeated_of_outOfOrder taken made]
          exact .outOfOrder found made
termination_by input.length

theorem repeated_lawful (node : Pattern) : (repeated lib node).Lawful 0 := by
  intro input ctx
  have run := repeated_signs lib node input ctx
  generalize repeated lib node input ctx = result at run
  induction run with
  | stop => exact ⟨⟨[], rfl, Nat.le_refl 0⟩, rfl⟩
  | next sign _ _ ih =>
      obtain ⟨lexeme, _, rfl, _⟩ := scanRepeats_selfDelimiting _ _ _ sign
      exact ih.prepend (m := 0) (Nat.zero_le _)
  | outOfOrder => exact Lawful.fail _ _ _ _

/-! ## Levels -/

section Levels

variable {body : Parser Pattern} (h : body.Lawful 0)

include h

theorem quantified_lawful : (quantified lib body).Lawful 1 :=
  (atom_lawful lib h).bind fun node => repeated_lawful lib node

theorem sequence_lawful : (sequence lib body).Lawful 0 :=
  (lib.many0_lawful (quantified_lawful lib h)).bind fun _ => .pure _

theorem sequence_settled : (sequence lib body).Settled :=
  (lib.many0_settled (quantified_lawful lib h)).bind fun _ => .pure _

theorem branch_lawful : (branch lib body).Lawful 1 :=
  lib.preceded_lawful (lib.char_lawful '|') (sequence_lawful lib h)

theorem alternation_lawful : (alternation lib body).Lawful 0 :=
  (sequence_lawful lib h).bind fun _ => (lib.many0_lawful (branch_lawful lib h)).bind fun _ => .pure _

theorem alternation_settled : (alternation lib body).Settled :=
  (sequence_settled lib h).bind fun _ => (lib.many0_settled (branch_lawful lib h)).bind fun _ => .pure _

end Levels

theorem pattern_lawful (depth : Nat) : (pattern lib depth).Lawful 0 := by
  induction depth with
  | zero => exact .pure _
  | succ depth ih => exact alternation_lawful lib ih

/-! ## What follows for replies -/

namespace Parser

variable {α : Type} {p : Parser α} {least : Nat}

def Advances (p : Parser α) : Prop :=
  ∀ input ctx rest a ctx', p input ctx = (.ok rest a, ctx') → ∃ taken, taken ≠ [] ∧ input = taken ++ rest

/-- A parser gives up if and only if an error is recorded, and the first error that is recorded stays. -/
structure Accountable (p : Parser α) : Prop where
  gaveUp_iff : ∀ input ctx, ctx.error = none →
    ((∃ setback, (p input ctx).1 = .failure setback) ↔ ∃ e, (p input ctx).2.error = some e)
  first : ∀ input ctx e, ctx.error = some e → (p input ctx).2.error = some e

theorem Lawful.advances (h : p.Lawful 1) : p.Advances := by
  intro input ctx rest a ctx' replied
  obtain ⟨⟨taken, same, some⟩, -⟩ := h.of_ok replied
  exact ⟨taken, List.length_pos_iff.mp some, same⟩

theorem Lawful.accountable (h : p.Lawful least) : p.Accountable := by
  constructor
  · intro input ctx clean
    rcases replied : p input ctx with ⟨⟨rest, a⟩ | setback | setback, ctx'⟩
    · simp [(h.of_ok replied).2, clean]
    · simp [h.of_error replied, clean]
    · simpa using ⟨_, (h.of_failure replied).choose_spec⟩
  · intro input ctx e recorded
    rcases replied : p input ctx with ⟨⟨rest, a⟩ | setback | setback, ctx'⟩
    · exact (h.of_ok replied).2.trans recorded
    · exact (h.of_error replied).trans recorded
    · obtain ⟨_, after⟩ := h.of_failure replied
      rw [after, recorded]
      rfl

end Parser

/-- A repetition that must succeed once is refused where the parser is, and never for want of progress. -/
theorem many1_refused_iff {α : Type} {p : Parser α} (h : p.Lawful 1) {input : List Char}
    {ctx ctx' : Context} {setback : Setback} :
    lib.many1 p input ctx = (.error setback, ctx') ↔ p input ctx = (.error setback, ctx') := by
  rw [lib.many1_eq h]
  constructor
  · intro refused
    rcases replied : p input ctx with ⟨⟨rest, a⟩ | setback' | setback', between⟩
    · rw [bind_of_ok replied] at refused
      have settled := (lib.many0_settled h).bind fun others => .pure (a :: others)
      exact absurd refused (settled rest between setback ctx')
    · rw [bind_of_error replied] at refused
      cases refused
      rfl
    · rw [bind_of_failure replied] at refused
      cases refused
  · exact bind_of_error

end Descent
end Rematch
