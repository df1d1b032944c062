import Rematch.Proofs.Printed

/-!
# Printing and reading

A canonical pattern is read back from its text as it is. Other patterns that were compiled are read
back as the flat pattern, which matches the same, as long as their text can be read back at all.
-/

namespace Rematch
namespace Pattern

/-! ## Canonical patterns -/

def classSigns : List Char :=
  [']', '\\', '^', '-']

/-- Whether an operator has the form that reading its text gives it. -/
def hasCanonicalForm : Pattern → Bool
  | .charClass set specials =>
      !(set.singles.isEmpty && set.ranges.isEmpty && specials.isEmpty) &&
        specials.all isShorthand &&
        set.ranges.all fun range => range.first ≤ range.last &&
          (!classSigns.contains range.first && !classSigns.contains range.last)
  | .backreference index => 1 ≤ index && index ≤ 9
  | .sequence parts => 2 ≤ parts.length && parts.all (!·.dissolves)
  | .alternation _ right => !right.isAlternation
  | .loop body min max =>
      body != .empty && (min < UInt64.size && max.all fun most => min ≤ most && most < UInt64.size)
  | .lookbehind body width => body.fixedWidth? == some width
  | .negation body => body.isNegatable
  | _ => true

/--
Whether all operators have canonical forms and the groups are numbered from 1 on as they open.
-/
def isCanonical (p : Pattern) : Bool :=
  p.all hasCanonicalForm && p.groupOrder == List.range' 1 p.groupOrder.length

theorem isWellFormed_of_hasCanonicalForm {p : Pattern} (h : p.hasCanonicalForm = true) :
    p.isWellFormed = true := by
  cases p with
  | charClass set specials =>
      simp only [hasCanonicalForm, isWellFormed, Bool.and_eq_true, List.all_eq_true] at h ⊢
      exact ⟨h.1.1, fun range member => (h.2 range member).1, h.1.2⟩
  | sequence parts | loop body min max =>
      simp only [hasCanonicalForm, Bool.and_eq_true] at h
      first | exact h.1 | exact Bool.and_eq_true_iff.mpr h.2
  | lookbehind body width =>
      simp only [hasCanonicalForm, beq_iff_eq] at h
      simp [isWellFormed, h, isRigid_of_fixedWidth? body h]
  | alternation => rfl
  | _ => exact h

theorem isLegible_of_hasCanonicalForm {set : CharSet} {specials : List Pattern}
    (h : (Pattern.charClass set specials).hasCanonicalForm = true) (negated : Bool) :
    set.isLegible negated = true := by
  simp only [hasCanonicalForm, Bool.and_eq_true, List.all_eq_true] at h
  have plain {c : Char} (other : (!classSigns.contains c) = true) :
      c ≠ ']' ∧ c ≠ '\\' ∧ c ≠ '^' ∧ c ≠ '-' := by
    simpa [classSigns] using other
  have first (range : CharRange) (member : range ∈ set.ranges) := plain (h.2 range member).2.1
  have last (range : CharRange) (member : range ∈ set.ranges) := plain (h.2 range member).2.2
  simp only [CharSet.isLegible, Bool.and_eq_true, List.all_eq_true, bne_iff_ne]
  refine ⟨fun range member => ?_, ?_⟩
  · exact ⟨⟨(first range member).1, (first range member).2.1⟩,
      (last range member).1, (last range member).2.1⟩
  · cases hranges : set.ranges with
    | nil => rfl
    | cons range ranges =>
        have signs := first range (hranges ▸ List.mem_cons_self)
        simp [signs]

mutual

theorem isLegible_of_canonical : (p : Pattern) → p.all hasCanonicalForm = true →
    p.isLegible = true
  | .sequence parts, h => areLegible_of_canonical parts (Bool.and_eq_true_iff.mp h).2
  | .alternation left right, h => by
      simp only [all, Bool.and_eq_true] at h
      rw [isLegible, isLegible_of_canonical left h.2.1, isLegible_of_canonical right h.2.2]
      rfl
  | .loop body min max, h => by
      simp only [all, hasCanonicalForm, Bool.and_eq_true] at h
      rw [isLegible, h.1.1, isLegible_of_canonical body h.2]
      rfl
  | .group body _, h | .atomic body, h | .lookahead body, h | .lookbehind body _, h =>
      isLegible_of_canonical body (Bool.and_eq_true_iff.mp h).2
  | .negation body, h => by
      have h := Bool.and_eq_true_iff.mp h
      have inside := isLegible_of_canonical body h.2
      cases body with
      | charClass set specials => exact isLegible_of_hasCanonicalForm h.2 true
      | _ => exact inside
  | .charClass set specials, h => isLegible_of_hasCanonicalForm h false
  | .empty, _ | .literal _, _ | .anyChar, _ | .digit, _ | .word, _ | .space, _ | .lineStart, _
  | .lineEnd, _ | .wordEdge, _ | .backreference _, _ => rfl

theorem areLegible_of_canonical : (parts : List Pattern) →
    allParts hasCanonicalForm parts = true → areLegible parts = true
  | [], _ => rfl
  | part :: rest, h => by
      rw [allParts, Bool.and_eq_true] at h
      rw [areLegible, isLegible_of_canonical part h.1, areLegible_of_canonical rest h.2]
      rfl

end

mutual

theorem flatten_of_canonical : (p : Pattern) → p.all hasCanonicalForm = true → p.flatten = p
  | .sequence parts, h => by
      simp only [all, hasCanonicalForm, Bool.and_eq_true, decide_eq_true_eq] at h
      show (Branches.writeParts {} parts).toPattern = _
      rw [writeParts_of_canonical parts h.2 h.1.2]
      match parts, h.1.1 with
      | first :: second :: rest, _ => simp [Branches.toPattern]
  | .alternation left right, h => by
      simp only [all, hasCanonicalForm, Bool.and_eq_true, Bool.not_eq_true'] at h
      have written := Branches.write_of_single right h.1 (Branches.write {} left).next
      rw [flatten, Branches.write, written]
      have first := flatten_of_canonical left h.2.1
      have second := flatten_of_canonical right h.2.2
      rw [← Branches.toPattern_write h.1] at second
      simp [Branches.toPattern, Branches.next]
      exact ⟨first, second⟩
  | .loop body .., h | .group body _, h | .atomic body, h | .lookahead body, h
  | .lookbehind body _, h | .negation body, h => by
      have flat := flatten_of_canonical body (Bool.and_eq_true_iff.mp h).2
      simp only [flatten_loop, flatten_group, flatten_atomic, flatten_lookahead, flatten_lookbehind,
        flatten_negation, flat]
  | .empty, _ | .literal _, _ | .anyChar, _ | .digit, _ | .word, _ | .space, _ | .charClass .., _
  | .lineStart, _ | .lineEnd, _ | .wordEdge, _ | .backreference _, _ => rfl

theorem writeParts_of_canonical : (parts : List Pattern) →
    allParts hasCanonicalForm parts = true → parts.all (!·.dissolves) = true → {b : Branches} →
    b.writeParts parts = { b with items := parts.reverse ++ b.items }
  | [], _, _, _ => rfl
  | part :: rest, h, kept, b => by
      rw [allParts, Bool.and_eq_true] at h
      rw [List.all_cons, Bool.and_eq_true, Bool.not_eq_true'] at kept
      have flat := flatten_of_canonical part h.1
      rw [Branches.writeParts, writeParts_of_canonical rest h.2 kept.2]
      cases single : part.isAlternation with
      | true =>
          rw [if_pos rfl, ← flatten, flat]
          simp [Branches.add]
      | false =>
          rw [if_neg Bool.false_ne_true, Branches.write_of_item single kept.1, flat]
          simp [Branches.add]

end

theorem compile_toString (p : Pattern) : compile (toString p) = parse p.print := by
  show parse (String.ofList p.print).toList = _
  rw [String.toList_ofList]

theorem compile_toString_of_canonical {p : Pattern} (h : p.isCanonical = true) :
    compile (toString p) = .ok p := by
  simp only [isCanonical, Bool.and_eq_true, beq_iff_eq] at h
  have sound := all_imp (fun _ => isWellFormed_of_hasCanonicalForm) p h.1
  rw [compile_toString, parse_print sound (isLegible_of_canonical p h.1)
    (by simpa [ConsecutiveAfter] using h.2), flatten_of_canonical p h.1]

/--
A canonical pattern is compiled from its text as it is. So two canonical patterns with the same text
are the same pattern.
-/
theorem canonical_roundTrip :
    (∀ p : Pattern, p.isCanonical = true → compile (toString p) = .ok p) ∧
    (∀ p q : Pattern, p.isCanonical = true → q.isCanonical = true → toString p = toString q →
      p = q) := by
  refine ⟨fun p => compile_toString_of_canonical, fun p q hp hq same => ?_⟩
  have first := compile_toString_of_canonical hp
  rw [same, compile_toString_of_canonical hq] at first
  exact (Except.ok.inj first).symm

/--
A body that binds more loosely than its repetition, an empty branch, a class with the characters
that have a meaning in it, and a backreference in front of a digit.
-/
theorem canonical_roundTrip_brackets :
    let set : CharSet := {
      ranges := [{ first := 'a', last := 'z' }]
      singles := ['^', ']', '-', 'é'] }
    let p : Pattern := .loop (.sequence [.group (.alternation (.literal '{') .empty) 1,
      .alternation .lineStart (.negation (.charClass set [.digit])),
      .lookbehind (.sequence [.wordEdge, .group .anyChar 2]) 1,
      .backreference 1, .literal '1']) 2 (some 3)
    p.isCanonical = true ∧
      compile "(?:(\\\x7b|)(?:^|[^\\^\\]\\-éa-z\\d])(?<=\\b(.))\\11)\x7b2,3\x7d" = .ok p := by
  intro set p
  have canonical : p.isCanonical = true := by decide
  exact ⟨canonical, canonical_roundTrip.1 p canonical⟩

/-! ## Compiled patterns -/

theorem consecutiveAfter_of_parse {text : List Char} {p : Pattern} (h : parse text = .ok p) :
    ConsecutiveAfter 0 p.groupOrder := by
  have order := groupOrder_of_parse h
  rw [ConsecutiveAfter, order, List.length_range']

theorem nodup_of_parse {text : List Char} {p : Pattern} (h : parse text = .ok p) :
    p.groupOrder.Nodup := by
  rw [groupOrder_of_parse h]
  exact List.nodup_range'

/--
A compiled pattern that can be read back from its text is compiled from it to a pattern that matches
the same: with any options and on any text, an attempt at a position, a search and the list of all
matches yield the same spans and the same groups.
-/
theorem compile_toString_matches {text : String} {p : Pattern} (compiled : compile text = .ok p)
    (legible : p.isLegible = true) :
    ∃ q, compile (toString p) = .ok q ∧ ∀ s,
      (∀ start, q.matchAt s start = p.matchAt s start) ∧ q.search s = p.search s ∧
        q.allMatches s = p.allMatches s := by
  have sound := isWellFormed_of_parse compiled
  have apart := nodup_of_parse compiled
  refine ⟨p.flatten, ?_, fun s => ?_⟩
  · rw [compile_toString, parse_print sound legible (consecutiveAfter_of_parse compiled)]
  · have same := matchAt_flatten sound apart s
    refine ⟨fun start => by rw [same], ?_, allMatches_flatten sound apart s⟩
    rw [search_eq_findSome?, search_eq_findSome?, same]

/-- Parentheses that are not needed go, and with them an empty part; branches join to the left. -/
theorem compile_toString_matches_nested :
    let p : Pattern := .sequence [.literal 'a', .sequence [.empty, .group (.alternation .lineStart
      (.alternation (.literal 'b') .digit)) 1]]
    let q : Pattern := .sequence [.literal 'a', .group (.alternation (.alternation .lineStart
      (.literal 'b')) .digit) 1]
    compile "a(?:(?:)(^|(?:b|\\d)))" = .ok p ∧ compile (toString p) = .ok q ∧
      ∀ s, q.allMatches s = p.allMatches s := by
  intro p q
  have compiled : compile "a(?:(?:)(^|(?:b|\\d)))" = .ok p := by rfl
  have again : compile (toString p) = .ok q := by
    rw [compile_toString]
    rfl
  obtain ⟨q', again', same⟩ := compile_toString_matches compiled (by decide)
  obtain rfl := Except.ok.inj (again.symm.trans again')
  exact ⟨compiled, again, fun s => (same s).2.2⟩

/--
Three compiled patterns whose text cannot be read back. A repetition of the empty pattern is written
as its sign alone, which is refused or repeats what stands before it. The end of a range is written
without the backslash that it was given, which here makes the class a negated one.
-/
theorem compile_toString_failures :
    let alone : Pattern := star .empty
    let behind : Pattern := .sequence [.literal 'a', star .empty]
    let range : Pattern := .charClass { ranges := [{ first := '^', last := 'a' }] } []
    let s : Subject := { text := #['a', 'a'] }
    (compile "(?:)*" = .ok alone ∧ compile (toString alone) = .error (.unexpectedInput 0 ['*'])) ∧
      (compile "a(?:)*" = .ok behind ∧ ∃ q, compile (toString behind) = .ok q ∧
        (behind.allMatches s).map Match.span = [⟨0, 1⟩, ⟨1, 2⟩] ∧
        (q.allMatches s).map Match.span = [⟨0, 2⟩, ⟨2, 2⟩]) ∧
      (compile "[a-\\^]" = .ok range ∧ ∃ q, compile (toString range) = .ok q ∧
        (range.allMatches s).map Match.span = [⟨0, 1⟩, ⟨1, 2⟩] ∧ q.allMatches s = []) := by
  intro alone behind range s
  have refused : compile (toString alone) = .error (.unexpectedInput 0 ['*']) := by
    rw [compile_toString]
    rfl
  have joined : compile (toString behind) = .ok (star (.literal 'a')) := by
    rw [compile_toString]
    rfl
  have negated : compile (toString range) =
      .ok (.negation (.charClass { singles := ['-', 'a'] } [])) := by
    rw [compile_toString]
    rfl
  exact ⟨⟨by rfl, refused⟩, ⟨by rfl, _, joined, by decide, by decide⟩,
    ⟨by rfl, _, negated, by decide, by decide⟩⟩

end Pattern
end Rematch
