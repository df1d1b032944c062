import Rematch.Encoded
import Rematch.Proofs.Lockstep
import Rematch.Proofs.RoundTrip
import Rematch.Proofs.Stops

/-!
# Patterns without their groups

Captures steer nothing but backreferences. A compiled pattern without backreferences has the same
spans, and cuts a text into the same pieces, if all its groups only hold their bodies together.
-/

namespace Rematch

/-! ## Spans -/

theorem Match.span_eq_iff {m m' : Match} :
    m.span = m'.span ↔ m.start = m'.start ∧ m.stop = m'.stop := by
  rw [Match.span, Match.span, Span.mk.injEq]

section Spans

variable {matchAt matchAt' : Nat → Option Match}

theorem map_span_matchesFrom
    (same : ∀ start, (matchAt start).map Match.span = (matchAt' start).map Match.span)
    (steps pos : Nat) : (matchesFrom matchAt steps pos).map Match.span =
      (matchesFrom matchAt' steps pos).map Match.span := by
  induction steps generalizing pos with
  | zero => rfl
  | succ steps ih =>
      have here := same pos
      unfold matchesFrom
      cases hm : matchAt pos with
      | none =>
          rw [hm, Option.map_none, eq_comm, Option.map_eq_none_iff] at here
          rw [here]
          exact ih (pos + 1)
      | some m =>
          rw [hm, Option.map_some, eq_comm, Option.map_eq_some_iff] at here
          obtain ⟨m', hm', span⟩ := here
          obtain ⟨start, stop⟩ := Match.span_eq_iff.mp span
          simp only [hm', start, stop, List.map_cons, span, ih]

theorem piecesFrom_of_spans (s : Subject) {found found' : List Match}
    (same : found.map Match.span = found'.map Match.span) (last : Nat) :
    s.piecesFrom last found = s.piecesFrom last found' := by
  induction found generalizing found' last with
  | nil =>
      rw [List.map_nil, eq_comm, List.map_eq_nil_iff] at same
      rw [same]
  | cons m rest ih =>
      obtain ⟨m', rest', rfl, span, later⟩ := List.map_eq_cons_iff.mp same.symm
      obtain ⟨start, stop⟩ := Match.span_eq_iff.mp span
      simp only [Subject.piecesFrom, start, stop, ih later.symm]

theorem encodedPiecesFrom_of_spans (text : Encoded) {found found' : List Match}
    (same : found.map Match.span = found'.map Match.span) (parts : List ByteArray)
    (last lastOffset : Nat) : text.piecesFrom parts last lastOffset found =
      text.piecesFrom parts last lastOffset found' := by
  induction found generalizing found' parts last lastOffset with
  | nil =>
      rw [List.map_nil, eq_comm, List.map_eq_nil_iff] at same
      rw [same]
  | cons m rest ih =>
      obtain ⟨m', rest', rfl, span, later⟩ := List.map_eq_cons_iff.mp same.symm
      obtain ⟨start, stop⟩ := Match.span_eq_iff.mp span
      simp only [Encoded.piecesFrom, start, stop, ih later.symm]

end Spans

namespace Pattern

/-! ## Groups -/

theorem ignoresCaptures_of_isShorthand {p : Pattern} (h : p.isShorthand = true) :
    p.ignoresCaptures = true := by
  cases p with
  | negation body => cases body <;> simp_all [isShorthand, ignoresCaptures]
  | _ => simp_all [isShorthand, ignoresCaptures]

theorem group_not_mem_operators_of_isShorthand {p : Pattern} (h : p.isShorthand = true)
    (body : Pattern) (index : Nat) : .group body index ∉ p.operators := by
  cases p with
  | negation inner => cases inner <;> simp_all [isShorthand, operators]
  | _ => simp_all [isShorthand, operators]

theorem isZeroWidth_ungrouped {p : Pattern} (h : p.isNegatable = true) :
    p.ungrouped.isZeroWidth = p.isZeroWidth := by
  cases p <;> first | rfl | simp [isNegatable] at h

mutual

theorem group_not_mem_operators_ungrouped (inner : Pattern) (index : Nat) : (p : Pattern) →
    p.all isWritable = true → .group inner index ∉ p.ungrouped.operators
  | .sequence parts, h => by
      simp only [all, Bool.and_eq_true] at h
      simp [ungrouped, operators, group_not_mem_partOperators_ungrouped inner index parts h.2]
  | .alternation left right, h => by
      simp only [all, Bool.and_eq_true] at h
      simp [ungrouped, operators, group_not_mem_operators_ungrouped inner index left h.2.1,
        group_not_mem_operators_ungrouped inner index right h.2.2]
  | .group body _, h => by
      simp only [all, Bool.and_eq_true] at h
      exact group_not_mem_operators_ungrouped inner index body h.2
  | .loop body .., h | .atomic body, h | .lookahead body, h | .lookbehind body _, h
  | .negation body, h => by
      simp only [all, Bool.and_eq_true] at h
      simp [ungrouped, operators, group_not_mem_operators_ungrouped inner index body h.2]
  | .charClass set specials, h => by
      have written := List.all_eq_true.mp (check_of_all h : specials.all isShorthand = true)
      simp only [ungrouped, operators, List.mem_cons, reduceCtorEq, false_or, mem_partOperators]
      rintro ⟨special, member, there⟩
      exact group_not_mem_operators_of_isShorthand (written special member) inner index there
  | .empty, _ | .literal _, _ | .anyChar, _ | .digit, _ | .word, _ | .space, _ | .lineStart, _
  | .lineEnd, _ | .wordEdge, _ | .backreference _, _ => by simp [ungrouped, operators]

theorem group_not_mem_partOperators_ungrouped (inner : Pattern) (index : Nat) :
    (parts : List Pattern) → allParts isWritable parts = true →
    .group inner index ∉ partOperators (partsUngrouped parts)
  | [], _ => by simp [partsUngrouped, partOperators]
  | part :: rest, h => by
      rw [allParts, Bool.and_eq_true] at h
      simp [partsUngrouped, partOperators, group_not_mem_operators_ungrouped inner index part h.1,
        group_not_mem_partOperators_ungrouped inner index rest h.2]

end

mutual

theorem ignoresGroups_of_isWritable : (p : Pattern) → p.all isWritable = true →
    (∀ index, .backreference index ∉ p.operators) → p.ignoresGroups = true
  | .sequence parts, h, free => by
      simp only [all, Bool.and_eq_true] at h
      simp only [operators, List.mem_cons, reduceCtorEq, false_or] at free
      exact allIgnoreGroups_of_isWritable parts h.2 free
  | .alternation left right, h, free => by
      simp only [all, Bool.and_eq_true] at h
      simp only [operators, List.mem_cons, reduceCtorEq, false_or, List.mem_append, not_or,
        forall_and] at free
      rw [ignoresGroups, ignoresGroups_of_isWritable left h.2.1 free.1,
        ignoresGroups_of_isWritable right h.2.2 free.2]
      rfl
  | .loop body .., h, free | .group body _, h, free | .atomic body, h, free
  | .lookahead body, h, free | .lookbehind body _, h, free => by
      simp only [all, Bool.and_eq_true] at h
      simp only [operators, List.mem_cons, reduceCtorEq, false_or] at free
      exact ignoresGroups_of_isWritable body h.2 free
  | .negation body, h, free => by
      simp only [all, Bool.and_eq_true] at h
      simp only [operators, List.mem_cons, reduceCtorEq, false_or] at free
      rw [ignoresGroups, isZeroWidth_ungrouped h.1, ignoresGroups_of_isWritable body h.2 free]
      simp
  | .charClass set specials, h, _ => by
      have written := List.all_eq_true.mp (check_of_all h : specials.all isShorthand = true)
      exact allIgnoreCaptures_iff.mpr fun special member =>
        ignoresCaptures_of_isShorthand (written special member)
  | .backreference index, _, free => absurd (mem_operators_self _) (free index)
  | .empty, _, _ | .literal _, _, _ | .anyChar, _, _ | .digit, _, _ | .word, _, _ | .space, _, _
  | .lineStart, _, _ | .lineEnd, _, _ | .wordEdge, _, _ => rfl

theorem allIgnoreGroups_of_isWritable : (parts : List Pattern) → allParts isWritable parts = true →
    (∀ index, .backreference index ∉ partOperators parts) → allIgnoreGroups parts = true
  | [], _, _ => rfl
  | part :: rest, h, free => by
      rw [allParts, Bool.and_eq_true] at h
      simp only [partOperators, List.mem_append, not_or, forall_and] at free
      rw [allIgnoreGroups, ignoresGroups_of_isWritable part h.1 free.1,
        allIgnoreGroups_of_isWritable rest h.2 free.2]
      rfl

end

/-! ## Matches -/

theorem map_span_matchAt_ungrouped {p : Pattern} (h : p.ignoresGroups = true) (s : Subject)
    (start : Nat) : (p.ungrouped.matchAt s start).map Match.span =
      (p.matchAt s start).map Match.span := by
  by_cases inside : start ≤ s.size
  · have stops := sameStops_ungrouped s p h {} {} start
    have spans : ∀ q : Pattern, (q.matchAt s start).map Match.span =
        ((q.arrivals s {} start).map Arrival.stop).head?.map fun stop => { start, stop } := by
      intro q
      rw [matchAt_eq_head? q s inside, List.head?_map, Option.map_map, Option.map_map]
      rfl
    rw [spans, spans, stops]
  · rw [matchAt_of_size_lt _ (Nat.lt_of_not_le inside),
      matchAt_of_size_lt _ (Nat.lt_of_not_le inside)]

/--
A compiled pattern without backreferences keeps its spans when every group is replaced by its body:
those of an attempt at any position, of a search and of the list of all matches, and with them the
pieces of the text.
-/
theorem spans_ungrouped {text : String} {p : Pattern} (compiled : compile text = .ok p)
    (free : ∀ index, .backreference index ∉ p.operators) :
    (∀ body index, .group body index ∉ p.ungrouped.operators) ∧ ∀ s,
      (∀ start, (p.ungrouped.matchAt s start).map Match.span =
        (p.matchAt s start).map Match.span) ∧
      (p.ungrouped.search s).map Match.span = (p.search s).map Match.span ∧
      p.ungrouped.isMatch s = p.isMatch s ∧
      (p.ungrouped.allMatches s).map Match.span = (p.allMatches s).map Match.span ∧
      p.ungrouped.split s = p.split s ∧ p.ungrouped.splitBytes s = p.splitBytes s := by
  have writable : p.all isWritable = true :=
    all_imp (fun _ => isWritable_of_isWellFormed) p (isWellFormed_of_parse compiled)
  have ignores := ignoresGroups_of_isWritable p writable free
  refine ⟨fun body index => group_not_mem_operators_ungrouped body index p writable, fun s => ?_⟩
  have attempts := map_span_matchAt_ungrouped ignores s
  have walk : (p.ungrouped.allMatches s).map Match.span = (p.allMatches s).map Match.span :=
    map_span_matchesFrom attempts (s.size + 1) 0
  have search : (p.ungrouped.search s).map Match.span = (p.search s).map Match.span := by
    rw [search_eq_head?, search_eq_head?, ← List.head?_map, walk, List.head?_map]
  refine ⟨attempts, search, ?_, walk, piecesFrom_of_spans s walk 0,
    encodedPiecesFrom_of_spans s.encode walk [] 0 0⟩
  rw [isMatch, isMatch, ← Option.isSome_map, search, Option.isSome_map]

/-- `((a)|ab)+(?=(c))` matches `aab` in `aabc`, and so it does without its groups. -/
theorem spans_ungrouped_lookahead :
    let p : Pattern := .sequence [
      plus (.group (.alternation (.group (.literal 'a') 2)
        (.sequence [.literal 'a', .literal 'b'])) 1),
      .lookahead (.group (.literal 'c') 3)]
    let q : Pattern := .sequence [
      plus (.alternation (.literal 'a') (.sequence [.literal 'a', .literal 'b'])),
      .lookahead (.literal 'c')]
    let s : Subject := { text := #['a', 'a', 'b', 'c'] }
    compile "((a)|ab)+(?=(c))" = .ok p ∧ (∀ index, .backreference index ∉ p.operators) ∧
      p.ungrouped = q ∧ p.search s = some { start := 0, stop := 3, groups :=
        ((∅ : Captures).insert 2 ⟨0, 1⟩).insert 1 ⟨1, 3⟩ } ∧
      (q.search s).map Match.span = some ⟨0, 3⟩ ∧ q.split s = [[], ['c']] := by
  intro p q s
  have compiled : compile "((a)|ab)+(?=(c))" = .ok p := by rfl
  have free : ∀ index, .backreference index ∉ p.operators := by
    simp [p, plus, operators, partOperators]
  have found : p.search s = some { start := 0, stop := 3, groups :=
      ((∅ : Captures).insert 2 ⟨0, 1⟩).insert 1 ⟨1, 3⟩ } := by decide
  have same : p.ungrouped = q := by rfl
  obtain ⟨_, search, _, _, split, _⟩ := (spans_ungrouped compiled free).2 s
  rw [same] at search split
  refine ⟨compiled, free, same, found, ?_, ?_⟩
  · rw [search, found]
    rfl
  · rw [split]
    decide

end Pattern
end Rematch
