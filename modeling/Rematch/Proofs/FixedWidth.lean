import Rematch.Proofs.Flatten
import Rematch.Proofs.Succession

/-!
# Fixed widths

Where a pattern of a fixed width matches, it takes that many characters and leaves no choice behind.
The width is the sum and product that the tree asks for in numbers of any size; one that does not fit
in 64 bits is no width.
-/

namespace Rematch

/-! ## Runs of a fixed width -/

namespace Matcher

/-- A match takes so many characters, and leaves no choice behind. -/
structure Rigid (width : Nat) (c : Matcher) : Prop where
  of_run : ∀ {pos stop : Nat} {m m' : Memory}, c.run pos m = .matched stop m' →
    stop = pos + width ∧ m'.points = m.points

theorem finish_eq_matched_iff {min count pos stop : Nat} {m m' : Memory} :
    finish min count pos m = .matched stop m' ↔ min ≤ count ∧ pos = stop ∧ m = m' := by
  unfold finish
  split
  · rename_i few
    simp [Nat.not_le.mpr few]
  · rename_i enough
    simp [Nat.not_lt.mp enough]

namespace Rigid

variable {length number width : Nat} {c body part : Matcher}

theorem of_keeps (keeps : c.Keeps)
    (h : ∀ {pos stop : Nat} {m m' : Memory}, c.run pos m = .matched stop m' → stop = pos + width) :
    c.Rigid width := by
  constructor
  intro pos stop m m' hrun
  have kept := keeps pos m
  rw [hrun] at kept
  exact ⟨h hrun, congrArg Memory.points kept⟩

theorem single {stop? : Captures → Nat → Option Nat}
    (h : ∀ {captures : Captures} {pos stop : Nat}, stop? captures pos = some stop →
      stop = pos + width) : (Matcher.single number stop?).Rigid width := by
  refine of_keeps (single_keeps number stop?) ?_
  intro pos stop m m' hrun
  simp only [Matcher.single] at hrun
  split at hrun
  · rename_i hstop
    cases hrun
    exact h hstop
  · contradiction

theorem lookahead : (Matcher.lookahead number body).Rigid 0 := by
  refine of_keeps (lookahead_keeps number body) ?_
  intro pos stop m m' hrun
  simp only [Matcher.lookahead] at hrun
  split at hrun
  · contradiction
  · cases hrun
    rfl

theorem lookbehind (before : Nat) : (Matcher.lookbehind number body before).Rigid 0 := by
  refine of_keeps (lookbehind_keeps number body before) ?_
  intro pos stop m m' hrun
  simp only [Matcher.lookbehind] at hrun
  split at hrun
  · contradiction
  · split at hrun
    · contradiction
    · split at hrun
      · cases hrun
        rfl
      · contradiction

theorem negation (zeroWidth : Bool) :
    (Matcher.negation length number body zeroWidth).Rigid (if zeroWidth then 0 else 1) := by
  refine of_keeps (negation_keeps length number body zeroWidth) ?_
  intro pos stop m m' hrun
  simp only [Matcher.negation] at hrun
  split at hrun
  · contradiction
  · split at hrun
    · contradiction
    · cases hrun
      cases zeroWidth <;> rfl

theorem group (h : body.Rigid width) (index : Nat) :
    (Matcher.group number body index).Rigid width := by
  constructor
  intro pos stop m m' hrun
  simp only [Matcher.group] at hrun
  split at hrun
  · contradiction
  · rename_i inner
    cases hrun
    obtain ⟨reached, same⟩ := h.of_run inner
    exact ⟨reached, same⟩

theorem atomic (h : body.Rigid width) : (Matcher.atomic number body).Rigid width := by
  constructor
  intro pos stop m m' hrun
  simp only [Matcher.atomic] at hrun
  split at hrun
  · contradiction
  · rename_i left inner
    cases hrun
    obtain ⟨reached, same⟩ := h.of_run inner
    have nothingNewer : left.points = [] ++ m.points := same
    exact ⟨reached, Memory.points_keepOldest nothingNewer⟩

theorem chain_nil : (chain length number []).Rigid 0 := by
  constructor
  intro pos stop m m' hrun
  cases hrun
  exact ⟨rfl, rfl⟩

/-- The first part leaves nothing to drain, so the rest either matches behind it or not at all. -/
theorem chain_cons {number' width' : Nat} {rest : List Matcher} (first : part.Rigid width)
    (others : (chain length number' rest).Rigid width') :
    (chain length number (part :: rest)).Rigid (width + width') := by
  constructor
  intro pos stop m m' hrun
  simp only [chain, runParts] at hrun
  split at hrun
  · contradiction
  · rename_i next middle hfirst
    obtain ⟨reached, same⟩ := first.of_run hfirst
    split at hrun
    · rename_i hrest
      cases hrun
      obtain ⟨reached', same'⟩ := others.of_run hrest
      exact ⟨by omega, same'.trans same⟩
    · rename_i hrest
      obtain rfl := runParts_failed hrest
      rw [Lawful.drain_of_not_risesAbove (Lawful.not_risesAbove_of_points_eq same)] at hrun
      contradiction

theorem sequence {parts : List Matcher} (h : (chain length (number + 1) parts).Rigid width) :
    (Matcher.sequence length number parts).Rigid width :=
  ⟨h.of_run⟩

/--
As long as repetitions are missing, no choice is left to end before the next one, and a repetition
that takes nothing ends the loop too early.
-/
theorem iterate (h : body.Rigid width) (exactly : Nat) {remaining count pos stop : Nat}
    {m m' : Memory} (few : count ≤ exactly)
    (hrun : Matcher.iterate body number exactly (some exactly) remaining count pos m =
      .matched stop m') :
    stop = pos + width * (exactly - count) ∧ m'.points = m.points := by
  induction remaining generalizing count pos m with
  | zero =>
      obtain ⟨enough, rfl, rfl⟩ := finish_eq_matched_iff.mp hrun
      obtain rfl : count = exactly := Nat.le_antisymm few enough
      simp
  | succ remaining ih =>
      unfold Matcher.iterate at hrun
      by_cases enough : exactly ≤ count
      · simp only [Option.any_some, decide_eq_true enough, if_true] at hrun
        obtain ⟨_, rfl, rfl⟩ := finish_eq_matched_iff.mp hrun
        obtain rfl : count = exactly := Nat.le_antisymm few enough
        simp
      · have early : ∀ m, finish exactly count pos m ≠ .matched stop m' := fun m hfinish =>
          enough (finish_eq_matched_iff.mp hfinish).1
        simp only [Option.any_some, decide_eq_false enough, Bool.false_eq_true, if_false,
          if_neg enough] at hrun
        split at hrun
        · exact absurd hrun (early m)
        · rename_i next middle hbody
          obtain ⟨reached, same⟩ := h.of_run hbody
          split at hrun
          · exact absurd hrun (early m)
          · have fewer : count + 1 ≤ exactly := Nat.lt_of_not_le enough
            obtain ⟨reached', same'⟩ := ih fewer hrun
            have further : width * (exactly - count) = width * (exactly - (count + 1)) + width := by
              rw [← Nat.mul_succ]
              congr 1
              omega
            exact ⟨by omega, same'.trans same⟩

theorem loop (h : body.Rigid width) (exactly : Nat) :
    (Matcher.loop length number body exactly (some exactly)).Rigid (width * exactly) := by
  constructor
  intro pos stop m m' hrun
  simp only [Matcher.loop] at hrun
  split at hrun
  · rename_i hiterate
    cases hrun
    exact iterate h exactly (Nat.zero_le exactly) hiterate
  · contradiction

end Rigid
end Matcher

/-! ## Patterns of a fixed width -/

namespace Subject

variable {s : Subject} {pos stop : Nat}

theorem eq_of_take? {accept : Char → Bool} (h : s.take? accept pos = some stop) : stop = pos + 1 := by
  unfold take? at h
  split at h
  · exact (Option.some.inj h).symm
  · contradiction

theorem eq_of_stay? {holds : Bool} (h : stay? holds pos = some stop) : stop = pos := by
  unfold stay? at h
  split at h
  · exact (Option.some.inj h).symm
  · contradiction

end Subject

namespace Pattern

theorem stop_of_singleStop? {s : Subject} {captures : Captures} {set : CharSet}
    {specials : List Pattern} {pos stop : Nat}
    (h : singleStop? s captures pos (.charClass set specials) = some stop) : stop = pos + 1 := by
  rw [singleStop?] at h
  split at h
  · exact (Option.some.inj h).symm
  · contradiction

mutual

/-- The matcher of a pattern of a fixed width takes that width and leaves no choice. -/
theorem matcher_rigid (s : Subject) (number : Nat) {width : Nat} : (p : Pattern) →
    p.fixedWidth? = some width → (p.matcher s number).Rigid width
  | .sequence parts, h => (matchers_rigid s (number + 1) parts h).sequence
  | .loop body min max, h => by
      rw [fixedWidth?] at h
      split at h
      · rename_i exactly
        obtain ⟨each, heach, product⟩ := Option.bind_eq_some_iff.mp h
        obtain ⟨rfl, _⟩ := width?_eq_some_iff.mp product
        rw [matcher, exactly]
        exact (matcher_rigid s (number + 1) body heach).loop min
      · contradiction
  | .group body index, h => (matcher_rigid s (number + 1) body h).group index
  | .atomic body, h => (matcher_rigid s (number + 1) body h).atomic
  | .lookahead body, h => by
      obtain rfl := Option.some.inj h
      exact .lookahead
  | .lookbehind body before, h => by
      obtain rfl := Option.some.inj h
      exact .lookbehind before
  | .negation body, h => by
      obtain rfl := Option.some.inj h
      exact .negation body.isZeroWidth
  | .alternation .., h | .backreference _, h => by contradiction
  | .empty, h => by
      obtain rfl := Option.some.inj h
      exact .single fun h => (Option.some.inj h).symm
  | .lineStart, h | .lineEnd, h | .wordEdge, h => by
      obtain rfl := Option.some.inj h
      exact .single Subject.eq_of_stay?
  | .literal _, h | .anyChar, h | .digit, h | .word, h | .space, h => by
      obtain rfl := Option.some.inj h
      exact .single Subject.eq_of_take?
  | .charClass _ _, h => by
      obtain rfl := Option.some.inj h
      exact .single stop_of_singleStop?

theorem matchers_rigid (s : Subject) (number : Nat) {width : Nat} : (parts : List Pattern) →
    totalWidth? parts = some width →
    (Matcher.chain s.size number (matchers s number parts)).Rigid width
  | [], h => by
      obtain rfl := Option.some.inj h
      exact .chain_nil
  | part :: rest, h => by
      simp only [totalWidth?, Option.bind_eq_some_iff] at h
      obtain ⟨first, hfirst, others, hothers, sum⟩ := h
      obtain ⟨rfl, _⟩ := width?_eq_some_iff.mp sum
      exact (matcher_rigid s number part hfirst).chain_cons (matchers_rigid s _ rest hothers)

end

theorem fixedWidth?_of_isZeroWidth {p : Pattern} (h : p.isZeroWidth = true) :
    p.fixedWidth? = some 0 := by
  cases p with
  | negation body =>
      rw [isZeroWidth] at h
      rw [fixedWidth?, if_pos h]
  | empty | lineStart | lineEnd | wordEdge | lookahead _ | lookbehind _ _ => rfl
  | _ => contradiction

/-! ## Widths of any size -/

mutual

/-- The width that a tree shows, be it a number of 64 bits or not. -/
def exactWidth? : Pattern → Option Nat
  | .literal _ | .anyChar | .digit | .word | .space | .charClass .. => some 1
  | .empty | .lineStart | .lineEnd | .wordEdge => some 0
  | .lookahead _ | .lookbehind .. => some 0
  | .negation body => some (if body.isZeroWidth then 0 else 1)
  | .sequence parts => exactTotal? parts
  | .group body _ | .atomic body => exactWidth? body
  | .loop body min max => if max = some min then (exactWidth? body).map (· * min) else none
  | .alternation .. | .backreference _ => none

def exactTotal? : List Pattern → Option Nat
  | [] => some 0
  | part :: rest =>
      (exactWidth? part).bind fun width => (exactTotal? rest).map fun others => width + others

end

mutual

theorem exactWidth?_eq {width : Nat} : (p : Pattern) → p.fixedWidth? = some width →
    p.exactWidth? = some width
  | .sequence parts, h => exactTotal?_eq parts h
  | .loop body min max, h => by
      rw [fixedWidth?] at h
      split at h
      · rename_i exactly
        obtain ⟨each, heach, product⟩ := Option.bind_eq_some_iff.mp h
        obtain ⟨rfl, _⟩ := width?_eq_some_iff.mp product
        rw [exactWidth?, if_pos exactly, exactWidth?_eq body heach, Option.map_some]
      · contradiction
  | .group body _, h | .atomic body, h => exactWidth?_eq body h
  | .alternation .., h | .backreference _, h => by contradiction
  | .empty, h | .literal _, h | .anyChar, h | .digit, h | .word, h | .space, h | .charClass .., h
  | .lineStart, h | .lineEnd, h | .wordEdge, h | .lookahead _, h | .lookbehind .., h
  | .negation _, h => h

theorem exactTotal?_eq {width : Nat} : (parts : List Pattern) → totalWidth? parts = some width →
    exactTotal? parts = some width
  | [], h => h
  | part :: rest, h => by
      simp only [totalWidth?, Option.bind_eq_some_iff] at h
      obtain ⟨first, hfirst, others, hothers, sum⟩ := h
      obtain ⟨rfl, _⟩ := width?_eq_some_iff.mp sum
      rw [exactTotal?, exactWidth?_eq part hfirst, exactTotal?_eq rest hothers]
      rfl

end

theorem width?_eq_none_iff {n : Nat} : width? n = none ↔ UInt64.size ≤ n := by
  unfold width?
  split <;> simp <;> omega

theorem width?_bind_add (total n : Nat) :
    ((width? n).bind fun width => width? (total + width)) = width? (total + n) := by
  by_cases fits : n < UInt64.size
  · rw [width?_eq_some_iff.mpr ⟨rfl, fits⟩, Option.bind_some]
  · rw [width?_eq_none_iff.mpr (by omega), width?_eq_none_iff.mpr (by omega), Option.bind_none]

def addWidth? (total : Nat) (part : Pattern) : Option Nat :=
  part.fixedWidth?.bind fun width => width? (total + width)

/-- Adding up from the left comes to the same as adding up from the right, and fails where that does. -/
theorem foldlM_addWidth? (parts : List Pattern) {total : Nat} (fits : total < UInt64.size) :
    parts.foldlM addWidth? total = (totalWidth? parts).bind fun others => width? (total + others) := by
  induction parts generalizing total with
  | nil => exact (width?_eq_some_iff.mpr ⟨rfl, fits⟩).symm
  | cons part rest ih =>
      rw [List.foldlM_cons, totalWidth?, addWidth?]
      cases part.fixedWidth? with
      | none => rfl
      | some width =>
          simp only [Option.bind_some, Option.bind_assoc, width?_bind_add]
          by_cases room : total + width < UInt64.size
          · simp only [width?_eq_some_iff.mpr ⟨rfl, room⟩, ← Nat.add_assoc]
            exact ih room
          · have tooWide : ∀ others, width? (total + (width + others)) = none := fun others =>
              width?_eq_none_iff.mpr (by omega)
            simp only [width?_eq_none_iff.mpr (Nat.le_of_not_lt room), tooWide, Option.bind_fun_none]
            rfl

theorem totalWidth?_eq_foldlM (parts : List Pattern) :
    totalWidth? parts = parts.foldlM addWidth? 0 := by
  rw [foldlM_addWidth? parts (by decide)]
  cases total : totalWidth? parts with
  | none => rfl
  | some width =>
      rw [Option.bind_some, Nat.zero_add]
      exact (width?_eq_some_iff.mpr ⟨rfl, lt_of_totalWidth? parts total⟩).symm

/-! ## Matches of a fixed width -/

/--
Wherever it is run and in whatever memory, a pattern of a fixed width fails or takes that width, and
in both cases leaves the choice points as they were. What is only a condition takes nothing. The width
is the exact one, formed by sums from the left and products that all fit; a width of 64 bits or more is
none.
-/
theorem fixed_width_taken (p : Pattern) (s : Subject) :
    (∀ width, p.fixedWidth? = some width → ∀ number pos m,
      (((p.matcher s number).run pos m).stop? = none ∨
        ((p.matcher s number).run pos m).stop? = some (pos + width)) ∧
      ((p.matcher s number).run pos m).memory.points = m.points) ∧
    (p.isZeroWidth = true → ∀ number pos m stop,
      ((p.matcher s number).run pos m).stop? = some stop → stop = pos) ∧
    (∀ width, p.fixedWidth? = some width → p.exactWidth? = some width ∧ width < UInt64.size) ∧
    (∀ width, p.exactWidth? = some width → UInt64.size ≤ width → p.fixedWidth? = none) ∧
    (∀ parts, p = .sequence parts → p.fixedWidth? = parts.foldlM addWidth? 0) := by
  have settled : ∀ width, p.fixedWidth? = some width → ∀ number pos m stop,
      ((p.matcher s number).run pos m).stop? = some stop → stop = pos + width ∧
        ((p.matcher s number).run pos m).memory.points = m.points := by
    intro width h number pos m stop hstop
    exact (matcher_rigid s number p h).of_run (Outcome.eq_matched_of_stop? hstop)
  have exactly : ∀ width, p.fixedWidth? = some width →
      p.exactWidth? = some width ∧ width < UInt64.size :=
    fun width h => ⟨exactWidth?_eq p h, lt_of_fixedWidth? p h⟩
  refine ⟨?_, ?_, exactly, ?_, ?_⟩
  · intro width h number pos m
    cases hstop : ((p.matcher s number).run pos m).stop? with
    | none =>
        obtain ⟨m', hrun⟩ := (Outcome.stop?_eq_none_iff _).mp hstop
        obtain rfl := matcher_restores s number p hrun
        rw [hrun]
        exact ⟨.inl rfl, rfl⟩
    | some stop =>
        obtain ⟨rfl, same⟩ := settled width h number pos m stop hstop
        exact ⟨.inr rfl, same⟩
  · intro condition number pos m stop hstop
    exact (settled 0 (fixedWidth?_of_isZeroWidth condition) number pos m stop hstop).1
  · intro width h wide
    cases fixed : p.fixedWidth? with
    | none => rfl
    | some width' =>
        obtain ⟨same, fits⟩ := exactly width' fixed
        obtain rfl : width = width' := Option.some.inj (h.symm.trans same)
        omega
  · rintro parts rfl
    exact totalWidth?_eq_foldlM parts

/--
`((?=a|b).\D){2}` takes four characters of `axbyc` and leaves the one choice point that was there, its
condition takes none, and a line of four thousand million characters as often has no width.
-/
theorem fixed_width_taken_twice :
    let ahead : Pattern := .lookahead (.alternation (.literal 'a') (.literal 'b'))
    let p : Pattern := .loop (.group (.sequence [ahead, .anyChar, .negation .digit]) 1) 2 (some 2)
    let long : Pattern := .loop (.loop .anyChar (2 ^ 32) (some (2 ^ 32))) (2 ^ 32) (some (2 ^ 32))
    let s : Subject := { text := #['a', 'x', 'b', 'y', 'c'] }
    let m : Memory := Memory.suspend ∅ 9 1 0
    p.fixedWidth? = some 4 ∧ ((p.matcher s 0).run 0 m).stop? = some 4 ∧
      ((p.matcher s 0).run 1 m).stop? = none ∧
      ((p.matcher s 0).run 0 m).memory.points = m.points ∧
      ahead.isZeroWidth = true ∧ ((ahead.matcher s 0).run 2 m).stop? = some 2 ∧
      long.exactWidth? = some (2 ^ 64) ∧ long.fixedWidth? = none := by
  intro ahead p long s m
  have width : p.fixedWidth? = some 4 := by decide
  have condition : ahead.isZeroWidth = true := rfl
  have exactly : long.exactWidth? = some (2 ^ 64) := by decide
  have runs := (fixed_width_taken p s).1 4 width 0 0 m
  have none := (fixed_width_taken long s).2.2.2.1 _ exactly (by decide)
  have found : ((ahead.matcher s 0).run 2 m).stop? = some 2 := by decide
  have stays := (fixed_width_taken ahead s).2.1 condition 0 2 m 2 found
  refine ⟨width, ?_, by decide, runs.2, condition, ?_, exactly, none⟩
  · exact runs.1.resolve_left (by decide)
  · rw [found, stays]

end Pattern
end Rematch
