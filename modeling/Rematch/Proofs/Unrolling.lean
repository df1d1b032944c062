import Rematch.Proofs.Lookbehind
import Rematch.Proofs.Places
import Rematch.Proofs.Reshaping

/-!
# Unrolling repetitions

A repetition whose body always takes a character is its body once and the rest of the repetition after
it, in the same order of preference: what a further repetition can lead to is tried first, and to stop
comes last.
-/

namespace Rematch

namespace Result

variable {s : Subject} {captures : Captures} {pos : Nat}
variable {body : Captures → Nat → List Result} {min : Nat} {max : Option Nat}

/-! ## Bodies that take characters -/

/-- Whatever begins at a place that is reached ends further on in the text. -/
def Consumes (s : Subject) (body : Captures → Nat → List Result) : Prop :=
  ∀ captures pos, s.Contains captures pos → ∀ result ∈ body captures pos,
    pos < result.stop ∧ s.Contains result.captures result.stop

theorem Leads.consumes (leads : Leads s body) (taken : ∀ captures pos, s.Contains captures pos →
    ∀ result ∈ body captures pos, result.stop ≠ pos) : Consumes s body := by
  intro captures pos inside result member
  have ahead := leads captures pos inside result member
  have moves := taken captures pos inside result member
  exact ⟨Nat.lt_of_le_of_ne ahead.forward moves.symm, ahead.inside⟩

namespace Consumes

theorem eq_nil (h : Consumes s body) (inside : s.Contains captures pos) (atEnd : s.size ≤ pos) :
    body captures pos = [] := by
  refine List.eq_nil_iff_forall_not_mem.mpr fun result member => ?_
  obtain ⟨further, inside'⟩ := h captures pos inside result member
  have position := inside'.position
  omega

/-- A body that takes characters never makes a loop stop early. -/
theorem iterate_succ (h : Consumes s body) (inside : s.Contains captures pos)
    (remaining count : Nat) :
    iterate body min max (remaining + 1) count captures pos =
      if max.any (· ≤ count) then ofCount min count pos captures
      else
        ((body captures pos).flatMap fun result =>
          iterate body min max remaining (count + 1) result.captures result.stop) ++
          ofCount min count pos captures := by
  rw [iterate]
  refine ite_congr rfl (fun _ => rfl) fun _ => ?_
  cases hbody : body captures pos with
  | nil => rfl
  | cons first others =>
      have moves : ∀ result ∈ first :: others, result.stop ≠ pos := fun result member =>
        Nat.ne_of_gt (h captures pos inside result (hbody ▸ member)).1
      simp only [if_neg (moves first List.mem_cons_self)]
      refine congrArg (· ++ _) (List.flatMap_congr fun result member => ?_)
      rw [if_neg (moves result member)]

theorem iterate_at_end (h : Consumes s body) (inside : s.Contains captures pos)
    (atEnd : s.size ≤ pos) (remaining count : Nat) :
    iterate body min max remaining count captures pos = ofCount min count pos captures := by
  cases remaining with
  | zero => rfl
  | succ remaining =>
      rw [h.iterate_succ inside, h.eq_nil inside atEnd]
      exact ite_self _

/-- Rounds beyond the characters that are left make no difference. -/
theorem iterate_stable (h : Consumes s body) {remaining remaining' : Nat} (count : Nat)
    (inside : s.Contains captures pos) (enough : s.size - pos ≤ remaining)
    (enough' : s.size - pos ≤ remaining') :
    iterate body min max remaining count captures pos =
      iterate body min max remaining' count captures pos := by
  induction remaining generalizing remaining' count captures pos with
  | zero =>
      have atEnd : s.size ≤ pos := by omega
      rw [h.iterate_at_end inside atEnd, h.iterate_at_end inside atEnd]
  | succ remaining ih =>
      cases remaining' with
      | zero =>
          have atEnd : s.size ≤ pos := by omega
          rw [h.iterate_at_end inside atEnd, h.iterate_at_end inside atEnd]
      | succ remaining' =>
          rw [h.iterate_succ inside, h.iterate_succ inside]
          refine ite_congr rfl (fun _ => rfl) fun _ => ?_
          refine congrArg (· ++ _) (List.flatMap_congr fun result member => ?_)
          -- one round is spent on one character at least
          obtain ⟨further, inside'⟩ := h captures pos inside result member
          exact ih (count + 1) inside' (by omega) (by omega)

theorem iterate_step (h : Consumes s body) (inside : s.Contains captures pos) (count : Nat) :
    iterate body min max (s.size - pos) count captures pos =
      if max.any (· ≤ count) then ofCount min count pos captures
      else
        ((body captures pos).flatMap fun result =>
          iterate body min max (s.size - result.stop) (count + 1) result.captures result.stop) ++
          ofCount min count pos captures := by
  rw [h.iterate_stable count inside (Nat.le_refl _) (Nat.le_succ _), h.iterate_succ inside]
  refine ite_congr rfl (fun _ => rfl) fun _ => ?_
  refine congrArg (· ++ _) (List.flatMap_congr fun result member => ?_)
  obtain ⟨further, inside'⟩ := h captures pos inside result member
  exact h.iterate_stable (count + 1) inside' (by omega) (Nat.le_refl _)

end Consumes

theorem ofCount_of_le {count : Nat} (enough : min ≤ count) :
    ofCount min count pos captures = [{ stop := pos, captures }] :=
  if_neg (Nat.not_lt.mpr enough)

theorem iterate_of_le (body : Captures → Nat → List Result) {min min' count count' : Nat}
    (enough : min ≤ count) (enough' : min' ≤ count') (remaining : Nat) (captures : Captures)
    (pos : Nat) :
    iterate body min none remaining count captures pos =
      iterate body min' none remaining count' captures pos := by
  induction remaining generalizing count count' captures pos with
  | zero => exact (ofCount_of_le enough).trans (ofCount_of_le enough').symm
  | succ remaining ih =>
      have onward := ih (Nat.le_succ_of_le enough) (Nat.le_succ_of_le enough')
      rw [iterate, iterate, ofCount_of_le enough, ofCount_of_le enough']
      simp only [onward, Option.any_none]

theorem le_preferredCount (body : Captures → Nat → List Result) (max : Option Nat)
    (remaining count : Nat) (captures : Captures) (pos : Nat) :
    count ≤ preferredCount body max remaining count captures pos := by
  induction remaining generalizing count captures pos with
  | zero => exact Nat.le_refl count
  | succ remaining ih =>
      unfold preferredCount
      split
      · exact Nat.le_refl count
      · split
        · exact Nat.le_refl count
        · split
          · exact Nat.le_refl count
          · exact Nat.le_trans (Nat.le_succ count) (ih _ _ _)

theorem Consumes.one_le_preferredCount (h : Consumes s body) (inside : s.Contains captures pos)
    (begins : body captures pos ≠ []) :
    1 ≤ preferredCount body none (s.size - pos) 0 captures pos := by
  have room : pos < s.size := Nat.lt_of_not_le fun atEnd => begins (h.eq_nil inside atEnd)
  obtain ⟨remaining, hroom⟩ : ∃ remaining, s.size - pos = remaining + 1 :=
    Nat.exists_eq_succ_of_ne_zero (by omega)
  obtain ⟨first, others, hbody⟩ := List.exists_cons_of_ne_nil begins
  have moves := Nat.ne_of_gt (h captures pos inside first (hbody ▸ List.mem_cons_self)).1
  rw [hroom, preferredCount, hbody]
  simp only [Option.any_none, if_neg moves]
  exact le_preferredCount body none remaining 1 first.captures first.stop

end Result

namespace Pattern

open Result

variable {s : Subject} {c : Pattern} {captures : Captures} {pos : Nat}

/-! ## Repetitions -/

/-- No run of a pattern in the text, and nothing taken up after it, ends where the run began. -/
def NeverEmpty (s : Subject) (c : Pattern) : Prop :=
  ∀ number pos m list, s.Contains m.captures pos →
    (c.matcher s number).Enumerates m.depth ((c.matcher s number).run pos m) list →
      ∀ result ∈ list, result.stop ≠ pos

theorem neverEmpty_iff (apart : c.groupsApart = true) :
    c.NeverEmpty s ↔ ∀ captures pos, s.Contains captures pos →
      ∀ result ∈ c.results s captures pos, result.stop ≠ pos := by
  constructor
  · intro h captures pos inside
    have enumerates := (run_enumerates_iff apart s 0 pos { captures } _).mpr rfl
    exact h 0 pos { captures } _ inside enumerates
  · intro h number pos m list inside enumerates
    obtain rfl := (run_enumerates_iff apart s number pos m list).mp enumerates
    exact h m.captures pos inside

theorem neverEmpty_of_fixedWidth? {width : Nat} (h : c.fixedWidth? = some (width + 1)) :
    c.NeverEmpty s := by
  intro number pos m list _ enumerates result member
  have rigid := matcher_rigid s number c h
  have found := rigid.stop_of_enumerates (matcher_restores s number c) enumerates result member
  have reached := (rigid.of_run (Outcome.eq_matched_of_stop? found)).1
  omega

theorem NeverEmpty.consumes (h : c.NeverEmpty s) (apart : c.groupsApart = true) :
    Consumes s (c.results s) :=
  (leads_results s c).consumes ((neverEmpty_iff apart).mp h)

/-- A loop without a limit goes on like a star once it has made enough repetitions. -/
theorem iterate_eq_results_star {min count : Nat} (enough : min ≤ count) :
    iterate (c.results s) min none (s.size - pos) count captures pos =
      (star c).results s captures pos := by
  rw [star, results, if_neg (Nat.not_lt_zero _)]
  exact iterate_of_le _ enough (Nat.le_refl 0) _ _ _

theorem results_sequence_star :
    (sequence [c, star c]).results s captures pos =
      (c.results s captures pos).flatMap fun result =>
        (star c).results s result.captures result.stop := by
  rw [results, partResults]
  simp only [Branches.partResults_singleton]

theorem results_star_unrolled (h : Consumes s (c.results s)) (inside : s.Contains captures pos) :
    (star c).results s captures pos =
      (alternation (sequence [c, star c]) .empty).results s captures pos := by
  rw [← iterate_eq_results_star (Nat.le_refl 0), h.iterate_step inside]
  simp only [iterate_eq_results_star (Nat.zero_le 1), Option.any_none]
  rw [results, results_sequence_star]
  rfl

theorem results_plus_unrolled (h : Consumes s (c.results s)) (inside : s.Contains captures pos) :
    (plus c).results s captures pos = (sequence [c, star c]).results s captures pos := by
  rw [results_sequence_star, plus, results, h.iterate_step inside]
  by_cases stuck : c.results s captures pos = []
  · rw [stuck]
    exact ite_self _
  · have made := h.one_le_preferredCount inside stuck
    rw [if_neg (Nat.not_lt.mpr made)]
    simp only [iterate_eq_results_star (Nat.le_refl 1)]
    exact List.append_nil _

theorem results_optional_unrolled (h : Consumes s (c.results s))
    (inside : s.Contains captures pos) :
    (optional c).results s captures pos = (alternation c .empty).results s captures pos := by
  have stops : ∀ result ∈ c.results s captures pos,
      iterate (c.results s) 0 (some 1) (s.size - result.stop) 1 result.captures result.stop =
        [result] := by
    intro result member
    rw [h.iterate_step (h captures pos inside result member).2]
    rfl
  rw [optional, results, results, if_neg (Nat.not_lt_zero _), h.iterate_step inside]
  show (c.results s captures pos).flatMap _ ++ _ = _
  rw [List.flatMap_congr stops, List.flatMap_singleton']
  rfl

/-! ## Unrolling -/

inductive Unrolls (c : Pattern) : Pattern → Pattern → Prop
  | plus : Unrolls c (plus c) (.sequence [c, star c])
  | optional : Unrolls c (optional c) (.alternation c .empty)
  | star : Unrolls c (star c) (.alternation (.sequence [c, star c]) .empty)

theorem Unrolls.standsFor (never : c.NeverEmpty s) {p q : Pattern} (h : Unrolls c p q) :
    StandsFor s q p := by
  cases h with
  | plus =>
      exact {
        results := fun apart _ _ inside => results_plus_unrolled (never.consumes apart) inside
        specialHolds := fun _ _ => rfl
        isZeroWidth := rfl
        groupNumbers := fun index => by
          simp [Pattern.plus, Pattern.star, groupNumbers, partGroupNumbers]
        groupsApart := by simp [Pattern.plus, Pattern.star, groupsApart, partsApart] }
  | optional =>
      exact {
        results := fun apart _ _ inside => results_optional_unrolled (never.consumes apart) inside
        specialHolds := fun _ _ => rfl
        isZeroWidth := rfl
        groupNumbers := fun index => by simp [Pattern.optional, groupNumbers]
        groupsApart := by simp [Pattern.optional, groupsApart] }
  | star =>
      exact {
        results := fun apart _ _ inside => results_star_unrolled (never.consumes apart) inside
        specialHolds := fun _ _ => rfl
        isZeroWidth := rfl
        groupNumbers := fun index => by simp [Pattern.star, groupNumbers, partGroupNumbers]
        groupsApart := by simp [Pattern.star, groupsApart, partsApart] }

/--
Anywhere in a pattern in which no group lies below another of its number, `c+` can be written `cc*`,
`c?` as `c` or nothing and `c*` as `cc*` or nothing, if `c` never matches the empty text. All answers
stay the same, and so do the ways to match that are left for later, in their order.
-/
theorem answersAlike_of_unrolls {p q : Pattern} (h : Somewhere (Unrolls c) p q)
    (never : c.NeverEmpty s) (apart : p.groupsApart = true) :
    AnswersAlike s p q ∧ ∀ number pos m list, s.Contains m.captures pos →
      ((p.matcher s number).Enumerates m.depth ((p.matcher s number).run pos m) list ↔
        (q.matcher s number).Enumerates m.depth ((q.matcher s number).run pos m) list) := by
  have stands : StandsFor s q p := h.standsFor fun _ _ unrolls => unrolls.standsFor never
  refine ⟨.of_matchAt (stands.matchAt apart).symm, fun number pos m list inside => ?_⟩
  rw [run_enumerates_iff apart, run_enumerates_iff (stands.groupsApart.trans apart),
    stands.results apart m.captures pos inside]

/--
On `aabc` the pattern `((\w)+)b` gives up two of its four repetitions, and `((\w)(\w)*)b` finds the
same.
-/
theorem answersAlike_of_unrolls_word :
    let c : Pattern := .group .word 2
    let p : Pattern := .sequence [.group (plus c) 1, .literal 'b']
    let q : Pattern := .sequence [.group (.sequence [c, star c]) 1, .literal 'b']
    let s : Subject := { text := #['a', 'a', 'b', 'c'] }
    let found : Match :=
      { start := 0, stop := 3, groups := ((∅ : Captures).insert 2 ⟨1, 2⟩).insert 1 ⟨0, 2⟩ }
    Somewhere (Unrolls c) p q ∧ c.NeverEmpty s ∧ p.groupsApart = true ∧
      p.matchAt s 0 = some found ∧ q.matchAt s 0 = some found := by
  intro c p q s found
  have changed : Somewhere (Unrolls c) p q := .part [] [.literal 'b'] (.group 1 (.here .plus))
  have never : c.NeverEmpty s := neverEmpty_of_fixedWidth? rfl
  have apart : p.groupsApart = true := by decide
  have here : p.matchAt s 0 = some found := by rfl
  have alike := (answersAlike_of_unrolls changed never apart).1
  exact ⟨changed, never, apart, here, (alike.matchAt 0).symm.trans here⟩

end Pattern
end Rematch
