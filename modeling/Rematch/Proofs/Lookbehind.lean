import Rematch.Pattern.Error
import Rematch.Proofs.Enumeration
import Rematch.Proofs.FixedWidth

/-!
# Lookbehinds

A lookbehind tries a single start and asks for the first match from there. Its body has a fixed width,
so no other start and no later match could end at the same place.
-/

namespace Rematch

namespace Matcher

theorem Enumerates.eq_nil {root : Matcher} {depth : Nat} {m : Memory} {list : List Result}
    (h : root.Enumerates depth (.failed m) list) (low : m.depth ≤ depth) : list = [] := by
  cases h with
  | done _ => rfl
  | again high _ _ => omega

theorem Rigid.stop_of_enumerates {width pos : Nat} {c : Matcher} {m : Memory} {list : List Result}
    (rigid : c.Rigid width) (restores : c.Restores)
    (h : c.Enumerates m.depth (c.run pos m) list) :
    ∀ result ∈ list, (c.run pos m).stop? = some result.stop := by
  cases hrun : c.run pos m with
  | failed m' =>
      obtain rfl := restores hrun
      rw [hrun] at h
      rw [h.eq_nil (Nat.le_refl _)]
      exact fun _ member => nomatch member
  | matched stop m' =>
      have same : m'.depth = m.depth := congrArg List.length (rigid.of_run hrun).2
      rw [hrun] at h
      cases h with
      | found later =>
          rw [later.eq_nil (Nat.le_of_eq same)]
          intro result member
          rw [List.mem_singleton.mp member]
          rfl

end Matcher

namespace Pattern

/-- From some start the first match of the pattern ends at `pos`. -/
def EndsAt (s : Subject) (number : Nat) (p : Pattern) (m : Memory) (pos : Nat) : Prop :=
  ∃ start, start ≤ pos ∧ ((p.matcher s number).run start m).stop? = some pos

variable {body : Pattern} {width : Nat}

theorem endsAt_iff (h : body.fixedWidth? = some width) (s : Subject) (number : Nat) (m : Memory)
    (pos : Nat) : body.EndsAt s number m pos ↔
      width ≤ pos ∧ ((body.matcher s number).run (pos - width) m).stop? = some pos := by
  constructor
  · rintro ⟨start, _, hstop⟩
    have hrun := Outcome.eq_matched_of_stop? hstop
    have reached := ((matcher_rigid s number body h).of_run hrun).1
    have only : pos - width = start := by omega
    rw [only]
    exact ⟨by omega, hstop⟩
  · rintro ⟨_, hstop⟩
    exact ⟨pos - width, Nat.sub_le pos width, hstop⟩

section Runs

variable (s : Subject) (number pos : Nat) (m : Memory)

theorem run_lookbehind :
    ((lookbehind body width).matcher s number).run pos m =
      if pos < width then .failed m
      else
        match (body.matcher s (number + 1)).run (pos - width) m with
        | .failed _ => .failed m
        | .matched stop _ => if stop = pos then .matched pos m else .failed m := rfl

theorem run_lookbehind_of_endsAt (h : body.fixedWidth? = some width)
    (ends : body.EndsAt s (number + 1) m pos) :
    ((lookbehind body width).matcher s number).run pos m = .matched pos m := by
  obtain ⟨reach, hstop⟩ := (endsAt_iff h s (number + 1) m pos).mp ends
  rw [run_lookbehind, if_neg (Nat.not_lt.mpr reach), Outcome.eq_matched_of_stop? hstop]
  exact if_pos rfl

theorem run_lookbehind_of_not_endsAt (h : body.fixedWidth? = some width)
    (ends : ¬ body.EndsAt s (number + 1) m pos) :
    ((lookbehind body width).matcher s number).run pos m = .failed m := by
  rw [endsAt_iff h, not_and] at ends
  rw [run_lookbehind]
  split
  · rfl
  · rename_i reach
    have missed := ends (Nat.not_lt.mp reach)
    split
    · rfl
    · rename_i stop m' hrun
      rw [hrun] at missed
      exact if_neg fun meets => missed (congrArg some meets)

theorem run_lookbehind_iff (h : body.fixedWidth? = some width) :
    (((lookbehind body width).matcher s number).run pos m = .matched pos m ↔
      body.EndsAt s (number + 1) m pos) ∧
    (((lookbehind body width).matcher s number).run pos m = .failed m ↔
      ¬ body.EndsAt s (number + 1) m pos) := by
  by_cases ends : body.EndsAt s (number + 1) m pos
  · rw [run_lookbehind_of_endsAt s number pos m h ends]
    simp [ends]
  · rw [run_lookbehind_of_not_endsAt s number pos m h ends]
    simp [ends]

theorem run_negation_lookbehind :
    ((negation (lookbehind body width)).matcher s number).run pos m =
      match ((lookbehind body width).matcher s (number + 1)).run pos m with
      | .matched _ _ => .failed m
      | .failed _ => .matched pos m := rfl

theorem run_negation_lookbehind_iff (h : body.fixedWidth? = some width) :
    (((negation (lookbehind body width)).matcher s number).run pos m = .matched pos m ↔
      ¬ body.EndsAt s (number + 2) m pos) ∧
    (((negation (lookbehind body width)).matcher s number).run pos m = .failed m ↔
      body.EndsAt s (number + 2) m pos) := by
  rw [run_negation_lookbehind]
  by_cases ends : body.EndsAt s (number + 2) m pos
  · rw [run_lookbehind_of_endsAt s (number + 1) pos m h ends]
    simp [ends]
  · rw [run_lookbehind_of_not_endsAt s (number + 1) pos m h ends]
    simp [ends]

end Runs

/--
A lookbehind holds at a position if and only if its body, run in the same memory, ends there from some
start, and its negation holds if and only if there is no such start. Both leave the memory as it was.
From each start the body has no other results than the one found first, so trying one start and one
result misses nothing; before the width of the body there is plainly no match.
-/
theorem lookbehind_exact {body p : Pattern} (h : behind body = .ok p) (s : Subject)
    (number pos : Nat) (m : Memory) :
    ((p.matcher s number).run pos m = .matched pos m ↔ body.EndsAt s (number + 1) m pos) ∧
    ((p.matcher s number).run pos m = .failed m ↔ ¬ body.EndsAt s (number + 1) m pos) ∧
    ((p.negation.matcher s number).run pos m = .matched pos m ↔
      ¬ body.EndsAt s (number + 2) m pos) ∧
    ((p.negation.matcher s number).run pos m = .failed m ↔ body.EndsAt s (number + 2) m pos) ∧
    (∀ start list, (body.matcher s number).Enumerates m.depth
        ((body.matcher s number).run start m) list →
      ∀ result ∈ list, ((body.matcher s number).run start m).stop? = some result.stop) ∧
    (∀ width, body.fixedWidth? = some width → pos < width →
      (p.matcher s number).run pos m = .failed m) := by
  obtain ⟨width, fixed, rfl⟩ := Reader.behind_eq_ok_iff.mp h
  have positive := run_lookbehind_iff s number pos m fixed
  have negative := run_negation_lookbehind_iff s number pos m fixed
  refine ⟨positive.1, positive.2, negative.1, negative.2, ?_, ?_⟩
  · intro start list enumerates
    exact (matcher_rigid s number body fixed).stop_of_enumerates (matcher_restores s number body)
      enumerates
  · intro width' fixed' near
    obtain rfl : width' = width := Option.some.inj (fixed'.symm.trans fixed)
    exact if_pos near

/--
Of `xab1` the body `(?=a|b)(a)[^\d]` ends at 3 and nowhere else, in a memory with a choice point. At 1
there are too few characters before.
-/
theorem lookbehind_exact_group :
    let body : Pattern := .sequence [.lookahead (.alternation (.literal 'a') (.literal 'b')),
      .group (.literal 'a') 1, .negation (.charClass {} [.digit])]
    let p : Pattern := .lookbehind body 2
    let s : Subject := { text := #['x', 'a', 'b', '1'] }
    let m : Memory := Memory.suspend ∅ 9 1 0
    behind body = .ok p ∧ body.EndsAt s 1 m 3 ∧ (p.matcher s 0).run 3 m = .matched 3 m ∧
      ¬ body.EndsAt s 2 m 4 ∧ (p.negation.matcher s 0).run 4 m = .matched 4 m ∧
      (p.matcher s 0).run 1 m = .failed m := by
  intro body p s m
  have made : behind body = .ok p := by rfl
  have ends : body.EndsAt s 1 m 3 := ⟨1, by decide, by decide⟩
  have past : ¬ body.EndsAt s 2 m 4 := by
    rw [endsAt_iff (by decide : body.fixedWidth? = some 2)]
    decide
  have atThree := lookbehind_exact made s 0 3 m
  have atFour := lookbehind_exact made s 0 4 m
  have atOne := lookbehind_exact made s 0 1 m
  exact ⟨made, ends, atThree.1.mpr ends, past, atFour.2.2.1.mpr past,
    atOne.2.2.2.2.2 2 (by decide) (by decide)⟩

end Pattern
end Rematch
