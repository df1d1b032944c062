import Rematch.Session

/-!
# Failed runs

A run that fails gives back the memory it was given, whatever memory that was, and a condition gives
it back in any case. An attempt in a fresh memory therefore has no choice point left once its run has
failed, and there is nothing to retry.
-/

namespace Rematch

namespace Outcome

theorem stop?_eq_none_iff (outcome : Outcome) :
    outcome.stop? = none ↔ ∃ m, outcome = .failed m := by
  cases outcome with
  | matched stop m => simp [stop?]
  | failed m => simp [stop?]

theorem eq_matched_of_stop? {outcome : Outcome} {stop : Nat} (h : outcome.stop? = some stop) :
    outcome = .matched stop outcome.memory := by
  cases outcome with
  | matched stop' m =>
      cases h
      rfl
  | failed m => contradiction

end Outcome

namespace Matcher

/-- Gives back the memory it was given if it fails. -/
def Restores (c : Matcher) : Prop :=
  ∀ {pos : Nat} {m m' : Memory}, c.run pos m = .failed m' → m' = m

def Keeps (c : Matcher) : Prop :=
  ∀ (pos : Nat) (m : Memory), (c.run pos m).memory = m

theorem Keeps.restores {c : Matcher} (h : c.Keeps) : c.Restores := by
  intro pos m m' hrun
  have kept := h pos m
  rw [hrun] at kept
  exact kept

/-! ## Operators that undo their own work -/

theorem single_keeps (number : Nat) (stop? : Captures → Nat → Option Nat) :
    (single number stop?).Keeps := by
  intro pos m
  simp only [single]
  split <;> rfl

theorem drain_failed {part : Matcher} {rest : Nat → Memory → Outcome} {entry m m' : Memory}
    {rounds : Rounds} (h : drain part rest entry rounds m = .failed m') : m' = entry := by
  induction rounds generalizing m with
  | none =>
      cases h
      rfl
  | next rounds ih =>
      unfold drain at h
      split at h
      · cases h
        rfl
      · split at h
        · split at h
          · exact ih () h
          · split at h
            · exact ih () h
            · contradiction
        · cases h
          rfl

theorem runParts_failed {length : Nat} {parts : List Matcher} {pos : Nat} {m m' : Memory}
    (h : runParts length parts pos m = .failed m') : m' = m := by
  cases parts with
  | nil => contradiction
  | cons part rest =>
      unfold runParts at h
      split at h
      · cases h
        rfl
      · split at h
        · contradiction
        · exact drain_failed h

theorem sequence_restores (length number : Nat) (parts : List Matcher) :
    (sequence length number parts).Restores :=
  fun h => runParts_failed h

theorem alternation_restores (number : Nat) (left : Matcher) {right : Matcher}
    (h : right.Restores) : (alternation number left right).Restores := by
  intro pos m m' hrun
  simp only [alternation] at hrun
  split at hrun
  · contradiction
  · exact h hrun

theorem loop_restores (length number : Nat) (body : Matcher) (min : Nat) (max : Option Nat) :
    (loop length number body min max).Restores := by
  intro pos m m' hrun
  simp only [loop] at hrun
  split at hrun
  · contradiction
  · cases hrun
    rfl

theorem group_restores (number : Nat) (body : Matcher) (index : Nat) :
    (group number body index).Restores := by
  intro pos m m' hrun
  simp only [group] at hrun
  split at hrun
  · cases hrun
    rfl
  · contradiction

theorem atomic_restores (number : Nat) (body : Matcher) : (atomic number body).Restores := by
  intro pos m m' hrun
  simp only [atomic] at hrun
  split at hrun
  · cases hrun
    rfl
  · contradiction

/-! ## Conditions -/

theorem lookahead_keeps (number : Nat) (body : Matcher) : (lookahead number body).Keeps := by
  intro pos m
  simp only [lookahead]
  split <;> rfl

theorem lookbehind_keeps (number : Nat) (body : Matcher) (width : Nat) :
    (lookbehind number body width).Keeps := by
  intro pos m
  simp only [lookbehind]
  split
  · rfl
  · split
    · rfl
    · split <;> rfl

theorem negation_keeps (length number : Nat) (body : Matcher) (zeroWidth : Bool) :
    (negation length number body zeroWidth).Keeps := by
  intro pos m
  simp only [negation]
  split
  · rfl
  · split <;> rfl

end Matcher

namespace Session

theorem take_run_memory (session : Session) (pos : Nat) (place : Path) :
    ∃ memory, (session.take (.run pos place)).2 = { session with memory } := by
  simp only [take]
  split
  · exact ⟨_, rfl⟩
  · exact ⟨session.memory, rfl⟩

theorem take_resume_memory (session : Session) (place : Path) :
    ∃ memory, (session.take (.resume place)).2 = { session with memory } := by
  simp only [take]
  split
  · split
    · exact ⟨_, rfl⟩
    · exact ⟨session.memory, rfl⟩
  · exact ⟨session.memory, rfl⟩

end Session

namespace Pattern

def isCondition : Pattern → Bool
  | .lookahead _ | .lookbehind .. | .negation _ => true
  | _ => false

theorem matcher_restores (s : Subject) (number : Nat) :
    (p : Pattern) → (p.matcher s number).Restores
  | .alternation left right => by
      rw [matcher]
      exact Matcher.alternation_restores number _ (matcher_restores s _ right)
  | .sequence parts => Matcher.sequence_restores s.size number _
  | .loop body min max => Matcher.loop_restores s.size number _ min max
  | .group body index => Matcher.group_restores number _ index
  | .atomic body => Matcher.atomic_restores number _
  | .lookahead body => (Matcher.lookahead_keeps number _).restores
  | .lookbehind body width => (Matcher.lookbehind_keeps number _ width).restores
  | .negation body => (Matcher.negation_keeps s.size number _ _).restores
  | .empty | .literal _ | .anyChar | .digit | .word | .space | .charClass .. | .lineStart
  | .lineEnd | .wordEdge | .backreference _ => (Matcher.single_keeps number _).restores

theorem matcher_keeps {p : Pattern} (h : p.isCondition = true) (s : Subject) (number : Nat) :
    (p.matcher s number).Keeps := by
  cases p with
  | lookahead body => exact Matcher.lookahead_keeps number _
  | lookbehind body width => exact Matcher.lookbehind_keeps number _ width
  | negation body => exact Matcher.negation_keeps s.size number _ _
  | _ => simp [isCondition] at h

/-! ## Attempts -/

/-- A failed run in a fresh memory leaves no choice point to take up, however many rounds there are. -/
theorem retry_run (p : Pattern) (s : Subject) (start : Nat) (rounds : Rounds) :
    (p.matcher s 0).retry rounds ((p.matcher s 0).run start ∅) = (p.matcher s 0).run start ∅ := by
  cases hrun : (p.matcher s 0).run start ∅ with
  | matched stop m => cases rounds <;> rfl
  | failed m =>
      obtain rfl : m = ∅ := matcher_restores s 0 p hrun
      cases rounds <;> rfl

theorem matchAt_eq_run (p : Pattern) (s : Subject) {start : Nat} (h : start ≤ s.size) :
    p.matchAt s start =
      match (p.matcher s 0).run start ∅ with
      | .matched stop m => some { start, stop, groups := m.captures }
      | .failed _ => none := by
  have inside : ¬ s.size < start := Nat.not_lt.mpr h
  have attempted : (p.matcher s 0).attempt s.size start = (p.matcher s 0).run start ∅ :=
    retry_run p s start _
  show (if s.size < start then (none : Option Match) else
    match (p.matcher s 0).attempt s.size start with
    | .matched stop m => some { start, stop, groups := m.captures }
    | .failed _ => none) = _
  rw [if_neg inside, attempted]

/--
Failure leaves no trace: a failed run gives back the memory it was given, and a condition does so
even if it holds. A run or a resumption changes nothing but the memory, so the subject and the marked
start stay. After a run in a fresh memory there is thus nothing to retry, and an attempt at a position
is no more than that run.
-/
theorem failure_leaves_no_trace (p : Pattern) (s : Subject) :
    (∀ number pos m, ((p.matcher s number).run pos m).stop? = none →
      ((p.matcher s number).run pos m).memory = m) ∧
    (p.isCondition = true → ∀ number pos m, ((p.matcher s number).run pos m).memory = m) ∧
    (∀ (session : Session) pos place, ∃ memory,
      (session.take (.run pos place)).2 = { session with memory }) ∧
    (∀ (session : Session) place, ∃ memory,
      (session.take (.resume place)).2 = { session with memory }) ∧
    (∀ start rounds, (p.matcher s 0).retry rounds ((p.matcher s 0).run start ∅) =
      (p.matcher s 0).run start ∅) ∧
    (∀ start, start ≤ s.size → p.matchAt s start =
      match (p.matcher s 0).run start ∅ with
      | .matched stop m => some { start, stop, groups := m.captures }
      | .failed _ => none) := by
  refine ⟨?_, ?_, ?_, ?_, retry_run p s, fun start => matchAt_eq_run p s⟩
  · intro number pos m hstop
    obtain ⟨m', hrun⟩ := (Outcome.stop?_eq_none_iff _).mp hstop
    rw [hrun]
    exact matcher_restores s number p hrun
  · intro condition number
    exact matcher_keeps condition s number
  · intro session pos place
    exact Session.take_run_memory session pos place
  · intro session place
    exact Session.take_resume_memory session place

/-- Both branches of `(?:ab|ac)d` fail on `abx`, in a memory that already holds a choice point. -/
theorem failure_leaves_no_trace_branches :
    let p : Pattern := .sequence
      [.alternation (.sequence [.literal 'a', .literal 'b']) (.sequence [.literal 'a', .literal 'c']),
        .literal 'd']
    let s : Subject := { text := #['a', 'b', 'x'] }
    let m : Memory := Memory.suspend ∅ 7 2 1
    ((p.matcher s 0).run 0 m).stop? = none ∧ ((p.matcher s 0).run 0 m).memory = m :=
  ⟨by decide, (failure_leaves_no_trace _ _).1 0 0 _ (by decide)⟩

end Pattern

end Rematch
