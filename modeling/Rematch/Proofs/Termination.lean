import Rematch.Proofs.Leftmost
import Rematch.Proofs.Unbounded
import Rematch.Replace

/-!
# Termination

An attempt ends on every text, whatever its loops repeat, and so does everything that goes on in it.
What it leaves on the stack is used up after finitely many rounds. The loops around an attempt, again
taken without bounds, end as well.
-/

namespace Rematch

/-! ## The loops around an attempt -/

section Loops

open Activity (evaluate)

variable (p : Pattern) (s : Subject)

/-- How often the latest point is taken up until the stack is empty, nothing if it never is. -/
def Memory.unboundedRounds (m : Memory) : Option Nat :=
  match m.points with
  | [] => some 0
  | point :: _ => do
      let outcome ← evaluate s (.resume 0 p point point.snapshot)
      let further ← outcome.memory |>.unboundedRounds
      return further + 1
partial_fixpoint

/-- The memory after the latest point has been taken up in the memory that it keeps. -/
def Memory.takeUp (m : Memory) : Memory :=
  match m.points with
  | [] => m
  | point :: _ => ((p.matcher s 0).resume point point.snapshot).memory

def Outcome.unboundedRetry : Outcome → Option Outcome
  | .matched stop m => some (.matched stop m)
  | .failed m =>
      match m.points with
      | [] => some (.failed m)
      | point :: _ => do
          let outcome ← evaluate s (.resume 0 p point point.snapshot)
          outcome |>.unboundedRetry
partial_fixpoint

namespace Unbounded

def rounds (m : Memory) : Option Nat :=
  m.unboundedRounds p s

def matchAt (start : Nat) : Option (Option Match) :=
  if s.size < start then
    return none
  else do
    let outcome ← evaluate s (.run 0 p start ∅)
    match ← outcome.unboundedRetry p s with
    | .matched stop m => return some { start, stop, groups := m.captures }
    | .failed _ => return none

def search : Option (Option Match) :=
  (List.range (s.size + 1)).findSomeM? (matchAt p s)

end Unbounded

end Loops

/-! ## Loops over the matches -/

/-- A loop that has a step to make for every match, as soon as the match is found. -/
def Pattern.unboundedVisit {α : Type} (p : Pattern) (s : Subject) (step : α → Match → α) (done : α)
    (pos : Nat) : Option α :=
  if s.size < pos then
    return done
  else do
    match ← Unbounded.matchAt p s pos with
    | some m => p |>.unboundedVisit s step (step done m) (max m.stop (m.start + 1))
    | none => p |>.unboundedVisit s step done (pos + 1)
partial_fixpoint

/-- What a loop over the matches has put out, and where the last match ended. -/
structure Cursor (α : Type) where
  last : Nat := 0
  out : List α := []

namespace Subject

variable (s : Subject)

def replaceStep (replacement : Match → List Char) (done : Cursor Char) (m : Match) : Cursor Char :=
  if m.start < done.last then
    done
  else
    { last := m.stop, out := done.out ++ s.slice done.last m.start ++ replacement m }

def splitStep (done : Cursor (List Char)) (m : Match) : Cursor (List Char) :=
  if ¬ (m.start = m.stop ∧ m.start = done.last) ∧ m.start < done.last then
    done
  else
    { last := m.stop, out := done.out ++ [s.slice done.last m.start] }

end Subject

namespace Unbounded

variable (p : Pattern) (s : Subject)

def walk (pos : Nat) : Option (List Match) :=
  p.unboundedVisit s (fun found m => found ++ [m]) [] pos

def replaceWith (replacement : Match → List Char) : Option (List Char) := do
  let done ← p.unboundedVisit s (s.replaceStep replacement) {} 0
  return done.out ++ s.slice done.last s.size

def split : Option (List (List Char)) := do
  let done ← p.unboundedVisit s s.splitStep {} 0
  return done.out ++ [s.slice done.last s.size]

end Unbounded

/-! ## What goes on in an attempt -/

namespace Activity

variable {p : Pattern} {s : Subject} {start : Nat}

/-- Everything that goes on in an attempt ends, the drains within drains included. -/
theorem exists_evaluate_of_occurs {a : Activity} (h : p.Occurs s start a) :
    ∃ outcome, a.evaluate s = some outcome := by
  induction h with
  | run => exact ⟨_, (Pattern.evaluates s 0 p).run start ∅⟩
  | @round m below point _ _ => exact ⟨_, (Pattern.evaluates s 0 p).resume point point.snapshot⟩
  | @call a b _ calls ih =>
      cases b with
      | run number q pos m => exact ⟨_, (Pattern.evaluates s number q).run pos m⟩
      | runParts number parts pos m => exact ⟨_, (Pattern.partsEvaluate s number parts).run pos m⟩
      | iterate number body min max count pos m =>
          have body := Pattern.evaluates s (number + 1) body
          exact ⟨_, body.iterate min max (Nat.le_refl _) count m⟩
      | resume number q point m => exact ⟨_, (Pattern.evaluates s number q).resume point m⟩
      | resumeParts number parts point m =>
          exact ⟨_, (Pattern.partsEvaluate s number parts).resume point m⟩
      | drain number part rest entry m =>
          -- a drain is the last thing that another activity does, so it comes to the same
          obtain ⟨outcome, ended⟩ := ih
          refine ⟨outcome, ended ▸ ?_⟩
          have hpart := Pattern.evaluates s number part
          have hrest := Pattern.partsEvaluate s (number + part.operatorCount) rest
          cases calls with
          | drain hrun hran =>
              rw [evaluate, hpart.run, hrun]
              simp only [Option.bind_eq_bind, Option.bind_some, hrest.run, hran]
          | drainFailed takes hresume =>
              rw [hpart.evaluate_drain_next takes, hresume]
          | drainAgain takes hresume hran =>
              rw [hpart.evaluate_drain_next takes, hresume]
              simp only [hrest.run, Option.bind_some, hran]

end Activity

/-! ## The loops end -/

theorem matchesFrom_eq_nil {matchAt : Nat → Option Match} (steps : Nat) {pos : Nat}
    (h : ∀ start, pos ≤ start → matchAt start = none) : matchesFrom matchAt steps pos = [] := by
  induction steps generalizing pos with
  | zero => rfl
  | succ steps ih =>
      rw [matchesFrom, h pos (Nat.le_refl pos)]
      exact ih fun start after => h start (by omega)

namespace Unbounded

variable {p : Pattern} {s : Subject}

/-- A stack is used up after the rounds that its arrivals take. -/
theorem rounds_of_pending {entry : Memory} {stack : List ChoicePoint} {count : Nat}
    {arrivals : List Arrival} (h : (p.matcher s 0).Pending entry [] stack count arrivals)
    {m : Memory} (hstack : m.points = stack) : m.unboundedRounds p s = some count := by
  induction h generalizing m with
  | done =>
      rw [Memory.unboundedRounds, hstack]
  | dead _ hresume _ ih | live _ hresume _ _ ih =>
      rw [Memory.unboundedRounds, hstack]
      simp only [(Pattern.evaluates s 0 p).resume, hresume, Option.bind_eq_bind, Option.bind_some,
        Outcome.memory, ih rfl]
      rfl

theorem takeUp_of_points {m : Memory} {point : ChoicePoint} {below : List ChoicePoint}
    (hpoints : m.points = point :: below) :
    m.takeUp p s = ((p.matcher s 0).resume point point.snapshot).memory := by
  rw [Memory.takeUp, hpoints]

theorem unboundedRounds_of_points {m : Memory} {point : ChoicePoint} {below : List ChoicePoint}
    (hpoints : m.points = point :: below) :
    m.unboundedRounds p s = ((m.takeUp p s).unboundedRounds p s).map (· + 1) := by
  rw [Memory.unboundedRounds, hpoints, takeUp_of_points hpoints]
  simp only [(Pattern.evaluates s 0 p).resume, Option.bind_eq_bind, Option.bind_some,
    Option.map_eq_bind]
  rfl

/-- The rounds are counted right: after so many of them, and not before, the stack is empty. -/
theorem unboundedRounds_eq_some_iff {m : Memory} {count : Nat} :
    m.unboundedRounds p s = some count ↔
      ((Memory.takeUp p s)^[count] m).points = [] ∧
        ∀ k < count, ((Memory.takeUp p s)^[k] m).points ≠ [] := by
  induction count generalizing m with
  | zero =>
      cases hpoints : m.points with
      | nil =>
          rw [Memory.unboundedRounds, hpoints]
          simp [hpoints]
      | cons point below =>
          rw [unboundedRounds_of_points hpoints]
          simp [hpoints]
  | succ count ih =>
      cases hpoints : m.points with
      | nil =>
          rw [Memory.unboundedRounds, hpoints]
          refine iff_of_false (fun h => ?_) fun emptied => emptied.2 0 (Nat.zero_lt_succ count) hpoints
          exact Nat.succ_ne_zero count (Option.some.inj h).symm
      | cons point below =>
          have first : m.points ≠ [] := by
            rw [hpoints]
            exact List.cons_ne_nil point below
          rw [unboundedRounds_of_points hpoints, Option.map_eq_some_iff]
          simp only [Nat.add_right_cancel_iff, exists_eq_right, ih, Function.iterate_succ_apply]
          refine and_congr_right fun _ => ⟨fun later k hk => ?_, fun all k hk => ?_⟩
          · cases k with
            | zero => exact first
            | succ k => exact later k (Nat.lt_of_succ_lt_succ hk)
          · exact all (k + 1) (Nat.succ_lt_succ hk)

theorem exists_rounds_le (p : Pattern) (s : Subject) (start : Nat) :
    ∃ count ≤ 2 ^ ((p.matcher s 0).retries.base + (p.matcher s 0).retries.rate * (s.size - start)),
      rounds p s ((p.matcher s 0).run start ∅).memory = some count := by
  obtain ⟨count, yields, bound⟩ :=
    (Pattern.matcher_lawful s 0 p).yields _ (Nat.le_refl _) start ∅ ∅
  refine ⟨count, by omega, ?_⟩
  cases hrun : (p.matcher s 0).run start ∅ with
  | failed m =>
      rw [hrun] at yields
      exact rounds_of_pending yields rfl
  | matched stop m =>
      rw [hrun] at yields
      obtain ⟨others, _, _, pending⟩ := yields
      exact rounds_of_pending pending rfl

theorem matchAt_eq (p : Pattern) (s : Subject) (start : Nat) :
    matchAt p s start = some (p.matchAt s start) := by
  rw [matchAt]
  by_cases past : s.size < start
  · rw [if_pos past, p.matchAt_of_size_lt past]
    rfl
  · rw [if_neg past, (Pattern.evaluates s 0 p).run,
      Pattern.matchAt_eq_run p s (Nat.le_of_not_lt past)]
    cases hrun : (p.matcher s 0).run start ∅ with
    | matched stop m =>
        simp only [Outcome.unboundedRetry, Option.bind_eq_bind, Option.bind_some]
        rfl
    | failed m =>
        obtain rfl : m = ∅ := Pattern.matcher_restores s 0 p hrun
        simp only [Option.bind_eq_bind, Option.bind_some]
        rw [Outcome.unboundedRetry]
        rfl

theorem search_eq (p : Pattern) (s : Subject) : search p s = some (p.search s) := by
  rw [search, Pattern.search_eq_findSome?]
  induction List.range (s.size + 1) with
  | nil => rfl
  | cons start rest ih =>
      rw [List.findSomeM?, List.findSome?, matchAt_eq]
      cases p.matchAt s start with
      | none => exact ih
      | some m => rfl

theorem visit_eq {α : Type} (p : Pattern) (s : Subject) (step : α → Match → α) (done : α)
    {steps pos : Nat} (enough : s.size < pos + steps) :
    p.unboundedVisit s step done pos =
      some ((matchesFrom (p.matchAt s) steps pos).foldl step done) := by
  induction steps generalizing done pos with
  | zero =>
      rw [Pattern.unboundedVisit, if_pos (by omega)]
      rfl
  | succ steps ih =>
      rw [Pattern.unboundedVisit]
      by_cases past : s.size < pos
      · have none : ∀ start, pos ≤ start → p.matchAt s start = none := fun start after =>
          p.matchAt_of_size_lt (Nat.lt_of_lt_of_le past after)
        rw [if_pos past, matchesFrom_eq_nil _ none]
        rfl
      · rw [if_neg past, matchAt_eq, matchesFrom]
        cases hm : p.matchAt s pos with
        | none => exact ih done (by omega)
        | some m =>
            have begins : m.start = pos := (Pattern.matchAt_span hm).1
            exact ih (step done m) (by omega)

theorem visit_allMatches {α : Type} (p : Pattern) (s : Subject) (step : α → Match → α) (done : α) :
    p.unboundedVisit s step done 0 = some ((p.allMatches s).foldl step done) :=
  visit_eq p s step done (by omega)

theorem walk_eq (p : Pattern) (s : Subject) : walk p s 0 = some (p.allMatches s) := by
  rw [walk, visit_allMatches, List.foldl_append_eq_append, ← List.flatMap_def,
    List.flatMap_singleton', List.nil_append]

theorem foldl_replaceStep (s : Subject) (replacement : Match → List Char) (found : List Match)
    (done : Cursor Char) :
    let after := found.foldl (s.replaceStep replacement) done
    after.out ++ s.slice after.last s.size = done.out ++ s.replaceFrom replacement done.last found := by
  induction found generalizing done with
  | nil => rfl
  | cons m found ih =>
      dsimp only at ih ⊢
      rw [List.foldl_cons, ih, Subject.replaceFrom, Subject.replaceStep]
      split
      · rfl
      · simp only [List.append_assoc]

theorem foldl_splitStep (s : Subject) (found : List Match) (done : Cursor (List Char)) :
    let after := found.foldl s.splitStep done
    after.out ++ [s.slice after.last s.size] = done.out ++ s.piecesFrom done.last found := by
  induction found generalizing done with
  | nil => rfl
  | cons m found ih =>
      dsimp only at ih ⊢
      rw [List.foldl_cons, ih, Subject.piecesFrom, Subject.splitStep]
      split
      · rfl
      · rw [List.append_assoc, List.singleton_append]

theorem replaceWith_eq (p : Pattern) (s : Subject) (replacement : Match → List Char) :
    replaceWith p s replacement = some (p.replaceWith s replacement) := by
  rw [replaceWith, visit_allMatches]
  exact congrArg some (foldl_replaceStep s replacement _ {})

theorem split_eq (p : Pattern) (s : Subject) : split p s = some (p.split s) := by
  rw [split, visit_allMatches]
  exact congrArg some (foldl_splitStep s _ {})

end Unbounded

namespace Pattern

/--
Matching ends, for every pattern and on every text. A run in a fresh memory comes to an end, with
everything that goes on in an attempt, drains included; after it the latest point can be taken up only
a bounded number of times, and then the stack is empty. An attempt, a search, the walk over all matches,
replacing and splitting end with what they are said to.
-/
theorem matching_terminates (p : Pattern) (s : Subject) (start : Nat) :
    Activity.evaluate s (.run 0 p start ∅) = some ((p.matcher s 0).run start ∅) ∧
    (∀ a, p.Occurs s start a → ∃ outcome, a.evaluate s = some outcome) ∧
    (let left := ((p.matcher s 0).run start ∅).memory
      ∃ count ≤ 2 ^ ((p.matcher s 0).retries.base + (p.matcher s 0).retries.rate * (s.size - start)),
        Unbounded.rounds p s left = some count ∧
          ((Memory.takeUp p s)^[count] left).points = [] ∧
          ∀ k < count, ((Memory.takeUp p s)^[k] left).points ≠ []) ∧
    Unbounded.matchAt p s start = some (p.matchAt s start) ∧
    Unbounded.search p s = some (p.search s) ∧
    Unbounded.walk p s 0 = some (p.allMatches s) ∧
    (∀ replacement, Unbounded.replaceWith p s replacement = some (p.replaceWith s replacement)) ∧
    Unbounded.split p s = some (p.split s) := by
  obtain ⟨count, bound, rounds⟩ := Unbounded.exists_rounds_le p s start
  have emptied := Unbounded.unboundedRounds_eq_some_iff.mp rounds
  exact ⟨(evaluates s 0 p).run start ∅, fun a => Activity.exists_evaluate_of_occurs,
    ⟨count, bound, rounds, emptied⟩, Unbounded.matchAt_eq p s start, Unbounded.search_eq p s,
    Unbounded.walk_eq p s, Unbounded.replaceWith_eq p s, Unbounded.split_eq p s⟩

end Pattern
end Rematch
