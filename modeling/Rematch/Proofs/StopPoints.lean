import Rematch.Proofs.FixedWidth
import Rematch.Proofs.Guided
import Rematch.Proofs.Repetition

/-!
# Where a loop can stop

A loop that matches leaves one choice of its own for each number of repetitions with which it could
have stopped. They lie between the points of the repetitions: what a repetition left lies above the
choice to stop before it and below the choice to stop after it.
-/

namespace Rematch
namespace Matcher

structure Stage where
  pos : Nat
  memory : Memory

namespace Stage

def stopPoint (stage : Stage) (number count : Nat) : ChoicePoint where
  owner := number
  position := stage.pos
  choice := count
  snapshot := stage.memory

def ownPoints (stage : Stage) (number min count : Nat) : List ChoicePoint :=
  if min ≤ count then [stage.stopPoint number count] else []

section Stages

variable (body : Matcher) (number min : Nat)

/--
The stage after one more repetition of a loop that has made `count` of them, if there is one. A
repetition must take a character.
-/
def next? (stage : Stage) (count : Nat) : Option Stage :=
  match body.run stage.pos (Lawful.beginning number min count stage.pos stage.memory) with
  | .failed _ => none
  | .matched stop m => if stop = stage.pos then none else some { pos := stop, memory := m }

def after? (first : Stage) : (count : Nat) → Option Stage
  | 0 => some first
  | count + 1 => (after? first count).bind fun stage => stage.next? body number min count

/-- With so many repetitions a loop has enough of them, and may not or cannot make another one. -/
structure Final (max : Option Nat) (times : Nat) (stage : Stage) : Prop where
  enough : min ≤ times
  allowed : ∀ most ∈ max, times ≤ most
  last : max = some times ∨ stage.next? body number min times = none

end Stages

variable {body : Matcher} {limit number min count : Nat} {max : Option Nat} {route : Route}
variable {stage next first : Stage}

theorem next?_eq_some_iff :
    stage.next? body number min count = some next ↔
      body.run stage.pos (Lawful.beginning number min count stage.pos stage.memory) =
        .matched next.pos next.memory ∧ next.pos ≠ stage.pos := by
  unfold next?
  cases body.run stage.pos (Lawful.beginning number min count stage.pos stage.memory) with
  | failed m => simp
  | matched stop m =>
      cases next with
      | mk pos memory =>
          simp only [Option.ite_none_left_eq_some, Option.some.injEq, mk.injEq, Outcome.matched.injEq]
          constructor
          · rintro ⟨moved, rfl, rfl⟩
            exact ⟨⟨rfl, rfl⟩, moved⟩
          · rintro ⟨⟨rfl, rfl⟩, moved⟩
            exact ⟨moved, rfl, rfl⟩

theorem points_beginning (number min count : Nat) (stage : Stage) :
    (Lawful.beginning number min count stage.pos stage.memory).points =
      stage.ownPoints number min count ++ stage.memory.points := by
  unfold Lawful.beginning ownPoints
  split <;> rfl

/-! ## One repetition -/

theorem pos_lt_of_next? (h : Guided limit route body) (inside : stage.pos ≤ limit)
    (found : stage.next? body number min count = some next) :
    stage.pos < next.pos ∧ next.pos ≤ limit := by
  obtain ⟨hrun, moved⟩ := next?_eq_some_iff.mp found
  have bounds := (h.run _ inside).stop_le (congrArg Outcome.stop? hrun)
  omega

/-- A repetition lays points of the body on the choice to stop before it. -/
theorem points_of_next? (h : Guided limit route body) (inside : stage.pos ≤ limit)
    (found : stage.next? body number min count = some next) :
    ∃ left, next.memory.points = left ++ stage.ownPoints number min count ++ stage.memory.points ∧
      ∀ point ∈ left, body.owns point = true := by
  have grown := (h.run (Lawful.beginning number min count stage.pos stage.memory) inside).grown
  rw [(next?_eq_some_iff.mp found).1, points_beginning] at grown
  obtain ⟨left, happend, owners⟩ := grown.exists_append
  refine ⟨left, ?_, fun point member => h.owns (owners point member).route⟩
  rw [List.append_assoc]
  exact happend

theorem next?_eq_none_of_end (h : Guided limit route body) (past : stage.pos = limit) :
    stage.next? body number min count = none := by
  cases found : stage.next? body number min count with
  | none => rfl
  | some next =>
      have bounds := pos_lt_of_next? h (Nat.le_of_eq past) found
      omega

/-! ## A run of a loop -/

theorem iterate_succ (body : Matcher) (number min : Nat) (max : Option Nat)
    (remaining count : Nat) (stage : Stage) :
    iterate body number min max (remaining + 1) count stage.pos stage.memory =
      if max.any (· ≤ count) then finish min count stage.pos stage.memory
      else
        ((stage.next? body number min count).map fun next =>
          iterate body number min max remaining (count + 1) next.pos next.memory).getD
          (finish min count stage.pos stage.memory) := by
  rw [iterate, next?]
  split
  · rfl
  · dsimp only [Lawful.beginning]
    cases body.run stage.pos ((if min ≤ count then stage.memory.suspend number stage.pos count
      else stage.memory).enterLoop number count stage.pos) with
    | failed m => rfl
    | matched stop m =>
        dsimp only
        split <;> rfl

/-- A loop that matches stops at a stage that it has reached. -/
theorem exists_final_of_iterate (h : Guided limit route body) (remaining : Nat) {stop : Nat}
    {m : Memory} (reached : first.after? body number min count = some stage)
    (allowed : ∀ most ∈ max, count ≤ most) (inside : stage.pos ≤ limit)
    (enough : limit - stage.pos ≤ remaining)
    (hrun : iterate body number min max remaining count stage.pos stage.memory = .matched stop m) :
    ∃ times, first.after? body number min times = some { pos := stop, memory := m } ∧
      Final body number min max times { pos := stop, memory := m } := by
  induction remaining generalizing count stage with
  | zero =>
      -- The rounds cover the rest of the text, so a loop that has none left stands at its end.
      obtain ⟨least, rfl, rfl⟩ := finish_eq_matched_iff.mp hrun
      have past : stage.pos = limit := by omega
      exact ⟨count, reached, least, allowed, .inr (next?_eq_none_of_end h past)⟩
  | succ remaining ih =>
      rw [iterate_succ] at hrun
      split at hrun
      · rename_i full
        obtain ⟨least, rfl, rfl⟩ := finish_eq_matched_iff.mp hrun
        have most : max = some count := by
          cases max with
          | none => contradiction
          | some most =>
              have few : most ≤ count := by simpa using full
              exact congrArg some (Nat.le_antisymm few (allowed most rfl))
        exact ⟨count, reached, least, allowed, .inl most⟩
      · rename_i room
        cases found : stage.next? body number min count with
        | none =>
            rw [found] at hrun
            obtain ⟨least, rfl, rfl⟩ := finish_eq_matched_iff.mp hrun
            exact ⟨count, reached, least, allowed, .inr found⟩
        | some next =>
            rw [found] at hrun
            have bounds := pos_lt_of_next? h inside found
            have reached' : first.after? body number min (count + 1) = some next := by
              rw [after?, reached]
              exact found
            refine ih reached' ?_ bounds.2 (by omega) hrun
            intro most hmost
            rw [Option.mem_def.mp hmost] at room
            exact Nat.lt_of_not_le (by simpa using room)

/-! ## The stages of a run -/

def Visits (body : Matcher) (number min : Nat) (first : Stage) (times : Nat)
    (stages : Nat → Stage) : Prop :=
  ∀ k ≤ times, first.after? body number min k = some (stages k)

theorem exists_visits {times : Nat} {last : Stage}
    (reached : first.after? body number min times = some last) :
    ∃ stages, Visits body number min first times stages := by
  induction times generalizing last with
  | zero => exact ⟨fun _ => first, fun k hk => by rw [Nat.le_zero.mp hk, after?]⟩
  | succ times ih =>
      obtain ⟨before, hbefore, _⟩ := Option.bind_eq_some_iff.mp reached
      obtain ⟨stages, visits⟩ := ih hbefore
      refine ⟨fun k => if k ≤ times then stages k else last, fun k hk => ?_⟩
      dsimp only
      by_cases earlier : k ≤ times
      · rw [if_pos earlier]
        exact visits k earlier
      · obtain rfl : k = times + 1 := by omega
        rw [if_neg earlier]
        exact reached

namespace Visits

variable {times k : Nat} {stages : Nat → Stage}

theorem zero (visits : Visits body number min first times stages) : stages 0 = first :=
  (Option.some.inj (visits 0 (Nat.zero_le times))).symm

theorem succ (visits : Visits body number min first times stages) (later : k < times) :
    (stages k).next? body number min k = some (stages (k + 1)) := by
  have step := visits (k + 1) later
  rw [after?, visits k (Nat.le_of_lt later)] at step
  exact step

theorem inside (visits : Visits body number min first times stages) (h : Guided limit route body)
    (begins : first.pos ≤ limit) (reached : k ≤ times) : (stages k).pos ≤ limit := by
  induction k with
  | zero =>
      rw [visits.zero]
      exact begins
  | succ k ih => exact (pos_lt_of_next? h (ih (Nat.le_of_lt reached)) (visits.succ reached)).2

theorem pos_lt (visits : Visits body number min first times stages) (h : Guided limit route body)
    (begins : first.pos ≤ limit) {j : Nat} (later : j < k) (reached : k ≤ times) :
    (stages j).pos < (stages k).pos := by
  induction k with
  | zero => exact absurd later (Nat.not_lt_zero j)
  | succ k ih =>
      have within := visits.inside h begins (Nat.le_of_lt reached)
      have step := (pos_lt_of_next? h within (visits.succ reached)).1
      rcases Nat.eq_or_lt_of_le (Nat.le_of_lt_succ later) with rfl | earlier
      · exact step
      · exact Nat.lt_trans (ih earlier (Nat.le_of_lt reached)) step

theorem points_succ (visits : Visits body number min first times stages)
    (h : Guided limit route body) (begins : first.pos ≤ limit) (later : k < times) :
    ∃ left, (stages (k + 1)).memory.points =
        left ++ (stages k).ownPoints number min k ++ (stages k).memory.points ∧
      ∀ point ∈ left, body.owns point = true :=
  points_of_next? h (visits.inside h begins (Nat.le_of_lt later)) (visits.succ later)

/-- All that is on the stack at a stage stays there in the stages after it. -/
theorem exists_above (visits : Visits body number min first times stages)
    (h : Guided limit route body) (begins : first.pos ≤ limit) {j : Nat} (earlier : j ≤ k)
    (reached : k ≤ times) :
    ∃ above, (stages k).memory.points = above ++ (stages j).memory.points := by
  induction k with
  | zero =>
      obtain rfl := Nat.le_zero.mp earlier
      exact ⟨[], rfl⟩
  | succ k ih =>
      rcases Nat.eq_or_lt_of_le earlier with rfl | before
      · exact ⟨[], rfl⟩
      · obtain ⟨above, habove⟩ := ih (Nat.le_of_lt_succ before) (Nat.le_of_lt reached)
        obtain ⟨left, hleft, _⟩ := visits.points_succ h begins reached
        refine ⟨left ++ (stages k).ownPoints number min k ++ above, ?_⟩
        rw [hleft, habove]
        simp only [List.append_assoc]

/-- The choice to stop at a stage is the first point that the loop lays on the stack there. -/
theorem above_getLast? (visits : Visits body number min first times stages)
    (h : Guided limit route body) (begins : first.pos ≤ limit) (enough : min ≤ k)
    (later : k < times) {above : List ChoicePoint}
    (habove : (stages times).memory.points = above ++ (stages k).memory.points) :
    above.getLast? = some ((stages k).stopPoint number k) := by
  obtain ⟨left, hleft, _⟩ := visits.points_succ h begins later
  obtain ⟨higher, hhigher⟩ := visits.exists_above h begins later (Nat.le_refl times)
  rw [hhigher, hleft, ownPoints, if_pos enough, ← List.append_assoc] at habove
  rw [← List.append_cancel_right habove]
  simp

/--
The points that a loop itself has left at a stage are the choices to stop at the stages before, as far
as they have enough repetitions.
-/
theorem own_points (visits : Visits body number min first times stages)
    (h : Guided limit route body) (hnumber : body.number = number + 1) (begins : first.pos ≤ limit)
    (reached : k ≤ times) :
    ∃ added, (stages k).memory.points = added ++ first.memory.points ∧
      added.reverse.filter (·.owner = number) =
        (List.range' min (k - min)).map fun i => (stages i).stopPoint number i := by
  induction k with
  | zero => exact ⟨[], by rw [visits.zero]; rfl, by simp⟩
  | succ k ih =>
      obtain ⟨added, hadded, owned⟩ := ih (Nat.le_of_lt reached)
      obtain ⟨left, hleft, owners⟩ := visits.points_succ h begins reached
      -- Operators in the body have higher numbers than the loop.
      have foreign : left.reverse.filter (·.owner = number) = [] := by
        rw [List.filter_eq_nil_iff]
        intro point member
        have bounds := (owns_iff body point).mp (owners point (List.mem_reverse.mp member))
        simp
        omega
      refine ⟨left ++ (stages k).ownPoints number min k ++ added, ?_, ?_⟩
      · rw [hleft, hadded]
        simp only [List.append_assoc]
      · rw [List.reverse_append, List.reverse_append, List.filter_append, List.filter_append,
          owned, foreign, List.append_nil, ownPoints]
        by_cases enough : min ≤ k
        · have range : List.range' min (k + 1 - min) = List.range' min (k - min) ++ [k] := by
            rw [Nat.succ_sub enough, List.range'_1_concat, Nat.add_sub_cancel' enough]
          rw [if_pos enough, range]
          simp [stopPoint]
        · have few : k + 1 - min = k - min := by omega
          rw [if_neg enough, few]
          simp

end Visits

end Stage

end Matcher

namespace Pattern

open Matcher

/-- A loop that matches has gone from stage to stage, and ends at the last of them. -/
theorem exists_visits_of_run {s : Subject} {number : Nat} {body : Pattern} {min : Nat}
    {max : Option Nat} {pos stop : Nat} {m after : Memory} (inside : pos ≤ s.size)
    (hrun : ((loop body min max).matcher s number).run pos m = .matched stop after) :
    ∃ (times : Nat) (stages : Nat → Stage),
      Stage.Visits (body.matcher s (number + 1)) number min { pos, memory := m } times stages ∧
      stages times = { pos := stop, memory := after } ∧
      Stage.Final (body.matcher s (number + 1)) number min max times (stages times) := by
  have guided := matcher_guided (Nat.le_refl s.size) (number + 1) body
  simp only [matcher, Matcher.loop] at hrun
  split at hrun
  · rename_i hiterate
    cases hrun
    have begun : Stage.after? (body.matcher s (number + 1)) number min { pos, memory := m } 0 =
        some { pos, memory := m } := rfl
    obtain ⟨times, reached, final⟩ := Stage.exists_final_of_iterate guided (s.size - pos) begun
      (fun most _ => Nat.zero_le most) inside (Nat.le_refl _) hiterate
    obtain ⟨stages, visits⟩ := Stage.exists_visits reached
    have last := visits times (Nat.le_refl times)
    rw [reached] at last
    have here := (Option.some.inj last).symm
    exact ⟨times, stages, visits, here, here ▸ final⟩
  · contradiction

/--
One choice to stop for each number of repetitions. A loop that matches has gone from stage to stage,
each of them further on in the text, and ends at the last one in the very memory that it reached there.
Of the points that it adds, its own are, from the oldest to the latest, the choices to stop at every
stage with enough repetitions but the last; each stands where its stage does and keeps the memory of
that stage. What a repetition leaves are points of operators in the body. They lie just above the choice
to stop before it, and just above them lies the choice to stop after it.
-/
theorem stop_point_per_count (s : Subject) (number : Nat) (body : Pattern) (min : Nat)
    (max : Option Nat) {pos stop : Nat} {m after : Memory} (inside : pos ≤ s.size)
    (hrun : ((loop body min max).matcher s number).run pos m = .matched stop after) :
    let repeated := body.matcher s (number + 1)
    ∃ (times : Nat) (stages : Nat → Stage),
      Stage.Visits repeated number min { pos, memory := m } times stages ∧
      stages times = { pos := stop, memory := after } ∧
      Stage.Final repeated number min max times (stages times) ∧
      (∀ j k, j < k → k ≤ times → (stages j).pos < (stages k).pos) ∧
      (∃ added, after.points = added ++ m.points ∧
        added.reverse.filter (·.owner = number) =
          (List.range' min (times - min)).map fun k => (stages k).stopPoint number k) ∧
      ∀ k < times, ∃ above left,
        after.points = above ++ (stages (k + 1)).memory.points ∧
        (min ≤ k + 1 → k + 1 < times →
          above.getLast? = some ((stages (k + 1)).stopPoint number (k + 1))) ∧
        (stages (k + 1)).memory.points =
          left ++ (if min ≤ k then [(stages k).stopPoint number k] else []) ++
            (stages k).memory.points ∧
        ∀ point ∈ left, ∃ route,
          (body.numberAt? route).map (number + 1 + ·) = some point.owner := by
  intro repeated
  have guided := matcher_guided (Nat.le_refl s.size) (number + 1) body
  have hnumber := matcher_number s (number + 1) body
  obtain ⟨times, stages, visits, last, final⟩ := exists_visits_of_run inside hrun
  have top : (stages times).memory.points = after.points := by rw [last]
  refine ⟨times, stages, visits, last, final,
    fun j k later within => visits.pos_lt guided inside later within, ?_, ?_⟩
  · rw [← top]
    exact visits.own_points guided hnumber inside (Nat.le_refl times)
  · intro k later
    obtain ⟨above, habove⟩ := visits.exists_above guided inside later (Nat.le_refl times)
    obtain ⟨left, hleft, owners⟩ := visits.points_succ guided inside later
    refine ⟨above, left, top ▸ habove, ?_, hleft,
      fun point member => exists_place_of_owns (owners point member)⟩
    intro enough more
    exact visits.above_getLast? guided inside enough more habove

/--
The loop of `(?:a|b)+` matches `ab` of `abx`, in a memory that already holds a choice of the same loop.
It could have stopped after `a`, and lays the choice to do so on the one left by `a`.
-/
theorem stop_point_per_count_letters :
    let body : Pattern := .alternation (.literal 'a') (.literal 'b')
    let s : Subject := { text := #['a', 'b', 'x'] }
    let m : Memory := Memory.suspend ∅ 0 3 9
    let outcome := ((loop body 1 none).matcher s 0).run 0 m
    outcome.stop? = some 2 ∧
      outcome.memory.points.map (fun point => (point.owner, point.position, point.choice)) =
        [(0, 1, 1), (1, 0, 0), (0, 3, 9)] ∧
      ∃ (times : Nat) (stages : Nat → Stage), stages times = { pos := 2, memory := outcome.memory } ∧
        ∃ added, outcome.memory.points = added ++ m.points ∧
          added.reverse.filter (·.owner = 0) =
            (List.range' 1 (times - 1)).map fun k => (stages k).stopPoint 0 k := by
  intro body s m outcome
  have hstop : outcome.stop? = some 2 := by decide
  have hrun := Outcome.eq_matched_of_stop? hstop
  obtain ⟨times, stages, _, last, _, _, own, _⟩ :=
    stop_point_per_count s 0 body 1 none (Nat.zero_le s.size) hrun
  exact ⟨hstop, by decide, times, stages, last, own⟩

end Pattern

end Rematch
