import Rematch.Proofs.Lawful

/-!
# Repetitions

A loop leaves the points of its repetitions interleaved with its own, and takes a point of a
repetition up by going on to the repetitions after it. What it yields is found by induction on the
text that is left: every repetition that counts takes a character.
-/

namespace Rematch

namespace Arrival

variable {length : Nat} {arrive : Marks → (pos : Nat) → List Arrival}
variable {min : Nat} {most : Option Nat}

theorem weight_ofCount_le (length rate min count pos : Nat) (marks : Marks) (origin : GroupStarts) :
    weight length rate (ofCount min count pos marks origin) ≤ 2 ^ (rate * (length - pos)) := by
  unfold ofCount
  split <;> simp

theorem blocked_end (advances : Advances length arrive) {pos : Nat} (h : length ≤ pos)
    (most : Option Nat) (count : Nat) (marks : Marks) : Blocked arrive most count marks pos := by
  refine .inr ?_
  intro first found
  have bounds := advances marks pos first (List.mem_of_head? found)
  omega

theorem iterate_advances (advances : Advances length arrive) (remaining count : Nat)
    (origin : GroupStarts) (marks : Marks) (pos : Nat) :
    ∀ a ∈ iterate arrive min most remaining count origin marks pos,
      pos ≤ a.stop ∧ a.stop ≤ max pos length := by
  refine @forall_mem_iterate _ _ _ _ _ _ _ _ (fun a => pos ≤ a.stop ∧ a.stop ≤ max pos length)
    (fun ahead => ahead) ?_ ⟨Nat.le_refl pos, Nat.le_max_left pos length⟩
  intro between marks origin ahead a member
  have reach := advances marks between a member
  dsimp only at ahead ⊢
  omega

/-- The rounds allowed for what follows a repetition; one that takes no character is followed by none. -/
def price (length base rate pos : Nat) (a : Arrival) : Nat :=
  if a.stop = pos then 0 else 2 ^ (base + 3 + rate * (length - a.stop))

theorem sum_price_le {length pos : Nat} (inside : pos < length) (base rate : Nat)
    {arrivals : List Arrival} (reach : ∀ a ∈ arrivals, pos ≤ a.stop ∧ a.stop ≤ max pos length) :
    (arrivals.map (price length base (base + 1 + rate) pos)).sum ≤
      2 ^ (base + 3 + (base + 1) * (length - pos - 1)) * weight length rate arrivals := by
  induction arrivals with
  | nil => simp
  | cons a arrivals ih =>
      have bounds := reach a List.mem_cons_self
      have later := ih fun b hb => reach b (List.mem_cons_of_mem a hb)
      have here : price length base (base + 1 + rate) pos a ≤
          2 ^ (base + 3 + (base + 1) * (length - pos - 1)) * 2 ^ (rate * (length - a.stop)) := by
        unfold price
        by_cases stays : a.stop = pos
        · rw [if_pos stays]
          exact Nat.zero_le _
        · rw [if_neg stays, ← Nat.pow_add]
          have fewer : (base + 1) * (length - a.stop) ≤ (base + 1) * (length - pos - 1) :=
            Nat.mul_le_mul_left _ (by omega)
          refine Nat.pow_le_pow_right (by decide) ?_
          rw [Nat.add_mul (base + 1) rate]
          omega
      rw [List.map_cons, List.sum_cons, weight_cons, Nat.mul_add]
      omega

theorem room_for_repetition {length pos rounds base rate : Nat} (inside : pos < length)
    {arrivals : List Arrival} (reach : ∀ a ∈ arrivals, pos ≤ a.stop ∧ a.stop ≤ max pos length)
    (bound : rounds + weight length rate arrivals ≤ 2 ^ (base + rate * (length - pos))) :
    rounds + (arrivals.map (price length base (base + 1 + rate) pos)).sum +
        2 * 2 ^ ((base + 1 + rate) * (length - pos)) ≤
      2 ^ (base + 3 + (base + 1 + rate) * (length - pos)) := by
  have prices := sum_price_le inside base rate reach
  have least : 0 < 2 ^ (base + 3 + (base + 1) * (length - pos - 1)) := Nat.two_pow_pos _
  have scaled := Nat.mul_le_mul_left (2 ^ (base + 3 + (base + 1) * (length - pos - 1))) bound
  have rounds_le := Nat.le_mul_of_pos_left rounds least
  rw [Nat.mul_add, ← Nat.pow_add] at scaled
  have split : (base + 1 + rate) * (length - pos) =
      (base + 1) * (length - pos - 1) + (base + 1) + rate * (length - pos) := by
    rw [Nat.add_mul (base + 1) rate, ← Nat.mul_succ, Nat.succ_eq_add_one,
      Nat.sub_add_cancel (by omega)]
  have half : 2 ^ (base + 3 + (base + 1) * (length - pos - 1) + (base + rate * (length - pos))) =
      2 ^ (base + 2 + (base + 1 + rate) * (length - pos)) := by
    congr 1
    omega
  have own : 2 * 2 ^ ((base + 1 + rate) * (length - pos)) ≤
      2 ^ (base + 2 + (base + 1 + rate) * (length - pos)) := by
    rw [← Nat.pow_succ']
    exact Nat.pow_le_pow_right (by decide) (by omega)
  have whole : 2 ^ (base + 3 + (base + 1 + rate) * (length - pos)) =
      2 * 2 ^ (base + 2 + (base + 1 + rate) * (length - pos)) := by
    rw [← Nat.pow_succ']
    congr 1
    omega
  rw [half] at scaled
  omega

end Arrival

namespace Matcher

namespace Lawful

variable {length number : Nat} {body : Matcher} {arrive : Marks → (pos : Nat) → List Arrival}
variable {min : Nat} {most : Option Nat}

theorem finish_yields (c : Matcher) (min count pos : Nat) (m : Memory) (origin : GroupStarts) :
    c.Yields m m.points origin (finish min count pos m) 0
      (Arrival.ofCount min count pos m.marks origin) := by
  unfold finish Arrival.ofCount
  split
  · exact .done
  · exact ⟨[], rfl, Confined.refl c m, .done⟩

theorem finish_yields_within (c : Matcher) (length base rate min count pos : Nat) (m : Memory)
    (origin : GroupStarts) :
    ∃ rounds, c.Yields m m.points origin (finish min count pos m) rounds
        (Arrival.ofCount min count pos m.marks origin) ∧
      rounds + Arrival.weight length rate (Arrival.ofCount min count pos m.marks origin) ≤
        2 ^ (base + rate * (length - pos)) := by
  have weight := Arrival.weight_ofCount_le length rate min count pos m.marks origin
  have room : 2 ^ (rate * (length - pos)) ≤ 2 ^ (base + rate * (length - pos)) :=
    Nat.pow_le_pow_right (by decide) (Nat.le_add_left _ _)
  exact ⟨0, finish_yields c min count pos m origin, by omega⟩

theorem iterate_end (h : Lawful length body arrive) {pos : Nat} (past : length ≤ pos)
    (remaining count : Nat) (m : Memory) :
    iterate body number min most remaining count pos m = finish min count pos m := by
  unfold iterate
  split
  · rfl
  · split
    · rfl
    · dsimp only
      split
      · rfl
      · rename_i stop m' hrun
        have bounds := h.stop_bounds hrun
        have stays : stop = pos := by omega
        rw [if_pos stays]

theorem iterate_failed_iff (h : Lawful length body arrive) (number min : Nat) (most : Option Nat)
    (remaining count pos : Nat) (m : Memory) :
    (∃ m', iterate body number min most remaining count pos m = .failed m') ↔
      Arrival.preferredCount arrive most remaining count m.marks pos < min := by
  have finished : ∀ count pos (m : Memory), (∃ m', finish min count pos m = .failed m') ↔
      count < min := by
    intro count pos m
    unfold finish
    split <;> simp [*]
  induction remaining generalizing count pos m with
  | zero => exact finished count pos m
  | succ remaining ih =>
      unfold iterate Arrival.preferredCount
      split
      · exact finished count pos m
      · let entered :=
          (if min ≤ count then m.suspend number pos count else m).enterLoop number count pos
        have marks : entered.marks = m.marks := by
          simp only [entered]
          split <;> rfl
        dsimp only
        cases hrun : body.run pos entered with
        | failed m' =>
            have none := h.eq_nil_of_failed hrun
            rw [marks] at none
            rw [none]
            exact finished count pos m
        | matched next m' =>
            obtain ⟨origin, others, hlist⟩ := h.eq_cons_of_matched hrun
            rw [marks] at hlist
            rw [hlist]
            dsimp only
            split
            · exact finished count pos m
            · exact ih (count + 1) next m'

/-! ## One repetition and what follows it -/

section Loops

/-- The memory in which a loop begins a repetition, having left the choice to end before it. -/
def beginning (number min count pos : Nat) (m : Memory) : Memory :=
  (if min ≤ count then m.suspend number pos count else m).enterLoop number count pos

@[simp] theorem marks_beginning (count pos : Nat) (m : Memory) :
    (beginning number min count pos m).marks = m.marks := by
  unfold beginning
  split <;> rfl

theorem beginning_pending (length number : Nat) (body : Matcher) (min : Nat) (most : Option Nat)
    (count pos : Nat) (m : Memory) :
    ∃ own, (Matcher.loop length number body min most).Pending m m.points
        (beginning number min count pos m).points own
        (Arrival.ofCount min count pos m.marks m.groupStarts) ∧ own ≤ 1 := by
  unfold beginning Arrival.ofCount
  by_cases enough : min ≤ count
  · rw [if_pos enough, if_neg (Nat.not_lt.mpr enough)]
    refine ⟨1, .step ⟨loop_owns_self length body min most rfl, rfl, List.suffix_refl _,
      .refl _ m⟩ ?_, Nat.le_refl 1⟩
    simp only [Matcher.loop, if_pos enough, if_true]
    exact ⟨[], rfl, Confined.refl _ m, .done⟩
  · rw [if_neg enough, if_pos (Nat.lt_of_not_le enough)]
    exact ⟨0, .done, Nat.zero_le 1⟩

theorem confined_beginning (length number : Nat) (body : Matcher) (min : Nat) (most : Option Nat)
    (count pos : Nat) (m : Memory) :
    (Matcher.loop length number body min most).Confined m (beginning number min count pos m) where
  loops loop outside := by
    have other : number ≠ loop := by
      simp only [Matcher.loop] at outside
      omega
    unfold beginning
    rw [Memory.loops_enterLoop, if_neg other]
    split <;> rfl
  opened index opened := by
    unfold beginning
    split <;> exact opened

theorem loop_resume_body (hnumber : body.number = number + 1) {count pos : Nat} {m m' : Memory}
    {point : ChoicePoint} (owned : body.owns point = true)
    (h : body.Confined (beginning number min count pos m) m') :
    (Matcher.loop length number body min most).resume point m' =
      (body.resume point m').andThen fun stop m' =>
        if stop = pos then .failed m'
        else iterate body number min most (length - stop) (count + 1) stop m' := by
  have bounds := (owns_iff body point).mp owned
  have other : point.owner ≠ number := by omega
  have mark : m'.loops[number]? = some { count, start := pos } := by
    rw [h.loops number (Or.inl (by omega)), beginning, Memory.loops_enterLoop, if_pos rfl]
  simp only [Matcher.loop, if_neg other, mark, Outcome.andThen]
  cases body.resume point m' <;> rfl

/-- What the points of a repetition yield, and after them the choice to end before it. -/
theorem repetition_pending (hnumber : body.number = number + 1) {rate remaining count pos rounds : Nat}
    {m : Memory} {stack : List ChoicePoint} {others : List Arrival}
    (reach : ∀ a ∈ others, pos ≤ a.stop ∧ a.stop ≤ max pos length)
    (pending : body.Pending (beginning number min count pos m)
      (beginning number min count pos m).points stack rounds others)
    (onward : ∀ stop m origin, pos < stop → stop ≤ max pos length →
      ∃ count', (Matcher.loop length number body min most).Yields m m.points origin
          (iterate body number min most (length - stop) (count + 1) stop m) count'
          (Arrival.iterate arrive min most remaining (count + 1) origin m.marks stop) ∧
        count' + Arrival.weight length (body.retries.base + 1 + rate)
            (Arrival.iterate arrive min most remaining (count + 1) origin m.marks stop) ≤
          2 ^ (body.retries.base + 3 + (body.retries.base + 1 + rate) * (length - stop))) :
    ∃ total, (Matcher.loop length number body min most).Pending m m.points stack total
        ((others.flatMap fun a =>
          if a.stop = pos then []
          else Arrival.iterate arrive min most remaining (count + 1) a.origin a.marks a.stop) ++
          Arrival.ofCount min count pos m.marks m.groupStarts) ∧
      total + Arrival.weight length (body.retries.base + 1 + rate) (others.flatMap fun a =>
          if a.stop = pos then []
          else Arrival.iterate arrive min most remaining (count + 1) a.origin a.marks a.stop) ≤
        rounds + (others.map
          (Arrival.price length body.retries.base (body.retries.base + 1 + rate) pos)).sum + 1 := by
  obtain ⟨own, below, once⟩ := beginning_pending length number body min most count pos m
  have next : ∀ origin stop m', body.Confined (beginning number min count pos m) m' →
      { stop, marks := m'.marks, origin } ∈ others →
      ∃ count', (Matcher.loop length number body min most).Yields m m'.points origin
          (if stop = pos then .failed m'
          else iterate body number min most (length - stop) (count + 1) stop m') count'
          (if stop = pos then []
          else Arrival.iterate arrive min most remaining (count + 1) origin m'.marks stop) ∧
        count' + Arrival.weight length (body.retries.base + 1 + rate)
            (if stop = pos then []
            else Arrival.iterate arrive min most remaining (count + 1) origin m'.marks stop) ≤
          Arrival.price length body.retries.base (body.retries.base + 1 + rate) pos
            { stop, marks := m'.marks, origin } := by
    intro origin stop m' reached member
    have bounds := reach _ member
    dsimp only at bounds
    unfold Arrival.price
    by_cases stays : stop = pos
    · rw [if_pos stays, if_pos stays, if_pos stays]
      exact ⟨0, .done, Nat.le_refl 0⟩
    · rw [if_neg stays, if_neg stays, if_neg stays]
      obtain ⟨count', yields, bound⟩ := onward stop m' origin (by omega) bounds.2
      refine ⟨count', ?_, bound⟩
      have within := (confined_beginning length number body min most count pos m).trans
        (reached.widen (loop_within_body length min most hnumber))
      exact yields.lift (.refl _) within fun _ _ _ => rfl
  obtain ⟨total, pending, bound⟩ := pending.onward
    (fun _ stop m' => if stop = pos then .failed m'
      else iterate body number min most (length - stop) (count + 1) stop m')
    (fun a => if a.stop = pos then []
      else Arrival.iterate arrive min most remaining (count + 1) a.origin a.marks a.stop)
    (Arrival.price length body.retries.base (body.retries.base + 1 + rate) pos)
    (loop_within_body length min most hnumber) (confined_beginning length number body min most _ _ m)
    (fun _ _ owned reached => loop_resume_body hnumber owned reached) next below
  exact ⟨total, pending, by omega⟩

/-- What a loop yields from the repetition on that it is about to begin. -/
theorem iterate_yields (h : Lawful length body arrive) (hnumber : body.number = number + 1)
    (min : Nat) (most : Option Nat) {rate : Nat} (hrate : body.retries.rate ≤ rate)
    {remaining remaining' : Nat} {pos : Nat}
    (enough : length - pos ≤ remaining) (enough' : length - pos ≤ remaining') (count : Nat)
    (m : Memory) (origin : GroupStarts) :
    ∃ rounds, (Matcher.loop length number body min most).Yields m m.points origin
        (iterate body number min most remaining count pos m) rounds
        (Arrival.iterate arrive min most remaining' count origin m.marks pos) ∧
      rounds + Arrival.weight length (body.retries.base + 1 + rate)
          (Arrival.iterate arrive min most remaining' count origin m.marks pos) ≤
        2 ^ (body.retries.base + 3 + (body.retries.base + 1 + rate) * (length - pos)) := by
  induction remaining' generalizing remaining pos count m origin with
  | zero =>
      rw [iterate_end h (by omega),
        Arrival.iterate_of_blocked (Arrival.blocked_end h.advances (by omega) _ _ _)]
      exact finish_yields_within _ _ _ _ _ _ _ m origin
  | succ remaining' ih =>
      have finished := finish_yields_within (Matcher.loop length number body min most) length
        (body.retries.base + 3) (body.retries.base + 1 + rate) min count pos m origin
      by_cases past : length ≤ pos
      · rw [iterate_end h past,
          Arrival.iterate_of_blocked (Arrival.blocked_end h.advances past _ _ _)]
        exact finished
      · obtain ⟨remaining, rfl⟩ : ∃ n, remaining = n + 1 := ⟨remaining - 1, by omega⟩
        unfold iterate Arrival.iterate
        by_cases full : most.any (· ≤ count) = true
        · rw [if_pos full, if_pos full]
          exact finished
        · rw [if_neg full, if_neg full]
          obtain ⟨rounds, yields, bound⟩ :=
            h.yields rate hrate pos (beginning number min count pos m) origin
          have ran : body.run pos (Memory.enterLoop (if min ≤ count then m.suspend number pos count
              else m) number count pos) = body.run pos (beginning number min count pos m) := rfl
          dsimp only
          rw [ran]
          rw [marks_beginning] at bound yields
          cases hrun : body.run pos (beginning number min count pos m) with
          | failed m' =>
              have none := h.eq_nil_of_failed hrun
              rw [marks_beginning] at none
              rw [none]
              exact finished
          | matched next m' =>
              obtain ⟨origin', others, hlist⟩ := h.eq_cons_of_matched hrun
              rw [marks_beginning] at hlist
              rw [hlist]
              dsimp only
              by_cases stays : next = pos
              · rw [if_pos stays, if_pos stays]
                exact finished
              · rw [if_neg stays, if_neg stays]
                rw [hrun, hlist] at yields
                obtain ⟨others', heads, reached, pending⟩ := yields
                obtain rfl : others = others' := by
                  injection heads
                have reach := h.advances m.marks pos
                rw [hlist] at reach
                have arrived := reach _ List.mem_cons_self
                dsimp only at arrived
                have later := fun a member => reach a (List.mem_cons_of_mem _ member)
                obtain ⟨total, pending, cost⟩ := repetition_pending hnumber later pending
                  fun stop m' origin after until' =>
                    ih (Nat.le_refl _) (by omega) (count + 1) m' origin
                obtain ⟨ahead, yields, far⟩ := ih (show length - next ≤ remaining by omega) (by omega)
                  (count + 1) m' origin
                have within := (confined_beginning length number body min most count pos m).trans
                  (reached.widen (loop_within_body length min most hnumber))
                have straight := yields.lift (.refl _) within fun _ _ _ => rfl
                refine ⟨ahead + total, straight.append pending, ?_⟩
                rw [hlist] at bound
                have room := Arrival.room_for_repetition (Nat.lt_of_not_le past) reach bound
                have here := Arrival.weight_ofCount_le length (body.retries.base + 1 + rate) min
                  count pos m.marks m.marks.groupStarts
                have own : 0 < 2 ^ ((body.retries.base + 1 + rate) * (length - pos)) :=
                  Nat.two_pow_pos _
                rw [List.map_cons, List.sum_cons, Arrival.price, if_neg stays] at room
                rw [Arrival.weight_append, Arrival.weight_append]
                dsimp only at room
                omega

end Loops

theorem loop (h : Lawful length body arrive) (hnumber : body.number = number + 1) (min : Nat)
    (most : Option Nat) :
    Lawful length (Matcher.loop length number body min most) fun marks pos =>
      Arrival.repeated arrive min most (length - pos) marks pos where
  restores := loop_restores length number body min most
  advances marks pos a member := by
    dsimp only [Arrival.repeated] at member
    split at member
    · contradiction
    · exact Arrival.iterate_advances h.advances _ _ _ _ _ a member
  yields rate hrate pos m origin := by
    obtain ⟨rate, rfl⟩ : ∃ n, rate = body.retries.base + 1 + n := by
      refine ⟨rate - (body.retries.base + 1), ?_⟩
      simp only [Matcher.loop, Retries.repeated] at hrate
      omega
    have rateBody : body.retries.rate ≤ rate := by
      simp only [Matcher.loop, Retries.repeated] at hrate
      omega
    have failed_iff := iterate_failed_iff h number min most (length - pos) 0 pos m
    obtain ⟨rounds, yields, bound⟩ := iterate_yields h hnumber min most rateBody
      (Nat.le_refl (length - pos)) (Nat.le_refl _) 0 m m.groupStarts
    unfold Arrival.repeated
    cases hrun : iterate body number min most (length - pos) 0 pos m with
    | failed m' =>
        have ran : (Matcher.loop length number body min most).run pos m = .failed m := by
          simp only [Matcher.loop, hrun]
        rw [ran, if_pos (failed_iff.mp ⟨m', hrun⟩)]
        exact ⟨0, .done, by simp⟩
    | matched stop m' =>
        have ran : (Matcher.loop length number body min most).run pos m = .matched stop m' := by
          simp only [Matcher.loop, hrun]
        have reached : ¬ Arrival.preferredCount arrive most (length - pos) 0 m.marks pos < min := by
          intro few
          obtain ⟨m'', hfailed⟩ := failed_iff.mpr few
          rw [hrun] at hfailed
          contradiction
        rw [hrun] at yields
        rw [ran, if_neg reached]
        refine ⟨rounds, yields.setOrigin ?_, bound⟩
        intro m'' hfailed
        contradiction

end Lawful

end Matcher

end Rematch
