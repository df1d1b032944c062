import Rematch.Proofs.Lawful

/-!
# Sequences

A sequence goes through the arrivals of its first part until the rest matches after one of them. The
supply of rounds for that never runs out, because the first part is lawful.
-/

namespace Rematch

namespace Rounds

theorem count_power (exponent : Nat) (rest : Rounds) :
    (power exponent rest).count + 1 = 2 ^ (exponent + 1) + rest.count := by
  induction exponent generalizing rest with
  | zero =>
      simp only [power, count_next]
      omega
  | succ exponent ih =>
      have outer := ih (power exponent rest)
      have inner := ih rest
      simp only [power, count_next]
      rw [Nat.pow_succ 2 (exponent + 1)]
      omega

theorem two_pow_le_count_power (exponent : Nat) (rest : Rounds) :
    2 ^ exponent ≤ (power exponent rest).count := by
  have h := count_power exponent rest
  have pos : 0 < 2 ^ exponent := Nat.two_pow_pos exponent
  rw [Nat.pow_succ] at h
  omega

end Rounds

namespace Matcher

namespace Lawful

variable {length number : Nat} {arrive : Marks → (pos : Nat) → List Arrival}

section Chains

variable {part : Matcher} {rest : List Matcher}
variable {arriveFirst arriveRest : Marks → (pos : Nat) → List Arrival}
variable {rate : Nat}

theorem runParts_yields (others : Lawful length (chain length (number + part.size) rest) arriveRest)
    (hnumber : part.number = number)
    (hrate : (chain length (number + part.size) rest).retries.rate ≤ rate)
    {entry : Memory} (origin : GroupStarts) (stop : Nat) (m : Memory)
    (reached : part.Confined entry m) :
    ∃ count, (chain length number (part :: rest)).Yields entry m.points origin
        (runParts length rest stop m) count
        (Arrival.follow arriveRest { stop, marks := m.marks, origin }) ∧
      count + Arrival.weight length rate
        (Arrival.follow arriveRest { stop, marks := m.marks, origin }) ≤
        2 ^ ((chain length (number + part.size) rest).retries.base + rate * (length - stop)) := by
  obtain ⟨count, yields, bound⟩ := others.yields rate hrate stop m origin
  have first : (chain length number (part :: rest)).Confined entry m :=
    reached.widen (chain_within_first length rest hnumber)
  refine ⟨count, yields.lift (chain_within_rest length number part rest) first ?_, ?_⟩
  · intro point m' owned
    exact chain_resume_rest hnumber owned m'
  · rw [Arrival.follow, Arrival.weight_setOrigin]
    exact bound

theorem sum_cost (base rate : Nat) (arrivals : List Arrival) :
    (arrivals.map fun a => 2 ^ (base + rate * (length - a.stop))).sum =
      2 ^ base * Arrival.weight length rate arrivals := by
  induction arrivals with
  | nil => rfl
  | cons a arrivals ih =>
      rw [List.map_cons, List.sum_cons, ih, Arrival.weight_cons, Nat.mul_add, Nat.pow_add]

theorem chain_pending (others : Lawful length (chain length (number + part.size) rest) arriveRest)
    (hnumber : part.number = number)
    (hrate : (chain length (number + part.size) rest).retries.rate ≤ rate)
    {entry : Memory} {stack : List ChoicePoint} {rounds : Nat} {arrivals : List Arrival}
    (h : part.Pending entry entry.points stack rounds arrivals) :
    ∃ total, (chain length number (part :: rest)).Pending entry entry.points stack total
        (arrivals.flatMap (Arrival.follow arriveRest)) ∧
      total + Arrival.weight length rate (arrivals.flatMap (Arrival.follow arriveRest)) ≤
        rounds + 2 ^ (chain length (number + part.size) rest).retries.base *
          Arrival.weight length rate arrivals := by
  have go : ∀ origin stop m, part.Confined entry m →
      { stop, marks := m.marks, origin } ∈ arrivals → _ :=
    fun origin stop m reached _ => runParts_yields others hnumber hrate origin stop m reached
  obtain ⟨total, pending, bound⟩ := h.onward (fun _ => runParts length rest)
    (Arrival.follow arriveRest)
    (fun a => 2 ^ ((chain length (number + part.size) rest).retries.base +
      rate * (length - a.stop)))
    (chain_within_first length rest hnumber) (.refl _ entry)
    (fun point m owned _ => by
      simp only [chain, resumeParts, owned, if_true, Outcome.andThen]
      cases part.resume point m <;> rfl)
    go .done
  rw [List.append_nil] at pending
  rw [sum_cost] at bound
  exact ⟨total, pending, bound⟩

theorem chain_yields (others : Lawful length (chain length (number + part.size) rest) arriveRest)
    (hnumber : part.number = number)
    (hrate : (chain length (number + part.size) rest).retries.rate ≤ rate)
    {entry m m' : Memory} {stop stop' rounds : Nat} {arrivals : List Arrival}
    (reached : part.Confined entry m)
    (h : part.Pending entry entry.points m.points rounds arrivals)
    (hrest : runParts length rest stop m = .matched stop' m') (origin origin' : GroupStarts) :
    ∃ total, (chain length number (part :: rest)).Yields entry entry.points origin
        (.matched stop' m') total (Arrival.setOrigin origin
          (({ stop, marks := m.marks, origin := origin' } :: arrivals).flatMap
            (Arrival.follow arriveRest))) ∧
      total + Arrival.weight length rate
          (({ stop, marks := m.marks, origin := origin' } :: arrivals).flatMap
            (Arrival.follow arriveRest)) ≤
        rounds + 2 ^ (chain length (number + part.size) rest).retries.base *
          Arrival.weight length rate ({ stop, marks := m.marks, origin := origin' } :: arrivals) := by
  obtain ⟨count, yields, price⟩ := runParts_yields others hnumber hrate origin stop m reached
  obtain ⟨total, pending, bound⟩ := chain_pending others hnumber hrate h
  obtain ⟨origin₀, tail, hlist⟩ := others.eq_cons_of_matched hrest
  rw [hrest] at yields
  have some : Arrival.follow arriveRest { stop, marks := m.marks, origin := origin' } ≠ [] := by
    simp [Arrival.follow, hlist]
  refine ⟨count + total, ?_, ?_⟩
  · rw [List.flatMap_cons, Arrival.setOrigin_append some, Arrival.follow, Arrival.setOrigin_setOrigin]
    exact yields.append pending
  · rw [Arrival.follow, Arrival.weight_setOrigin, Nat.pow_add] at price
    rw [List.flatMap_cons, Arrival.weight_append, Arrival.weight_cons, Nat.mul_add]
    have first : Arrival.weight length rate
        (Arrival.follow arriveRest { stop, marks := m.marks, origin := origin' }) =
          Arrival.weight length rate (arriveRest m.marks stop) := Arrival.weight_setOrigin _ _ _ _
    dsimp only at price ⊢
    omega

theorem risesAbove_of_suspends {entry m : Memory} {point : ChoicePoint} {below : List ChoicePoint}
    (suspends : part.Suspends entry entry.points point below) (hpoints : m.points = point :: below) :
    m.risesAbove entry = true := by
  have height := suspends.above.length_le
  rw [Memory.risesAbove_iff, Memory.depth, Memory.depth, hpoints, List.length_cons]
  omega

theorem not_risesAbove_of_points_eq {entry m : Memory} (h : m.points = entry.points) :
    m.risesAbove entry = false := by
  rw [Bool.eq_false_iff, ne_eq, Memory.risesAbove_iff, Memory.depth, Memory.depth, h]
  omega

theorem drain_of_not_risesAbove {rest : Nat → Memory → Outcome} {entry m : Memory}
    (low : m.risesAbove entry = false) (supply : Rounds) :
    drain part rest entry supply m = .failed entry := by
  unfold drain
  split
  · rfl
  · split
    · rfl
    · simp [low]

/-- A point of the part is taken up, and the rest is tried where it arrives. -/
theorem drain_next {rest : Nat → Memory → Outcome} {entry m : Memory} {point : ChoicePoint}
    {below : List ChoicePoint} (suspends : part.Suspends entry entry.points point below)
    (hpoints : m.points = point :: below) (supply : Unit → Rounds) :
    drain part rest entry (.next supply) m =
      match part.resume point point.snapshot with
      | .failed m => drain part rest entry (supply ()) m
      | .matched next m =>
          match rest next m with
          | .failed m => drain part rest entry (supply ()) m
          | .matched stop m => .matched stop m := by
  have taken : (m.risesAbove entry && part.owns point) = true := by
    rw [risesAbove_of_suspends suspends hpoints, suspends.owner, Bool.and_self]
  rw [drain, hpoints]
  exact if_pos taken

/-- Draining the first part of a chain goes through its arrivals until the rest matches. -/
theorem drain_yields (others : Lawful length (chain length (number + part.size) rest) arriveRest)
    (hnumber : part.number = number)
    (hrate : (chain length (number + part.size) rest).retries.rate ≤ rate)
    {entry : Memory} {stack : List ChoicePoint} {rounds : Nat} {arrivals : List Arrival}
    (h : part.Pending entry entry.points stack rounds arrivals) (origin : GroupStarts)
    (supply : Rounds) (enough : rounds ≤ supply.count) (m : Memory) (hstack : m.points = stack) :
    ∃ total, (chain length number (part :: rest)).Yields entry entry.points origin
        (drain part (runParts length rest) entry supply m) total
        (Arrival.setOrigin origin (arrivals.flatMap (Arrival.follow arriveRest))) ∧
      total + Arrival.weight length rate (arrivals.flatMap (Arrival.follow arriveRest)) ≤
        rounds + 2 ^ (chain length (number + part.size) rest).retries.base *
          Arrival.weight length rate arrivals := by
  induction h generalizing supply m with
  | done =>
      rw [drain_of_not_risesAbove (not_risesAbove_of_points_eq hstack)]
      exact ⟨0, .done, by simp⟩
  | @dead point below m' _ arrivals suspends hresume pending ih =>
      cases supply with
      | none => simp at enough
      | next supply =>
          rw [Rounds.count_next] at enough
          have on : drain part (runParts length rest) entry (.next supply) m =
              drain part (runParts length rest) entry (supply ()) m' := by
            rw [drain_next suspends hstack, hresume]
          obtain ⟨total, yields, bound⟩ := ih (supply ()) (by omega) m' rfl
          rw [on]
          exact ⟨total, yields, by omega⟩
  | @live point below stop m' _ arrivals suspends hresume reached pending ih =>
      cases supply with
      | none => simp at enough
      | next supply =>
          rw [Rounds.count_next] at enough
          cases hrest : runParts length rest stop m' with
          | failed m'' =>
              obtain rfl : m'' = m' := runParts_failed hrest
              have on : drain part (runParts length rest) entry (.next supply) m =
                  drain part (runParts length rest) entry (supply ()) m'' := by
                simp only [drain_next suspends hstack, hresume, hrest]
              have none : arriveRest m''.marks stop = [] := others.eq_nil_of_failed hrest
              obtain ⟨total, yields, bound⟩ := ih (supply ()) (by omega) m'' rfl
              rw [on, List.flatMap_cons, Arrival.weight_cons, Nat.mul_add, Arrival.follow, none,
                Arrival.setOrigin_nil, List.nil_append]
              exact ⟨total, yields, by omega⟩
          | matched stop' m'' =>
              have on : drain part (runParts length rest) entry (.next supply) m =
                  .matched stop' m'' := by
                simp only [drain_next suspends hstack, hresume, hrest]
              obtain ⟨total, yields, bound⟩ := chain_yields others hnumber hrate reached pending
                hrest origin point.snapshot.groupStarts
              rw [on]
              exact ⟨total, yields, by omega⟩

theorem chain_cons (first : Lawful length part arriveFirst)
    (others : Lawful length (chain length (number + part.size) rest) arriveRest)
    (hnumber : part.number = number) :
    Lawful length (chain length number (part :: rest)) fun marks pos =>
      (arriveFirst marks pos).flatMap (Arrival.follow arriveRest) where
  restores := runParts_failed
  advances marks pos a member := by
    obtain ⟨b, hb, ha⟩ := List.mem_flatMap.mp member
    have reach := first.advances marks pos b hb
    have further := Arrival.forall_mem_setOrigin b.origin (fun _ bounds => bounds)
      (others.advances b.marks b.stop) a ha
    omega
  yields rate hrate pos m origin := by
    have rateFirst : part.retries.rate ≤ rate := Nat.le_trans (Nat.le_max_left _ _) hrate
    have rateRest : (chain length (number + part.size) rest).retries.rate ≤ rate :=
      Nat.le_trans (Nat.le_max_right _ _) hrate
    obtain ⟨rounds, yields, bound⟩ := first.yields rate rateFirst pos m origin
    have price : rounds + 2 ^ (chain length (number + part.size) rest).retries.base *
          Arrival.weight length rate (arriveFirst m.marks pos) ≤
        2 ^ ((chain length number (part :: rest)).retries.base + rate * (length - pos)) := by
      have base : (chain length number (part :: rest)).retries.base =
          part.retries.base + (chain length (number + part.size) rest).retries.base := rfl
      rw [base, Nat.add_right_comm, Nat.pow_add, Nat.mul_comm]
      refine Nat.le_trans ?_ (Nat.mul_le_mul_right _ bound)
      rw [Nat.add_mul]
      exact Nat.add_le_add_right (Nat.le_mul_of_pos_right _ (Nat.two_pow_pos _)) _
    cases hrun : part.run pos m with
    | failed m' =>
        have ran : (chain length number (part :: rest)).run pos m = .failed m := by
          simp only [chain, runParts]
          rw [hrun]
        rw [ran, first.eq_nil_of_failed hrun]
        exact ⟨0, .done, by simp⟩
    | matched next m' =>
        obtain ⟨origin', arrivals, hlist⟩ := first.eq_cons_of_matched hrun
        obtain ⟨rounds', supplied, enough⟩ :=
          first.yields part.retries.rate (Nat.le_refl _) pos m origin
        obtain rfl := (yields.unique supplied).1
        rw [hrun] at yields
        obtain ⟨arrivals', hlist', reached, pending⟩ := yields
        rw [hlist] at hlist'
        obtain rfl : arrivals = arrivals' := by
          injection hlist'
        rw [hlist] at price ⊢
        cases hrest : runParts length rest next m' with
        | matched stop m'' =>
            have ran : (chain length number (part :: rest)).run pos m = .matched stop m'' := by
              simp only [chain, runParts, hrun, hrest]
            obtain ⟨total, yields, bound⟩ :=
              chain_yields others hnumber rateRest reached pending hrest origin origin'
            rw [ran]
            exact ⟨total, yields, Nat.le_trans bound price⟩
        | failed m'' =>
            obtain rfl : m'' = m' := runParts_failed hrest
            have ran : (chain length number (part :: rest)).run pos m =
                drain part (runParts length rest) m (part.retries.rounds (length - pos)) m'' := by
              simp only [chain, runParts, hrun, hrest]
            have supply : rounds ≤ (part.retries.rounds (length - pos)).count := by
              refine Nat.le_trans ?_ (Rounds.two_pow_le_count_power _ _)
              omega
            obtain ⟨total, yields, bound⟩ := drain_yields others hnumber rateRest pending origin
              (part.retries.rounds (length - pos)) supply m'' rfl
            have none : arriveRest m''.marks next = [] := others.eq_nil_of_failed hrest
            rw [ran, List.flatMap_cons, Arrival.follow, none, Arrival.setOrigin_nil, List.nil_append]
            refine ⟨total, yields, Nat.le_trans bound (Nat.le_trans ?_ price)⟩
            rw [Arrival.weight_cons, Nat.mul_add]
            omega

end Chains

theorem chain_nil : Lawful length (chain length number []) fun marks pos =>
    Arrival.ofStop? (some pos) marks := by
  refine of_stop? (fun _ pos => some pos) (fun _ _ => rfl) ?_
  intro marks pos stop hstop
  cases hstop
  omega

theorem sequence {parts : List Matcher} (h : Lawful length (chain length (number + 1) parts) arrive) :
    Lawful length (Matcher.sequence length number parts) arrive :=
  h.widen (sequence_within_chain length number parts) rfl rfl rfl

end Lawful

end Matcher

end Rematch
