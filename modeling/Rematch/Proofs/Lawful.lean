import Rematch.Proofs.Failure
import Rematch.Proofs.Pending

/-!
# Lawful matchers

A matcher is lawful if running it, and then taking up the points it leaves, yields its arrivals, and
if that takes no more rounds than its retries allow for. Every way of combining matchers keeps to the
law.
-/

namespace Rematch

def Arrival.Advances (length : Nat) (arrive : Marks → (pos : Nat) → List Arrival) : Prop :=
  ∀ marks pos, ∀ a ∈ arrive marks pos, pos ≤ a.stop ∧ a.stop ≤ max pos length

namespace Matcher

/-- Running a matcher and taking up its points yields the arrivals it is said to have. -/
structure Lawful (length : Nat) (c : Matcher) (arrive : Marks → (pos : Nat) → List Arrival) :
    Prop where
  restores : c.Restores
  advances : Arrival.Advances length arrive
  yields : ∀ rate, c.retries.rate ≤ rate → ∀ pos m origin, ∃ rounds,
    c.Yields m m.points origin (c.run pos m) rounds
        (Arrival.setOrigin origin (arrive m.marks pos)) ∧
      rounds + Arrival.weight length rate (arrive m.marks pos) ≤
        2 ^ (c.retries.base + rate * (length - pos))

namespace Lawful

variable {length number : Nat} {c d body : Matcher}
variable {arrive : Marks → (pos : Nat) → List Arrival}

theorem eq_nil_of_failed (h : Lawful length c arrive) {pos : Nat} {m m' : Memory}
    (hrun : c.run pos m = .failed m') : arrive m.marks pos = [] := by
  obtain ⟨rounds, yields, _⟩ := h.yields c.retries.rate (Nat.le_refl _) pos m ∅
  rw [hrun, h.restores hrun] at yields
  exact (Arrival.setOrigin_eq_nil_iff ∅ _).mp yields.eq_nil_of_failed

theorem eq_cons_of_matched (h : Lawful length c arrive) {pos stop : Nat} {m m' : Memory}
    (hrun : c.run pos m = .matched stop m') :
    ∃ origin others, arrive m.marks pos = { stop, marks := m'.marks, origin } :: others := by
  obtain ⟨rounds, yields, _⟩ := h.yields c.retries.rate (Nat.le_refl _) pos m ∅
  rw [hrun] at yields
  obtain ⟨others, heads, _⟩ := yields
  cases hlist : arrive m.marks pos with
  | nil =>
      rw [hlist] at heads
      contradiction
  | cons first rest =>
      rw [hlist] at heads
      injection heads with head tail
      cases first
      cases head
      exact ⟨_, rest, rfl⟩

theorem stop_bounds (h : Lawful length c arrive) {pos stop : Nat} {m m' : Memory}
    (hrun : c.run pos m = .matched stop m') : pos ≤ stop ∧ stop ≤ max pos length := by
  obtain ⟨origin, others, hlist⟩ := h.eq_cons_of_matched hrun
  exact h.advances m.marks pos { stop, marks := m'.marks, origin } (hlist ▸ List.mem_cons_self)

theorem weight_single_le {pos stop : Nat} (h : pos ≤ stop) (base rate : Nat) :
    2 ^ (rate * (length - stop)) ≤ 2 ^ (base + rate * (length - pos)) := by
  refine Nat.pow_le_pow_right (by decide) (Nat.le_trans ?_ (Nat.le_add_left _ _))
  exact Nat.mul_le_mul_left rate (by omega)

theorem two_pow_orElse_le (left right rest : Nat) :
    2 ^ (left + rest) + 2 ^ (right + rest) + 1 ≤ 2 ^ (left + right + 2 + rest) := by
  have first : 2 ^ (left + rest) ≤ 2 ^ (left + right + rest) :=
    Nat.pow_le_pow_right (by decide) (by omega)
  have second : 2 ^ (right + rest) ≤ 2 ^ (left + right + rest) :=
    Nat.pow_le_pow_right (by decide) (by omega)
  have own : 0 < 2 ^ (left + right + rest) := Nat.two_pow_pos _
  have four : 2 ^ (left + right + 2 + rest) = 4 * 2 ^ (left + right + rest) := by
    rw [Nat.add_right_comm, Nat.pow_add, Nat.mul_comm]
  omega

theorem widen (h : Lawful length c arrive) (within : c.Within d) (hretries : d.retries = c.retries)
    (hrun : d.run = c.run) (hresume : d.resume = c.resume) : Lawful length d arrive where
  restores := by
    intro pos m m' hfailed
    rw [hrun] at hfailed
    exact h.restores hfailed
  advances := h.advances
  yields rate hrate pos m origin := by
    rw [hretries] at hrate ⊢
    obtain ⟨rounds, yields, bound⟩ := h.yields rate hrate pos m origin
    refine ⟨rounds, ?_, bound⟩
    rw [hrun]
    exact yields.lift within (.refl d m) fun point m _ => by rw [hresume]

/-! ## Operators that leave nothing behind -/

theorem of_stop? (stop? : Marks → (pos : Nat) → Option Nat)
    (hrun : ∀ pos m, c.run pos m =
      match stop? m.marks pos with
      | some stop => .matched stop m
      | none => .failed m)
    (advances : ∀ marks pos stop, stop? marks pos = some stop → pos ≤ stop ∧ stop ≤ max pos length) :
    Lawful length c fun marks pos => Arrival.ofStop? (stop? marks pos) marks where
  restores := by
    intro pos m m' hfailed
    rw [hrun] at hfailed
    split at hfailed
    · contradiction
    · cases hfailed
      rfl
  advances marks pos a member := by
    cases hstop : stop? marks pos with
    | none => simp [Arrival.ofStop?, hstop] at member
    | some stop =>
        obtain rfl : a = { stop, marks, origin := marks.groupStarts } := by
          simpa [Arrival.ofStop?, hstop] using member
        exact advances marks pos stop hstop
  yields rate _ pos m origin := by
    rw [hrun]
    cases hstop : stop? m.marks pos with
    | none => exact ⟨0, .done, by simp [Arrival.ofStop?]⟩
    | some stop =>
        refine ⟨0, ⟨[], rfl, Confined.refl c m, .done⟩, ?_⟩
        have reach := (advances m.marks pos stop hstop).1
        simpa [Arrival.ofStop?] using weight_single_le reach c.retries.base rate

theorem single (stop? : Captures → Nat → Option Nat)
    (advances : ∀ captures pos stop, stop? captures pos = some stop →
      pos ≤ stop ∧ stop ≤ max pos length) :
    Lawful length (Matcher.single number stop?) fun marks pos =>
      Arrival.ofStop? (stop? marks.captures pos) marks :=
  of_stop? (fun marks => stop? marks.captures) (fun _ _ => rfl) fun marks => advances marks.captures

theorem lookahead (h : Lawful length body arrive) :
    Lawful length (Matcher.lookahead number body) fun marks pos =>
      Arrival.ofStop? (if (arrive marks pos).isEmpty then none else some pos) marks := by
  refine of_stop? _ ?_ ?_
  · intro pos m
    simp only [Matcher.lookahead]
    cases hrun : body.run pos m with
    | failed m' => simp [h.eq_nil_of_failed hrun]
    | matched stop m' =>
        obtain ⟨origin, others, hlist⟩ := h.eq_cons_of_matched hrun
        simp [hlist]
  · intro marks pos stop hstop
    split at hstop
    · contradiction
    · cases hstop
      omega

theorem lookbehind (h : Lawful length body arrive) (width : Nat) :
    Lawful length (Matcher.lookbehind number body width) fun marks pos =>
      Arrival.ofStop?
        (if pos < width then none
        else if (arrive marks (pos - width)).head?.any (·.stop = pos) then some pos
        else none)
        marks := by
  refine of_stop? _ ?_ ?_
  · intro pos m
    simp only [Matcher.lookbehind]
    by_cases near : pos < width
    · simp [near]
    · cases hrun : body.run (pos - width) m with
      | failed m' => simp [near, h.eq_nil_of_failed hrun]
      | matched stop m' =>
          obtain ⟨origin, others, hlist⟩ := h.eq_cons_of_matched hrun
          by_cases meets : stop = pos <;> simp [near, hlist, meets]
  · intro marks pos stop hstop
    split at hstop
    · contradiction
    · split at hstop
      · cases hstop
        omega
      · contradiction

theorem negation (h : Lawful length body arrive) (zeroWidth : Bool) :
    Lawful length (Matcher.negation length number body zeroWidth) fun marks pos =>
      Arrival.ofStop?
        (if !zeroWidth && length ≤ pos then none
        else if (arrive marks pos).isEmpty then some (if zeroWidth then pos else pos + 1)
        else none)
        marks := by
  refine of_stop? _ ?_ ?_
  · intro pos m
    simp only [Matcher.negation]
    by_cases barred : (!zeroWidth && decide (length ≤ pos)) = true
    · simp only [barred, if_true]
    · simp only [barred]
      cases hrun : body.run pos m with
      | failed m' => simp [h.eq_nil_of_failed hrun]
      | matched stop m' =>
          obtain ⟨origin, others, hlist⟩ := h.eq_cons_of_matched hrun
          simp [hlist]
  · intro marks pos stop hstop
    split at hstop
    · contradiction
    · rename_i allowed
      split at hstop
      · cases hstop
        cases zeroWidth with
        | true =>
            rw [if_pos rfl]
            omega
        | false =>
            have inside : ¬ length ≤ pos := by simpa using allowed
            simp
            omega
      · contradiction

/-! ## Groups -/

theorem atomic (h : Lawful length body arrive) (hnumber : body.number = number + 1) :
    Lawful length (Matcher.atomic number body) fun marks pos => (arrive marks pos).take 1 where
  restores := atomic_restores number body
  advances marks pos a member := h.advances marks pos a (List.mem_of_mem_take member)
  yields rate _ pos m origin := by
    simp only [Matcher.atomic]
    cases hrun : body.run pos m with
    | failed m' =>
        rw [h.eq_nil_of_failed hrun]
        exact ⟨0, .done, by simp⟩
    | matched stop m' =>
        obtain ⟨rounds, yields, _⟩ := h.yields body.retries.rate (Nat.le_refl _) pos m origin
        obtain ⟨origin', others', hlist⟩ := h.eq_cons_of_matched hrun
        rw [hrun] at yields
        obtain ⟨others, _, confined, pending⟩ := yields
        obtain ⟨newer, hnewer⟩ := pending.suffix
        have kept : (m'.keepOldest m.depth).points = m.points :=
          Memory.points_keepOldest hnewer.symm
        have within : (Matcher.atomic number body).Confined m m' :=
          confined.widen (atomic_within_body hnumber)
        refine ⟨0, ⟨[], ?_, ⟨within.loops, within.opened⟩, ?_⟩, ?_⟩
        · rw [hlist]
          rfl
        · rw [kept]
          exact .done
        · rw [hlist]
          simpa using weight_single_le (h.stop_bounds hrun).1 0 rate

theorem confined_openGroup (c : Matcher) (index pos : Nat) (m : Memory) :
    c.Confined m (m.openGroup index pos) where
  loops _ _ := rfl
  opened i opened := by simp [Memory.openGroup, opened]

/--
A point of the body of a group is taken up by capturing again from the start that is put back. There
always is one, if not always the same.
-/
theorem group_resume_body {index pos : Nat} {m m' : Memory} (point : ChoicePoint)
    (h : body.Confined (m.openGroup index pos) m') :
    (Matcher.group number body index).resume point m' =
      (body.resume point m').andThen fun stop m'' =>
        .matched stop (m''.capture index (m'.groupStarts[index]?.getD pos) stop) := by
  have member : index ∈ m'.groupStarts := h.opened index (by simp [Memory.openGroup])
  have start := Std.ExtTreeMap.getElem?_eq_some_getElem member
  simp only [Matcher.group, start, Outcome.andThen, Option.getD_some]
  cases body.resume point m' <;> rfl

theorem group_pending (hnumber : body.number = number + 1) (index pos : Nat) {m : Memory}
    {stack : List ChoicePoint} {rounds : Nat} {arrivals : List Arrival}
    (h : body.Pending (m.openGroup index pos) m.points stack rounds arrivals) :
    ∃ total, (Matcher.group number body index).Pending m m.points stack total
      (arrivals.map (Arrival.captureGroup index pos)) ∧ total ≤ rounds := by
  have next : ∀ starts stop m', body.Confined (m.openGroup index pos) m' →
      { stop, marks := m'.marks, origin := starts } ∈ arrivals →
      ∃ count, (Matcher.group number body index).Yields m m'.points starts
          (.matched stop (m'.capture index (starts[index]?.getD pos) stop)) count
          [Arrival.captureGroup index pos { stop, marks := m'.marks, origin := starts }] ∧
        count + Arrival.weight 0 0
          [Arrival.captureGroup index pos { stop, marks := m'.marks, origin := starts }] ≤
        2 ^ (0 * (0 - stop)) := by
    intro starts stop m' reached _
    have within := (confined_openGroup _ index pos m).trans
      (reached.widen (group_within_body index hnumber))
    refine ⟨0, ⟨[], rfl, ⟨within.loops, within.opened⟩, .done⟩, ?_⟩
    simp [Arrival.captureGroup]
  obtain ⟨total, pending, bound⟩ := h.onward
    (fun starts stop m' => .matched stop (m'.capture index (starts[index]?.getD pos) stop))
    (fun a => [Arrival.captureGroup index pos a]) (fun a => 2 ^ (0 * (0 - a.stop)))
    (group_within_body index hnumber) (confined_openGroup _ index pos m)
    (fun point m' _ reached => group_resume_body point reached) next .done
  rw [← List.map_eq_flatMap, List.append_nil] at pending
  rw [← List.map_eq_flatMap, Arrival.weight_map_captureGroup, Arrival.weight] at bound
  exact ⟨total, pending, by omega⟩

theorem group (h : Lawful length body arrive) (hnumber : body.number = number + 1) (index : Nat) :
    Lawful length (Matcher.group number body index) fun marks pos =>
      (Arrival.setOrigin (marks.openGroup index pos).groupStarts
        (arrive (marks.openGroup index pos) pos)).map (Arrival.captureGroup index pos) where
  restores := group_restores number body index
  advances marks pos a member := by
    obtain ⟨b, hb, rfl⟩ := List.mem_map.mp member
    exact Arrival.forall_mem_setOrigin _ (fun _ bounds => bounds) (h.advances _ pos) b hb
  yields rate hrate pos m origin := by
    let entered := m.openGroup index pos
    have start : entered.groupStarts[index]? = some pos := by simp [entered, Memory.openGroup]
    obtain ⟨rounds, yields, bound⟩ := h.yields rate hrate pos entered entered.groupStarts
    rw [← Arrival.weight_setOrigin length rate entered.groupStarts] at bound
    rw [Arrival.weight_map_captureGroup]
    cases hrun : body.run pos entered with
    | failed m' =>
        have ran : (Matcher.group number body index).run pos m = .failed m := by
          simp only [Matcher.group]
          rw [hrun]
        have none : arrive (m.marks.openGroup index pos) pos = [] := h.eq_nil_of_failed hrun
        rw [ran, none]
        exact ⟨0, .done, by simp⟩
    | matched stop m' =>
        have ran : (Matcher.group number body index).run pos m =
            .matched stop (m'.capture index pos stop) := by
          simp only [Matcher.group]
          rw [hrun]
        rw [hrun] at yields
        obtain ⟨others, hlist, reached, pending⟩ := yields
        obtain ⟨total, pending, price⟩ := group_pending hnumber index pos pending
        have within := (confined_openGroup _ index pos m).trans
          (reached.widen (group_within_body index hnumber))
        have list : Arrival.setOrigin origin ((Arrival.setOrigin entered.groupStarts
              (arrive entered.marks pos)).map (Arrival.captureGroup index pos)) =
            { stop, marks := (m'.capture index pos stop).marks, origin } ::
                others.map (Arrival.captureGroup index pos) := by
          rw [hlist]
          simp [Arrival.captureGroup, Arrival.setOrigin, start, Memory.capture, Memory.marks,
            Marks.capture]
        rw [ran]
        refine ⟨total, ⟨others.map (Arrival.captureGroup index pos), list,
          ⟨within.loops, within.opened⟩, pending⟩, ?_⟩
        show total + Arrival.weight length rate
            (Arrival.setOrigin entered.groupStarts (arrive entered.marks pos)) ≤
          2 ^ (body.retries.base + rate * (length - pos))
        omega

/-! ## Alternations -/

theorem alternation {arriveLeft arriveRight : Marks → (pos : Nat) → List Arrival}
    (left : Lawful length c arriveLeft) (right : Lawful length d arriveRight)
    (hleft : c.number = number + 1) (hright : d.number = number + 1 + c.size) :
    Lawful length (Matcher.alternation number c d) fun marks pos =>
      arriveLeft marks pos ++ Arrival.setOrigin marks.groupStarts (arriveRight marks pos) where
  restores := alternation_restores number c right.restores
  advances marks pos a member := by
    rcases List.mem_append.mp member with first | second
    · exact left.advances marks pos a first
    · exact Arrival.forall_mem_setOrigin _ (fun _ bounds => bounds) (right.advances marks pos) a second
  yields rate hrate pos m origin := by
    have ratel : c.retries.rate ≤ rate := Nat.le_trans (Nat.le_max_left _ _) hrate
    have rater : d.retries.rate ≤ rate := Nat.le_trans (Nat.le_max_right _ _) hrate
    have liftRight : ∀ origin rounds arrivals,
        d.Yields m m.points origin (d.run pos m) rounds arrivals →
        (Matcher.alternation number c d).Yields m m.points origin (d.run pos m) rounds arrivals := by
      intro origin rounds arrivals h
      exact h.lift (alternation_within_right hright) (.refl _ m) fun point m' owned =>
        alternation_resume_right hright hleft owned m'
    let entered := m.suspend number pos 0
    cases hrun : c.run pos entered with
    | failed m' =>
        have none : arriveLeft m.marks pos = [] := left.eq_nil_of_failed (m := entered) hrun
        have ran : (Matcher.alternation number c d).run pos m = d.run pos m := by
          simp only [Matcher.alternation]
          rw [hrun]
        obtain ⟨rounds, yields, bound⟩ := right.yields rate rater pos m origin
        rw [ran, none, List.nil_append, Arrival.setOrigin_setOrigin, Arrival.weight_setOrigin]
        refine ⟨rounds, liftRight _ _ _ yields, Nat.le_trans bound ?_⟩
        refine Nat.pow_le_pow_right (by decide) ?_
        simp only [Matcher.alternation, Retries.orElse]
        omega
    | matched stop m' =>
        obtain ⟨roundsl, yieldsl, boundl⟩ := left.yields rate ratel pos entered origin
        obtain ⟨roundsr, yieldsr, boundr⟩ := right.yields rate rater pos m m.groupStarts
        obtain ⟨origin', others, first⟩ := left.eq_cons_of_matched hrun
        have some : arriveLeft m.marks pos ≠ [] := by
          intro none
          rw [show entered.marks = m.marks from rfl, none] at first
          contradiction
        have ran : (Matcher.alternation number c d).run pos m = c.run pos entered := by
          simp only [Matcher.alternation]
          rw [hrun]
        have below : (Matcher.alternation number c d).Pending m m.points entered.points
            (roundsr + 1) (Arrival.setOrigin m.groupStarts (arriveRight m.marks pos)) := by
          refine Pending.step ⟨alternation_owns_self c d rfl, rfl, List.suffix_refl _, .refl _ m⟩ ?_
          simpa [Matcher.alternation] using liftRight _ _ _ yieldsr
        have above : (Matcher.alternation number c d).Yields m entered.points origin
            (c.run pos entered) roundsl (Arrival.setOrigin origin (arriveLeft m.marks pos)) := by
          refine yieldsl.lift (alternation_within_left d hleft) ?_ fun point m' owned =>
            alternation_resume_left d hleft owned m'
          exact ⟨fun _ _ => rfl, fun _ opened => opened⟩
        rw [ran, Arrival.setOrigin_append some, Arrival.weight_append, Arrival.weight_setOrigin]
        refine ⟨roundsl + (roundsr + 1), above.append below, ?_⟩
        have room := two_pow_orElse_le c.retries.base d.retries.base (rate * (length - pos))
        have boundl : roundsl + Arrival.weight length rate (arriveLeft m.marks pos) ≤
            2 ^ (c.retries.base + rate * (length - pos)) := boundl
        show _ ≤ 2 ^ (c.retries.base + d.retries.base + 2 + rate * (length - pos))
        omega

end Lawful

end Matcher
end Rematch
