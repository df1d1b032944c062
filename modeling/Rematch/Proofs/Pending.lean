import Mathlib.Algebra.GroupWithZero.Nat
import Rematch.Proofs.Arrivals
import Rematch.Proofs.Ownership

/-!
# What a stack has yet to yield

A stack of choice points stands for the list of arrivals that come of taking its points up, the latest
first, down to a base that belongs to others. Three facts carry all combinators: stacks can be laid on
one another, an operator can hand the points of its body through, and it can go on from each arrival
of its body.
-/

namespace Rematch

def Outcome.andThen (outcome : Outcome) (go : (stop : Nat) → Memory → Outcome) : Outcome :=
  match outcome with
  | .matched stop m => go stop m
  | .failed m => .failed m

/-! ## Weights -/

/--
What arrivals count for in the rounds that can follow them: each character that is left multiplies
by `2 ^ rate`.
-/
def Arrival.weight (length rate : Nat) (arrivals : List Arrival) : Nat :=
  (arrivals.map fun a => 2 ^ (rate * (length - a.stop))).sum

namespace Arrival

@[simp] theorem weight_nil (length rate : Nat) : weight length rate [] = 0 := rfl

@[simp] theorem weight_cons (length rate : Nat) (a : Arrival) (arrivals : List Arrival) :
    weight length rate (a :: arrivals) =
      2 ^ (rate * (length - a.stop)) + weight length rate arrivals := by
  simp [weight]

@[simp] theorem weight_append (length rate : Nat) (first second : List Arrival) :
    weight length rate (first ++ second) = weight length rate first + weight length rate second := by
  simp [weight]

@[simp] theorem weight_setOrigin (length rate : Nat) (origin : GroupStarts)
    (arrivals : List Arrival) :
    weight length rate (setOrigin origin arrivals) = weight length rate arrivals := by
  cases arrivals <;> rfl

@[simp] theorem weight_map_captureGroup (length rate index start : Nat) (arrivals : List Arrival) :
    weight length rate (arrivals.map (captureGroup index start)) = weight length rate arrivals := by
  simp [weight, Function.comp_def, captureGroup]

end Arrival

namespace Matcher

/--
Only what an operator may change has changed between two memories: the loops below it, and group
starts, of which none is forgotten.
-/
structure Confined (c : Matcher) (entry m : Memory) : Prop where
  loops : ∀ loop, loop < c.number ∨ c.number + c.size ≤ loop → m.loops[loop]? = entry.loops[loop]?
  opened : ∀ index, index ∈ entry.groupStarts → index ∈ m.groupStarts

namespace Confined

variable {c d : Matcher} {entry mid m : Memory}

theorem refl (c : Matcher) (m : Memory) : c.Confined m m :=
  ⟨fun _ _ => rfl, fun _ h => h⟩

theorem trans (h : c.Confined entry mid) (h' : c.Confined mid m) : c.Confined entry m where
  loops loop outside := (h'.loops loop outside).trans (h.loops loop outside)
  opened index member := h'.opened index (h.opened index member)

theorem widen (h : c.Confined entry m) (within : c.Within d) : d.Confined entry m where
  loops loop outside := by
    have lower := within.lower
    have upper := within.upper
    exact h.loops loop (by omega)
  opened := h.opened

end Confined

structure Suspends (c : Matcher) (entry : Memory) (base : List ChoicePoint) (point : ChoicePoint)
    (below : List ChoicePoint) : Prop where
  owner : c.owns point = true
  kept : point.snapshot.points = below
  above : base <:+ below
  confined : c.Confined entry point.snapshot

theorem Suspends.lift {c d : Matcher} {entry entry' : Memory} {base base' below : List ChoicePoint}
    {point : ChoicePoint} (h : c.Suspends entry' base' point below) (within : c.Within d)
    (opened : d.Confined entry entry') (lower : base <:+ base') :
    d.Suspends entry base point below where
  owner := within.owns h.owner
  kept := h.kept
  above := lower.trans h.above
  confined := opened.trans (h.confined.widen within)

/--
Taking up the points of a stack down to `base`, in at most so many rounds, yields a list of arrivals.
The operator was run in the memory `entry`.
-/
inductive Pending (c : Matcher) (entry : Memory) (base : List ChoicePoint) :
    List ChoicePoint → (rounds : Nat) → List Arrival → Prop
  | done : Pending c entry base base 0 []
  | dead {point : ChoicePoint} {below : List ChoicePoint} {m : Memory} {rounds : Nat}
      {arrivals : List Arrival} :
      c.Suspends entry base point below → c.resume point point.snapshot = .failed m →
      Pending c entry base m.points rounds arrivals →
      Pending c entry base (point :: below) (rounds + 1) arrivals
  | live {point : ChoicePoint} {below : List ChoicePoint} {stop : Nat} {m : Memory} {rounds : Nat}
      {arrivals : List Arrival} :
      c.Suspends entry base point below → c.resume point point.snapshot = .matched stop m →
      c.Confined entry m → Pending c entry base m.points rounds arrivals →
      Pending c entry base (point :: below) (rounds + 1)
        ({ stop, marks := m.marks, origin := point.snapshot.groupStarts } :: arrivals)

/-- The arrivals of an outcome reached from `origin`, and those that its stack has yet to yield. -/
def Yields (c : Matcher) (entry : Memory) (base : List ChoicePoint) (origin : GroupStarts) :
    Outcome → (rounds : Nat) → List Arrival → Prop
  | .failed m, rounds, arrivals => c.Pending entry base m.points rounds arrivals
  | .matched stop m, rounds, arrivals => ∃ others,
      arrivals = { stop, marks := m.marks, origin } :: others ∧
        c.Confined entry m ∧ c.Pending entry base m.points rounds others

namespace Pending

variable {c d : Matcher} {entry entry' : Memory} {base base' stack below : List ChoicePoint}
variable {point : ChoicePoint} {rounds rounds' : Nat} {arrivals arrivals' : List Arrival}

theorem step (suspends : c.Suspends entry base point below)
    (h : c.Yields entry base point.snapshot.groupStarts (c.resume point point.snapshot) rounds
      arrivals) : c.Pending entry base (point :: below) (rounds + 1) arrivals := by
  cases hresume : c.resume point point.snapshot with
  | failed m =>
      rw [hresume] at h
      exact .dead suspends hresume h
  | matched stop m =>
      rw [hresume] at h
      obtain ⟨others, rfl, confined, pending⟩ := h
      exact .live suspends hresume confined pending

theorem suffix (h : c.Pending entry base stack rounds arrivals) : base <:+ stack := by
  cases h with
  | done => exact List.suffix_refl base
  | dead suspends _ _ => exact suspends.above.trans (List.suffix_cons _ _)
  | live suspends _ _ _ => exact suspends.above.trans (List.suffix_cons _ _)

theorem eq_nil_of_length_le (h : c.Pending entry base stack rounds arrivals)
    (low : stack.length ≤ base.length) : arrivals = [] := by
  cases h with
  | done => rfl
  | dead suspends _ _ | live suspends _ _ _ =>
      have height := suspends.above.length_le
      rw [List.length_cons] at low
      omega

theorem unique (h : c.Pending entry base stack rounds arrivals)
    (h' : c.Pending entry base stack rounds' arrivals') : rounds = rounds' ∧ arrivals = arrivals' := by
  have atBase : ∀ {base point below}, c.Suspends entry base point below → base ≠ point :: below := by
    intro base point below suspends same
    have height := suspends.above.length_le
    rw [same, List.length_cons] at height
    omega
  induction h generalizing rounds' arrivals' with
  | done =>
      cases h' with
      | done => exact ⟨rfl, rfl⟩
      | dead suspends _ _ => exact absurd rfl (atBase suspends)
      | live suspends _ _ _ => exact absurd rfl (atBase suspends)
  | dead suspends hresume _ ih =>
      cases h' with
      | done => exact absurd rfl (atBase suspends)
      | dead _ hresume' rest =>
          cases hresume.symm.trans hresume'
          obtain ⟨rfl, rfl⟩ := ih rest
          exact ⟨rfl, rfl⟩
      | live _ hresume' _ _ => cases hresume.symm.trans hresume'
  | live suspends hresume _ _ ih =>
      cases h' with
      | done => exact absurd rfl (atBase suspends)
      | dead _ hresume' _ => cases hresume.symm.trans hresume'
      | live _ hresume' _ rest =>
          cases hresume.symm.trans hresume'
          obtain ⟨rfl, rfl⟩ := ih rest
          exact ⟨rfl, rfl⟩

/-- A stack on top of another yields its own arrivals and then those of the other. -/
theorem append (h : c.Pending entry base' stack rounds arrivals)
    (h' : c.Pending entry base base' rounds' arrivals') :
    c.Pending entry base stack (rounds + rounds') (arrivals ++ arrivals') := by
  have lower : ∀ {point below}, c.Suspends entry base' point below →
      c.Suspends entry base point below := fun suspends =>
    suspends.lift (.refl c) (.refl c entry) h'.suffix
  induction h with
  | done =>
      rw [Nat.zero_add]
      exact h'
  | dead suspends hresume _ ih =>
      rw [Nat.add_right_comm]
      exact .dead (lower suspends) hresume ih
  | live suspends hresume confined _ ih =>
      rw [Nat.add_right_comm]
      exact .live (lower suspends) hresume confined ih

/-- The points of an operator yield the same for one above it that resumes them in the same way. -/
theorem lift (within : c.Within d) (opened : d.Confined entry entry')
    (route : ∀ point m, c.owns point = true → d.resume point m = c.resume point m)
    (h : c.Pending entry' base stack rounds arrivals) :
    d.Pending entry base stack rounds arrivals := by
  have hand : ∀ {point below}, c.Suspends entry' base point below →
      d.Suspends entry base point below :=
    fun suspends => suspends.lift within opened (List.suffix_refl base)
  induction h with
  | done => exact .done
  | dead suspends hresume _ ih =>
      exact .dead (hand suspends) ((route _ _ suspends.owner).trans hresume) ih
  | live suspends hresume reached _ ih =>
      exact .live (hand suspends) ((route _ _ suspends.owner).trans hresume)
        (opened.trans (reached.widen within)) ih

end Pending

namespace Yields

variable {c d : Matcher} {entry entry' : Memory} {base base' : List ChoicePoint}
variable {origin origin' : GroupStarts} {outcome : Outcome} {rounds rounds' : Nat}
variable {arrivals arrivals' : List Arrival}

theorem append (h : c.Yields entry base' origin outcome rounds arrivals)
    (h' : c.Pending entry base base' rounds' arrivals') :
    c.Yields entry base origin outcome (rounds + rounds') (arrivals ++ arrivals') := by
  cases outcome with
  | failed m => exact Pending.append h h'
  | matched stop m =>
      obtain ⟨others, rfl, confined, pending⟩ := h
      exact ⟨others ++ arrivals', rfl, confined, pending.append h'⟩

theorem lift (within : c.Within d) (opened : d.Confined entry entry')
    (route : ∀ point m, c.owns point = true → d.resume point m = c.resume point m)
    (h : c.Yields entry' base origin outcome rounds arrivals) :
    d.Yields entry base origin outcome rounds arrivals := by
  cases outcome with
  | failed m => exact Pending.lift within opened route h
  | matched stop m =>
      obtain ⟨others, rfl, reached, pending⟩ := h
      exact ⟨others, rfl, opened.trans (reached.widen within), pending.lift within opened route⟩

theorem eq_nil_of_failed {m : Memory}
    (h : c.Yields entry m.points origin (.failed m) rounds arrivals) : arrivals = [] :=
  Pending.eq_nil_of_length_le h (Nat.le_refl _)

theorem unique (h : c.Yields entry base origin outcome rounds arrivals)
    (h' : c.Yields entry base origin outcome rounds' arrivals') :
    rounds = rounds' ∧ arrivals = arrivals' := by
  cases outcome with
  | failed m => exact Pending.unique h h'
  | matched stop m =>
      obtain ⟨others, rfl, _, pending⟩ := h
      obtain ⟨others', rfl, _, pending'⟩ := h'
      obtain ⟨rfl, rfl⟩ := pending.unique pending'
      exact ⟨rfl, rfl⟩

/-- Only the first arrival depends on where the outcome was reached from. -/
theorem setOrigin (h : c.Yields entry base origin outcome rounds arrivals)
    (settled : ∀ m, outcome = .failed m → arrivals = []) :
    c.Yields entry base origin' outcome rounds (Arrival.setOrigin origin' arrivals) := by
  cases outcome with
  | failed m =>
      obtain rfl := settled m rfl
      exact h
  | matched stop m =>
      obtain ⟨others, rfl, confined, pending⟩ := h
      exact ⟨others, rfl, confined, pending⟩

end Yields

/-! ## Going on from every arrival -/

section Onward

variable {c d : Matcher} {entry entry' : Memory} {base base' stack : List ChoicePoint}
variable {length rate rounds rounds' : Nat} {arrivals arrivals' : List Arrival}

/--
An operator that resumes by resuming its body and going on from where that arrives yields, in order,
what follows each arrival of the body, and then what lies below the points of the body.
-/
theorem Pending.onward (go : GroupStarts → (stop : Nat) → Memory → Outcome)
    (follow : Arrival → List Arrival) (cost : Arrival → Nat)
    (h : c.Pending entry' base' stack rounds arrivals)
    (within : c.Within d) (opened : d.Confined entry entry')
    (route : ∀ point m, c.owns point = true → c.Confined entry' m →
      d.resume point m = (c.resume point m).andThen (go m.groupStarts))
    (next : ∀ origin stop m, c.Confined entry' m →
      { stop, marks := m.marks, origin } ∈ arrivals →
      ∃ count, d.Yields entry m.points origin (go origin stop m) count
          (follow { stop, marks := m.marks, origin }) ∧
        count + Arrival.weight length rate (follow { stop, marks := m.marks, origin }) ≤
          cost { stop, marks := m.marks, origin })
    (rest : d.Pending entry base base' rounds' arrivals') :
    ∃ total, d.Pending entry base stack total (arrivals.flatMap follow ++ arrivals') ∧
      total + Arrival.weight length rate (arrivals.flatMap follow) ≤
        rounds + (arrivals.map cost).sum + rounds' := by
  have hand : ∀ {point below}, c.Suspends entry' base' point below →
      d.Suspends entry base point below := fun suspends =>
    suspends.lift within opened rest.suffix
  induction h with
  | done => exact ⟨rounds', rest, by simp⟩
  | @dead point _ m _ _ suspends hresume _ ih =>
      obtain ⟨total, pending, bound⟩ := ih next
      have resumed := route point point.snapshot suspends.owner suspends.confined
      rw [hresume] at resumed
      exact ⟨total + 1, .step (hand suspends) (resumed ▸ pending), by omega⟩
  | @live point _ stop m _ others suspends hresume reached _ ih =>
      obtain ⟨total, pending, bound⟩ := ih fun origin stop m hm member =>
        next origin stop m hm (List.mem_cons_of_mem _ member)
      obtain ⟨count, yields, price⟩ :=
        next point.snapshot.groupStarts stop m reached List.mem_cons_self
      have resumed := route point point.snapshot suspends.owner suspends.confined
      rw [hresume] at resumed
      have combined := yields.append pending
      rw [← List.append_assoc, ← List.flatMap_cons] at combined
      refine ⟨count + total + 1, .step (hand suspends) (resumed ▸ combined), ?_⟩
      rw [List.flatMap_cons, Arrival.weight_append, List.map_cons, List.sum_cons]
      omega

end Onward

end Matcher
end Rematch
