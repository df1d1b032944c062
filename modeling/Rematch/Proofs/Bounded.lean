import Rematch.Proofs.Since

/-!
# Memories within a text

All that a memory records lies within the text, also in the memories that its choice points keep. A
run in such a memory leaves another one.
-/

namespace Rematch

namespace Memory

/-- Everything that is recorded lies before `limit`, and so does every count of repetitions. -/
structure Within (limit : Nat) (m : Memory) : Prop where
  captures : ∀ {index : Nat} {span : Span}, m.captures[index]? = some span →
    span.start ≤ span.stop ∧ span.stop ≤ limit
  groupStarts : ∀ {index start : Nat}, m.groupStarts[index]? = some start → start ≤ limit
  loops : ∀ {number : Nat} {mark : LoopMark}, m.loops[number]? = some mark →
    mark.count ≤ limit ∧ mark.start ≤ limit
  points : ∀ point ∈ m.points, point.choice ≤ limit ∧ point.position ≤ limit

/-- The same of a memory and of all memories that its choice points keep, at any depth. -/
def Bounded (limit : Nat) (m : Memory) : Prop :=
  ∀ kept, m.Stored kept → kept.Within limit

structure PointBounded (limit : Nat) (point : ChoicePoint) : Prop where
  within : point.choice ≤ limit ∧ point.position ≤ limit
  snapshot : point.snapshot.Bounded limit

variable {limit : Nat} {m : Memory}

namespace Bounded

theorem within (h : m.Bounded limit) : m.Within limit :=
  h m .self

theorem points (h : m.Bounded limit) : ∀ point ∈ m.points, PointBounded limit point :=
  fun point member => ⟨h.within.points point member, fun kept stored => h kept (.inside member stored)⟩

theorem of_points (within : m.Within limit) (points : ∀ point ∈ m.points, PointBounded limit point) :
    m.Bounded limit := by
  intro kept stored
  cases stored with
  | self => exact within
  | inside member inner => exact (points _ member).snapshot kept inner

theorem empty (limit : Nat) : (∅ : Memory).Bounded limit := by
  apply of_points
  · constructor
    · intro index span found
      exact absurd found (by simp [show (∅ : Memory).captures = ∅ from rfl])
    · intro index start found
      exact absurd found (by simp [show (∅ : Memory).groupStarts = ∅ from rfl])
    · intro number mark found
      exact absurd found (by simp [show (∅ : Memory).loops = ∅ from rfl])
    · exact fun point member => nomatch member
  · exact fun point member => nomatch member

end Bounded

theorem Since.within {lo hi : Nat} {entry : Memory} (h : Since lo hi entry m)
    (bounded : entry.Within limit) (upper : hi ≤ limit)
    (points : ∀ point ∈ m.points, point.choice ≤ limit ∧ point.position ≤ limit) :
    m.Within limit where
  captures found := by
    rcases h.captures found with earlier | inside
    · exact bounded.captures earlier
    · omega
  groupStarts found := by
    rcases h.groupStarts found with earlier | inside
    · exact bounded.groupStarts earlier
    · omega
  loops found := by
    rcases h.loops found with earlier | inside
    · exact bounded.loops earlier
    · omega
  points := points

theorem points_bounded_of_grown {route : Route} {lo least : Nat} {entry : Memory}
    {stack : List ChoicePoint} (bounded : entry.Bounded limit)
    (h : Grown (Resumable route limit lo least entry) entry.points stack) :
    ∀ point ∈ stack, PointBounded limit point := by
  induction h with
  | refl => exact bounded.points
  | @push point stack found below _ ih =>
      have counted := found.counted
      have upper := found.upper
      have kept : point.snapshot.Bounded limit := by
        rw [← below] at ih
        exact .of_points (found.since.within bounded.within upper fun p hp => (ih p hp).within) ih
      rw [List.forall_mem_cons]
      exact ⟨⟨by omega, kept⟩, ih⟩

theorem Since.bounded {route : Route} {lo hi least : Nat} {entry : Memory}
    (h : Since lo hi entry m) (upper : hi ≤ limit) (bounded : entry.Bounded limit)
    (grown : Grown (Resumable route limit lo least entry) entry.points m.points) :
    m.Bounded limit :=
  have points := points_bounded_of_grown bounded grown
  .of_points (h.within bounded.within upper fun point member => (points point member).within) points

namespace Bounded

theorem since {lo hi : Nat} {m' : Memory} (h : m.Bounded limit) (grown : Since lo hi m m')
    (upper : hi ≤ limit) (same : m'.points = m.points) : m'.Bounded limit := by
  have points := h.points
  rw [← same] at points
  exact .of_points (grown.within h.within upper fun p hp => (points p hp).within) points

theorem suspend (h : m.Bounded limit) {owner position choice : Nat} (counted : choice ≤ position)
    (upper : position ≤ limit) : (m.suspend owner position choice).Bounded limit := by
  have points : ∀ point ∈ (m.suspend owner position choice).points, PointBounded limit point :=
    List.forall_mem_cons.mpr ⟨⟨⟨Nat.le_trans counted upper, upper⟩, h⟩, h.points⟩
  exact .of_points ⟨h.within.captures, h.within.groupStarts, h.within.loops,
    fun p hp => (points p hp).within⟩ points

theorem openGroup (h : m.Bounded limit) {start : Nat} (index : Nat) (upper : start ≤ limit) :
    (m.openGroup index start).Bounded limit :=
  h.since ((Since.refl start start m).openGroup index (Nat.le_refl _) (Nat.le_refl _)) upper rfl

theorem enterLoop (h : m.Bounded limit) {count start : Nat} (loop : Nat) (counted : count ≤ start)
    (upper : start ≤ limit) : (m.enterLoop loop count start).Bounded limit :=
  h.since ((Since.refl 0 start m).enterLoop loop (by omega) (Nat.le_refl _)) upper rfl

end Bounded

end Memory

theorem Settled.bounded {route : Route} {limit lo least : Nat} {entry : Memory} {outcome : Outcome}
    (h : Settled route limit lo least entry outcome) (bounded : entry.Bounded limit) :
    outcome.memory.Bounded limit :=
  h.since.bounded (Nat.le_refl limit) bounded h.grown

end Rematch
