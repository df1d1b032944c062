import Rematch.Proofs.Extent
import Mathlib.Logic.Function.Iterate

/-!
# The leftmost matches

The list of matches is the leftmost one without overlaps: no position with a match is passed over,
unless it lies within a match of the list. A walk that yields one match at a time yields this list.
-/

namespace Rematch

/--
The leftmost matches from a position on that do not overlap: each begins after the one before it and
not before its end, and every match that is not among them begins inside one of them.
-/
structure Leftmost (matchAt : Nat → Option Match) (pos : Nat) (found : List Match) : Prop where
  sound : ∀ m ∈ found, matchAt m.start = some m
  lower : ∀ m ∈ found, pos ≤ m.start
  apart : found.Pairwise fun m later => m.start < later.start ∧ m.stop ≤ later.start
  complete : ∀ start m, pos ≤ start → matchAt start = some m →
    ∃ listed ∈ found, start = listed.start ∨ listed.start < start ∧ start < listed.stop

namespace Leftmost

variable {matchAt : Nat → Option Match} {pos : Nat} {m : Match} {found : List Match}

theorem nil (h : ∀ start, pos ≤ start → matchAt start = none) : Leftmost matchAt pos [] where
  sound := nofun
  lower := nofun
  apart := .nil
  complete start m after hstart := by
    rw [h start after] at hstart
    contradiction

theorem skip (h : matchAt pos = none) (rest : Leftmost matchAt (pos + 1) found) :
    Leftmost matchAt pos found where
  sound := rest.sound
  lower m member := Nat.le_of_succ_le (rest.lower m member)
  apart := rest.apart
  complete start m after hstart := by
    apply rest.complete start m _ hstart
    apply Nat.lt_of_le_of_ne after
    rintro rfl
    rw [h] at hstart
    contradiction

theorem cons (h : matchAt pos = some m) (start : m.start = pos)
    (rest : Leftmost matchAt (max m.stop (m.start + 1)) found) :
    Leftmost matchAt pos (m :: found) where
  sound := List.forall_mem_cons.mpr ⟨by rw [start, h], rest.sound⟩
  lower := by
    rw [List.forall_mem_cons]
    refine ⟨Nat.le_of_eq start.symm, fun later member => ?_⟩
    have after := rest.lower later member
    omega
  apart := by
    rw [List.pairwise_cons]
    refine ⟨fun later member => ?_, rest.apart⟩
    have after := rest.lower later member
    omega
  complete position other after hposition := by
    by_cases beyond : max m.stop (m.start + 1) ≤ position
    · obtain ⟨listed, member, inside⟩ := rest.complete position other beyond hposition
      exact ⟨listed, List.mem_cons_of_mem m member, inside⟩
    · exact ⟨m, List.mem_cons_self, by omega⟩

theorem head?_eq_some_iff (h : Leftmost matchAt pos found) :
    found.head? = some m ↔
      pos ≤ m.start ∧ matchAt m.start = some m ∧
        ∀ start, pos ≤ start → start < m.start → matchAt start = none := by
  have apart := h.apart
  cases found with
  | nil =>
      simp only [List.head?_nil, false_iff, reduceCtorEq]
      rintro ⟨after, hm, _⟩
      obtain ⟨_, member, _⟩ := h.complete m.start m after hm
      exact nomatch member
  | cons first rest =>
      rw [List.pairwise_cons] at apart
      have earliest : ∀ listed ∈ first :: rest, first.start ≤ listed.start := by
        rw [List.forall_mem_cons]
        exact ⟨Nat.le_refl _, fun listed member => Nat.le_of_lt (apart.1 listed member).1⟩
      have here := h.sound first List.mem_cons_self
      rw [List.head?_cons, Option.some.injEq]
      constructor
      · rintro rfl
        refine ⟨h.lower _ List.mem_cons_self, here, fun start after before => ?_⟩
        apply Option.eq_none_iff_forall_ne_some.mpr
        intro other hother
        obtain ⟨listed, member, inside⟩ := h.complete start other after hother
        have later := earliest listed member
        omega
      · rintro ⟨after, hm, least⟩
        obtain ⟨listed, member, inside⟩ := h.complete m.start m after hm
        have later := earliest listed member
        have same : first.start = m.start := by
          apply Nat.le_antisymm
          · omega
          · apply Nat.le_of_not_lt
            intro before
            rw [least first.start (h.lower _ List.mem_cons_self) before] at here
            contradiction
        rw [same, hm] at here
        exact (Option.some.inj here).symm

theorem eq_nil (h : Leftmost matchAt pos found) (none : ∀ start, pos ≤ start → matchAt start = none) :
    found = [] := by
  apply List.eq_nil_iff_forall_not_mem.mpr
  intro m member
  have hm := h.sound m member
  rw [none m.start (h.lower m member)] at hm
  contradiction

theorem of_cons (h : Leftmost matchAt pos (m :: found)) :
    Leftmost matchAt (max m.stop (m.start + 1)) found where
  sound later member := h.sound later (List.mem_cons_of_mem m member)
  lower later member := by
    have after := (List.pairwise_cons.mp h.apart).1 later member
    omega
  apart := (List.pairwise_cons.mp h.apart).2
  complete start other after hother := by
    have first := h.lower m List.mem_cons_self
    obtain ⟨listed, member, inside⟩ := h.complete start other (by omega) hother
    rcases List.mem_cons.mp member with rfl | member
    · omega
    · exact ⟨listed, member, inside⟩

theorem of_skip (h : Leftmost matchAt pos found) (none : matchAt pos = none) :
    Leftmost matchAt (pos + 1) found where
  sound := h.sound
  lower m member := by
    apply Nat.lt_of_le_of_ne (h.lower m member)
    intro same
    have hm := h.sound m member
    rw [← same, none] at hm
    contradiction
  apart := h.apart
  complete start m after := h.complete start m (Nat.le_of_succ_le after)

theorem unique {found' : List Match} (h : Leftmost matchAt pos found)
    (h' : Leftmost matchAt pos found') : found = found' := by
  induction found generalizing pos found' with
  | nil =>
      cases found' with
      | nil => rfl
      | cons m rest =>
          have first := h.head?_eq_some_iff.mpr (h'.head?_eq_some_iff.mp rfl)
          contradiction
  | cons m found ih =>
      have first := h'.head?_eq_some_iff.mpr (h.head?_eq_some_iff.mp rfl)
      obtain ⟨rest, rfl⟩ := List.head?_eq_some_iff.mp first
      rw [ih h.of_cons h'.of_cons]

end Leftmost

section Walking

variable {matchAt : Nat → Option Match} {limit steps pos : Nat} {found : List Match}

/-- The list of matches is the leftmost one, if it is given the steps to reach the end. -/
theorem leftmost_matchesFrom (starts : ∀ {pos m}, matchAt pos = some m → m.start = pos)
    (beyond : ∀ pos, limit < pos → matchAt pos = none) (enough : limit < pos + steps) :
    Leftmost matchAt pos (matchesFrom matchAt steps pos) := by
  induction steps generalizing pos with
  | zero => exact .nil fun start after => beyond start (by omega)
  | succ steps ih =>
      rw [matchesFrom]
      cases here : matchAt pos with
      | none => exact .skip here (ih (by omega))
      | some m =>
          have start := starts here
          exact .cons here start (ih (by omega))

theorem length_matchesFrom_le : (matchesFrom matchAt steps pos).length ≤ steps := by
  induction steps generalizing pos with
  | zero => exact Nat.le_refl 0
  | succ steps ih =>
      rw [matchesFrom]
      cases matchAt pos with
      | none => exact Nat.le_succ_of_le ih
      | some m => exact Nat.succ_le_succ ih

/-- A step of a walk yields the first of the leftmost matches and leaves the others. -/
theorem Leftmost.step (starts : ∀ {pos m}, matchAt pos = some m → m.start = pos)
    (beyond : ∀ pos, limit < pos → matchAt pos = none)
    (enough : limit < pos + steps) (h : Leftmost matchAt pos found) :
    (nextFrom matchAt steps pos).1 = found.head? ∧
      Leftmost matchAt (nextFrom matchAt steps pos).2 found.tail := by
  induction steps generalizing pos with
  | zero =>
      obtain rfl := h.eq_nil fun start after => beyond start (by omega)
      exact ⟨rfl, h⟩
  | succ steps ih =>
      rw [nextFrom]
      cases here : matchAt pos with
      | none => exact ih (by omega) (h.of_skip here)
      | some m =>
          have start := starts here
          have first : found.head? = some m := by
            apply h.head?_eq_some_iff.mpr
            refine ⟨Nat.le_of_eq start.symm, by rw [start, here], fun other after before => ?_⟩
            omega
          obtain ⟨rest, rfl⟩ := List.head?_eq_some_iff.mp first
          exact ⟨rfl, h.of_cons⟩

/-- A step of a walk looks for a match as a search does, from its position on. -/
theorem nextFrom_eq_findSome? :
    (nextFrom matchAt steps pos).1 = (List.range' pos steps).findSome? matchAt := by
  induction steps generalizing pos with
  | zero => rfl
  | succ steps ih =>
      rw [nextFrom, List.range'_succ, List.findSome?_cons]
      cases matchAt pos with
      | none => exact ih
      | some m => rfl

end Walking

namespace Pattern

variable (p : Pattern) (s : Subject)

/-- The matches of a subject are the leftmost ones that do not overlap. -/
theorem leftmost_allMatches : Leftmost (p.matchAt s) 0 (p.allMatches s) := by
  rw [allMatches_eq_matchesFrom]
  exact leftmost_matchesFrom (fun found => (matchAt_span found).1)
    (fun _ => matchAt_of_size_lt p) (by omega)

theorem leftmost_next {pos : Nat} {found : List Match} (h : Leftmost (p.matchAt s) pos found) :
    (p.next s pos).1 = found.head? ∧ Leftmost (p.matchAt s) (p.next s pos).2 found.tail := by
  exact h.step (fun found => (matchAt_span found).1) (fun _ => matchAt_of_size_lt p) (by omega)

def walk (calls : Nat) : Nat :=
  (fun pos => (p.next s pos).2)^[calls] 0

theorem leftmost_walk (calls : Nat) :
    Leftmost (p.matchAt s) (p.walk s calls) ((p.allMatches s).drop calls) := by
  induction calls with
  | zero => exact leftmost_allMatches p s
  | succ calls ih =>
      rw [walk, Function.iterate_succ_apply', ← List.tail_drop]
      exact (leftmost_next p s ih).2

theorem next_walk (calls : Nat) : (p.next s (p.walk s calls)).1 = (p.allMatches s)[calls]? := by
  rw [(leftmost_next p s (leftmost_walk p s calls)).1, List.head?_drop]

theorem search_eq_head? : p.search s = (p.allMatches s).head? := by
  rw [← (leftmost_next p s (leftmost_allMatches p s)).1, next, nextFrom_eq_findSome?,
    search_eq_findSome?, List.range_eq_range', Nat.sub_zero]

theorem search_eq_some_iff {m : Match} :
    p.search s = some m ↔
      p.matchAt s m.start = some m ∧ ∀ start < m.start, p.matchAt s start = none := by
  rw [search_eq_head?, (leftmost_allMatches p s).head?_eq_some_iff]
  simp

/--
The list of matches is the leftmost one without overlaps, and no other list is. What a search finds is
its first, the match at the least position that has one. It has no more members than the text has
positions. A walk yields one of them after the other, and then nothing more, however often it is asked.
-/
theorem allMatches_leftmost :
    (∀ found, found = p.allMatches s ↔ Leftmost (p.matchAt s) 0 found) ∧
    (p.allMatches s).head? = p.search s ∧
    (∀ m, p.search s = some m ↔
      p.matchAt s m.start = some m ∧ ∀ start < m.start, p.matchAt s start = none) ∧
    (p.isMatch s = true ↔ p.allMatches s ≠ []) ∧
    (p.allMatches s).length ≤ s.size + 1 ∧
    (∀ calls, (p.next s (p.walk s calls)).1 = (p.allMatches s)[calls]?) ∧
    (∀ calls later, calls ≤ later → (p.next s (p.walk s calls)).1 = none →
      (p.next s (p.walk s later)).1 = none) := by
  have leftmost := leftmost_allMatches p s
  refine ⟨?_, (search_eq_head? p s).symm, fun m => search_eq_some_iff p s, ?_,
    length_matchesFrom_le, next_walk p s, ?_⟩
  · intro found
    constructor
    · rintro rfl
      exact leftmost
    · exact fun other => other.unique leftmost
  · rw [isMatch, search_eq_head?]
    cases p.allMatches s <;> simp
  · intro calls later after ended
    rw [next_walk, List.getElem?_eq_none_iff] at *
    exact Nat.le_trans ended after

/--
On `baac` the pattern `a*` matches nothing before `b`, then `aa`, and then nothing before and after `c`;
the attempt at the second `a` succeeds as well, and lies inside the match of `aa`.
-/
theorem allMatches_leftmost_star :
    let p := star (.literal 'a')
    let s : Subject := { text := #['b', 'a', 'a', 'c'] }
    (p.allMatches s).map Match.span = [⟨0, 0⟩, ⟨1, 3⟩, ⟨3, 3⟩, ⟨4, 4⟩] ∧
      (∃ m, p.matchAt s 2 = some m ∧
        ∃ listed ∈ p.allMatches s, listed.start < 2 ∧ 2 < listed.stop) ∧
      (p.next s (p.walk s 4)).1 = none ∧ (p.next s (p.walk s 9)).1 = none := by
  intro p s
  obtain ⟨listing, _, _, _, _, _, fused⟩ := allMatches_leftmost p s
  have spans : (p.allMatches s).map Match.span = [⟨0, 0⟩, ⟨1, 3⟩, ⟨3, 3⟩, ⟨4, 4⟩] := by decide
  have ended : (p.next s (p.walk s 4)).1 = none := by decide
  refine ⟨spans, ?_, ended, fused 4 9 (by decide) ended⟩
  have succeeds : (p.matchAt s 2).isSome = true := by decide
  obtain ⟨m, hm⟩ := Option.isSome_iff_exists.mp succeeds
  obtain ⟨listed, member, inside⟩ := ((listing _).mp rfl).complete 2 m (Nat.zero_le 2) hm
  refine ⟨m, hm, listed, member, ?_⟩
  rcases inside with begins | inside
  · have starts : ∀ listed ∈ p.allMatches s, listed.start ≠ 2 := by decide
    exact absurd begins.symm (starts listed member)
  · exact inside

end Pattern

end Rematch
