import Rematch.Proofs.Stack

/-!
# What a run records

What a memory records beyond an earlier one lies between two positions of the text: where the run
began, and where it ends or its choice point stands. The facts about an outcome are about all of its
stack, since every point on it keeps a memory of its own.
-/

namespace Rematch

namespace Memory

/--
What `m` records and `entry` does not lies from `lo` up to `hi`, and a loop has at least a character
for each repetition that it counts. No group that was opened and no loop that was begun is forgotten.
-/
structure Since (lo hi : Nat) (entry m : Memory) : Prop where
  captures : ∀ {index : Nat} {span : Span}, m.captures[index]? = some span →
    entry.captures[index]? = some span ∨ (lo ≤ span.start ∧ span.start ≤ span.stop ∧ span.stop ≤ hi)
  groupStarts : ∀ {index start : Nat}, m.groupStarts[index]? = some start →
    entry.groupStarts[index]? = some start ∨ (lo ≤ start ∧ start ≤ hi)
  loops : ∀ {number : Nat} {mark : LoopMark}, m.loops[number]? = some mark →
    entry.loops[number]? = some mark ∨ (lo + mark.count ≤ mark.start ∧ mark.start ≤ hi)
  opened : ∀ {index : Nat}, index ∈ entry.groupStarts → index ∈ m.groupStarts
  begun : ∀ {number : Nat}, number ∈ entry.loops → number ∈ m.loops

namespace Since

variable {lo lo' hi hi' : Nat} {entry mid m : Memory}

/-- Choice points are no part of what is compared. -/
theorem of_eq (captures : m.captures = entry.captures) (starts : m.groupStarts = entry.groupStarts)
    (loops : m.loops = entry.loops) : Since lo hi entry m where
  captures h := .inl (captures ▸ h)
  groupStarts h := .inl (starts ▸ h)
  loops h := .inl (loops ▸ h)
  opened h := starts ▸ h
  begun h := loops ▸ h

theorem refl (lo hi : Nat) (m : Memory) : Since lo hi m m :=
  of_eq rfl rfl rfl

theorem trans (h : Since lo hi entry mid) (h' : Since lo' hi' mid m) (lower : lo ≤ lo')
    (upper : hi ≤ hi') : Since lo hi' entry m where
  captures found := by
    rcases h'.captures found with earlier | inside
    · exact (h.captures earlier).imp_right fun inside => by omega
    · exact .inr (by omega)
  groupStarts found := by
    rcases h'.groupStarts found with earlier | inside
    · exact (h.groupStarts earlier).imp_right fun inside => by omega
    · exact .inr (by omega)
  loops found := by
    rcases h'.loops found with earlier | inside
    · exact (h.loops earlier).imp_right fun inside => by omega
    · exact .inr (by omega)
  opened member := h'.opened (h.opened member)
  begun member := h'.begun (h.begun member)

theorem widen (h : Since lo hi entry m) (upper : hi ≤ hi') : Since lo hi' entry m :=
  h.trans (refl lo hi' m) (Nat.le_refl lo) upper

theorem capture (h : Since lo hi entry m) {index start stop : Nat} (lower : lo ≤ start)
    (ordered : start ≤ stop) (upper : stop ≤ hi) : Since lo hi entry (m.capture index start stop) where
  captures {wanted span} found := by
    simp only [Memory.capture, Std.ExtTreeMap.getElem?_insert] at found
    split at found
    · cases found
      exact .inr ⟨lower, ordered, upper⟩
    · exact h.captures found
  groupStarts := h.groupStarts
  loops := h.loops
  opened := h.opened
  begun := h.begun

theorem openGroup (h : Since lo hi entry m) {start : Nat} (index : Nat) (lower : lo ≤ start)
    (upper : start ≤ hi) : Since lo hi entry (m.openGroup index start) where
  captures := h.captures
  groupStarts {wanted found} hfound := by
    simp only [Memory.openGroup, Std.ExtTreeMap.getElem?_insert] at hfound
    split at hfound
    · cases hfound
      exact .inr ⟨lower, upper⟩
    · exact h.groupStarts hfound
  loops := h.loops
  opened member := by simp [Memory.openGroup, h.opened member]
  begun := h.begun

theorem enterLoop (h : Since lo hi entry m) {count start : Nat} (loop : Nat)
    (counted : lo + count ≤ start) (upper : start ≤ hi) :
    Since lo hi entry (m.enterLoop loop count start) where
  captures := h.captures
  groupStarts := h.groupStarts
  loops {wanted mark} found := by
    rw [loops_enterLoop] at found
    split at found
    · cases found
      exact .inr ⟨counted, upper⟩
    · exact h.loops found
  opened := h.opened
  begun member := by simp [Memory.enterLoop, h.begun member]

theorem exists_start (h : Since lo hi entry m) {index start : Nat}
    (opened : entry.groupStarts[index]? = some start) (lower : lo ≤ start) (upper : start ≤ hi) :
    ∃ start', m.groupStarts[index]? = some start' ∧ lo ≤ start' ∧ start' ≤ hi := by
  have member : index ∈ m.groupStarts :=
    h.opened (Std.ExtTreeMap.mem_iff_isSome_getElem?.mpr (by simp [opened]))
  refine ⟨m.groupStarts[index], Std.ExtTreeMap.getElem?_eq_some_getElem member, ?_⟩
  rcases h.groupStarts (Std.ExtTreeMap.getElem?_eq_some_getElem member) with earlier | inside
  · rw [opened] at earlier
    cases earlier
    exact ⟨lower, upper⟩
  · exact inside

theorem exists_mark (h : Since lo' hi entry m) {number : Nat} {mark : LoopMark}
    (begun : entry.loops[number]? = some mark) (lower : lo ≤ lo')
    (counted : lo + mark.count ≤ mark.start) (upper : mark.start ≤ hi) :
    ∃ mark', m.loops[number]? = some mark' ∧ lo + mark'.count ≤ mark'.start ∧ mark'.start ≤ hi := by
  have member : number ∈ m.loops :=
    h.begun (Std.ExtTreeMap.mem_iff_isSome_getElem?.mpr (by simp [begun]))
  refine ⟨m.loops[number], Std.ExtTreeMap.getElem?_eq_some_getElem member, ?_⟩
  rcases h.loops (Std.ExtTreeMap.getElem?_eq_some_getElem member) with earlier | inside
  · rw [begun] at earlier
    cases earlier
    exact ⟨counted, upper⟩
  · omega

end Since

end Memory

/-- The choice points that an operator can take up if they were left from position `lo` on. -/
abbrev Route := (lo : Nat) → ChoicePoint → Prop

structure Resumable (route : Route) (limit lo least : Nat) (entry : Memory) (point : ChoicePoint) :
    Prop where
  route : route lo point
  counted : lo + point.choice ≤ point.position
  lower : least ≤ point.position
  upper : point.position ≤ limit
  since : Memory.Since lo point.position entry point.snapshot

/--
An outcome reached from `entry`, of which a match ends from `least` up to `limit`. All points that it
adds to the stack can be taken up.
-/
inductive Settled (route : Route) (limit lo least : Nat) (entry : Memory) : Outcome → Prop
  | failed {m : Memory} : Memory.Since lo limit entry m →
      Grown (Resumable route limit lo least entry) entry.points m.points →
      Settled route limit lo least entry (.failed m)
  | matched {stop : Nat} {m : Memory} : least ≤ stop → stop ≤ limit → Memory.Since lo stop entry m →
      Grown (Resumable route limit lo least entry) entry.points m.points →
      Settled route limit lo least entry (.matched stop m)

section

variable {route route' : Route} {limit lo lo' hi least least' : Nat} {entry mid m : Memory}
variable {outcome : Outcome}

theorem Resumable.imp {point : ChoicePoint} (h : Resumable route' limit lo least entry point)
    (found : route lo point) : Resumable route limit lo least entry point :=
  { h with route := found }

/-- A point left since `mid`, which itself grew out of `entry`, was left since `entry`. -/
theorem Resumable.lift {point : ChoicePoint} (h : Resumable route' limit lo' least' mid point)
    (reached : Memory.Since lo hi entry mid) (lower : lo ≤ lo') (later : least ≤ least')
    (within : hi ≤ least') (found : route lo point) : Resumable route limit lo least entry point where
  route := found
  counted := Nat.le_trans (Nat.add_le_add_right lower _) h.counted
  lower := Nat.le_trans later h.lower
  upper := h.upper
  since := reached.trans h.since lower (Nat.le_trans within h.lower)

namespace Settled

theorem unchanged (route : Route) (limit lo least : Nat) (m : Memory) :
    Settled route limit lo least m (.failed m) :=
  .failed (.refl lo limit m) .refl

theorem since (h : Settled route limit lo least entry outcome) :
    Memory.Since lo limit entry outcome.memory := by
  cases h with
  | failed since _ => exact since
  | matched _ upper since _ => exact since.widen upper

theorem grown (h : Settled route limit lo least entry outcome) :
    Grown (Resumable route limit lo least entry) entry.points outcome.memory.points := by
  cases h with
  | failed _ grown => exact grown
  | matched _ _ _ grown => exact grown

theorem stop_le (h : Settled route limit lo least entry outcome) {stop : Nat}
    (hstop : outcome.stop? = some stop) : least ≤ stop ∧ stop ≤ limit := by
  cases h with
  | failed _ _ => contradiction
  | matched lower upper _ _ =>
      cases hstop
      exact ⟨lower, upper⟩

/--
What was reached from a memory in between is reached from the first one, with the points left in
between below.
-/
theorem lift (h : Settled route' limit lo' least' mid outcome)
    (reached : Memory.Since lo hi entry mid)
    (below : Grown (Resumable route limit lo least entry) entry.points mid.points)
    (lower : lo ≤ lo') (later : least ≤ least') (within : hi ≤ least') (upper : hi ≤ limit)
    (carry : ∀ point, Resumable route' limit lo' least' mid point → route lo point) :
    Settled route limit lo least entry outcome := by
  have above : ∀ {points}, Grown (Resumable route' limit lo' least' mid) mid.points points →
      Grown (Resumable route limit lo least entry) entry.points points := fun grown =>
    below.trans (grown.mono fun point found =>
      found.lift reached lower later within (carry point found))
  cases h with
  | failed since grown => exact .failed (reached.trans since lower upper) (above grown)
  | matched hstop hlimit since grown =>
      exact .matched (Nat.le_trans later hstop) hlimit
        (reached.trans since lower (Nat.le_trans within hstop)) (above grown)

/-- Points that one operator can take up can be taken up through the operator above it. -/
theorem carry (h : Settled route' limit lo least entry outcome) (lower : lo ≤ least)
    (upper : lo ≤ limit)
    (carry : ∀ point, Resumable route' limit lo least entry point → route lo point) :
    Settled route limit lo least entry outcome :=
  h.lift (.refl lo lo entry) .refl (Nat.le_refl lo) (Nat.le_refl least) lower upper carry

theorem capture {stop start : Nat} (h : Settled route limit lo least entry (.matched stop m))
    (index : Nat) (lower : lo ≤ start) (upper : start ≤ stop) :
    Settled route limit lo least entry (.matched stop (m.capture index start stop)) := by
  cases h with
  | matched hstop hlimit since grown =>
      exact .matched hstop hlimit (since.capture lower upper (Nat.le_refl stop)) grown

end Settled

end

end Rematch
