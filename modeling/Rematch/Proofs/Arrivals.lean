import Rematch.Memory
import Rematch.Results

/-!
# Arrivals

All ways in which an operator can be left in a given memory, in the order in which they are taken up.
In addition to its results this follows the group starts: a group that is taken up again begins where
the memory put back says, which is another place than its own if a group of the same number lies
below it.
-/

namespace Rematch

abbrev GroupStarts := Std.ExtTreeMap Nat Nat

structure Marks where
  captures : Captures := ∅
  groupStarts : GroupStarts := ∅

namespace Marks

def openGroup (marks : Marks) (index start : Nat) : Marks :=
  { marks with groupStarts := marks.groupStarts.insert index start }

def capture (marks : Marks) (index start stop : Nat) : Marks :=
  { marks with captures := marks.captures.insert index { start, stop } }

end Marks

def Memory.marks (m : Memory) : Marks where
  captures := m.captures
  groupStarts := m.groupStarts

/-- A way to leave an operator. -/
structure Arrival where
  stop : Nat
  marks : Marks
  /-- The group starts in the memory that was put back last. -/
  origin : GroupStarts

namespace Arrival

def result (a : Arrival) : Result where
  stop := a.stop
  captures := a.marks.captures

/-- Puts the first way of a list down to the memory from which the operator itself was run. -/
def setOrigin (origin : GroupStarts) : List Arrival → List Arrival
  | [] => []
  | first :: others => { first with origin } :: others

def follow (arrive : Marks → (pos : Nat) → List Arrival) (a : Arrival) : List Arrival :=
  setOrigin a.origin (arrive a.marks a.stop)

def captureGroup (index start : Nat) (a : Arrival) : Arrival :=
  { a with marks := a.marks.capture index (a.origin[index]?.getD start) a.stop }

def ofCount (min count pos : Nat) (marks : Marks) (origin : GroupStarts) : List Arrival :=
  if count < min then [] else [{ stop := pos, marks, origin }]

def preferredCount (body : Marks → Nat → List Arrival) (max : Option Nat) :
    (remaining count : Nat) → Marks → (pos : Nat) → Nat
  | 0, count, _, _ => count
  | remaining + 1, count, marks, pos =>
      if max.any (· ≤ count) then
        count
      else
        match body marks pos with
        | [] => count
        | first :: _ =>
            if first.stop = pos then
              count
            else
              preferredCount body max remaining (count + 1) first.marks first.stop

/--
The ways of leaving a loop of which `count` repetitions are complete. The way straight on keeps its
`origin`; the others are put down to the memory in which a repetition was taken up again.
-/
def iterate (body : Marks → Nat → List Arrival) (min : Nat) (max : Option Nat) :
    (remaining count : Nat) → (origin : GroupStarts) → Marks → (pos : Nat) → List Arrival
  | 0, count, origin, marks, pos => ofCount min count pos marks origin
  | remaining + 1, count, origin, marks, pos =>
      if max.any (· ≤ count) then
        ofCount min count pos marks origin
      else
        match body marks pos with
        | [] => ofCount min count pos marks origin
        | first :: others =>
            if first.stop = pos then
              ofCount min count pos marks origin
            else
              iterate body min max remaining (count + 1) origin first.marks first.stop ++
                ((others.flatMap fun a =>
                  if a.stop = pos then []
                  else iterate body min max remaining (count + 1) a.origin a.marks a.stop) ++
                ofCount min count pos marks marks.groupStarts)

def repeated (body : Marks → Nat → List Arrival) (min : Nat) (max : Option Nat)
    (remaining : Nat) (marks : Marks) (pos : Nat) : List Arrival :=
  if preferredCount body max remaining 0 marks pos < min then []
  else iterate body min max remaining 0 marks.groupStarts marks pos

def ofStop? (stop? : Option Nat) (marks : Marks) : List Arrival :=
  match stop? with
  | some stop => [{ stop, marks, origin := marks.groupStarts }]
  | none => []

@[simp] theorem setOrigin_nil (origin : GroupStarts) : setOrigin origin [] = [] := rfl

@[simp] theorem setOrigin_setOrigin (origin origin' : GroupStarts) (arrivals : List Arrival) :
    setOrigin origin (setOrigin origin' arrivals) = setOrigin origin arrivals := by
  cases arrivals <;> rfl

@[simp] theorem setOrigin_eq_nil_iff (origin : GroupStarts) (arrivals : List Arrival) :
    setOrigin origin arrivals = [] ↔ arrivals = [] := by
  cases arrivals <;> simp [setOrigin]

theorem forall_mem_setOrigin {P : Arrival → Prop} (origin : GroupStarts) {arrivals : List Arrival}
    (steady : ∀ a, P a → P { a with origin }) (h : ∀ a ∈ arrivals, P a) :
    ∀ a ∈ setOrigin origin arrivals, P a := by
  cases arrivals with
  | nil => exact h
  | cons first others =>
      intro a member
      rcases List.mem_cons.mp member with rfl | later
      · exact steady first (h first List.mem_cons_self)
      · exact h a (List.mem_cons_of_mem first later)

theorem setOrigin_append {arrivals : List Arrival} (h : arrivals ≠ []) (origin : GroupStarts)
    (others : List Arrival) :
    setOrigin origin (arrivals ++ others) = setOrigin origin arrivals ++ others := by
  cases arrivals with
  | nil => contradiction
  | cons first rest => rfl

/-! ### Whether a loop goes on -/

/-- A loop ends here: it has made its repetitions, or the first way of its body leads nowhere. -/
def Blocked (body : Marks → Nat → List Arrival) (max : Option Nat) (count : Nat) (marks : Marks)
    (pos : Nat) : Prop :=
  max.any (· ≤ count) = true ∨ ∀ first ∈ (body marks pos).head?, first.stop = pos

section Going

variable {body : Marks → Nat → List Arrival} {min : Nat} {max : Option Nat}
variable {remaining count pos : Nat} {origin : GroupStarts} {marks : Marks}

theorem iterate_of_blocked (h : Blocked body max count marks pos) :
    iterate body min max remaining count origin marks pos =
      ofCount min count pos marks origin := by
  unfold iterate
  split
  · rfl
  · split
    · rfl
    · rename_i unbounded
      split
      · rfl
      · rename_i first others hlist
        rcases h with full | stays
        · contradiction
        · rw [hlist] at stays
          rw [if_pos (stays first rfl)]

theorem preferredCount_of_blocked (h : Blocked body max count marks pos) :
    preferredCount body max remaining count marks pos = count := by
  unfold preferredCount
  split
  · rfl
  · split
    · rfl
    · rename_i unbounded
      split
      · rfl
      · rename_i first others hlist
        rcases h with full | stays
        · contradiction
        · rw [hlist] at stays
          rw [if_pos (stays first rfl)]

theorem exists_of_not_blocked (h : ¬ Blocked body max count marks pos) :
    ¬ max.any (· ≤ count) = true ∧
      ∃ first others, body marks pos = first :: others ∧ first.stop ≠ pos := by
  rw [Blocked, not_or] at h
  refine ⟨h.1, ?_⟩
  cases hlist : body marks pos with
  | nil =>
      rw [hlist] at h
      exact absurd (fun first found => nomatch found) h.2
  | cons first others =>
      rw [hlist] at h
      refine ⟨first, others, rfl, fun stays => h.2 ?_⟩
      intro first' found
      obtain rfl : first = first' := Option.some.inj found
      exact stays

theorem iterate_of_not_blocked (unbounded : ¬ max.any (· ≤ count) = true) {first : Arrival}
    {others : List Arrival} (hlist : body marks pos = first :: others) (moves : first.stop ≠ pos) :
    iterate body min max (remaining + 1) count origin marks pos =
      iterate body min max remaining (count + 1) origin first.marks first.stop ++
        ((others.flatMap fun a =>
          if a.stop = pos then []
          else iterate body min max remaining (count + 1) a.origin a.marks a.stop) ++
        ofCount min count pos marks marks.groupStarts) := by
  rw [iterate, if_neg unbounded, hlist]
  exact if_neg moves

theorem preferredCount_of_not_blocked (unbounded : ¬ max.any (· ≤ count) = true) {first : Arrival}
    {others : List Arrival} (hlist : body marks pos = first :: others) (moves : first.stop ≠ pos) :
    preferredCount body max (remaining + 1) count marks pos =
      preferredCount body max remaining (count + 1) first.marks first.stop := by
  rw [preferredCount, if_neg unbounded, hlist]
  exact if_neg moves

theorem mem_iterate {a : Arrival}
    (h : a ∈ iterate body min max (remaining + 1) count origin marks pos) :
    (∃ origin', (origin' = origin ∨ origin' = marks.groupStarts) ∧
      a ∈ ofCount min count pos marks origin') ∨
    ∃ b ∈ body marks pos, b.stop ≠ pos ∧ ∃ origin', (origin' = origin ∨ origin' = b.origin) ∧
      a ∈ iterate body min max remaining (count + 1) origin' b.marks b.stop := by
  by_cases blocked : Blocked body max count marks pos
  · rw [iterate_of_blocked blocked] at h
    exact .inl ⟨origin, .inl rfl, h⟩
  · obtain ⟨unbounded, first, others, hlist, moves⟩ := exists_of_not_blocked blocked
    rw [iterate_of_not_blocked unbounded hlist moves] at h
    rw [hlist]
    rcases List.mem_append.mp h with ahead | h
    · exact .inr ⟨first, List.mem_cons_self, moves, origin, .inl rfl, ahead⟩
    · rcases List.mem_append.mp h with later | here
      · obtain ⟨b, hb, ha⟩ := List.mem_flatMap.mp later
        split at ha
        · contradiction
        · rename_i leaves
          exact .inr ⟨b, List.mem_cons_of_mem first hb, leaves, b.origin, .inr rfl, ha⟩
      · exact .inl ⟨marks.groupStarts, .inr rfl, here⟩

/--
What holds where a loop begins and is carried on by every way of leaving its body holds of every way of
leaving the loop, in whatever memory it is put down.
-/
theorem forall_mem_iterate {P : Arrival → Prop}
    (putBack : ∀ {pos marks origin}, P ⟨pos, marks, origin⟩ → P ⟨pos, marks, marks.groupStarts⟩)
    (carries : ∀ {pos marks origin}, P ⟨pos, marks, origin⟩ →
      ∀ a ∈ body marks pos, P { a with origin } ∧ P a)
    (h : P ⟨pos, marks, origin⟩) :
    ∀ a ∈ iterate body min max remaining count origin marks pos, P a := by
  have ends {count pos : Nat} {marks : Marks} {origin : GroupStarts} (h : P ⟨pos, marks, origin⟩) :
      ∀ a ∈ ofCount min count pos marks origin, P a := by
    intro a member
    unfold ofCount at member
    split at member
    · contradiction
    · obtain rfl := List.mem_singleton.mp member
      exact h
  induction remaining generalizing count origin marks pos with
  | zero => exact ends h
  | succ remaining ih =>
      intro a member
      rcases mem_iterate member with ⟨origin', which, here⟩ | ⟨b, hb, _, origin', which, later⟩
      · rcases which with rfl | rfl
        · exact ends h a here
        · exact ends (putBack h) a here
      · rcases which with rfl | rfl
        · exact ih (carries h b hb).1 a later
        · exact ih (carries h b hb).2 a later

/-- Where a loop goes on, it can be left in every way that goes on from a way of its body. -/
theorem iterate_subset (min remaining : Nat) (origin : GroupStarts)
    (h : ¬ Blocked body max count marks pos) {b : Arrival}
    (hb : b ∈ body marks pos) (leaves : b.stop ≠ pos) :
    ∃ origin', iterate body min max remaining (count + 1) origin' b.marks b.stop ⊆
      iterate body min max (remaining + 1) count origin marks pos := by
  obtain ⟨unbounded, first, others, hlist, moves⟩ := exists_of_not_blocked h
  rw [iterate_of_not_blocked unbounded hlist moves]
  rw [hlist] at hb
  rcases List.mem_cons.mp hb with rfl | later
  · exact ⟨origin, List.subset_append_left _ _⟩
  · refine ⟨b.origin, fun a ha => List.mem_append_right _ (List.mem_append_left _ ?_)⟩
    refine List.mem_flatMap.mpr ⟨b, later, ?_⟩
    rw [if_neg leaves]
    exact ha

theorem ofCount_subset (body : Marks → Nat → List Arrival) (min : Nat) (max : Option Nat)
    (remaining count pos : Nat) (origin : GroupStarts) (marks : Marks) :
    ∃ origin', ofCount min count pos marks origin' ⊆
      iterate body min max remaining count origin marks pos := by
  by_cases blocked : Blocked body max count marks pos
  · rw [iterate_of_blocked blocked]
    exact ⟨origin, fun _ h => h⟩
  · cases remaining with
    | zero => exact ⟨origin, fun _ h => h⟩
    | succ remaining =>
        obtain ⟨unbounded, first, others, hlist, moves⟩ := exists_of_not_blocked blocked
        rw [iterate_of_not_blocked unbounded hlist moves]
        exact ⟨marks.groupStarts, fun a ha => List.mem_append_right _ (List.mem_append_right _ ha)⟩

end Going

end Arrival

namespace Pattern

mutual

def arrivals (s : Subject) : Pattern → Marks → (pos : Nat) → List Arrival
  | .sequence parts, marks, pos => partArrivals s parts marks pos
  | .alternation left right, marks, pos =>
      arrivals s left marks pos ++
        Arrival.setOrigin marks.groupStarts (arrivals s right marks pos)
  | .loop body min max, marks, pos =>
      Arrival.repeated (arrivals s body) min max (s.size - pos) marks pos
  | .group body index, marks, pos =>
      let opened := marks.openGroup index pos
      (Arrival.setOrigin opened.groupStarts (arrivals s body opened pos)).map
        (Arrival.captureGroup index pos)
  | .atomic body, marks, pos => (arrivals s body marks pos).take 1
  | .lookahead body, marks, pos =>
      Arrival.ofStop? (if (arrivals s body marks pos).isEmpty then none else some pos) marks
  | .lookbehind body width, marks, pos =>
      Arrival.ofStop?
        (if pos < width then none
        else if (arrivals s body marks (pos - width)).head?.any (·.stop = pos) then some pos
        else none)
        marks
  | .negation body, marks, pos =>
      Arrival.ofStop?
        (if !body.isZeroWidth && s.size ≤ pos then none
        else if (arrivals s body marks pos).isEmpty then
          some (if body.isZeroWidth then pos else pos + 1)
        else none)
        marks
  | p, marks, pos => Arrival.ofStop? (singleStop? s marks.captures pos p) marks

def partArrivals (s : Subject) : List Pattern → Marks → (pos : Nat) → List Arrival
  | [], marks, pos => Arrival.ofStop? (some pos) marks
  | part :: rest, marks, pos =>
      (arrivals s part marks pos).flatMap (Arrival.follow (partArrivals s rest))

end

end Pattern

end Rematch
