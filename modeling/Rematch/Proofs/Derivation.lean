import Rematch.Proofs.Enumeration
import Rematch.Proofs.Stops

/-!
# Derivations

A derivation says that a pattern covers a stretch of text, without an order of attempts. Every match
has one. The converse needs care at loops: a loop commits to the preferred matches of its body until
it has made enough repetitions, and it ends where the preferred match of its body is empty.
-/

namespace Rematch

/-- So many steps lead from one position to another, and each leaves its position. -/
inductive Times (step : Nat → Nat → Prop) : (count pos stop : Nat) → Prop
  | zero {pos : Nat} : Times step 0 pos pos
  | succ {count pos next stop : Nat} : step pos next → next ≠ pos → Times step count next stop →
      Times step (count + 1) pos stop

namespace Times

variable {step step' : Nat → Nat → Prop} {count pos stop length : Nat}

theorem advances (h : Times step count pos stop)
    (reach : ∀ q next, step q next → q ≤ next ∧ next ≤ max q length) :
    pos ≤ stop ∧ stop ≤ max pos length := by
  induction h with
  | zero => omega
  | succ first _ _ ih =>
      have bounds := reach _ _ first
      omega

theorem imp {inside : Nat → Prop} (h : Times step count pos stop) (start : inside pos)
    (keeps : ∀ q next, inside q → step q next → inside next)
    (same : ∀ q next, inside q → step q next → step' q next) : Times step' count pos stop := by
  induction h with
  | zero => exact .zero
  | succ first moves _ ih =>
      exact .succ (same _ _ start first) moves (ih (keeps _ _ start first))

theorem take (h : Times step count pos stop) {fewer : Nat} (hfewer : fewer ≤ count) :
    ∃ mid, Times step fewer pos mid := by
  induction h generalizing fewer with
  | @zero pos =>
      obtain rfl : fewer = 0 := by omega
      exact ⟨pos, .zero⟩
  | @succ _ pos _ _ first moves _ ih =>
      cases fewer with
      | zero => exact ⟨pos, .zero⟩
      | succ fewer =>
          obtain ⟨mid, rest⟩ := ih (Nat.le_of_succ_le_succ hfewer)
          exact ⟨mid, .succ first moves rest⟩

end Times

/-- What a loop asks of a derivation besides a number of repetitions within its bounds. -/
structure LoopRule where
  /-- Whether a loop that needs `min` repetitions of a body can be entered. -/
  enters : (body : Pattern) → (min pos : Nat) → Prop
  /-- Whether a repetition can begin. -/
  begins : (body : Pattern) → (pos : Nat) → Prop

namespace LoopRule

def free : LoopRule where
  enters _ _ _ := True
  begins _ _ := True

def preferredStop? (s : Subject) (p : Pattern) (pos : Nat) : Option Nat :=
  (p.matchAt s pos).map Match.stop

/--
The preferred matches of the body lead to enough repetitions, and no repetition begins where the
preferred match is empty.
-/
def greedy (s : Subject) : LoopRule where
  enters body min pos :=
    ∃ stop, Times (fun q next => preferredStop? s body q = some next) min pos stop
  begins body pos := preferredStop? s body pos ≠ some pos

end LoopRule

namespace Pattern

mutual

/-- Whether a pattern covers the text from one position to another, under a rule for loops. -/
def Derives (s : Subject) (rule : LoopRule) : Pattern → (pos stop : Nat) → Prop
  | .sequence parts, pos, stop => PartsDerive s rule parts pos stop
  | .alternation left right, pos, stop =>
      Derives s rule left pos stop ∨ Derives s rule right pos stop
  | .loop body min max, pos, stop =>
      rule.enters body min pos ∧ ∃ count, min ≤ count ∧ (∀ most ∈ max, count ≤ most) ∧
        Times (fun q next => rule.begins body q ∧ Derives s rule body q next) count pos stop
  | .group body _, pos, stop => Derives s rule body pos stop
  | p, pos, stop => singleStop? s ∅ pos p = some stop

def PartsDerive (s : Subject) (rule : LoopRule) : List Pattern → (pos stop : Nat) → Prop
  | [], pos, stop => stop = pos
  | part :: rest, pos, stop =>
      ∃ next, Derives s rule part pos next ∧ PartsDerive s rule rest next stop

end

mutual

theorem Derives.advances {s : Subject} {rule : LoopRule} : (p : Pattern) → {pos stop : Nat} →
    p.Derives s rule pos stop → pos ≤ stop ∧ stop ≤ max pos s.size
  | .sequence parts, _, _, h => PartsDerive.advances parts h
  | .alternation left right, _, _, h => by
      rcases h with first | second
      · exact Derives.advances left first
      · exact Derives.advances right second
  | .loop body _ _, _, _, h => by
      obtain ⟨_, _, _, _, times⟩ := h
      exact times.advances fun _ _ step => Derives.advances body step.2
  | .group body _, _, _, h => Derives.advances body (by rwa [Derives] at h)
  | .empty, _, _, h | .literal _, _, _, h | .anyChar, _, _, h | .digit, _, _, h | .word, _, _, h
  | .space, _, _, h | .charClass .., _, _, h | .lineStart, _, _, h | .lineEnd, _, _, h
  | .wordEdge, _, _, h | .backreference _, _, _, h | .atomic _, _, _, h | .lookahead _, _, _, h
  | .lookbehind .., _, _, h | .negation _, _, _, h => singleStop?_advances h

theorem PartsDerive.advances {s : Subject} {rule : LoopRule} : (parts : List Pattern) →
    {pos stop : Nat} → PartsDerive s rule parts pos stop → pos ≤ stop ∧ stop ≤ max pos s.size
  | [], _, _, h => by
      rw [PartsDerive] at h
      omega
  | part :: rest, _, _, h => by
      obtain ⟨next, first, later⟩ := h
      have reach := Derives.advances part first
      have further := PartsDerive.advances rest later
      omega

end

end Pattern

/-! ## Loops -/

namespace Arrival

variable {length : Nat} {body : Marks → Nat → List Arrival} {preferred : Nat → Option Nat}
variable {derives : Nat → Nat → Prop}

theorem le_preferredCount (body : Marks → Nat → List Arrival) (max : Option Nat)
    (remaining count : Nat) (marks : Marks) (pos : Nat) :
    count ≤ preferredCount body max remaining count marks pos := by
  induction remaining generalizing count marks pos with
  | zero => exact Nat.le_refl count
  | succ remaining ih =>
      unfold preferredCount
      split
      · exact Nat.le_refl count
      · split
        · exact Nat.le_refl count
        · split
          · exact Nat.le_refl count
          · exact Nat.le_trans (Nat.le_succ count) (ih _ _ _)

theorem stop_eq_of_blocked
    (heads : ∀ marks q, q ≤ length → ((body marks q).map stop).head? = preferred q)
    {marks : Marks} {pos next : Nat} (inside : pos ≤ length)
    (stays : ∀ first ∈ (body marks pos).head?, first.stop = pos) (h : preferred pos = some next) :
    next = pos := by
  rw [← heads marks pos inside, List.head?_map, Option.map_eq_some_iff] at h
  obtain ⟨first, found, rfl⟩ := h
  exact stays first found

theorem add_le_preferredCount_iff (advances : Advances length body)
    (heads : ∀ marks q, q ≤ length → ((body marks q).map stop).head? = preferred q)
    {max : Option Nat} {remaining pos : Nat} (count wanted : Nat) (marks : Marks)
    (inside : pos ≤ length) (enough : length - pos ≤ remaining)
    (room : ∀ most ∈ max, count + wanted ≤ most) :
    count + wanted ≤ preferredCount body max remaining count marks pos ↔
      ∃ stop, Times (fun q next => preferred q = some next) wanted pos stop := by
  induction wanted generalizing remaining count pos marks with
  | zero =>
      constructor
      · intro _
        exact ⟨pos, .zero⟩
      · intro _
        exact le_preferredCount body max remaining count marks pos
  | succ wanted ih =>
      by_cases blocked : Blocked body max count marks pos
      · rw [preferredCount_of_blocked blocked]
        refine iff_of_false (by omega) ?_
        rintro ⟨stop, times⟩
        cases times with
        | succ first moves _ =>
            rcases blocked with full | stays
            · obtain ⟨most, hmost, le⟩ := (Option.any_eq_true _ _).mp full
              have below := room most hmost
              have reached := of_decide_eq_true le
              omega
            · exact moves (stop_eq_of_blocked heads inside stays first)
      · obtain ⟨unbounded, first, others, hlist, moves⟩ := exists_of_not_blocked blocked
        have before : pos < length := by
          refine Nat.lt_of_not_le fun past => blocked ?_
          exact blocked_end advances past max count marks
        obtain ⟨remaining, rfl⟩ : ∃ n, remaining = n + 1 := ⟨remaining - 1, by omega⟩
        have here := heads marks pos inside
        rw [hlist] at here
        have bounds := advances marks pos first (hlist ▸ List.mem_cons_self)
        have regroup : count + (wanted + 1) = count + 1 + wanted := by omega
        have room' : ∀ most ∈ max, count + 1 + wanted ≤ most := regroup ▸ room
        rw [preferredCount_of_not_blocked unbounded hlist moves, regroup,
          ih (count + 1) first.marks (by omega) (by omega) room']
        constructor
        · rintro ⟨stop, times⟩
          exact ⟨stop, .succ here.symm moves times⟩
        · rintro ⟨stop, times⟩
          cases times with
          | succ step _ times =>
              rw [← here] at step
              obtain rfl := Option.some.inj step
              exact ⟨stop, times⟩

theorem mem_stops_ofCount_iff (min count pos : Nat) (marks : Marks) (origin : GroupStarts) (x : Nat) :
    x ∈ (ofCount min count pos marks origin).map stop ↔ min ≤ count ∧ x = pos := by
  rw [map_stop_ofCount]
  split
  · rename_i few
    simp only [List.not_mem_nil, false_iff, not_and]
    omega
  · rename_i done
    rw [List.mem_singleton]
    omega

theorem mem_stops_of_blocked
    (heads : ∀ marks q, q ≤ length → ((body marks q).map stop).head? = preferred q)
    (reach : ∀ marks q next, q ≤ length → (next ∈ (body marks q).map stop ↔ derives q next))
    (min : Nat) {max : Option Nat} {remaining count pos : Nat} (origin : GroupStarts) {marks : Marks}
    (inside : pos ≤ length) (room : ∀ most ∈ max, count ≤ most) (x : Nat)
    (blocked : Blocked body max count marks pos) :
    x ∈ (iterate body min max remaining count origin marks pos).map stop ↔
      ∃ more, min ≤ count + more ∧ (∀ most ∈ max, count + more ≤ most) ∧
        Times (fun q next => preferred q ≠ some q ∧ derives q next) more pos x := by
  rw [iterate_of_blocked blocked, mem_stops_ofCount_iff]
  constructor
  · rintro ⟨done, rfl⟩
    exact ⟨0, done, room, .zero⟩
  · rintro ⟨more, done, most, times⟩
    cases times with
    | zero => exact ⟨done, rfl⟩
    | @succ more _ next _ step _ _ =>
        rcases blocked with full | stays
        · obtain ⟨top, htop, le⟩ := (Option.any_eq_true _ _).mp full
          have below := most top htop
          have reached := of_decide_eq_true le
          omega
        · have member := (reach marks pos next inside).mpr step.2
          cases here : preferred pos with
          | none =>
              rw [← heads marks pos inside, List.head?_eq_none_iff] at here
              rw [here] at member
              contradiction
          | some first =>
              obtain rfl := stop_eq_of_blocked heads inside stays here
              exact absurd here step.1

/-- A loop ends after as many repetitions as its bounds allow, none begun where none is preferred. -/
theorem mem_stops_iterate_iff (advances : Advances length body)
    (heads : ∀ marks q, q ≤ length → ((body marks q).map stop).head? = preferred q)
    (reach : ∀ marks q next, q ≤ length → (next ∈ (body marks q).map stop ↔ derives q next))
    (min : Nat) (max : Option Nat) {remaining count pos : Nat} (origin : GroupStarts) (marks : Marks)
    (inside : pos ≤ length) (enough : length - pos ≤ remaining) (room : ∀ most ∈ max, count ≤ most)
    (x : Nat) :
    x ∈ (iterate body min max remaining count origin marks pos).map stop ↔
      ∃ more, min ≤ count + more ∧ (∀ most ∈ max, count + more ≤ most) ∧
        Times (fun q next => preferred q ≠ some q ∧ derives q next) more pos x := by
  induction remaining generalizing count pos origin marks with
  | zero =>
      have blocked := blocked_end advances (show length ≤ pos by omega) max count marks
      exact mem_stops_of_blocked heads reach min origin inside room x blocked
  | succ remaining ih =>
      by_cases blocked : Blocked body max count marks pos
      · exact mem_stops_of_blocked heads reach min origin inside room x blocked
      · obtain ⟨unbounded, first, others, hlist, moves⟩ := exists_of_not_blocked blocked
        have room' : ∀ most ∈ max, count + 1 ≤ most := by
          intro most hmost
          refine Nat.lt_of_not_le fun le => unbounded ?_
          exact (Option.any_eq_true _ _).mpr ⟨most, hmost, decide_eq_true le⟩
        have preferred_moves : preferred pos ≠ some pos := by
          rw [← heads marks pos inside, hlist]
          intro same
          exact moves (Option.some.inj same)
        constructor
        · intro member
          obtain ⟨a, ha, hstop⟩ := List.mem_map.mp member
          rcases mem_iterate ha with ⟨origin', _, ends⟩ | ⟨b, hb, leaves, origin', _, later⟩
          · obtain ⟨done, rfl⟩ := (mem_stops_ofCount_iff min count pos marks origin' x).mp
              (List.mem_map.mpr ⟨a, ends, hstop⟩)
            exact ⟨0, done, room, .zero⟩
          · have bounds := advances marks pos b hb
            obtain ⟨more, done, most, times⟩ := (ih origin' b.marks (by omega) (by omega)
              room').mp (List.mem_map.mpr ⟨a, later, hstop⟩)
            have step := (reach marks pos b.stop inside).mp (List.mem_map.mpr ⟨b, hb, rfl⟩)
            refine ⟨more + 1, by omega, ?_, .succ ⟨preferred_moves, step⟩ leaves times⟩
            intro top htop
            have below := most top htop
            omega
        · rintro ⟨more, done, most, times⟩
          cases times with
          | zero =>
              obtain ⟨origin', here⟩ :=
                ofCount_subset body min max (remaining + 1) count x origin marks
              have member := (mem_stops_ofCount_iff min count x marks origin' x).mpr ⟨done, rfl⟩
              exact List.map_subset _ here member
          | @succ more _ next _ step leaves times =>
              obtain ⟨b, hb, rfl⟩ := List.mem_map.mp ((reach marks pos next inside).mpr step.2)
              have bounds := advances marks pos b hb
              obtain ⟨origin', later⟩ := iterate_subset min remaining origin blocked hb leaves
              refine List.map_subset _ later ?_
              refine (ih origin' b.marks (by omega) (by omega) room').mpr ⟨more, by omega, ?_, times⟩
              intro top htop
              have below := most top htop
              omega

end Arrival

/-! ## Matches and derivations -/

namespace Pattern

open Arrival

theorem head?_stops {s : Subject} {p : Pattern} (h : p.isRegular = true) (marks : Marks) {pos : Nat}
    (inside : pos ≤ s.size) :
    ((p.arrivals s marks pos).map stop).head? = LoopRule.preferredStop? s p pos := by
  rw [arrivals_map_stop s p h marks {} pos, LoopRule.preferredStop?, matchAt_eq_head? p s inside,
    List.head?_map, Option.map_map]
  rfl

theorem mem_singleStop_iff (s : Subject) {p : Pattern} (h : p.ignoresCaptures = true) (marks : Marks)
    {pos : Nat} (x : Nat) :
    x ∈ (ofStop? (singleStop? s marks.captures pos p) marks).map stop ↔
      singleStop? s ∅ pos p = some x := by
  rw [map_stop_ofStop?, singleStop?_eq s marks.captures ∅ pos h, Option.mem_toList]

mutual

/-- A regular pattern ends where a greedy derivation does. -/
theorem mem_stops_iff (s : Subject) : (p : Pattern) → p.isRegular = true → (marks : Marks) →
    {pos : Nat} → pos ≤ s.size → (x : Nat) →
    (x ∈ (p.arrivals s marks pos).map stop ↔ p.Derives s (.greedy s) pos x)
  | .sequence parts, h, marks, pos, inside, x => by
      rw [arrivals, Derives]
      exact mem_partStops_iff s parts h marks inside x
  | .alternation left right, h, marks, pos, inside, x => by
      rw [isRegular, Bool.and_eq_true] at h
      rw [arrivals, Derives, List.map_append, List.mem_append, map_stop_setOrigin,
        mem_stops_iff s left h.1 marks inside, mem_stops_iff s right h.2 marks inside]
  | .loop body min max, h, marks, pos, inside, x => by
      rw [isRegular] at h
      have advances := (matcher_lawful s 0 body).advances
      have heads := fun marks q (inside : q ≤ s.size) => head?_stops h marks inside
      have reach := fun marks q next (inside : q ≤ s.size) =>
        mem_stops_iff s body h marks inside next
      have iterated := mem_stops_iterate_iff advances heads reach min max marks.groupStarts marks
        inside (Nat.le_refl _) (fun most _ => Nat.zero_le most) x
      have entered : (∀ most ∈ max, min ≤ most) →
          (min ≤ Arrival.preferredCount (body.arrivals s) max (s.size - pos) 0 marks pos ↔
            (LoopRule.greedy s).enters body min pos) := by
        intro room
        have committed := add_le_preferredCount_iff advances heads 0 min marks inside (Nat.le_refl _)
          (by simpa using room)
        rw [Nat.zero_add] at committed
        exact committed
      rw [arrivals, Derives, Arrival.repeated]
      simp only [Nat.zero_add] at iterated
      constructor
      · intro member
        split at member
        · contradiction
        · rename_i enough
          obtain ⟨count, done, most, times⟩ := iterated.mp member
          have room : ∀ top ∈ max, min ≤ top := fun top htop => Nat.le_trans done (most top htop)
          exact ⟨(entered room).mp (Nat.le_of_not_lt enough), count, done, most, times⟩
      · rintro ⟨enters, count, done, most, times⟩
        have room : ∀ top ∈ max, min ≤ top := fun top htop => Nat.le_trans done (most top htop)
        rw [if_neg (Nat.not_lt.mpr ((entered room).mpr enters))]
        exact iterated.mpr ⟨count, done, most, times⟩
  | .group body index, h, marks, pos, inside, x => by
      rw [arrivals, Derives, List.map_map]
      show x ∈ (setOrigin _ _).map stop ↔ _
      rw [map_stop_setOrigin]
      exact mem_stops_iff s body h _ inside x
  | .atomic _, h, _, _, _, _ | .lookahead _, h, _, _, _, _ | .lookbehind .., h, _, _, _, _
  | .negation _, h, _, _, _, _ => by simp [isRegular] at h
  | .empty, h, marks, _, _, x | .literal _, h, marks, _, _, x | .anyChar, h, marks, _, _, x
  | .digit, h, marks, _, _, x | .word, h, marks, _, _, x | .space, h, marks, _, _, x
  | .charClass .., h, marks, _, _, x | .lineStart, h, marks, _, _, x | .lineEnd, h, marks, _, _, x
  | .wordEdge, h, marks, _, _, x | .backreference _, h, marks, _, _, x =>
      mem_singleStop_iff s h marks x

theorem mem_partStops_iff (s : Subject) : (parts : List Pattern) → areRegular parts = true →
    (marks : Marks) → {pos : Nat} → pos ≤ s.size → (x : Nat) →
    (x ∈ (partArrivals s parts marks pos).map stop ↔ PartsDerive s (.greedy s) parts pos x)
  | [], _, _, _, _, _ => List.mem_singleton
  | part :: rest, h, marks, pos, inside, x => by
      rw [areRegular, Bool.and_eq_true] at h
      rw [partArrivals, PartsDerive, List.map_flatMap, List.mem_flatMap]
      constructor
      · rintro ⟨a, ha, member⟩
        have bounds := (matcher_lawful s 0 part).advances marks pos a ha
        rw [follow, map_stop_setOrigin] at member
        exact ⟨a.stop, (mem_stops_iff s part h.1 marks inside a.stop).mp (List.mem_map_of_mem ha),
          (mem_partStops_iff s rest h.2 a.marks (by omega) x).mp member⟩
      · rintro ⟨next, first, later⟩
        obtain ⟨a, ha, rfl⟩ :=
          List.mem_map.mp ((mem_stops_iff s part h.1 marks inside next).mpr first)
        have bounds := (matcher_lawful s 0 part).advances marks pos a ha
        refine ⟨a, ha, ?_⟩
        rw [follow, map_stop_setOrigin]
        exact (mem_partStops_iff s rest h.2 a.marks (by omega) x).mpr later

end

theorem isSome_matchAt_iff {s : Subject} {p : Pattern} (h : p.isRegular = true) {start : Nat}
    (inside : start ≤ s.size) :
    (p.matchAt s start).isSome = true ↔ ∃ stop, p.Derives s (.greedy s) start stop := by
  rw [matchAt_eq_head? p s inside, Option.isSome_map, List.isSome_head?]
  constructor
  · intro some
    obtain ⟨a, ha⟩ := List.exists_mem_of_ne_nil _ some
    exact ⟨a.stop, (mem_stops_iff s p h {} inside a.stop).mp (List.mem_map_of_mem ha)⟩
  · rintro ⟨stop, derives⟩
    obtain ⟨a, ha, _⟩ := List.mem_map.mp ((mem_stops_iff s p h {} inside stop).mpr derives)
    exact List.ne_nil_of_mem ha

/-! ## Where no choice is lost -/

mutual

/--
The loops of a pattern have bodies that never cover the empty text and that, if a loop needs more than
one repetition, can end in one place only.
-/
def LoopsSettle (s : Subject) : Pattern → Prop
  | .sequence parts => PartsSettle s parts
  | .alternation left right => LoopsSettle s left ∧ LoopsSettle s right
  | .loop body min _ => LoopsSettle s body ∧ (∀ pos, ¬ body.Derives s .free pos pos) ∧
      (min ≤ 1 ∨ ∀ pos stop stop', body.Derives s .free pos stop → body.Derives s .free pos stop' →
        stop = stop')
  | .group body _ => LoopsSettle s body
  | _ => True

def PartsSettle (s : Subject) : List Pattern → Prop
  | [] => True
  | part :: rest => LoopsSettle s part ∧ PartsSettle s rest

end

theorem preferredStop?_of_derives {s : Subject} {p : Pattern} (h : p.isRegular = true) {pos stop : Nat}
    (inside : pos ≤ s.size) (derives : p.Derives s (.greedy s) pos stop) :
    ∃ stop', LoopRule.preferredStop? s p pos = some stop' := by
  have some := (isSome_matchAt_iff h inside).mpr ⟨stop, derives⟩
  obtain ⟨found, hfound⟩ := Option.isSome_iff_exists.mp some
  exact ⟨found.stop, by rw [LoopRule.preferredStop?, hfound, Option.map_some]⟩

theorem derives_of_preferredStop? {s : Subject} {p : Pattern} (h : p.isRegular = true) {pos stop : Nat}
    (inside : pos ≤ s.size) (preferred : LoopRule.preferredStop? s p pos = some stop) :
    p.Derives s (.greedy s) pos stop := by
  rw [← head?_stops h {} inside] at preferred
  exact (mem_stops_iff s p h {} inside stop).mp (List.mem_of_head? preferred)

mutual

theorem Derives.free {s : Subject} {rule : LoopRule} : (p : Pattern) → {pos stop : Nat} →
    p.Derives s rule pos stop → p.Derives s .free pos stop
  | .sequence parts, _, _, h => PartsDerive.free parts h
  | .alternation left right, _, _, h => by
      rcases h with first | second
      · exact .inl (Derives.free left first)
      · exact .inr (Derives.free right second)
  | .loop body _ _, _, _, h => by
      obtain ⟨_, count, done, most, times⟩ := h
      exact ⟨trivial, count, done, most, times.imp trivial (fun _ _ _ _ => trivial)
        fun _ _ _ step => ⟨trivial, Derives.free body step.2⟩⟩
  | .group body _, _, _, h => Derives.free body (by rwa [Derives] at h)
  | .empty, _, _, h | .literal _, _, _, h | .anyChar, _, _, h | .digit, _, _, h | .word, _, _, h
  | .space, _, _, h | .charClass .., _, _, h | .lineStart, _, _, h | .lineEnd, _, _, h
  | .wordEdge, _, _, h | .backreference _, _, _, h | .atomic _, _, _, h | .lookahead _, _, _, h
  | .lookbehind .., _, _, h | .negation _, _, _, h => h

theorem PartsDerive.free {s : Subject} {rule : LoopRule} : (parts : List Pattern) →
    {pos stop : Nat} → PartsDerive s rule parts pos stop → PartsDerive s .free parts pos stop
  | [], _, _, h => h
  | part :: rest, _, _, h => by
      obtain ⟨next, first, later⟩ := h
      exact ⟨next, Derives.free part first, PartsDerive.free rest later⟩

end

mutual

/-- Where loops settle, a loop can always be entered and go on as a derivation does. -/
theorem Derives.greedy_of_free {s : Subject} : (p : Pattern) → p.isRegular = true →
    p.LoopsSettle s → {pos stop : Nat} → pos ≤ s.size → p.Derives s .free pos stop →
    p.Derives s (.greedy s) pos stop
  | .sequence parts, h, settle, _, _, inside, derives =>
      PartsDerive.greedy_of_free parts h settle inside derives
  | .alternation left right, h, settle, _, _, inside, derives => by
      rw [isRegular, Bool.and_eq_true] at h
      rcases derives with first | second
      · exact .inl (Derives.greedy_of_free left h.1 settle.1 inside first)
      · exact .inr (Derives.greedy_of_free right h.2 settle.2 inside second)
  | .loop body min max, h, settle, pos, stop, inside, derives => by
      rw [isRegular] at h
      obtain ⟨settle, taking, few⟩ := settle
      obtain ⟨_, count, done, most, times⟩ := derives
      have keeps : ∀ q next, q ≤ s.size → LoopRule.free.begins body q ∧ body.Derives s .free q next →
          next ≤ s.size := by
        intro q next inside step
        have bounds := Derives.advances body step.2
        omega
      have attempted : ∀ q next, q ≤ s.size → body.Derives s .free q next →
          ∃ stop, LoopRule.preferredStop? s body q = some stop := fun q next inside derives =>
        preferredStop?_of_derives h inside (Derives.greedy_of_free body h settle inside derives)
      -- A preferred match of the body is a derivation too, so it takes a character.
      have moves : ∀ q next, q ≤ s.size → LoopRule.preferredStop? s body q = some next → next ≠ q := by
        rintro q next inside preferred rfl
        exact taking next (Derives.free body (derives_of_preferredStop? h inside preferred))
      refine ⟨?_, count, done, most, ?_⟩
      · show ∃ stop, Times (fun q next => LoopRule.preferredStop? s body q = some next) min pos stop
        obtain ⟨mid, times⟩ := times.take done
        rcases few with once | alone
        · cases times with
          | zero => exact ⟨pos, .zero⟩
          | @succ more _ next _ step _ _ =>
              obtain rfl : more = 0 := by omega
              obtain ⟨stop, preferred⟩ := attempted pos next inside step.2
              exact ⟨stop, .succ preferred (moves pos stop inside preferred) .zero⟩
        · refine ⟨mid, times.imp inside keeps ?_⟩
          intro q next inside step
          obtain ⟨stop, preferred⟩ := attempted q next inside step.2
          have derived := Derives.free body (derives_of_preferredStop? h inside preferred)
          rw [preferred, alone q stop next derived step.2]
      · refine times.imp inside keeps ?_
        intro q next inside step
        refine ⟨fun empty => moves q q inside empty rfl, ?_⟩
        exact Derives.greedy_of_free body h settle inside step.2
  | .group body _, h, settle, _, _, inside, derives =>
      Derives.greedy_of_free body h settle inside derives
  | .empty, _, _, _, _, _, derives | .literal _, _, _, _, _, _, derives
  | .anyChar, _, _, _, _, _, derives | .digit, _, _, _, _, _, derives
  | .word, _, _, _, _, _, derives | .space, _, _, _, _, _, derives
  | .charClass .., _, _, _, _, _, derives | .lineStart, _, _, _, _, _, derives
  | .lineEnd, _, _, _, _, _, derives | .wordEdge, _, _, _, _, _, derives
  | .backreference _, _, _, _, _, _, derives | .atomic _, _, _, _, _, _, derives
  | .lookahead _, _, _, _, _, _, derives | .lookbehind .., _, _, _, _, _, derives
  | .negation _, _, _, _, _, _, derives => derives

theorem PartsDerive.greedy_of_free {s : Subject} : (parts : List Pattern) →
    areRegular parts = true → PartsSettle s parts → {pos stop : Nat} → pos ≤ s.size →
    PartsDerive s .free parts pos stop → PartsDerive s (.greedy s) parts pos stop
  | [], _, _, _, _, _, derives => derives
  | part :: rest, h, settle, _, _, inside, derives => by
      rw [areRegular, Bool.and_eq_true] at h
      obtain ⟨next, first, later⟩ := derives
      have bounds := Derives.advances part first
      exact ⟨next, Derives.greedy_of_free part h.1 settle.1 inside first,
        PartsDerive.greedy_of_free rest h.2 settle.2 (by omega) later⟩

end

/--
A regular pattern matches at a position exactly if it has a derivation from there in which loops are
entered and go on by the preferred matches of their bodies. Where loops settle, any derivation will do.
-/
theorem match_of_derivation (p : Pattern) (s : Subject) (h : p.isRegular = true) (start : Nat)
    (inside : start ≤ s.size) :
    ((p.matchAt s start).isSome = true ↔ ∃ stop, p.Derives s (.greedy s) start stop) ∧
    (p.LoopsSettle s → (∃ stop, p.Derives s .free start stop) →
      (p.matchAt s start).isSome = true) := by
  have iff := isSome_matchAt_iff h inside
  refine ⟨iff, ?_⟩
  rintro settle ⟨stop, derives⟩
  exact iff.mpr ⟨stop, Derives.greedy_of_free p h settle inside derives⟩

/-- On `abc`, `(?:a|ab)+c` matches once its repetition has been taken up again. -/
theorem match_of_derivation_retried :
    let p : Pattern := .sequence [.loop (.alternation (.literal 'a')
      (.sequence [.literal 'a', .literal 'b'])) 1 none, .literal 'c']
    let s : Subject := { text := #['a', 'b', 'c'] }
    p.isRegular = true ∧ 0 ≤ s.size ∧ p.LoopsSettle s ∧ (∃ stop, p.Derives s .free 0 stop) ∧
      (p.matchAt s 0).isSome = true := by
  intro p s
  have stops : ∀ {c pos next}, (Pattern.literal c).Derives s .free pos next → next = pos + 1 := by
    intro c pos next h
    have taken : s.take? (fun d => s.fold d == s.fold c) pos = some next := h
    unfold Subject.take? at taken
    split at taken
    · exact (Option.some.inj taken).symm
    · contradiction
  have takes : ∀ {c pos next}, singleStop? s ∅ pos (.literal c) = some next →
      (Pattern.literal c).Derives s .free pos next := fun h => h
  have settle : p.LoopsSettle s := by
    refine ⟨⟨⟨trivial, trivial, trivial, trivial⟩, ?_, .inl (Nat.le_refl 1)⟩, trivial, trivial⟩
    rintro pos (first | ⟨next, first, after, second, ends⟩)
    · have one := stops first
      omega
    · have one := stops first
      have two := stops second
      have ends : pos = after := ends
      omega
  have derives : ∃ stop, p.Derives s .free 0 stop := by
    refine ⟨3, 2, ⟨trivial, 1, Nat.le_refl 1, by simp, ?_⟩, 3, takes (by decide), rfl⟩
    exact .succ ⟨trivial, .inr ⟨1, takes (by decide), 2, takes (by decide), rfl⟩⟩ (by decide) .zero
  exact ⟨by decide, by decide, settle, derives,
    (match_of_derivation p s (by decide) 0 (by decide)).2 settle derives⟩

/--
Two choices that are not retried: `(?:aa|a){2}` takes all of `aa` at once and gives up below two
repetitions, and `(?:|a)+` takes nothing from `a` and ends there.
-/
theorem derivation_without_match :
    (let p : Pattern := .loop
        (.alternation (.sequence [.literal 'a', .literal 'a']) (.literal 'a')) 2 (some 2)
      let s : Subject := { text := #['a', 'a'] }
      p.isRegular = true ∧ p.Derives s .free 0 2 ∧ p.matchAt s 0 = none) ∧
    (let p : Pattern := .loop (.alternation .empty (.literal 'a')) 1 none
      let s : Subject := { text := #['a'] }
      p.isRegular = true ∧ p.Derives s .free 0 1 ∧ p.matchAt s 0 = none) := by
  refine ⟨⟨by decide, ⟨trivial, 2, Nat.le_refl 2, by simp, ?_⟩, by decide⟩,
    ⟨by decide, ⟨trivial, 1, Nat.le_refl 1, by simp, ?_⟩, by decide⟩⟩
  · exact .succ ⟨trivial, .inr (show singleStop? _ _ _ _ = some 1 by decide)⟩ (by decide)
      (.succ ⟨trivial, .inr (show singleStop? _ _ _ _ = some 2 by decide)⟩ (by decide) .zero)
  · exact .succ ⟨trivial, .inr (show singleStop? _ _ _ _ = some 1 by decide)⟩ (by decide) .zero

end Pattern

end Rematch
