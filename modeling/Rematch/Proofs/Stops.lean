import Rematch.Proofs.Arrivals

/-!
# Where patterns end that read no captures

If no operator reads what the groups have captured, the ends of a pattern, in their order, depend on
nothing but the text and the position, and they are the same without the groups.
-/

namespace Rematch

namespace Pattern

mutual

def ignoresCaptures : Pattern → Bool
  | .negation p => ignoresCaptures p
  | .charClass _ specials => allIgnoreCaptures specials
  | .backreference _ => false
  | _ => true

def allIgnoreCaptures : List Pattern → Bool
  | [] => true
  | p :: rest => ignoresCaptures p && allIgnoreCaptures rest

end

theorem allIgnoreCaptures_iff {specials : List Pattern} :
    allIgnoreCaptures specials = true ↔ ∀ p ∈ specials, p.ignoresCaptures = true := by
  induction specials with
  | nil => simp [allIgnoreCaptures]
  | cons p rest ih => simp [allIgnoreCaptures, ih]

mutual

/--
Whether a pattern is built from operators at one position, none of them a backreference, by
sequences, alternations, loops and groups.
-/
def isRegular : Pattern → Bool
  | .sequence parts => areRegular parts
  | .alternation left right => isRegular left && isRegular right
  | .loop body .. | .group body _ => isRegular body
  | .atomic _ | .lookahead _ | .lookbehind .. | .negation _ => false
  | p => ignoresCaptures p

def areRegular : List Pattern → Bool
  | [] => true
  | part :: rest => isRegular part && areRegular rest

end

mutual

/-- The pattern with the body of every group in its place. The specials of a class stay as they are. -/
def ungrouped : Pattern → Pattern
  | .sequence parts => .sequence (partsUngrouped parts)
  | .alternation left right => .alternation (ungrouped left) (ungrouped right)
  | .loop body min max => .loop (ungrouped body) min max
  | .group body _ => ungrouped body
  | .atomic body => .atomic (ungrouped body)
  | .lookahead body => .lookahead (ungrouped body)
  | .lookbehind body width => .lookbehind (ungrouped body) width
  | .negation body => .negation (ungrouped body)
  | p => p

def partsUngrouped : List Pattern → List Pattern
  | [] => []
  | part :: rest => ungrouped part :: partsUngrouped rest

end

mutual

/--
Whether groups make no difference to where a pattern ends: no operator reads captures, and no negation
takes a character only because its body is a group.
-/
def ignoresGroups : Pattern → Bool
  | .sequence parts => allIgnoreGroups parts
  | .alternation left right => ignoresGroups left && ignoresGroups right
  | .loop body .. | .group body _ | .atomic body | .lookahead body | .lookbehind body _ =>
      ignoresGroups body
  | .negation body => body.ungrouped.isZeroWidth == body.isZeroWidth && ignoresGroups body
  | p => ignoresCaptures p

def allIgnoreGroups : List Pattern → Bool
  | [] => true
  | part :: rest => ignoresGroups part && allIgnoreGroups rest

end

mutual

theorem ignoresGroups_of_isRegular : (p : Pattern) → p.isRegular = true → p.ignoresGroups = true
  | .sequence parts, h => allIgnoreGroups_of_areRegular parts h
  | .alternation left right, h => by
      rw [isRegular, Bool.and_eq_true] at h
      rw [ignoresGroups, ignoresGroups_of_isRegular left h.1, ignoresGroups_of_isRegular right h.2]
      rfl
  | .loop body .., h | .group body _, h => ignoresGroups_of_isRegular body h
  | .atomic _, h | .lookahead _, h | .lookbehind .., h | .negation _, h => by simp [isRegular] at h
  | .empty, h | .literal _, h | .anyChar, h | .digit, h | .word, h | .space, h | .charClass .., h
  | .lineStart, h | .lineEnd, h | .wordEdge, h | .backreference _, h => h

theorem allIgnoreGroups_of_areRegular : (parts : List Pattern) → areRegular parts = true →
    allIgnoreGroups parts = true
  | [], _ => rfl
  | part :: rest, h => by
      rw [areRegular, Bool.and_eq_true] at h
      rw [allIgnoreGroups, ignoresGroups_of_isRegular part h.1, allIgnoreGroups_of_areRegular rest h.2]
      rfl

end

section Captures

variable (s : Subject) (captures captures' : Captures) (pos : Nat)

theorem simpleStop?_eq {p : Pattern} (h : p.ignoresCaptures = true) :
    simpleStop? s captures pos p = simpleStop? s captures' pos p := by
  cases p with
  | backreference index => simp [ignoresCaptures] at h
  | _ => rfl

mutual

theorem specialHolds_eq : (p : Pattern) → p.ignoresCaptures = true →
    specialHolds s captures pos p = specialHolds s captures' pos p
  | .negation p, h => by
      rw [ignoresCaptures] at h
      rw [specialHolds, specialHolds, specialHolds_eq p h]
  | .charClass set specials, h => by
      rw [ignoresCaptures] at h
      rw [specialHolds, specialHolds, anySpecialHolds_eq specials h]
  | .backreference _, h => by simp [ignoresCaptures] at h
  | .empty, _ | .literal _, _ | .anyChar, _ | .digit, _ | .word, _ | .space, _ | .lineStart, _
  | .lineEnd, _ | .wordEdge, _ | .sequence _, _ | .alternation .., _ | .loop .., _ | .group .., _
  | .atomic _, _ | .lookahead _, _ | .lookbehind .., _ => rfl

theorem anySpecialHolds_eq : (specials : List Pattern) → allIgnoreCaptures specials = true →
    anySpecialHolds s captures pos specials = anySpecialHolds s captures' pos specials
  | [], _ => rfl
  | p :: rest, h => by
      rw [allIgnoreCaptures, Bool.and_eq_true] at h
      rw [anySpecialHolds, anySpecialHolds, specialHolds_eq p h.1, anySpecialHolds_eq rest h.2]

end

theorem singleStop?_eq {p : Pattern} (h : p.ignoresCaptures = true) :
    singleStop? s captures pos p = singleStop? s captures' pos p := by
  cases p with
  | charClass set specials =>
      rw [singleStop?, singleStop?, specialHolds_eq s captures captures' pos _ h]
  | _ => exact simpleStop?_eq s captures captures' pos h

end Captures

end Pattern

namespace Arrival

@[simp] theorem map_stop_setOrigin (origin : GroupStarts) (arrivals : List Arrival) :
    (setOrigin origin arrivals).map stop = arrivals.map stop := by
  cases arrivals <;> rfl

theorem map_stop_ofCount (min count pos : Nat) (marks : Marks) (origin : GroupStarts) :
    (ofCount min count pos marks origin).map stop = if count < min then [] else [pos] := by
  unfold ofCount
  split <;> rfl

theorem map_stop_ofStop? (stop? : Option Nat) (marks : Marks) :
    (ofStop? stop? marks).map stop = stop?.toList := by
  cases stop? <;> rfl

theorem map_stop_flatMap {ways ways' : List Arrival} {next next' : Arrival → List Arrival}
    (same : ways.map stop = ways'.map stop)
    (later : ∀ a a', a.stop = a'.stop → (next a).map stop = (next' a').map stop) :
    (ways.flatMap next).map stop = (ways'.flatMap next').map stop := by
  induction ways generalizing ways' with
  | nil =>
      rw [List.map_nil, eq_comm, List.map_eq_nil_iff] at same
      rw [same]
      rfl
  | cons first others ih =>
      obtain ⟨first', others', rfl, heads, tails⟩ := List.map_eq_cons_iff.mp same.symm
      rw [List.flatMap_cons, List.flatMap_cons, List.map_append, List.map_append,
        later first first' heads.symm, ih tails.symm]

/-- Two ways of going on end at the same places in the same order, whatever the marks. -/
def SameStops (body body' : Marks → Nat → List Arrival) : Prop :=
  ∀ marks marks' pos, (body marks pos).map stop = (body' marks' pos).map stop

namespace SameStops

variable {body body' : Marks → Nat → List Arrival} (h : SameStops body body')

include h

theorem isEmpty (marks marks' : Marks) (pos : Nat) :
    (body marks pos).isEmpty = (body' marks' pos).isEmpty := by
  rw [← List.isEmpty_map, h marks marks' pos, List.isEmpty_map]

theorem any_head? (marks marks' : Marks) (pos stop : Nat) :
    (body marks pos).head?.any (·.stop = stop) = (body' marks' pos).head?.any (·.stop = stop) := by
  have heads := congrArg List.head? (h marks marks' pos)
  rw [List.head?_map, List.head?_map] at heads
  simpa only [Option.any_map] using congrArg (Option.any (· = stop)) heads

theorem blocked {max : Option Nat} {count pos : Nat} {marks : Marks} (marks' : Marks)
    (blocked : Blocked body max count marks pos) : Blocked body' max count marks' pos := by
  rcases blocked with full | stays
  · exact .inl full
  · refine .inr ?_
    intro first found
    have heads : ((body marks pos).map stop).head? = some first.stop := by
      rw [h marks marks' pos, List.head?_map, found, Option.map_some]
    rw [List.head?_map, Option.map_eq_some_iff] at heads
    obtain ⟨first', found', same⟩ := heads
    rw [← same]
    exact stays first' found'

/-- Both bodies go on in the same way: the first ways end together, and so do the others. -/
theorem exists_cons {marks : Marks} (marks' : Marks) {pos : Nat} {first : Arrival}
    {others : List Arrival} (hlist : body marks pos = first :: others) :
    ∃ first' others', body' marks' pos = first' :: others' ∧ first'.stop = first.stop ∧
      others'.map stop = others.map stop := by
  have same := h marks marks' pos
  rw [hlist] at same
  exact List.map_eq_cons_iff.mp same.symm

theorem preferredCount_eq (max : Option Nat) (remaining count : Nat) (marks marks' : Marks)
    (pos : Nat) : preferredCount body max remaining count marks pos =
      preferredCount body' max remaining count marks' pos := by
  induction remaining generalizing count marks marks' pos with
  | zero => rfl
  | succ remaining ih =>
      by_cases blocked : Blocked body max count marks pos
      · rw [preferredCount_of_blocked blocked, preferredCount_of_blocked (h.blocked marks' blocked)]
      · obtain ⟨unbounded, first, others, hlist, moves⟩ := exists_of_not_blocked blocked
        obtain ⟨first', others', hlist', heads, _⟩ := h.exists_cons marks' hlist
        rw [preferredCount_of_not_blocked unbounded hlist moves,
          preferredCount_of_not_blocked unbounded hlist' (heads ▸ moves), heads]
        exact ih (count + 1) first.marks first'.marks first.stop

theorem map_stop_iterate (min : Nat) (max : Option Nat) (remaining count : Nat)
    (origin origin' : GroupStarts) (marks marks' : Marks) (pos : Nat) :
    (iterate body min max remaining count origin marks pos).map stop =
      (iterate body' min max remaining count origin' marks' pos).map stop := by
  have ends : ∀ count pos marks marks' origin origin',
      (ofCount min count pos marks origin).map stop =
        (ofCount min count pos marks' origin').map stop := by
    intro count pos marks marks' origin origin'
    rw [map_stop_ofCount, map_stop_ofCount]
  induction remaining generalizing count origin origin' marks marks' pos with
  | zero => exact ends count pos marks marks' origin origin'
  | succ remaining ih =>
      by_cases blocked : Blocked body max count marks pos
      · rw [iterate_of_blocked blocked, iterate_of_blocked (h.blocked marks' blocked)]
        exact ends count pos marks marks' origin origin'
      · obtain ⟨unbounded, first, others, hlist, moves⟩ := exists_of_not_blocked blocked
        obtain ⟨first', others', hlist', heads, tails⟩ := h.exists_cons marks' hlist
        -- what follows a way of the body depends on where that way ends, and on nothing else
        have later : (others.flatMap fun a =>
              if a.stop = pos then []
              else iterate body min max remaining (count + 1) a.origin a.marks a.stop).map stop =
            (others'.flatMap fun a =>
              if a.stop = pos then []
              else iterate body' min max remaining (count + 1) a.origin a.marks a.stop).map stop := by
          refine map_stop_flatMap tails.symm fun a a' same => ?_
          rw [same]
          split
          · rfl
          · exact ih (count + 1) a.origin a'.origin a.marks a'.marks a'.stop
        rw [iterate_of_not_blocked unbounded hlist moves,
          iterate_of_not_blocked unbounded hlist' (heads ▸ moves), List.map_append, List.map_append,
          List.map_append, List.map_append, later, heads,
          ih (count + 1) origin origin' first.marks first'.marks first.stop,
          ends count pos marks marks' marks.groupStarts marks'.groupStarts]

theorem repeated (min : Nat) (max : Option Nat) (remaining : Nat) :
    ∀ marks marks' pos, (Arrival.repeated body min max remaining marks pos).map stop =
      (Arrival.repeated body' min max remaining marks' pos).map stop := by
  intro marks marks' pos
  rw [Arrival.repeated, Arrival.repeated, h.preferredCount_eq max remaining 0 marks marks' pos]
  split
  · rfl
  · exact h.map_stop_iterate min max remaining 0 _ _ marks marks' pos

end SameStops

end Arrival

namespace Pattern

open Arrival

theorem map_stop_single (s : Subject) {p : Pattern} (h : p.ignoresCaptures = true)
    (marks marks' : Marks) (pos : Nat) :
    (ofStop? (singleStop? s marks.captures pos p) marks).map stop =
      (ofStop? (singleStop? s marks'.captures pos p) marks').map stop := by
  rw [map_stop_ofStop?, map_stop_ofStop?, singleStop?_eq s marks.captures marks'.captures pos h]

mutual

/-- Without its groups a pattern ends at the same places, if they make no difference. -/
theorem sameStops_ungrouped (s : Subject) : (p : Pattern) → p.ignoresGroups = true →
    SameStops (p.arrivals s) (p.ungrouped.arrivals s)
  | .sequence parts, h => sameStops_partsUngrouped s parts h
  | .alternation left right, h => by
      intro marks marks' pos
      rw [ignoresGroups, Bool.and_eq_true] at h
      rw [ungrouped, arrivals, arrivals, List.map_append, List.map_append, map_stop_setOrigin,
        map_stop_setOrigin, sameStops_ungrouped s left h.1 marks marks',
        sameStops_ungrouped s right h.2 marks marks']
  | .loop body min max, h => by
      intro marks marks' pos
      have same := sameStops_ungrouped s body h
      rw [ungrouped, arrivals, arrivals]
      exact same.repeated min max (s.size - pos) marks marks' pos
  | .group body index, h => by
      intro marks marks' pos
      have captured : ∀ (arrivals : List Arrival),
          (arrivals.map (captureGroup index pos)).map stop = arrivals.map stop := fun arrivals => by
        rw [List.map_map]
        rfl
      rw [ungrouped, arrivals, captured, map_stop_setOrigin]
      exact sameStops_ungrouped s body h _ marks' pos
  | .atomic body, h => by
      intro marks marks' pos
      have same := sameStops_ungrouped s body h marks marks' pos
      rw [ungrouped, arrivals, arrivals, List.map_take, List.map_take, same]
  | .lookahead body, h => by
      intro marks marks' pos
      have same := sameStops_ungrouped s body h
      rw [ungrouped, arrivals, arrivals, map_stop_ofStop?, map_stop_ofStop?,
        same.isEmpty marks marks']
  | .lookbehind body width, h => by
      intro marks marks' pos
      have same := sameStops_ungrouped s body h
      rw [ungrouped, arrivals, arrivals, map_stop_ofStop?, map_stop_ofStop?,
        same.any_head? marks marks']
  | .negation body, h => by
      intro marks marks' pos
      rw [ignoresGroups, Bool.and_eq_true, beq_iff_eq] at h
      have same := sameStops_ungrouped s body h.2
      rw [ungrouped, arrivals, arrivals, map_stop_ofStop?, map_stop_ofStop?, h.1,
        same.isEmpty marks marks']
  | .empty, h | .literal _, h | .anyChar, h | .digit, h | .word, h | .space, h | .charClass .., h
  | .lineStart, h | .lineEnd, h | .wordEdge, h | .backreference _, h => map_stop_single s h

theorem sameStops_partsUngrouped (s : Subject) : (parts : List Pattern) →
    allIgnoreGroups parts = true → SameStops (partArrivals s parts) (partArrivals s (partsUngrouped parts))
  | [], _ => fun _ _ _ => rfl
  | part :: rest, h => by
      intro marks marks' pos
      rw [allIgnoreGroups, Bool.and_eq_true] at h
      have later := sameStops_partsUngrouped s rest h.2
      rw [partsUngrouped, partArrivals, partArrivals]
      refine map_stop_flatMap (sameStops_ungrouped s part h.1 marks marks' pos) fun a a' same => ?_
      rw [follow, follow, map_stop_setOrigin, map_stop_setOrigin, same]
      exact later a.marks a'.marks a'.stop

end

/-- The ends of a regular pattern depend on nothing but the position. -/
theorem arrivals_map_stop (s : Subject) (p : Pattern) (h : p.isRegular = true)
    (marks marks' : Marks) (pos : Nat) :
    (p.arrivals s marks pos).map stop = (p.arrivals s marks' pos).map stop := by
  have same := sameStops_ungrouped s p (ignoresGroups_of_isRegular p h)
  exact (same marks {} pos).trans (same marks' {} pos).symm

end Pattern

end Rematch
