import Rematch.Proofs.Arrivals

/-!
# Arrivals and results

A group is left at the start it was entered with as long as no group below it has the same number:
all other group starts stay as they are. The arrivals of a pattern are then its results, one by one.
-/

namespace Rematch

namespace Pattern

mutual

/-- The numbers of the groups that a match may set; a condition sets none. -/
def groupNumbers : Pattern → List Nat
  | .group body index => index :: groupNumbers body
  | .sequence parts => partGroupNumbers parts
  | .alternation left right => groupNumbers left ++ groupNumbers right
  | .loop body .. | .atomic body => groupNumbers body
  | _ => []

def partGroupNumbers : List Pattern → List Nat
  | [] => []
  | part :: rest => groupNumbers part ++ partGroupNumbers rest

end

mutual

/-- Whether no group lies below another of the same number, as far as it can be set together with it. -/
def groupsApart : Pattern → Bool
  | .group body index => !(groupNumbers body).contains index && groupsApart body
  | .sequence parts => partsApart parts
  | .alternation left right => groupsApart left && groupsApart right
  | .loop body .. | .atomic body | .lookahead body | .lookbehind body _ | .negation body =>
      groupsApart body
  | _ => true

def partsApart : List Pattern → Bool
  | [] => true
  | part :: rest => groupsApart part && partsApart rest

end

end Pattern

namespace Arrival

structure Agrees (index : Nat) (marks : Marks) (a : Arrival) : Prop where
  marked : a.marks.groupStarts[index]? = marks.groupStarts[index]?
  put : a.origin[index]? = marks.groupStarts[index]?

namespace Agrees

variable {index : Nat} {marks : Marks} {a b : Arrival}

theorem trans (h : b.Agrees index marks) (h' : a.Agrees index b.marks) : a.Agrees index marks :=
  ⟨h'.marked.trans h.marked, h'.put.trans h.marked⟩

theorem of_setOrigin {origin : GroupStarts} {arrivals : List Arrival}
    (put : origin[index]? = marks.groupStarts[index]?) (h : ∀ a ∈ arrivals, a.Agrees index marks) :
    ∀ a ∈ setOrigin origin arrivals, a.Agrees index marks :=
  forall_mem_setOrigin origin (fun _ agrees => ⟨agrees.marked, put⟩) h

theorem of_ofStop? (stop? : Option Nat) (marks : Marks) :
    ∀ a ∈ ofStop? stop? marks, a.Agrees index marks := by
  intro a member
  unfold ofStop? at member
  split at member
  · obtain rfl := List.mem_singleton.mp member
    exact ⟨rfl, rfl⟩
  · contradiction

theorem of_iterate {body : Marks → Nat → List Arrival} {min : Nat} {max : Option Nat}
    (h : ∀ marks pos, ∀ a ∈ body marks pos, a.Agrees index marks) (remaining count : Nat)
    {origin : GroupStarts} (put : origin[index]? = marks.groupStarts[index]?) (pos : Nat) :
    ∀ a ∈ iterate body min max remaining count origin marks pos, a.Agrees index marks := by
  refine forall_mem_iterate (fun agrees => ⟨agrees.marked, agrees.marked⟩) ?_ ⟨rfl, put⟩
  intro pos between origin agrees a member
  have later := h between pos a member
  exact ⟨⟨later.marked.trans agrees.marked, agrees.put⟩, agrees.trans later⟩

end Agrees

end Arrival

namespace Pattern

open Arrival

mutual

theorem arrivals_agree (s : Subject) {index : Nat} : (p : Pattern) → index ∉ p.groupNumbers →
    (marks : Marks) → (pos : Nat) → ∀ a ∈ p.arrivals s marks pos, a.Agrees index marks
  | .sequence parts, h, marks, pos => by
      rw [arrivals]
      exact partArrivals_agree s parts h marks pos
  | .alternation left right, h, marks, pos => by
      rw [groupNumbers, List.mem_append, not_or] at h
      rw [arrivals]
      intro a member
      rcases List.mem_append.mp member with first | second
      · exact arrivals_agree s left h.1 marks pos a first
      · exact Agrees.of_setOrigin rfl (arrivals_agree s right h.2 marks pos) a second
  | .loop body min max, h, marks, pos => by
      rw [arrivals]
      intro a member
      unfold Arrival.repeated at member
      split at member
      · contradiction
      · exact Agrees.of_iterate (arrivals_agree s body h) _ 0 rfl pos a member
  | .group body other, h, marks, pos => by
      rw [groupNumbers, List.mem_cons, not_or] at h
      have same : (marks.openGroup other pos).groupStarts[index]? = marks.groupStarts[index]? := by
        simp [Marks.openGroup, Std.ExtTreeMap.getElem?_insert, Ne.symm h.1]
      rw [arrivals]
      intro a member
      obtain ⟨b, hb, rfl⟩ := List.mem_map.mp member
      have agrees := Agrees.of_setOrigin rfl
        (arrivals_agree s body h.2 (marks.openGroup other pos) pos) b hb
      exact ⟨agrees.marked.trans same, agrees.put.trans same⟩
  | .atomic body, h, marks, pos => by
      rw [arrivals]
      intro a member
      exact arrivals_agree s body h marks pos a (List.mem_of_mem_take member)
  | .lookahead body, _, marks, pos | .lookbehind body _, _, marks, pos
  | .negation body, _, marks, pos => by
      rw [arrivals]
      exact Agrees.of_ofStop? _ marks
  | .empty, _, marks, pos | .literal _, _, marks, pos | .anyChar, _, marks, pos
  | .digit, _, marks, pos | .word, _, marks, pos | .space, _, marks, pos
  | .charClass .., _, marks, pos | .lineStart, _, marks, pos | .lineEnd, _, marks, pos
  | .wordEdge, _, marks, pos | .backreference _, _, marks, pos => Agrees.of_ofStop? _ marks

theorem partArrivals_agree (s : Subject) {index : Nat} : (parts : List Pattern) →
    index ∉ partGroupNumbers parts → (marks : Marks) → (pos : Nat) →
    ∀ a ∈ partArrivals s parts marks pos, a.Agrees index marks
  | [], _, marks, pos => Agrees.of_ofStop? _ marks
  | part :: rest, h, marks, pos => by
      rw [partGroupNumbers, List.mem_append, not_or] at h
      rw [partArrivals]
      intro a member
      obtain ⟨b, hb, ha⟩ := List.mem_flatMap.mp member
      have first := arrivals_agree s part h.1 marks pos b hb
      have put : b.origin[index]? = b.marks.groupStarts[index]? := first.put.trans first.marked.symm
      exact first.trans (Agrees.of_setOrigin put (partArrivals_agree s rest h.2 b.marks b.stop) a ha)

end

end Pattern

/-! ## Results -/

namespace Arrival

@[simp] theorem map_result_setOrigin (origin : GroupStarts) (arrivals : List Arrival) :
    (setOrigin origin arrivals).map result = arrivals.map result := by
  cases arrivals <;> rfl

theorem map_result_ofCount (min count pos : Nat) (marks : Marks) (origin : GroupStarts) :
    (ofCount min count pos marks origin).map result =
      Result.ofCount min count pos marks.captures := by
  unfold ofCount Result.ofCount
  split <;> rfl

theorem map_result_ofStop? (stop? : Option Nat) (marks : Marks) :
    (ofStop? stop? marks).map result =
      match stop? with
      | some stop => [{ stop, captures := marks.captures }]
      | none => [] := by
  cases stop? <;> rfl

section Loops

variable {body : Marks → Nat → List Arrival} {results : Captures → Nat → List Result}

theorem preferredCount_eq (h : ∀ marks pos, (body marks pos).map result = results marks.captures pos)
    (max : Option Nat) (remaining count : Nat) (marks : Marks) (pos : Nat) :
    preferredCount body max remaining count marks pos =
      Result.preferredCount results max remaining count marks.captures pos := by
  induction remaining generalizing count marks pos with
  | zero => rfl
  | succ remaining ih =>
      unfold preferredCount Result.preferredCount
      split
      · rfl
      · rw [← h]
        cases body marks pos with
        | nil => rfl
        | cons first others =>
            show (if first.stop = pos then count
              else preferredCount body max remaining (count + 1) first.marks first.stop) = _
            rw [ih]
            rfl

theorem map_result_iterate (h : ∀ marks pos, (body marks pos).map result = results marks.captures pos)
    (min : Nat) (max : Option Nat) (remaining count : Nat) (origin : GroupStarts) (marks : Marks)
    (pos : Nat) :
    (iterate body min max remaining count origin marks pos).map result =
      Result.iterate results min max remaining count marks.captures pos := by
  induction remaining generalizing count origin marks pos with
  | zero => exact map_result_ofCount min count pos marks origin
  | succ remaining ih =>
      have ends := map_result_ofCount min count pos marks
      unfold iterate Result.iterate
      split
      · exact ends origin
      · rw [← h]
        cases body marks pos with
        | nil => exact ends origin
        | cons first others =>
            have later : ∀ a : Arrival,
                (if a.stop = pos then []
                  else iterate body min max remaining (count + 1) a.origin a.marks a.stop).map
                    result =
                if a.result.stop = pos then []
                  else Result.iterate results min max remaining (count + 1) a.result.captures
                    a.result.stop := by
              intro a
              show _ = if a.stop = pos then [] else _
              split
              · rfl
              · exact ih (count + 1) a.origin a.marks a.stop
            rw [List.map_cons]
            by_cases stays : first.stop = pos
            · have stays' : first.result.stop = pos := stays
              simp only [if_pos stays, if_pos stays']
              exact ends origin
            · have moves : first.result.stop ≠ pos := stays
              simp only [if_neg stays, if_neg moves, List.flatMap_cons, List.append_assoc,
                List.map_append, List.map_flatMap, List.flatMap_map, later, ends]
              rw [ih]
              rfl

end Loops

end Arrival

namespace Pattern

open Arrival

mutual

/-- Where no group lies below another of its number, the arrivals of a pattern are its results. -/
theorem arrivals_map_result (s : Subject) : (p : Pattern) → p.groupsApart = true →
    (marks : Marks) → (pos : Nat) →
    (p.arrivals s marks pos).map result = p.results s marks.captures pos
  | .sequence parts, h, marks, pos => by
      rw [arrivals, results]
      exact partArrivals_map_result s parts h marks pos
  | .alternation left right, h, marks, pos => by
      rw [groupsApart, Bool.and_eq_true] at h
      rw [arrivals, results, List.map_append, map_result_setOrigin,
        arrivals_map_result s left h.1, arrivals_map_result s right h.2]
  | .loop body min max, h, marks, pos => by
      have same := arrivals_map_result s body h
      rw [arrivals, results, Arrival.repeated, preferredCount_eq same]
      split
      · rfl
      · exact map_result_iterate same min max _ 0 _ marks pos
  | .group body index, h, marks, pos => by
      simp only [groupsApart, Bool.and_eq_true, Bool.not_eq_true', List.contains_eq_mem,
        decide_eq_false_iff_not] at h
      have same := arrivals_map_result s body h.2 (marks.openGroup index pos) pos
      have agrees := Agrees.of_setOrigin rfl
        (arrivals_agree s body h.1 (marks.openGroup index pos) pos)
      rw [arrivals, results, List.map_map]
      show _ = (body.results s (marks.openGroup index pos).captures pos).map _
      rw [← same, ← map_result_setOrigin (marks.openGroup index pos).groupStarts, List.map_map]
      refine List.map_congr_left ?_
      intro a member
      have start : a.origin[index]? = some pos := by
        rw [(agrees a member).put]
        simp [Marks.openGroup]
      simp [captureGroup, result, Marks.capture, start]
  | .atomic body, h, marks, pos => by
      rw [arrivals, results, List.map_take, arrivals_map_result s body h]
  | .lookahead body, h, marks, pos => by
      have same := arrivals_map_result s body h marks pos
      rw [arrivals, results, ← same, List.isEmpty_map]
      split <;> rfl
  | .lookbehind body width, h, marks, pos => by
      have same := arrivals_map_result s body h marks (pos - width)
      have heads : ((body.arrivals s marks (pos - width)).map result).head?.any (·.stop = pos) =
          (body.arrivals s marks (pos - width)).head?.any (·.stop = pos) := by
        cases body.arrivals s marks (pos - width) <;> rfl
      rw [arrivals, results, ← same, heads]
      split
      · rfl
      · split <;> rfl
  | .negation body, h, marks, pos => by
      have same := arrivals_map_result s body h marks pos
      rw [arrivals, results, ← same, List.isEmpty_map]
      split
      · rfl
      · split <;> rfl
  | .empty, _, marks, pos | .literal _, _, marks, pos | .anyChar, _, marks, pos
  | .digit, _, marks, pos | .word, _, marks, pos | .space, _, marks, pos
  | .charClass .., _, marks, pos | .lineStart, _, marks, pos | .lineEnd, _, marks, pos
  | .wordEdge, _, marks, pos | .backreference _, _, marks, pos => map_result_ofStop? _ marks

theorem partArrivals_map_result (s : Subject) : (parts : List Pattern) → partsApart parts = true →
    (marks : Marks) → (pos : Nat) →
    (partArrivals s parts marks pos).map result = partResults s parts marks.captures pos
  | [], _, marks, pos => map_result_ofStop? _ marks
  | part :: rest, h, marks, pos => by
      rw [partsApart, Bool.and_eq_true] at h
      have later : ∀ a : Arrival, (follow (partArrivals s rest) a).map result =
          partResults s rest a.result.captures a.result.stop := fun a => by
        rw [follow, map_result_setOrigin]
        exact partArrivals_map_result s rest h.2 a.marks a.stop
      rw [partArrivals, partResults, List.map_flatMap, ← arrivals_map_result s part h.1,
        List.flatMap_map]
      simp only [later]

end

end Pattern

end Rematch
