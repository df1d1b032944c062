import Mathlib.Data.List.Nodup
import Rematch.Proofs.Flatten

/-!
# Groups within groups

If no two groups have the same number, a group can take part in a match only together with the groups
around it, and none of these ends before it. Spans of different repetitions may stand side by side, so
the same is not true of where they begin: of `((a)|b)*` on `ab` the inner group keeps the first character
and the outer one has the second.
-/

namespace Rematch
namespace Pattern

open Arrival

/-! ## Groups around a group -/

/-- A group numbered `inner` lies below one numbered `outer`, at any depth and in conditions as well. -/
def Encloses (p : Pattern) (outer inner : Nat) : Prop :=
  ∃ place body, p.at? place = some (.group body outer) ∧
    ∃ route below, body.at? route = some (.group below inner)

theorem group_or_child_of_mem {p : Pattern} {index : Nat} (h : index ∈ p.groupOrder) :
    (∃ body, p = .group body index) ∨
      ∃ step child, p.child? step = some child ∧ index ∈ child.groupOrder := by
  cases p with
  | sequence parts =>
      rw [groupOrder, partGroupOrder_eq_flatMap, List.mem_flatMap] at h
      obtain ⟨part, member, inside⟩ := h
      obtain ⟨step, found⟩ := List.getElem?_of_mem member
      exact .inr ⟨step, part, found, inside⟩
  | alternation left right =>
      rw [groupOrder, List.mem_append] at h
      rcases h with h | h
      · exact .inr ⟨0, left, rfl, h⟩
      · exact .inr ⟨1, right, rfl, h⟩
  | group body other =>
      rcases List.mem_cons.mp h with rfl | h
      · exact .inl ⟨body, rfl⟩
      · exact .inr ⟨0, body, rfl, h⟩
  | loop body _ _ | atomic body | lookahead body | lookbehind body _ | negation body =>
      exact .inr ⟨0, body, rfl, h⟩
  | _ => simp [groupOrder] at h

namespace Encloses

variable {p child : Pattern} {step outer inner : Nat}

theorem of_child (hchild : p.child? step = some child) (h : child.Encloses outer inner) :
    p.Encloses outer inner := by
  obtain ⟨place, body, hplace, below⟩ := h
  exact ⟨step :: place, body, by rw [at?, hchild, Option.bind_some, hplace], below⟩

theorem group_or_child (h : p.Encloses outer inner) :
    (∃ body, p = .group body outer ∧ inner ∈ body.groupOrder) ∨
      ∃ step child, p.child? step = some child ∧ child.Encloses outer inner := by
  obtain ⟨place, body, hplace, route, below, hroute⟩ := h
  cases place with
  | nil =>
      rw [at?_nil] at hplace
      exact .inl ⟨body, Option.some.inj hplace, mem_groupOrder_of_at? hroute⟩
  | cons step place =>
      obtain ⟨child, hchild, hplace⟩ := Option.bind_eq_some_iff.mp hplace
      exact .inr ⟨step, child, hchild, place, body, hplace, route, below, hroute⟩

theorem mem_groupOrder (h : p.Encloses outer inner) :
    outer ∈ p.groupOrder ∧ inner ∈ p.groupOrder := by
  obtain ⟨place, body, hplace, route, below, hroute⟩ := h
  have inside := groupOrder_subset_of_at? hplace
  exact ⟨inside List.mem_cons_self,
    inside (List.mem_cons_of_mem outer (mem_groupOrder_of_at? hroute))⟩

end Encloses

/-! ## Captures that fit the nesting -/

/--
What the groups of a pattern have captured ends at `pos` or before, and what a group below another one
has captured ends no later than what the other one has.
-/
structure Enclosed (p : Pattern) (captures : Captures) (pos : Nat) : Prop where
  past : ∀ {index span}, index ∈ p.groupOrder → captures[index]? = some span → span.stop ≤ pos
  around : ∀ {outer inner span}, p.Encloses outer inner → captures[inner]? = some span →
    ∃ span', captures[outer]? = some span' ∧ span.stop ≤ span'.stop

namespace Enclosed

variable {p body : Pattern} {captures captures' : Captures} {pos pos' : Nat}

theorem empty (p : Pattern) (pos : Nat) : p.Enclosed ∅ pos where
  past _ captured := by simp at captured
  around _ captured := by simp at captured

theorem child (h : p.Enclosed captures pos) (step : Nat) {child : Pattern}
    (hchild : p.child? step = some child) : child.Enclosed captures pos where
  past member := h.past (groupOrder_subset_of_child? hchild member)
  around nested := h.around (nested.of_child hchild)

/-- An operator that is no group itself only has the groups of its children. -/
theorem of_children (plain : ∀ body index, p ≠ .group body index)
    (h : ∀ {step child}, p.child? step = some child → child.Enclosed captures pos) :
    p.Enclosed captures pos where
  past {index span} member captured := by
    rcases group_or_child_of_mem member with ⟨body, own⟩ | ⟨step, child, hchild, inside⟩
    · exact absurd own (plain body index)
    · exact (h hchild).past inside captured
  around {outer inner span} nested captured := by
    rcases nested.group_or_child with ⟨body, own, _⟩ | ⟨step, child, hchild, inside⟩
    · exact absurd own (plain body outer)
    · exact (h hchild).around inside captured

theorem of_body (plain : ∀ body index, p ≠ .group body index) (first : p.child? 0 = some body)
    (others : ∀ step, p.child? (step + 1) = none) (h : body.Enclosed captures pos) :
    p.Enclosed captures pos := by
  refine .of_children plain fun {step child} hchild => ?_
  cases step with
  | zero =>
      rw [first] at hchild
      exact Option.some.inj hchild ▸ h
  | succ step =>
      rw [others] at hchild
      contradiction

theorem of_parts {parts : List Pattern} (h : ∀ part ∈ parts, part.Enclosed captures pos) :
    (sequence parts).Enclosed captures pos :=
  .of_children nofun fun hchild => h _ (List.mem_of_getElem? hchild)

theorem capture (h : body.Enclosed captures pos) {index : Nat} (apart : index ∉ body.groupOrder)
    (start : Nat) : (group body index).Enclosed (captures.insert index { start, stop := pos }) pos := by
  have own : (captures.insert index { start, stop := pos })[index]? = some { start, stop := pos } :=
    Std.ExtTreeMap.getElem?_insert_self
  have other {wanted : Nat} (member : wanted ∈ body.groupOrder) :
      (captures.insert index { start, stop := pos })[wanted]? = captures[wanted]? := by
    have different : index ≠ wanted := fun same => apart (same ▸ member)
    simp [Std.ExtTreeMap.getElem?_insert, different]
  constructor
  · intro wanted span member captured
    rcases List.mem_cons.mp member with rfl | inside
    · rw [own] at captured
      obtain rfl := Option.some.inj captured
      exact Nat.le_refl pos
    · rw [other inside] at captured
      exact h.past inside captured
  · intro outer inner span nested captured
    rcases nested.group_or_child with ⟨body', same, inside⟩ | ⟨step, child, hchild, inside⟩
    · obtain ⟨rfl, rfl⟩ := Pattern.group.inj same
      rw [other inside] at captured
      exact ⟨_, own, h.past inside captured⟩
    · obtain rfl : body = child := by
        cases step with
        | zero => exact Option.some.inj hchild
        | succ step => contradiction
      obtain ⟨outside, below⟩ := inside.mem_groupOrder
      rw [other below] at captured
      rw [other outside]
      exact h.around inside captured

/-- Further on in the text nothing changes as long as the groups of the pattern capture nothing. -/
theorem later (h : p.Enclosed captures pos)
    (same : ∀ index ∈ p.groupOrder, captures'[index]? = captures[index]?) (ahead : pos ≤ pos') :
    p.Enclosed captures' pos' where
  past member captured := by
    rw [same _ member] at captured
    exact Nat.le_trans (h.past member captured) ahead
  around nested captured := by
    obtain ⟨outside, inside⟩ := nested.mem_groupOrder
    rw [same _ inside] at captured
    rw [same _ outside]
    exact h.around nested captured

end Enclosed

/-! ## Captures of a match -/

variable {s : Subject} {marks : Marks} {pos : Nat} {a : Arrival}

theorem le_stop_of_mem_arrivals {p : Pattern} (member : a ∈ p.arrivals s marks pos) : pos ≤ a.stop :=
  ((matcher_lawful s 0 p).advances marks pos a member).1

/-- A pattern leaves the groups of another one alone if they have no number in common. -/
theorem Enclosed.beside {p q : Pattern} (h : q.Enclosed marks.captures pos)
    (apart : q.groupOrder.Disjoint p.groupOrder) (member : a ∈ p.arrivals s marks pos) :
    q.Enclosed a.marks.captures a.stop := by
  refine h.later (fun index own => ?_) (le_stop_of_mem_arrivals member)
  have foreign : index ∉ p.groupNumbers := fun inside => apart own (groupNumbers_subset p inside)
  exact captures_of_mem_arrivals s p foreign marks pos a member

mutual

/-- However a pattern without repeated numbers is left, its captures fit the nesting of its groups. -/
theorem enclosed_of_mem_arrivals (s : Subject) : (p : Pattern) → p.groupOrder.Nodup →
    (marks : Marks) → (pos : Nat) → p.Enclosed marks.captures pos →
    ∀ a ∈ p.arrivals s marks pos, p.Enclosed a.marks.captures a.stop
  | .sequence parts, distinct, marks, pos, h => by
      have begun : ∀ part ∈ parts, part.Enclosed marks.captures pos := by
        intro part member
        obtain ⟨step, found⟩ := List.getElem?_of_mem member
        exact h.child step found
      rw [arrivals]
      intro a member
      exact .of_parts (enclosed_of_mem_partArrivals s parts distinct marks pos begun a member)
  | .alternation left right, distinct, marks, pos, h => by
      obtain ⟨distinctLeft, distinctRight, apart⟩ := List.nodup_append'.mp distinct
      have hleft : left.Enclosed marks.captures pos := h.child 0 rfl
      have hright : right.Enclosed marks.captures pos := h.child 1 rfl
      have branches {captures : Captures} {stop : Nat} (ofLeft : left.Enclosed captures stop)
          (ofRight : right.Enclosed captures stop) :
          (alternation left right).Enclosed captures stop := by
        refine .of_children nofun fun {step child} hchild => ?_
        rcases step with _ | _ | step
        · exact Option.some.inj hchild ▸ ofLeft
        · exact Option.some.inj hchild ▸ ofRight
        · contradiction
      rw [arrivals, List.forall_mem_append]
      constructor
      · intro a member
        exact branches (enclosed_of_mem_arrivals s left distinctLeft marks pos hleft a member)
          (hright.beside (fun _ own shared => apart shared own) member)
      · refine forall_mem_setOrigin _ (fun _ kept => kept) fun a member => ?_
        exact branches (hleft.beside apart member)
          (enclosed_of_mem_arrivals s right distinctRight marks pos hright a member)
  | .loop body min max, distinct, marks, pos, h => by
      have begun : body.Enclosed marks.captures pos := h.child 0 rfl
      rw [arrivals, Arrival.repeated]
      split
      · exact nofun
      · refine forall_mem_iterate (fun kept => kept) ?_ (.of_body nofun rfl (fun _ => rfl) begun)
        intro pos marks origin kept a member
        have inside : body.Enclosed marks.captures pos := kept.child 0 rfl
        have left := enclosed_of_mem_arrivals s body distinct marks pos inside a member
        exact ⟨.of_body nofun rfl (fun _ => rfl) left, .of_body nofun rfl (fun _ => rfl) left⟩
  | .group body index, distinct, marks, pos, h => by
      obtain ⟨apart, distinct⟩ := List.nodup_cons.mp distinct
      have begun : body.Enclosed marks.captures pos := h.child 0 rfl
      rw [arrivals, List.forall_mem_map]
      intro a member
      have left := forall_mem_setOrigin _ (fun _ kept => kept)
        (enclosed_of_mem_arrivals s body distinct (marks.openGroup index pos) pos begun) a member
      exact left.capture apart _
  | .atomic body, distinct, marks, pos, h => by
      have begun : body.Enclosed marks.captures pos := h.child 0 rfl
      rw [arrivals]
      intro a member
      have left := enclosed_of_mem_arrivals s body distinct marks pos begun a
        (List.mem_of_mem_take member)
      exact .of_body nofun rfl (fun _ => rfl) left
  | .lookahead body, _, marks, pos, h | .lookbehind body _, _, marks, pos, h
  | .negation body, _, marks, pos, h | .empty, _, marks, pos, h | .literal _, _, marks, pos, h
  | .anyChar, _, marks, pos, h | .digit, _, marks, pos, h | .word, _, marks, pos, h
  | .space, _, marks, pos, h | .charClass .., _, marks, pos, h | .lineStart, _, marks, pos, h
  | .lineEnd, _, marks, pos, h | .wordEdge, _, marks, pos, h
  | .backreference _, _, marks, pos, h => by
      intro a member
      have same : a.marks = marks := captures_of_mem_ofStop? member
      exact h.later (fun _ _ => by rw [same]) (le_stop_of_mem_arrivals member)

theorem enclosed_of_mem_partArrivals (s : Subject) : (parts : List Pattern) →
    (partGroupOrder parts).Nodup → (marks : Marks) → (pos : Nat) →
    (∀ part ∈ parts, part.Enclosed marks.captures pos) →
    ∀ a ∈ partArrivals s parts marks pos, ∀ part ∈ parts, part.Enclosed a.marks.captures a.stop
  | [], _, _, _, _ => nofun
  | part :: rest, distinct, marks, pos, h => by
      obtain ⟨distinctPart, distinctRest, apart⟩ := List.nodup_append'.mp distinct
      obtain ⟨hpart, hrest⟩ := List.forall_mem_cons.mp h
      rw [partArrivals]
      intro a member
      obtain ⟨b, hb, later⟩ := List.mem_flatMap.mp member
      have left := enclosed_of_mem_arrivals s part distinctPart marks pos hpart b hb
      -- the rest begins with its groups as they were before the part
      have begun : ∀ other ∈ rest, other.Enclosed b.marks.captures b.stop := by
        intro other among
        obtain ⟨step, found⟩ := List.getElem?_of_mem among
        have placed : (Pattern.sequence rest).child? step = some other := found
        have numbers : other.groupOrder ⊆ partGroupOrder rest := groupOrder_subset_of_child? placed
        exact (hrest other among).beside
          (fun _ own shared => apart shared (numbers own)) hb
      refine forall_mem_setOrigin (P := fun a => ∀ part' ∈ part :: rest,
        part'.Enclosed a.marks.captures a.stop) _ (fun _ kept => kept) ?_ a later
      intro a member
      refine List.forall_mem_cons.mpr ⟨?_, ?_⟩
      · refine left.beside (p := .sequence rest) (s := s) apart ?_
        rwa [arrivals]
      · exact enclosed_of_mem_partArrivals s rest distinctRest b.marks b.stop begun a member

end

/--
If no two groups have the same number, a group below another one takes part in a match only if the
other one does, and ends no later, whichever repetitions their spans stem from.
-/
theorem outer_takes_part {p : Pattern} (distinct : p.groupOrder.Nodup) {s : Subject} {start : Nat}
    {m : Match} (found : p.matchAt s start = some m) {outer inner : Nat}
    (nested : p.Encloses outer inner) {span : Span} (captured : m.groups[inner]? = some span) :
    ∃ span', m.groups[outer]? = some span' ∧ span.stop ≤ span'.stop := by
  obtain ⟨a, member, rfl⟩ := exists_arrival_of_matchAt found
  have left := enclosed_of_mem_arrivals s p distinct {} start (.empty p start) a member
  exact left.around nested captured

/--
On `abb` the loop of `((a)|b)+b` gives its last repetition back. The outer group is left with the second
character and the inner one with the first, so the inner one begins and ends before it.
-/
theorem outer_takes_part_given_back :
    let p : Pattern := .sequence
      [plus (.group (.alternation (.group (.literal 'a') 2) (.literal 'b')) 1), .literal 'b']
    let s : Subject := { text := #['a', 'b', 'b'] }
    p.groupOrder.Nodup ∧ p.Encloses 1 2 ∧ ∃ m, p.matchAt s 0 = some m ∧
      m.groups[2]? = some ⟨0, 1⟩ ∧ m.groups[1]? = some ⟨1, 2⟩ ∧
        ∃ span', m.groups[1]? = some span' ∧ 1 ≤ span'.stop := by
  intro p s
  have distinct : p.groupOrder.Nodup := by decide
  have nested : p.Encloses 1 2 := ⟨[0, 0], _, rfl, [0], _, rfl⟩
  have groups : (p.matchAt s 0).map (fun m => (m.groups[2]?, m.groups[1]?)) =
      some (some ⟨0, 1⟩, some ⟨1, 2⟩) := by decide
  obtain ⟨m, found, spans⟩ := Option.map_eq_some_iff.mp groups
  obtain ⟨inner, outer⟩ := Prod.mk.inj spans
  exact ⟨distinct, nested, m, found, inner, outer, outer_takes_part distinct found nested inner⟩

end Pattern
end Rematch
