import Rematch.Proofs.Activity

/-!
# Routing

A point on the stack is one that its operator offers, and only sequences, alternations, loops and
groups lie above that operator. When the point is taken up, each of these passes it on to the one part
that it belongs to, so no resumption ends because the way is lost.
-/

namespace Rematch

namespace Pattern

def handsOn : Pattern → Bool
  | .sequence _ | .alternation .. | .loop .. | .group .. => true
  | _ => false

/-- The subtree at a place, if all operators above it hand the choices of their parts on. -/
def reach? : Pattern → Path → Option Pattern
  | p, [] => some p
  | p, step :: rest =>
      if p.handsOn then (p.child? step).bind fun child => child.reach? rest else none

def Offers : Pattern → (choice : Nat) → Prop
  | .alternation .., choice => choice = 0
  | .loop _ min max, choice => min ≤ choice ∧ ∀ most ∈ max, choice < most
  | _, _ => False

@[simp] theorem reach?_nil (p : Pattern) : p.reach? [] = some p := by
  cases p <;> rfl

variable {point : ChoicePoint}

/-- The operator with a number has left a point, and lies at a place that it can be reached at. -/
def Reaches (p : Pattern) (number : Nat) (point : ChoicePoint) : Prop :=
  ∃ place node, p.reach? place = some node ∧
    (p.numberAt? place).map (number + ·) = some point.owner ∧ node.Offers point.choice

theorem Reaches.self {p : Pattern} {number : Nat} (owner : point.owner = number)
    (offers : p.Offers point.choice) : p.Reaches number point :=
  ⟨[], p, reach?_nil p, by simp [owner], offers⟩

/-- What is reached from a child is reached from its parent, if that hands on, under the same number. -/
theorem reach?_of_child {p child node : Pattern} {number owner : Nat} {place : Path} (step : Nat)
    (passes : p.handsOn = true) (hchild : p.child? step = some child)
    (reached : child.reach? place = some node)
    (numbered : (child.numberAt? place).map (number + p.childNumber step + ·) = some owner) :
    p.reach? (step :: place) = some node ∧
      (p.numberAt? (step :: place)).map (number + ·) = some owner := by
  obtain ⟨below, hbelow, hsum⟩ := Option.map_eq_some_iff.mp numbered
  constructor
  · rw [reach?, if_pos passes, hchild, Option.bind_some, reached]
  · rw [numberAt?, hchild, Option.bind_some, hbelow, Option.map_some, Option.map_some, ← hsum,
      Nat.add_assoc]

theorem Reaches.child {p child : Pattern} {number : Nat} (step : Nat) (passes : p.handsOn = true)
    (hchild : p.child? step = some child)
    (h : child.Reaches (number + p.childNumber step) point) : p.Reaches number point := by
  obtain ⟨place, node, reached, numbered, offers⟩ := h
  obtain ⟨reached, numbered⟩ := reach?_of_child step passes hchild reached numbered
  exact ⟨step :: place, node, reached, numbered, offers⟩

mutual

theorem reaches_of_route {lo number : Nat} : (p : Pattern) → p.route number lo point →
    p.Reaches number point
  | .sequence parts, found => by
      obtain ⟨i, part, hpart, reached⟩ := reaches_of_routeAmong parts found
      refine Reaches.child i rfl hpart ?_
      rw [childNumber, Nat.add_comm _ 1, ← Nat.add_assoc]
      exact reached
  | .alternation left right, found => by
      rcases found with own | inner | inner
      · exact .self own.1 own.2
      · exact .child 0 rfl rfl (reaches_of_route left inner)
      · refine .child 1 rfl rfl ?_
        rw [childNumber, Nat.add_comm _ 1, ← Nat.add_assoc]
        exact reaches_of_route right inner
  | .loop body min max, found => by
      rcases found with own | inner
      · exact .self own.1 own.2
      · exact .child 0 rfl rfl (reaches_of_route body inner.2)
  | .group body index, found => .child 0 rfl rfl (reaches_of_route body found.2)

theorem reaches_of_routeAmong {lo number : Nat} : (parts : List Pattern) →
    routeAmong number parts lo point → ∃ (i : Nat) (part : Pattern), parts[i]? = some part ∧
      part.Reaches (number + totalCount (parts.take i)) point
  | part :: rest, found => by
      rcases found with here | later
      · exact ⟨0, part, rfl, reaches_of_route part here⟩
      · obtain ⟨i, found, hfound, reached⟩ := reaches_of_routeAmong rest later
        refine ⟨i + 1, found, by simpa using hfound, ?_⟩
        rw [List.take_succ_cons, totalCount, ← Nat.add_assoc]
        exact reached

end

end Pattern

namespace Activity

variable {s : Subject} {limit : Nat}

/--
The way is never lost. Who resumes a point is its owner and still offers it, or it is an operator that
passes it on: one of its parts owns the point, a loop finds the mark of its repetition, a group its
start. What a sequence drains belongs to the part that it drains.
-/
def FindsWay (s : Subject) : Activity → Prop
  | .resume number (.sequence parts) point _ =>
      ∃ part ∈ Pattern.matchers s (number + 1) parts, part.owns point = true
  | .resumeParts number parts point _ =>
      ∃ part ∈ Pattern.matchers s number parts, part.owns point = true
  | .resume number (.alternation left right) point _ =>
      (point.owner = number ∧ point.choice = 0) ∨
        (point.owner ≠ number ∧ ((left.matcher s (number + 1)).owns point = true ∨
          (right.matcher s (number + 1 + left.operatorCount)).owns point = true))
  | .resume number (.loop body min max) point m =>
      (point.owner = number ∧ min ≤ point.choice ∧ ∀ most ∈ max, point.choice < most) ∨
        (point.owner ≠ number ∧ number ∈ m.loops ∧
          (body.matcher s (number + 1)).owns point = true)
  | .resume number (.group body index) point m =>
      index ∈ m.groupStarts ∧ (body.matcher s (number + 1)).owns point = true
  | .resume .. => False
  | .drain number part _ entry m => ∀ point below, m.points = point :: below →
      entry.depth < m.depth → (part.matcher s number).owns point = true
  | .run .. | .runParts .. | .iterate .. => True

theorem owns_of_routeAmong {number lo : Nat} {parts : List Pattern} {point : ChoicePoint}
    (s : Subject) (found : Pattern.routeAmong number parts lo point) :
    ∃ part ∈ Pattern.matchers s number parts, part.owns point = true := by
  induction parts generalizing number with
  | nil => exact found.elim
  | cons part rest ih =>
      rw [Pattern.matchers, Pattern.matcher_size]
      rcases found with here | later
      · have owned := (Pattern.matcher_guided (Nat.le_refl s.size) number part).owns here
        exact ⟨_, List.mem_cons_self, owned⟩
      · obtain ⟨found, member, owned⟩ := ih later
        exact ⟨found, List.mem_cons_of_mem _ member, owned⟩

theorem owner_ne_of_owns {number below : Nat} {body : Pattern} {point : ChoicePoint}
    (lower : number < below) (owned : (body.matcher s below).owns point = true) :
    point.owner ≠ number := by
  have bounds := (Matcher.owns_iff _ _).mp owned
  rw [Pattern.matcher_number] at bounds
  omega

theorem findsWay_of_route {number lo : Nat} {point : ChoicePoint} (s : Subject) :
    (p : Pattern) → p.route number lo point →
      (Activity.resume number p point point.snapshot).FindsWay s
  | .sequence parts, found => owns_of_routeAmong s found
  | .alternation left right, found => by
      rcases found with own | inner | inner
      · exact .inl own
      · have owned := (Pattern.matcher_guided (Nat.le_refl s.size) (number + 1) left).owns inner
        exact .inr ⟨owner_ne_of_owns (by omega) owned, .inl owned⟩
      · have owned := (Pattern.matcher_guided (Nat.le_refl s.size) _ right).owns inner
        exact .inr ⟨owner_ne_of_owns (by omega) owned, .inr owned⟩
  | .loop body min max, found => by
      rcases found with own | ⟨⟨mark, hmark, _⟩, inner⟩
      · exact .inl own
      · have owned := (Pattern.matcher_guided (Nat.le_refl s.size) (number + 1) body).owns inner
        have begun := Std.ExtTreeMap.mem_iff_isSome_getElem?.mpr (Option.isSome_of_eq_some hmark)
        exact .inr ⟨owner_ne_of_owns (by omega) owned, begun, owned⟩
  | .group body index, found => by
      obtain ⟨⟨start, hstart, _⟩, inner⟩ := found
      have opened := Std.ExtTreeMap.mem_iff_isSome_getElem?.mpr (Option.isSome_of_eq_some hstart)
      exact ⟨opened, (Pattern.matcher_guided (Nat.le_refl s.size) (number + 1) body).owns inner⟩

theorem Ready.findsWay {a : Activity} (ready : a.Ready limit) : a.FindsWay s := by
  cases a with
  | run _ _ _ _ | runParts _ _ _ _ | iterate _ _ _ _ _ _ _ => trivial
  | resume number p point m =>
      obtain ⟨⟨rfl, _, _⟩, lo, _, found⟩ := ready
      exact findsWay_of_route s p found
  | resumeParts number parts point m =>
      obtain ⟨_, lo, _, found⟩ := ready
      exact owns_of_routeAmong s found
  | drain number part rest entry m =>
      obtain ⟨_, pos, _, grown⟩ := ready
      intro point below hpoints above
      rw [Memory.depth, Memory.depth, hpoints] at above
      rw [hpoints] at grown
      obtain ⟨found, _, _⟩ := grown.of_cons above
      exact (Pattern.matcher_guided (Nat.le_refl s.size) number part).owns found.route

end Activity

namespace Pattern

/--
Taking up choice points never fails for want of a way. After each round of an attempt, all points on
the stack are offered by operators that sequences, alternations, loops and groups alone lie above; and
at every resumption and in every drain of the attempt, at whatever depth, the way is found.
-/
theorem routing_unblocked (p : Pattern) (s : Subject) (start : Nat) :
    (∀ m, (p.matcher s 0).Attempted start m → ∀ point ∈ m.points, ∃ place node,
      p.reach? place = some node ∧ p.numberAt? place = some point.owner ∧
        node.Offers point.choice) ∧
    (∀ a, p.Occurs s start a → a.FindsWay s) := by
  have size : s.size ≤ max start s.size := Nat.le_max_right _ _
  have inside : start ≤ max start s.size := Nat.le_max_left _ _
  constructor
  · intro m attempted point member
    obtain ⟨new, hnew, found⟩ := (attempted_grown size inside attempted).exists_append
    rw [hnew, List.append_nil] at member
    have reached := reaches_of_route p (found point member).route
    simpa [Reaches] using reached
  · intro a occurs
    exact (occurs.ready size inside).findsWay

/--
Of `(a|ab)*c` on `abc` the loop first ends after `a`, and its points are drained: the latest belongs to
the loop, and its operator at place 0, 0, 0 offers it.
-/
theorem routing_unblocked_repeated_group :
    let part : Pattern := star (.group (.alternation (.literal 'a')
      (.sequence [.literal 'a', .literal 'b'])) 1)
    let p : Pattern := .sequence [part, .literal 'c']
    let s : Subject := { text := #['a', 'b', 'c'] }
    let m := ((part.matcher s 1).run 0 ∅).memory
    ∃ point below, m.points = point :: below ∧ p.Occurs s 0 (.drain 1 part [.literal 'c'] ∅ m) ∧
      (part.matcher s 1).owns point = true ∧ p.placeOf? point.owner = some [0, 0, 0] := by
  intro part p s m
  have stops : ((part.matcher s 1).run 0 ∅).stop? = some 1 := by decide
  have hrun : (part.matcher s 1).run 0 ∅ = .matched 1 m := Outcome.eq_matched_of_stop? stops
  obtain ⟨m', hrest⟩ : ∃ m', Matcher.runParts s.size
      (matchers s (1 + part.operatorCount) [.literal 'c']) 1 m = .failed m' :=
    (Outcome.stop?_eq_none_iff _).mp (by decide)
  have occurs : p.Occurs s 0 (.drain 1 part [.literal 'c'] ∅ m) := .drain_first hrun hrest
  have two : m.points.length = 2 := by decide
  cases hpoints : m.points with
  | nil => simp [hpoints] at two
  | cons point below =>
      refine ⟨point, below, rfl, occurs, ?_, ?_⟩
      · exact (routing_unblocked p s 0).2 _ occurs point below hpoints (by decide)
      · have owner : m.points.head?.bind (p.placeOf? ·.owner) = some [0, 0, 0] := by decide
        simpa [hpoints] using owner

end Pattern

end Rematch
