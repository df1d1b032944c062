import Rematch.Subject

/-!
# The memory of a match

What a match under way remembers: captured spans, the starts of open groups, the repetition each
loop has reached, and a stack of choice points. A choice point keeps the memory as it was when the
choice was made, so going back to it is a replacement of one value by another.
-/

namespace Rematch

/-- Whether the first list is the longer one; neither is read past the end of the shorter. -/
def longer {α : Type} : List α → List α → Bool
  | [], _ => false
  | _ :: _, [] => true
  | _ :: xs, _ :: ys => longer xs ys

theorem longer_iff {α : Type} {xs ys : List α} : longer xs ys = true ↔ ys.length < xs.length := by
  fun_induction longer xs ys <;> simp_all

/-- The repetition that a loop has begun: how many were complete, and where it starts. -/
structure LoopMark where
  count : Nat
  start : Nat
deriving DecidableEq, Repr

/--
A choice not taken: the operator that can take it up, where it stood, which of its choices it is,
and the state in which to take it up.
-/
structure Suspended (σ : Type) where
  /-- The number of the operator in the pattern. -/
  owner : Nat
  position : Nat
  /-- Which choice is left, in terms of the operator. -/
  choice : Nat
  snapshot : σ

structure Memory where
  captures : Captures := ∅
  /-- Where each group began that has been opened, by group number. -/
  groupStarts : Std.ExtTreeMap Nat Nat := ∅
  /-- The repetition that each loop has begun, by the number of the loop in the pattern. -/
  loops : Std.ExtTreeMap Nat LoopMark := ∅
  /-- The choice points, the latest first. -/
  points : List (Suspended Memory) := []

abbrev ChoicePoint := Suspended Memory

namespace Memory

instance : EmptyCollection Memory := ⟨{}⟩

instance : Inhabited Memory := ⟨∅⟩

def depth (m : Memory) : Nat :=
  m.points.length

def push (m : Memory) (point : ChoicePoint) : Memory :=
  { m with points := point :: m.points }

/-- Leaves a choice point that returns to this very memory. -/
def suspend (m : Memory) (owner position choice : Nat) : Memory :=
  m.push { owner, position, choice, snapshot := m }

def pop? (m : Memory) : Option (ChoicePoint × Memory) :=
  match m.points with
  | [] => none
  | point :: points => some (point, { m with points })

def keepOldest (m : Memory) (depth : Nat) : Memory :=
  { m with points := m.points.drop (m.points.length - depth) }

def capture (m : Memory) (index start stop : Nat) : Memory :=
  { m with captures := m.captures.insert index { start, stop } }

def openGroup (m : Memory) (index start : Nat) : Memory :=
  { m with groupStarts := m.groupStarts.insert index start }

def enterLoop (m : Memory) (loop count start : Nat) : Memory :=
  { m with loops := m.loops.insert loop { count, start } }

/-- Whether there are more choice points than in `entry`. -/
def risesAbove (m entry : Memory) : Bool :=
  longer m.points entry.points

@[simp] theorem depth_empty : (∅ : Memory).depth = 0 := rfl

@[simp] theorem depth_push (m : Memory) (point : ChoicePoint) :
    (m.push point).depth = m.depth + 1 := rfl

@[simp] theorem pop?_push (m : Memory) (point : ChoicePoint) :
    (m.push point).pop? = some (point, m) := by
  cases m
  rfl

theorem pop?_eq_none_iff (m : Memory) : m.pop? = none ↔ m.points = [] := by
  unfold pop?
  cases m.points <;> simp

theorem risesAbove_iff (m entry : Memory) : m.risesAbove entry = true ↔ entry.depth < m.depth :=
  longer_iff

theorem points_keepOldest {m : Memory} {newer oldest : List ChoicePoint}
    (h : m.points = newer ++ oldest) : (m.keepOldest oldest.length).points = oldest := by
  simp [keepOldest, h]

theorem loops_enterLoop (m : Memory) (loop count start wanted : Nat) :
    (m.enterLoop loop count start).loops[wanted]? =
      if loop = wanted then some { count, start } else m.loops[wanted]? := by
  simp [enterLoop, Std.ExtTreeMap.getElem?_insert]

end Memory

end Rematch
