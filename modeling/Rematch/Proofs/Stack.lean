import Rematch.Proofs.Failure
import Rematch.Proofs.Ownership

/-!
# The stack of choice points

Every point on the stack keeps the very stack that lies below it, so putting its memory back takes
nothing away and brings nothing back. Runs and resumptions, in whatever memory, only put points of
their own on top.
-/

namespace Rematch

/--
A stack grown from `base` by points that are owned and keep the stack on which they were laid.
-/
inductive Grown (owned : ChoicePoint → Prop) (base : List ChoicePoint) : List ChoicePoint → Prop
  | refl : Grown owned base base
  | push {point : ChoicePoint} {stack : List ChoicePoint} :
      owned point → point.snapshot.points = stack → Grown owned base stack →
      Grown owned base (point :: stack)

namespace Grown

variable {owned owned' : ChoicePoint → Prop} {base mid stack : List ChoicePoint}

theorem mono (h : Grown owned base stack) (imp : ∀ point, owned point → owned' point) :
    Grown owned' base stack := by
  induction h with
  | refl => exact .refl
  | push owner below _ ih => exact .push (imp _ owner) below ih

theorem trans (h : Grown owned base mid) (h' : Grown owned mid stack) :
    Grown owned base stack := by
  induction h' with
  | refl => exact h
  | push owner below _ ih => exact .push owner below ih

theorem exists_append (h : Grown owned base stack) :
    ∃ new, stack = new ++ base ∧ ∀ point ∈ new, owned point := by
  induction h with
  | refl => exact ⟨[], rfl, by simp⟩
  | push owner _ _ ih =>
      obtain ⟨new, rfl, owners⟩ := ih
      exact ⟨_ :: new, rfl, List.forall_mem_cons.mpr ⟨owner, owners⟩⟩

theorem of_cons {point : ChoicePoint} (h : Grown owned base (point :: stack))
    (above : base.length < (point :: stack).length) :
    owned point ∧ point.snapshot.points = stack ∧ Grown owned base stack := by
  cases h with
  | refl => exact absurd above (Nat.lt_irrefl _)
  | push owner below rest => exact ⟨owner, below, rest⟩

theorem of_append {above : List ChoicePoint} (h : Grown owned [] (above ++ stack)) :
    Grown owned [] stack := by
  induction above with
  | nil => exact h
  | cons point above ih => exact ih (h.of_cons (by simp)).2.2

end Grown

namespace Matcher

structure Stacks (c : Matcher) : Prop where
  run : ∀ pos m, Grown (c.owns · = true) m.points (c.run pos m).memory.points
  resume : ∀ point m, Grown (c.owns · = true) m.points (c.resume point m).memory.points

/-! ## Operators without a body, and conditions -/

theorem Keeps.stacks {c : Matcher} (h : c.Keeps) (barred : ∀ point m, c.resume point m = .failed m) :
    c.Stacks where
  run pos m := by
    rw [h pos m]
    exact .refl
  resume point m := by
    rw [barred point m]
    exact .refl

/-! ## Sequences -/

section Sequences

variable {owned : ChoicePoint → Prop} {part : Matcher} {rest : Nat → Memory → Outcome}

theorem drain_grown (hpart : part.Stacks) (howned : ∀ point, part.owns point = true → owned point)
    (hrest : ∀ pos m, Grown owned m.points (rest pos m).memory.points) {entry m : Memory}
    (rounds : Rounds) (h : Grown owned entry.points m.points) :
    Grown owned entry.points (drain part rest entry rounds m).memory.points := by
  induction rounds generalizing m with
  | none => exact .refl
  | next rounds ih =>
      unfold drain
      split
      · exact .refl
      · rename_i point stack hpoints
        split
        · rename_i high
          have above : entry.points.length < (point :: stack).length := by
            rw [← hpoints]
            exact (Memory.risesAbove_iff m entry).mp (Bool.and_eq_true_iff.mp high).1
          rw [hpoints] at h
          obtain ⟨_, hbelow, hstack⟩ := h.of_cons above
          have resumed := (hpart.resume point point.snapshot).mono howned
          rw [hbelow] at resumed
          split
          · rename_i m' hresume
            rw [hresume] at resumed
            exact ih () (hstack.trans resumed)
          · rename_i next m' hresume
            rw [hresume] at resumed
            have continued := hrest next m'
            split
            · rename_i m'' hrun
              rw [hrun] at continued
              exact ih () ((hstack.trans resumed).trans continued)
            · rename_i stop m'' hrun
              rw [hrun] at continued
              exact (hstack.trans resumed).trans continued
        · exact .refl

theorem chain_stacks (length number : Nat) {parts : List Matcher}
    (h : ∀ part ∈ parts, part.Stacks) (consecutive : Consecutive number parts) :
    (chain length number parts).Stacks := by
  induction parts generalizing number with
  | nil => exact ⟨fun _ _ => .refl, fun _ _ => .refl⟩
  | cons part rest ih =>
      obtain ⟨hnumber, hconsecutive⟩ := consecutive
      have hpart := h part List.mem_cons_self
      have hrest := ih (number + part.size) (fun p hp => h p (List.mem_cons_of_mem part hp))
        hconsecutive
      have ofPart : ∀ point, part.owns point = true →
          (chain length number (part :: rest)).owns point = true := fun _ =>
        (chain_within_first length rest hnumber).owns
      have ofRest : ∀ point, (chain length (number + part.size) rest).owns point = true →
          (chain length number (part :: rest)).owns point = true := fun _ =>
        (chain_within_rest length number part rest).owns
      have continued : ∀ pos m, Grown ((chain length number (part :: rest)).owns · = true) m.points
          (runParts length rest pos m).memory.points := fun pos m =>
        (hrest.run pos m).mono ofRest
      constructor
      · intro pos m
        have first := (hpart.run pos m).mono ofPart
        simp only [chain, runParts]
        split
        · exact .refl
        · rename_i next m' hrun
          rw [hrun] at first
          have second := continued next m'
          split
          · rename_i stop m'' hrest
            rw [hrest] at second
            exact first.trans second
          · rename_i m'' hrest
            rw [hrest] at second
            exact drain_grown hpart ofPart continued _ (first.trans second)
      · intro point m
        have first := (hpart.resume point m).mono ofPart
        simp only [chain, resumeParts]
        split
        · split
          · rename_i m' hresume
            rw [hresume] at first
            exact first
          · rename_i next m' hresume
            rw [hresume] at first
            exact first.trans (continued next m')
        · exact (hrest.resume point m).mono ofRest

theorem sequence_stacks (length number : Nat) {parts : List Matcher}
    (h : ∀ part ∈ parts, part.Stacks) (consecutive : Consecutive (number + 1) parts) :
    (sequence length number parts).Stacks := by
  have inner := chain_stacks length (number + 1) h consecutive
  have wider : ∀ point, (chain length (number + 1) parts).owns point = true →
      (sequence length number parts).owns point = true := fun _ =>
    (sequence_within_chain length number parts).owns
  exact ⟨fun pos m => (inner.run pos m).mono wider, fun point m => (inner.resume point m).mono wider⟩

end Sequences

/-! ## Alternations -/

theorem alternation_stacks {number : Nat} {left right : Matcher} (hleft : left.Stacks)
    (hright : right.Stacks) (numberLeft : left.number = number + 1)
    (numberRight : right.number = number + 1 + left.size) :
    (alternation number left right).Stacks := by
  have ofLeft : ∀ point, left.owns point = true →
      (alternation number left right).owns point = true := fun _ =>
    (alternation_within_left right numberLeft).owns
  have ofRight : ∀ point, right.owns point = true →
      (alternation number left right).owns point = true := fun _ =>
    (alternation_within_right numberRight).owns
  constructor
  · intro pos m
    have pushed : Grown ((alternation number left right).owns · = true) m.points
        (m.suspend number pos 0).points :=
      .push (alternation_owns_self left right rfl) rfl .refl
    have first := (hleft.run pos (m.suspend number pos 0)).mono ofLeft
    simp only [alternation]
    split
    · rename_i stop m' hrun
      rw [hrun] at first
      exact pushed.trans first
    · exact (hright.run pos m).mono ofRight
  · intro point m
    simp only [alternation]
    split
    · split
      · exact (hright.run point.position m).mono ofRight
      · exact .refl
    · split
      · exact (hleft.resume point m).mono ofLeft
      · split
        · exact (hright.resume point m).mono ofRight
        · exact .refl

/-! ## Repetitions -/

theorem finish_memory (min count pos : Nat) (m : Memory) : (finish min count pos m).memory = m := by
  unfold finish
  split <;> rfl

section Repetitions

variable {owned : ChoicePoint → Prop} {body : Matcher} {number : Nat}

theorem iterate_grown (hbody : body.Stacks) (ofBody : ∀ point, body.owns point = true → owned point)
    (ofLoop : ∀ point : ChoicePoint, point.owner = number → owned point) (min : Nat)
    (max : Option Nat) (remaining count pos : Nat) (m : Memory) :
    Grown owned m.points (iterate body number min max remaining count pos m).memory.points := by
  induction remaining generalizing count pos m with
  | zero =>
      rw [iterate, finish_memory]
      exact .refl
  | succ remaining ih =>
      unfold iterate
      split
      · rw [finish_memory]
        exact .refl
      · extract_lets left
        have pushed : Grown owned m.points left.points := by
          by_cases enough : min ≤ count
          · simp only [left, if_pos enough]
            exact .push (ofLoop _ rfl) rfl .refl
          · simp only [left, if_neg enough]
            exact .refl
        have first := (hbody.run pos (left.enterLoop number count pos)).mono ofBody
        split
        · rw [finish_memory]
          exact .refl
        · rename_i next m' hrun
          rw [hrun] at first
          split
          · rw [finish_memory]
            exact .refl
          · exact (pushed.trans first).trans (ih (count + 1) next m')

theorem loop_stacks (length : Nat) (hbody : body.Stacks) (hnumber : body.number = number + 1)
    (min : Nat) (max : Option Nat) : (loop length number body min max).Stacks := by
  have ofBody : ∀ point, body.owns point = true →
      (loop length number body min max).owns point = true := fun _ =>
    (loop_within_body length min max hnumber).owns
  have ofLoop : ∀ point : ChoicePoint, point.owner = number →
      (loop length number body min max).owns point = true := fun _ =>
    loop_owns_self length body min max
  constructor
  · intro pos m
    have repeated := iterate_grown hbody ofBody ofLoop min max (length - pos) 0 pos m
    simp only [loop]
    split
    · rename_i stop m' hrun
      rw [hrun] at repeated
      exact repeated
    · exact .refl
  · intro point m
    have first := (hbody.resume point m).mono ofBody
    simp only [loop]
    split
    · split <;> exact .refl
    · split
      · exact .refl
      · rename_i mark _
        split
        · rename_i m' hresume
          rw [hresume] at first
          exact first
        · rename_i next m' hresume
          rw [hresume] at first
          split
          · exact first
          · exact first.trans
              (iterate_grown hbody ofBody ofLoop min max (length - next) (mark.count + 1) next m')

end Repetitions

/-! ## Groups -/

theorem group_stacks {body : Matcher} {number : Nat} (hbody : body.Stacks)
    (hnumber : body.number = number + 1) (index : Nat) : (group number body index).Stacks := by
  have ofBody : ∀ point, body.owns point = true → (group number body index).owns point = true :=
    fun _ => (group_within_body index hnumber).owns
  constructor
  · intro pos m
    have first := (hbody.run pos (m.openGroup index pos)).mono ofBody
    simp only [group]
    split
    · exact .refl
    · rename_i stop m' hrun
      rw [hrun] at first
      exact first
  · intro point m
    have first := (hbody.resume point m).mono ofBody
    simp only [group]
    split
    · exact .refl
    · split
      · rename_i m' hresume
        rw [hresume] at first
        exact first
      · rename_i stop m' hresume
        rw [hresume] at first
        exact first

theorem atomic_stacks {body : Matcher} {number : Nat} (hbody : body.Stacks) :
    (atomic number body).Stacks := by
  constructor
  · intro pos m
    have first := hbody.run pos m
    simp only [atomic]
    split
    · exact .refl
    · rename_i stop m' hrun
      rw [hrun] at first
      obtain ⟨new, hnew, _⟩ := first.exists_append
      have kept : (m'.keepOldest m.depth).points = m.points := Memory.points_keepOldest hnew
      simp only [Outcome.memory, kept]
      exact .refl
  · intro point m
    exact .refl

end Matcher

namespace Pattern

mutual

theorem matcher_stacks (s : Subject) (number : Nat) : (p : Pattern) → (p.matcher s number).Stacks
  | .sequence parts =>
      Matcher.sequence_stacks s.size number (matchers_stacks s (number + 1) parts)
        (matchers_consecutive s (number + 1) parts)
  | .alternation left right =>
      Matcher.alternation_stacks (matcher_stacks s (number + 1) left)
        (matcher_stacks s _ right) (matcher_number s _ left) (matcher_number s _ right)
  | .loop body min max =>
      Matcher.loop_stacks s.size (matcher_stacks s (number + 1) body) (matcher_number s _ body)
        min max
  | .group body index =>
      Matcher.group_stacks (matcher_stacks s (number + 1) body) (matcher_number s _ body) index
  | .atomic body => Matcher.atomic_stacks (matcher_stacks s (number + 1) body)
  | .lookahead _ => (Matcher.lookahead_keeps number _).stacks fun _ _ => rfl
  | .lookbehind _ width => (Matcher.lookbehind_keeps number _ width).stacks fun _ _ => rfl
  | .negation _ => (Matcher.negation_keeps s.size number _ _).stacks fun _ _ => rfl
  | .empty | .literal _ | .anyChar | .digit | .word | .space | .charClass .. | .lineStart
  | .lineEnd | .wordEdge | .backreference _ =>
      (Matcher.single_keeps number _).stacks fun _ _ => rfl

theorem matchers_stacks (s : Subject) (number : Nat) :
    (parts : List Pattern) → ∀ part ∈ matchers s number parts, part.Stacks
  | [] => by simp [matchers]
  | part :: rest => by
      rw [matchers, List.forall_mem_cons]
      exact ⟨matcher_stacks s number part, matchers_stacks s _ rest⟩

end

end Pattern

/-! ## The stack during an attempt -/

/--
The memories of an attempt: the one after the run, and those after each further round, in which the
latest point is taken from the stack, its memory put back and the whole matcher resumed.
-/
inductive Matcher.Attempted (root : Matcher) (start : Nat) : Memory → Prop
  | run : root.Attempted start (root.run start ∅).memory
  | round {m below : Memory} {point : ChoicePoint} :
      root.Attempted start m → m.pop? = some (point, below) →
      root.Attempted start (root.resume point point.snapshot).memory

/-- A memory itself, and those kept by the points on its stack, at any depth. -/
inductive Memory.Stored : Memory → Memory → Prop
  | self {m : Memory} : Stored m m
  | inside {m m' : Memory} {point : ChoicePoint} :
      point ∈ m.points → Stored point.snapshot m' → Stored m m'

theorem Memory.points_of_pop? {m below : Memory} {point : ChoicePoint}
    (h : m.pop? = some (point, below)) : m.points = point :: below.points := by
  unfold pop? at h
  split at h
  · contradiction
  · rename_i head tail hpoints
    obtain ⟨rfl, rfl⟩ := Prod.mk.inj (Option.some.inj h)
    exact hpoints

theorem Grown.below_of_append {owned : ChoicePoint → Prop} {above below : List ChoicePoint}
    {point : ChoicePoint} (h : Grown owned [] (above ++ point :: below)) :
    point.snapshot.points = below ∧ Grown owned [] below :=
  (h.of_append.of_cons (Nat.zero_lt_succ _)).2

theorem Grown.of_stored {owned : ChoicePoint → Prop} {m m' : Memory} (stored : m.Stored m')
    (h : Grown owned [] m.points) : Grown owned [] m'.points := by
  induction stored with
  | self => exact h
  | inside member _ ih =>
      obtain ⟨above, below, hsplit⟩ := List.append_of_mem member
      rw [hsplit] at h
      obtain ⟨hkept, hbelow⟩ := h.below_of_append
      exact ih (hkept ▸ hbelow)

theorem Matcher.Attempted.grown {root : Matcher} (hroot : root.Stacks) {start : Nat} {m : Memory}
    (h : root.Attempted start m) : Grown (root.owns · = true) [] m.points := by
  induction h with
  | run => exact hroot.run start ∅
  | @round _ _ point _ popped ih =>
      rw [Memory.points_of_pop? popped] at ih
      obtain ⟨_, hkept, hbelow⟩ := ih.of_cons (Nat.zero_lt_succ _)
      have resumed := hroot.resume point point.snapshot
      rw [hkept] at resumed
      exact hbelow.trans resumed

namespace Pattern

/-- The points of an operator are those of the operators at and below its place. -/
theorem exists_place_of_owns {p : Pattern} {s : Subject} {number : Nat} {point : ChoicePoint}
    (h : (p.matcher s number).owns point = true) :
    ∃ place, (p.numberAt? place).map (number + ·) = some point.owner := by
  obtain ⟨lower, upper⟩ := (Matcher.owns_iff _ _).mp h
  rw [matcher_number, matcher_size] at upper
  rw [matcher_number] at lower
  obtain ⟨place, hplace⟩ := exists_numberAt? p (point.owner - number) (by omega)
  refine ⟨place, ?_⟩
  rw [hplace, Option.map_some, Nat.add_sub_cancel' lower]

/--
The stack keeps its order throughout an attempt: each point keeps the stack below it, also within the
memories that points keep, so putting back the memory of the point just taken leaves the stack as it
is. A match of any operator, in any memory, leaves the stack it finds and lays on it points of
operators at and below its own place.
-/
theorem attempted_stack_ordered (p : Pattern) (s : Subject) (start : Nat) {m : Memory}
    (h : (p.matcher s 0).Attempted start m) :
    (∀ kept, m.Stored kept → ∀ above point below,
      kept.points = above ++ point :: below → point.snapshot.points = below) ∧
    (∀ point below, m.pop? = some (point, below) → point.snapshot.points = below.points) ∧
    (∀ place node number, p.at? place = some node → p.numberAt? place = some number →
      ∀ pos entry stop after, (node.matcher s number).run pos entry = .matched stop after →
        ∃ new, after.points = new ++ entry.points ∧ ∀ point ∈ new,
          ∃ route, (node.numberAt? route).map (number + ·) = some point.owner) := by
  have grown := h.grown (matcher_stacks s 0 p)
  refine ⟨?_, ?_, ?_⟩
  · intro kept stored above point below hsplit
    have inner := grown.of_stored stored
    rw [hsplit] at inner
    exact inner.below_of_append.1
  · intro point below popped
    rw [Memory.points_of_pop? popped] at grown
    exact (grown.of_cons (Nat.zero_lt_succ _)).2.1
  · intro place node number _ _ pos entry stop after hrun
    have run := (matcher_stacks s number node).run pos entry
    rw [hrun] at run
    obtain ⟨new, happend, owners⟩ := run.exists_append
    exact ⟨new, happend, fun point member => exists_place_of_owns (owners point member)⟩

/-- The pattern `(?:a|aa)*` on `aab`, one round after its run. -/
theorem attempted_stack_ordered_star :
    let p := star (.alternation (.literal 'a') (concat [.literal 'a', .literal 'a']))
    let root := p.matcher { text := #['a', 'a', 'b'] } 0
    let taken := (root.run 0 ∅).memory.pop?.get (by decide)
    let m := (root.resume taken.1 taken.1.snapshot).memory
    root.Attempted 0 m ∧
      ∀ point below, m.pop? = some (point, below) → point.snapshot.points = below.points := by
  intro p root taken m
  have popped : (root.run 0 ∅).memory.pop? = some taken := (Option.some_get (by decide)).symm
  have attempted : root.Attempted 0 m := .round .run popped
  exact ⟨attempted, (attempted_stack_ordered p _ 0 attempted).2.1⟩

end Pattern

end Rematch
