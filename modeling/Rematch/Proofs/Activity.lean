import Rematch.Proofs.Bounded
import Rematch.Proofs.Guided

/-!
# What goes on during an attempt

An attempt runs and resumes operators within operators, in the bodies of conditions as well. The
relation `Calls` follows the definitions of the matchers and says what each of these activities sets
off; `Occurs` collects everything that an attempt comes to in this way. What holds of all of it is
shown once: it is set off in memories within the text and on points that can be taken up.
-/

namespace Rematch

inductive Activity where
  /-- An operator is run at a position. -/
  | run (number : Nat) (p : Pattern) (pos : Nat) (m : Memory)
  /-- The parts of a sequence from one of them on are run one after the other. -/
  | runParts (number : Nat) (parts : List Pattern) (pos : Nat) (m : Memory)
  /-- A sequence that was entered in `entry` looks for a point of `part` to take up. -/
  | drain (number : Nat) (part : Pattern) (rest : List Pattern) (entry m : Memory)
  /-- A loop has completed `count` repetitions. -/
  | iterate (number : Nat) (body : Pattern) (min : Nat) (max : Option Nat) (count pos : Nat)
      (m : Memory)
  /-- An operator resumes a point that it or an operator below it has left. -/
  | resume (number : Nat) (p : Pattern) (point : ChoicePoint) (m : Memory)
  /-- The parts of a sequence from one of them on are searched for the owner of a point. -/
  | resumeParts (number : Nat) (parts : List Pattern) (point : ChoicePoint) (m : Memory)

namespace Activity

variable (s : Subject)

/-- A sequence takes a point of its part from a stack that has grown since it was entered. -/
structure Takes (number : Nat) (part : Pattern) (entry m : Memory) (point : ChoicePoint) : Prop where
  latest : m.points.head? = some point
  above : entry.depth < m.depth
  owned : (part.matcher s number).owns point = true

inductive Calls : Activity → Activity → Prop
  | sequence {number parts pos m} :
      Calls (.run number (.sequence parts) pos m) (.runParts (number + 1) parts pos m)
  | part {number part rest pos m} :
      Calls (.runParts number (part :: rest) pos m) (.run number part pos m)
  | rest {number part rest pos m next m'} : (part.matcher s number).run pos m = .matched next m' →
      Calls (.runParts number (part :: rest) pos m)
        (.runParts (number + part.operatorCount) rest next m')
  | drain {number part rest pos m next m' m''} :
      (part.matcher s number).run pos m = .matched next m' →
      Matcher.runParts s.size (Pattern.matchers s (number + part.operatorCount) rest) next m' =
        .failed m'' →
      Calls (.runParts number (part :: rest) pos m) (.drain number part rest m m'')
  | drainPoint {number part rest entry m point} : Takes s number part entry m point →
      Calls (.drain number part rest entry m) (.resume number part point point.snapshot)
  | drainFailed {number part rest entry m point m'} : Takes s number part entry m point →
      (part.matcher s number).resume point point.snapshot = .failed m' →
      Calls (.drain number part rest entry m) (.drain number part rest entry m')
  | drainRest {number part rest entry m point next m'} : Takes s number part entry m point →
      (part.matcher s number).resume point point.snapshot = .matched next m' →
      Calls (.drain number part rest entry m)
        (.runParts (number + part.operatorCount) rest next m')
  | drainAgain {number part rest entry m point next m' m''} : Takes s number part entry m point →
      (part.matcher s number).resume point point.snapshot = .matched next m' →
      Matcher.runParts s.size (Pattern.matchers s (number + part.operatorCount) rest) next m' =
        .failed m'' →
      Calls (.drain number part rest entry m) (.drain number part rest entry m'')
  | left {number left right pos m} :
      Calls (.run number (.alternation left right) pos m)
        (.run (number + 1) left pos (m.suspend number pos 0))
  | right {number left right pos m m'} :
      (left.matcher s (number + 1)).run pos (m.suspend number pos 0) = .failed m' →
      Calls (.run number (.alternation left right) pos m)
        (.run (number + 1 + left.operatorCount) right pos m)
  | loop {number body min max pos m} :
      Calls (.run number (.loop body min max) pos m) (.iterate number body min max 0 pos m)
  | repetition {number body min max count pos m} : ¬ max.any (· ≤ count) = true →
      Calls (.iterate number body min max count pos m)
        (.run (number + 1) body pos
          ((if min ≤ count then m.suspend number pos count else m).enterLoop number count pos))
  | again {number body min max count pos m next m'} : ¬ max.any (· ≤ count) = true →
      (body.matcher s (number + 1)).run pos
          ((if min ≤ count then m.suspend number pos count else m).enterLoop number count pos) =
        .matched next m' →
      next ≠ pos →
      Calls (.iterate number body min max count pos m)
        (.iterate number body min max (count + 1) next m')
  | group {number body index pos m} :
      Calls (.run number (.group body index) pos m)
        (.run (number + 1) body pos (m.openGroup index pos))
  | atomic {number body pos m} :
      Calls (.run number (.atomic body) pos m) (.run (number + 1) body pos m)
  | lookahead {number body pos m} :
      Calls (.run number (.lookahead body) pos m) (.run (number + 1) body pos m)
  | lookbehind {number body width pos m} : width ≤ pos →
      Calls (.run number (.lookbehind body width) pos m) (.run (number + 1) body (pos - width) m)
  | negation {number body pos m} : body.isZeroWidth = true ∨ pos < s.size →
      Calls (.run number (.negation body) pos m) (.run (number + 1) body pos m)
  | resumeSequence {number parts point m} :
      Calls (.resume number (.sequence parts) point m) (.resumeParts (number + 1) parts point m)
  | resumePart {number part rest point m} : (part.matcher s number).owns point = true →
      Calls (.resumeParts number (part :: rest) point m) (.resume number part point m)
  | resumeRest {number part rest point m next m'} : (part.matcher s number).owns point = true →
      (part.matcher s number).resume point m = .matched next m' →
      Calls (.resumeParts number (part :: rest) point m)
        (.runParts (number + part.operatorCount) rest next m')
  | resumeLater {number part rest point m} : (part.matcher s number).owns point = false →
      Calls (.resumeParts number (part :: rest) point m)
        (.resumeParts (number + part.operatorCount) rest point m)
  | takeRight {number left right point m} : point.owner = number → point.choice = 0 →
      Calls (.resume number (.alternation left right) point m)
        (.run (number + 1 + left.operatorCount) right point.position m)
  | resumeLeft {number left right point m} : point.owner ≠ number →
      (left.matcher s (number + 1)).owns point = true →
      Calls (.resume number (.alternation left right) point m) (.resume (number + 1) left point m)
  | resumeRight {number left right point m} : point.owner ≠ number →
      (left.matcher s (number + 1)).owns point = false →
      (right.matcher s (number + 1 + left.operatorCount)).owns point = true →
      Calls (.resume number (.alternation left right) point m)
        (.resume (number + 1 + left.operatorCount) right point m)
  | resumeRepetition {number body min max point m mark} : point.owner ≠ number →
      m.loops[number]? = some mark →
      Calls (.resume number (.loop body min max) point m) (.resume (number + 1) body point m)
  | repeatOn {number body min max point m mark next m'} : point.owner ≠ number →
      m.loops[number]? = some mark →
      (body.matcher s (number + 1)).resume point m = .matched next m' → next ≠ mark.start →
      Calls (.resume number (.loop body min max) point m)
        (.iterate number body min max (mark.count + 1) next m')
  | resumeGroup {number body index point m start} : m.groupStarts[index]? = some start →
      Calls (.resume number (.group body index) point m) (.resume (number + 1) body point m)

/-! ## What is ready to go on -/

/--
An activity begins within the text, and so does all that its memory records. A point is resumed in the
memory that it keeps, by an operator that can take it up; a sequence drains points of one part only.
-/
def Ready (limit : Nat) : Activity → Prop
  | .run _ _ pos m => pos ≤ limit ∧ m.Bounded limit
  | .runParts _ _ pos m => pos ≤ limit ∧ m.Bounded limit
  | .drain number part _ entry m => (entry.Bounded limit ∧ m.Bounded limit) ∧
      ∃ pos, pos ≤ limit ∧
        Grown (Resumable (part.route number) limit pos pos entry) entry.points m.points
  | .iterate _ _ _ _ count pos m => count ≤ pos ∧ pos ≤ limit ∧ m.Bounded limit
  | .resume number p point m => (m = point.snapshot ∧ point.position ≤ limit ∧ m.Bounded limit) ∧
      ∃ lo, lo ≤ point.position ∧ p.route number lo point
  | .resumeParts number parts point m =>
      (m = point.snapshot ∧ point.position ≤ limit ∧ m.Bounded limit) ∧
        ∃ lo, lo ≤ point.position ∧ Pattern.routeAmong number parts lo point

variable {s : Subject} {limit : Nat}

section Outcomes

variable {number pos stop : Nat} {p part : Pattern} {rest : List Pattern} {m m' : Memory}
variable {point : ChoicePoint}

theorem run_settled (size : s.size ≤ limit) (ready : (run number p pos m).Ready limit) :
    Settled (p.route number) limit pos pos m ((p.matcher s number).run pos m) :=
  (Pattern.matcher_guided size number p).run m ready.1

theorem run_matched (size : s.size ≤ limit) (ready : (run number p pos m).Ready limit)
    (hrun : (p.matcher s number).run pos m = .matched stop m') :
    pos ≤ stop ∧ stop ≤ limit ∧ m'.Bounded limit := by
  have settled := run_settled size ready
  rw [hrun] at settled
  have bounds := settled.stop_le rfl
  exact ⟨bounds.1, bounds.2, settled.bounded ready.2⟩

theorem resume_settled (size : s.size ≤ limit) {lo : Nat} (lower : lo ≤ point.position)
    (upper : point.position ≤ limit) (found : p.route number lo point) :
    Settled (p.route number) limit lo point.position point.snapshot
      ((p.matcher s number).resume point point.snapshot) :=
  (Pattern.matcher_guided size number p).resume found lower upper

theorem resume_matched (size : s.size ≤ limit) (ready : (resume number p point m).Ready limit)
    (hresume : (p.matcher s number).resume point m = .matched stop m') :
    point.position ≤ stop ∧ stop ≤ limit ∧ m'.Bounded limit := by
  obtain ⟨⟨rfl, upper, bounded⟩, lo, lower, found⟩ := ready
  have settled := resume_settled size lower upper found
  rw [hresume] at settled
  have bounds := settled.stop_le rfl
  exact ⟨bounds.1, bounds.2, settled.bounded bounded⟩

theorem runParts_failed_eq {number : Nat} {parts : List Pattern}
    (h : Matcher.runParts s.size (Pattern.matchers s number parts) pos m = .failed m') : m' = m :=
  Matcher.runParts_failed h

end Outcomes

/-! ## Draining -/

section Draining

variable {number : Nat} {part : Pattern} {rest : List Pattern} {entry m : Memory}
variable {point : ChoicePoint}

theorem Takes.points_eq (takes : Takes s number part entry m point) :
    ∃ below, m.points = point :: below := by
  have latest := takes.latest
  cases hpoints : m.points with
  | nil => simp [hpoints] at latest
  | cons head below =>
      rw [hpoints] at latest
      exact ⟨below, by rw [Option.some.inj latest]⟩

theorem Takes.found (takes : Takes s number part entry m point) {pos : Nat}
    (grown : Grown (Resumable (part.route number) limit pos pos entry) entry.points m.points) :
    Resumable (part.route number) limit pos pos entry point ∧
      Grown (Resumable (part.route number) limit pos pos entry) entry.points
        point.snapshot.points := by
  obtain ⟨below, hpoints⟩ := takes.points_eq
  have above := takes.above
  rw [Memory.depth, Memory.depth, hpoints] at above
  rw [hpoints] at grown
  obtain ⟨found, kept, rest⟩ := grown.of_cons above
  rw [← kept] at rest
  exact ⟨found, rest⟩

theorem Takes.resume_ready (takes : Takes s number part entry m point)
    (ready : (drain number part rest entry m).Ready limit) :
    (resume number part point point.snapshot).Ready limit := by
  obtain ⟨⟨_, bounded⟩, pos, _, grown⟩ := ready
  obtain ⟨found, _⟩ := takes.found grown
  obtain ⟨below, hpoints⟩ := takes.points_eq
  have kept := (bounded.points point (by rw [hpoints]; exact List.mem_cons_self)).snapshot
  exact ⟨⟨rfl, found.upper, kept⟩, pos, found.lower, found.route⟩

theorem Takes.drain_ready (size : s.size ≤ limit) (takes : Takes s number part entry m point)
    (ready : (drain number part rest entry m).Ready limit) :
    (drain number part rest entry
      ((part.matcher s number).resume point point.snapshot).memory).Ready limit := by
  obtain ⟨⟨entered, _⟩, pos, inside, grown⟩ := ready
  obtain ⟨found, below⟩ := takes.found grown
  have settled : Settled (part.route number) limit pos pos entry
      ((part.matcher s number).resume point point.snapshot) :=
    (resume_settled size found.lower found.upper found.route).lift found.since below
      (Nat.le_refl pos) found.lower (Nat.le_refl _) found.upper fun _ found' => found'.route
  exact ⟨⟨entered, settled.bounded entered⟩, pos, inside, settled.grown⟩

end Draining

/-! ## Finding the owner -/

section Owners

variable {number lo : Nat} {left right body part : Pattern} {rest : List Pattern}
variable {point : ChoicePoint}

theorem route_left_of_owns (s : Subject) (other : point.owner ≠ number)
    (owned : (left.matcher s (number + 1)).owns point = true)
    (found : (Pattern.alternation left right).route number lo point) :
    left.route (number + 1) lo point := by
  rcases found with own | inner | inner
  · exact absurd own.1 other
  · exact inner
  · have apart := Matcher.not_owns_of_apart (d := left.matcher s (number + 1))
      (Or.inr (Nat.le_of_eq (by
        rw [Pattern.matcher_number, Pattern.matcher_number, Pattern.matcher_size])))
      ((Pattern.matcher_guided (Nat.le_refl s.size) _ right).owns inner)
    rw [apart] at owned
    contradiction

theorem route_right_of_not_owns (s : Subject) (other : point.owner ≠ number)
    (unowned : (left.matcher s (number + 1)).owns point = false)
    (found : (Pattern.alternation left right).route number lo point) :
    right.route (number + 1 + left.operatorCount) lo point := by
  rcases found with own | inner | inner
  · exact absurd own.1 other
  · rw [(Pattern.matcher_guided (Nat.le_refl s.size) _ left).owns inner] at unowned
    contradiction
  · exact inner

theorem route_part_of_owns (s : Subject) (owned : (part.matcher s number).owns point = true)
    (found : Pattern.routeAmong number (part :: rest) lo point) : part.route number lo point := by
  rcases found with here | later
  · exact here
  · have apart := Matcher.not_owns_of_apart (d := part.matcher s number)
      (Or.inr (by
        rw [Pattern.matcher_number, Pattern.matcher_size]
        exact Nat.le_refl _))
      ((Pattern.matchers_guided (Nat.le_refl s.size) _ rest).owns later)
    rw [apart] at owned
    contradiction

theorem route_rest_of_not_owns (s : Subject) (unowned : (part.matcher s number).owns point = false)
    (found : Pattern.routeAmong number (part :: rest) lo point) :
    Pattern.routeAmong (number + part.operatorCount) rest lo point := by
  rcases found with here | later
  · rw [(Pattern.matcher_guided (Nat.le_refl s.size) number part).owns here] at unowned
    contradiction
  · exact later

end Owners

theorem beginning_bounded {number min count pos : Nat} {m : Memory} (counted : count ≤ pos)
    (upper : pos ≤ limit) (bounded : m.Bounded limit) :
    ((if min ≤ count then m.suspend number pos count else m).enterLoop number count
      pos).Bounded limit := by
  refine Memory.Bounded.enterLoop ?_ number counted upper
  split
  · exact bounded.suspend counted upper
  · exact bounded

/-- Whatever is set off by an activity that is ready is ready as well. -/
theorem Calls.ready (size : s.size ≤ limit) {a b : Activity} (calls : Calls s a b)
    (ready : a.Ready limit) : b.Ready limit := by
  cases calls with
  | sequence | part | right _ | atomic | lookahead | negation _ | resumeSequence => exact ready
  | rest hrun =>
      have matched := run_matched size ready hrun
      exact ⟨matched.2.1, matched.2.2⟩
  | @drain number part rest pos m next m' m'' hrun hrest =>
      obtain rfl : m'' = m' := runParts_failed_eq hrest
      have settled : Settled (part.route number) limit pos pos m _ := run_settled size ready
      have matched := run_matched size ready hrun
      rw [hrun] at settled
      exact ⟨⟨ready.2, matched.2.2⟩, pos, ready.1, settled.grown⟩
  | drainPoint takes => exact takes.resume_ready ready
  | drainFailed takes hresume =>
      have drained := takes.drain_ready size ready
      rw [hresume] at drained
      exact drained
  | drainRest takes hresume =>
      have matched := resume_matched size (takes.resume_ready ready) hresume
      exact ⟨matched.2.1, matched.2.2⟩
  | drainAgain takes hresume hrest =>
      have drained := takes.drain_ready size ready
      rw [hresume] at drained
      rw [runParts_failed_eq hrest]
      exact drained
  | left => exact ⟨ready.1, ready.2.suspend (Nat.zero_le _) ready.1⟩
  | loop => exact ⟨Nat.zero_le _, ready⟩
  | repetition _ => exact ⟨ready.2.1, beginning_bounded ready.1 ready.2.1 ready.2.2⟩
  | @again number body min max count pos m next m' _ hrun moved =>
      obtain ⟨counted, upper, bounded⟩ := ready
      have matched := run_matched size ⟨upper, beginning_bounded counted upper bounded⟩ hrun
      exact ⟨by omega, matched.2⟩
  | group => exact ⟨ready.1, ready.2.openGroup _ ready.1⟩
  | lookbehind _ => exact ⟨Nat.le_trans (Nat.sub_le _ _) ready.1, ready.2⟩
  | resumePart owned =>
      obtain ⟨begins, lo, lower, found⟩ := ready
      exact ⟨begins, lo, lower, route_part_of_owns s owned found⟩
  | resumeRest owned hresume =>
      obtain ⟨begins, lo, lower, found⟩ := ready
      have matched :=
        resume_matched size ⟨begins, lo, lower, route_part_of_owns s owned found⟩ hresume
      exact ⟨matched.2.1, matched.2.2⟩
  | resumeLater unowned =>
      obtain ⟨begins, lo, lower, found⟩ := ready
      exact ⟨begins, lo, lower, route_rest_of_not_owns s unowned found⟩
  | takeRight _ _ => exact ⟨ready.1.2.1, ready.1.2.2⟩
  | resumeLeft other owned =>
      obtain ⟨begins, lo, lower, found⟩ := ready
      exact ⟨begins, lo, lower, route_left_of_owns s other owned found⟩
  | resumeRight other unowned _ =>
      obtain ⟨begins, lo, lower, found⟩ := ready
      exact ⟨begins, lo, lower, route_right_of_not_owns s other unowned found⟩
  | resumeRepetition other _ =>
      obtain ⟨begins, lo, lower, own | inner⟩ := ready
      · exact absurd own.1 other
      · exact ⟨begins, lo, lower, inner.2⟩
  | @repeatOn number body min max point m mark next m' other hmark hresume moved =>
      obtain ⟨begins, lo, lower, own | ⟨⟨mark', hmark', counted, before⟩, inner⟩⟩ := ready
      · exact absurd own.1 other
      · have matched := resume_matched size ⟨begins, lo, lower, inner⟩ hresume
        obtain rfl := begins.1
        rw [hmark] at hmark'
        cases hmark'
        exact ⟨by omega, matched.2⟩
  | resumeGroup _ =>
      obtain ⟨begins, lo, lower, found⟩ := ready
      exact ⟨begins, lo, lower, found.2⟩

end Activity

namespace Pattern

/--
All that goes on during an attempt: the run of the whole pattern in a fresh memory, further rounds in
which the latest point is taken up in the memory that it keeps, and whatever these set off.
-/
inductive Occurs (p : Pattern) (s : Subject) (start : Nat) : Activity → Prop
  | run : Occurs p s start (.run 0 p start ∅)
  | round {m below : Memory} {point : ChoicePoint} : (p.matcher s 0).Attempted start m →
      m.pop? = some (point, below) → Occurs p s start (.resume 0 p point point.snapshot)
  | call {a b : Activity} : Occurs p s start a → Activity.Calls s a b → Occurs p s start b

variable {p : Pattern} {s : Subject} {start limit : Nat}

/-- After each round, every point on the stack can be taken up. -/
theorem attempted_grown (size : s.size ≤ limit) (inside : start ≤ limit) {m : Memory}
    (h : (p.matcher s 0).Attempted start m) :
    Grown (Resumable (p.route 0) limit start start ∅) [] m.points := by
  have guided := matcher_guided size 0 p
  induction h with
  | run => exact (guided.run ∅ inside).grown
  | @round m below point _ popped ih =>
      rw [Memory.points_of_pop? popped] at ih
      obtain ⟨found, kept, rest⟩ := ih.of_cons (Nat.zero_lt_succ _)
      rw [← kept] at rest
      exact ((guided.resume found.route found.lower found.upper).lift found.since rest
        (Nat.le_refl start) found.lower (Nat.le_refl _) found.upper
        fun _ found' => found'.route).grown

/-- Everything that occurs in an attempt begins within the text, on points that can be taken up. -/
theorem Occurs.ready (size : s.size ≤ limit) (inside : start ≤ limit) {a : Activity}
    (h : p.Occurs s start a) : a.Ready limit := by
  induction h with
  | run => exact ⟨inside, Memory.Bounded.empty limit⟩
  | @round m below point attempted popped =>
      have grown := attempted_grown size inside attempted
      have bounded := Memory.points_bounded_of_grown (Memory.Bounded.empty limit) grown point
        (by rw [Memory.points_of_pop? popped]; exact List.mem_cons_self)
      rw [Memory.points_of_pop? popped] at grown
      have found := (grown.of_cons (Nat.zero_lt_succ _)).1
      exact ⟨⟨rfl, found.upper, bounded.snapshot⟩, start, found.lower, found.route⟩
  | call _ calls ih => exact calls.ready size ih

theorem Occurs.drain_first {part : Pattern} {rest : List Pattern} {next : Nat} {m m' : Memory}
    (hrun : (part.matcher s 1).run start ∅ = .matched next m)
    (hrest : Matcher.runParts s.size (matchers s (1 + part.operatorCount) rest) next m = .failed m') :
    (sequence (part :: rest)).Occurs s start (.drain 1 part rest ∅ m) := by
  obtain rfl := Activity.runParts_failed_eq hrest
  have entered : (sequence (part :: rest)).Occurs s start (.runParts 1 (part :: rest) start ∅) :=
    .call .run .sequence
  exact .call entered (.drain hrun hrest)

end Pattern

end Rematch
