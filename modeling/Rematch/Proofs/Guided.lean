import Rematch.Proofs.Enumeration
import Rematch.Proofs.Since

/-!
# The way to the owner of a choice point

A choice point is taken up from the root down to its owner. On the way every loop needs the mark of
the repetition that it was in, and every group the place where it began. Every operator leaves such
points only as it can take up again, and what it does after taking one up is as good as a run.
-/

namespace Rematch

/-! ## Routes -/

namespace Route

def barred : Route := fun _ _ => False

def branches (number : Nat) (left right : Route) : Route := fun lo point =>
  (point.owner = number ∧ point.choice = 0) ∨ left lo point ∨ right lo point

/--
The choice to end after an allowed number of repetitions, or a choice in a repetition that has left
its mark.
-/
def repetitions (number min : Nat) (max : Option Nat) (body : Route) : Route := fun lo point =>
  (point.owner = number ∧ min ≤ point.choice ∧ ∀ most ∈ max, point.choice < most) ∨
    (∃ mark, point.snapshot.loops[number]? = some mark ∧ lo + mark.count ≤ mark.start ∧
      mark.start ≤ point.position) ∧ body lo point

def opened (index : Nat) (body : Route) : Route := fun lo point =>
  (∃ start, point.snapshot.groupStarts[index]? = some start ∧ lo ≤ start ∧
    start ≤ point.position) ∧ body lo point

def either (first rest : Route) : Route := fun lo point =>
  first lo point ∨ rest lo point

end Route

namespace Pattern

mutual

/-- The points that the operators of a pattern with a given number can take up. -/
def route (number : Nat) : Pattern → Route
  | .sequence parts => routeAmong (number + 1) parts
  | .alternation left right =>
      Route.branches number (route (number + 1) left)
        (route (number + 1 + left.operatorCount) right)
  | .loop body min max => Route.repetitions number min max (route (number + 1) body)
  | .group body index => Route.opened index (route (number + 1) body)
  | _ => Route.barred

def routeAmong (number : Nat) : List Pattern → Route
  | [] => Route.barred
  | part :: rest =>
      Route.either (route number part) (routeAmong (number + part.operatorCount) rest)

end

end Pattern

namespace Matcher

/-! ## Operators that leave such points only as they can take up -/

/-- What is left by a run, or by a resumption, can be taken up, and lies within `limit`. -/
structure Guided (limit : Nat) (route : Route) (c : Matcher) : Prop where
  restores : c.Restores
  owns : ∀ {lo point}, route lo point → c.owns point = true
  lower : ∀ {lo lo' point}, lo ≤ lo' → route lo' point → route lo point
  run : ∀ {pos : Nat} (m : Memory), pos ≤ limit → Settled route limit pos pos m (c.run pos m)
  resume : ∀ {lo point}, route lo point → lo ≤ point.position → point.position ≤ limit →
    Settled route limit lo point.position point.snapshot (c.resume point point.snapshot)

namespace Guided

variable {limit length number : Nat} {route left right first others : Route}
variable {c d body part : Matcher}

theorem within (h : Guided limit route c) (inside : c.Within d) (hrun : d.run = c.run)
    (hresume : d.resume = c.resume) : Guided limit route d where
  restores := by
    intro pos m m' hfailed
    rw [hrun] at hfailed
    exact h.restores hfailed
  owns found := inside.owns (h.owns found)
  lower := h.lower
  run := by
    rw [hrun]
    exact h.run
  resume := by
    rw [hresume]
    exact h.resume

/-- A run that is lawful as to where it ends and keeps its memory leaves nothing to take up. -/
theorem of_keeps (keeps : c.Keeps)
    (advances : ∀ pos m stop m', pos ≤ limit → c.run pos m = .matched stop m' →
      pos ≤ stop ∧ stop ≤ limit) : Guided limit Route.barred c where
  restores := keeps.restores
  owns := False.elim
  lower _ := id
  run {pos} m inside := by
    have kept := keeps pos m
    cases hrun : c.run pos m with
    | failed m' =>
        rw [hrun] at kept
        obtain rfl : m' = m := kept
        exact .unchanged _ _ _ _ _
    | matched stop m' =>
        rw [hrun] at kept
        obtain rfl : m' = m := kept
        obtain ⟨lower, upper⟩ := advances pos m' stop m' inside hrun
        exact .matched lower upper (.refl pos stop m') .refl
  resume := False.elim

/-! ## One position, and conditions -/

theorem single {stop? : Captures → Nat → Option Nat}
    (advances : ∀ captures pos stop, pos ≤ limit → stop? captures pos = some stop →
      pos ≤ stop ∧ stop ≤ limit) :
    Guided limit Route.barred (Matcher.single number stop?) := by
  apply of_keeps (single_keeps number stop?)
  intro pos m stop m' inside hrun
  simp only [Matcher.single] at hrun
  split at hrun
  · cases hrun
    exact advances m.captures pos stop inside ‹_›
  · contradiction

theorem lookahead : Guided limit Route.barred (Matcher.lookahead number body) := by
  apply of_keeps (lookahead_keeps number body)
  intro pos m stop m' inside hrun
  simp only [Matcher.lookahead] at hrun
  split at hrun
  · contradiction
  · cases hrun
    exact ⟨Nat.le_refl pos, inside⟩

theorem lookbehind (width : Nat) :
    Guided limit Route.barred (Matcher.lookbehind number body width) := by
  apply of_keeps (lookbehind_keeps number body width)
  intro pos m stop m' inside hrun
  simp only [Matcher.lookbehind] at hrun
  split at hrun
  · contradiction
  · split at hrun
    · contradiction
    · split at hrun
      · cases hrun
        exact ⟨Nat.le_refl pos, inside⟩
      · contradiction

theorem negation (hlength : length ≤ limit) (zeroWidth : Bool) :
    Guided limit Route.barred (Matcher.negation length number body zeroWidth) := by
  apply of_keeps (negation_keeps length number body zeroWidth)
  intro pos m stop m' inside hrun
  simp only [Matcher.negation] at hrun
  split at hrun
  · contradiction
  · rename_i allowed
    split at hrun
    · contradiction
    · cases hrun
      cases zeroWidth with
      | true => exact ⟨Nat.le_refl pos, inside⟩
      | false =>
          have room : ¬ length ≤ pos := by simpa using allowed
          simp
          omega

/-! ## Groups -/

theorem atomic (h : Guided limit route body) :
    Guided limit Route.barred (Matcher.atomic number body) where
  restores := atomic_restores number body
  owns := False.elim
  lower _ := id
  run {pos} m inside := by
    have ran := h.run m inside
    simp only [Matcher.atomic]
    cases hrun : body.run pos m with
    | failed m' => exact .unchanged _ _ _ _ _
    | matched stop m' =>
        rw [hrun] at ran
        cases ran with
        | matched hstop upper since grown =>
            obtain ⟨new, hnew, _⟩ := grown.exists_append
            have kept : (m'.keepOldest m.depth).points = m.points := Memory.points_keepOldest hnew
            have dropped : Memory.Since pos stop m' (m'.keepOldest m.depth) := .of_eq rfl rfl rfl
            have reached := since.trans dropped (Nat.le_refl pos) (Nat.le_refl stop)
            refine .matched hstop upper reached ?_
            rw [kept]
            exact .refl
  resume := False.elim

theorem group (h : Guided limit route body) (hnumber : body.number = number + 1) (index : Nat) :
    Guided limit (Route.opened index route) (Matcher.group number body index) where
  restores := group_restores number body index
  owns found := (group_within_body index hnumber).owns (h.owns found.2)
  lower hlo found := by
    obtain ⟨⟨start, hstart, lower, upper⟩, inner⟩ := found
    exact ⟨⟨start, hstart, Nat.le_trans hlo lower, upper⟩, h.lower hlo inner⟩
  run {pos} m inside := by
    have begun : (m.openGroup index pos).groupStarts[index]? = some pos := by
      simp [Memory.openGroup]
    have since : Memory.Since pos pos m (m.openGroup index pos) :=
      (Memory.Since.refl pos pos m).openGroup index (Nat.le_refl pos) (Nat.le_refl pos)
    have carry : ∀ point, Resumable route limit pos pos (m.openGroup index pos) point →
        Route.opened index route pos point := fun point found =>
      ⟨found.since.exists_start begun (Nat.le_refl pos) found.lower, found.route⟩
    have ran := (h.run (m.openGroup index pos) inside).lift since .refl (Nat.le_refl pos)
      (Nat.le_refl pos) (Nat.le_refl pos) inside carry
    simp only [Matcher.group]
    cases hrun : body.run pos (m.openGroup index pos) with
    | failed m' => exact .unchanged _ _ _ _ _
    | matched stop m' =>
        rw [hrun] at ran
        exact ran.capture index (Nat.le_refl pos) (ran.stop_le rfl).1
  resume {lo point} found lower upper := by
    obtain ⟨⟨start, hstart, hlo, before⟩, inner⟩ := found
    have carry : ∀ point', Resumable route limit lo point.position point.snapshot point' →
        Route.opened index route lo point' := fun point' found =>
      ⟨found.since.exists_start hstart hlo (Nat.le_trans before found.lower), found.route⟩
    have resumed := (h.resume inner lower upper).carry lower (Nat.le_trans lower upper) carry
    simp only [Matcher.group, hstart]
    cases hresume : body.resume point point.snapshot with
    | failed m' =>
        rw [hresume] at resumed
        exact resumed
    | matched stop m' =>
        rw [hresume] at resumed
        exact resumed.capture index hlo (Nat.le_trans before (resumed.stop_le rfl).1)

/-! ## Alternations -/

theorem alternation (hleft : Guided limit left c) (hright : Guided limit right d)
    (numberLeft : c.number = number + 1) (numberRight : d.number = number + 1 + c.size) :
    Guided limit (Route.branches number left right) (Matcher.alternation number c d) where
  restores := alternation_restores number c hright.restores
  owns found := by
    rcases found with own | inner | inner
    · exact alternation_owns_self c d own.1
    · exact (alternation_within_left d numberLeft).owns (hleft.owns inner)
    · exact (alternation_within_right numberRight).owns (hright.owns inner)
  lower hlo found := by
    rcases found with own | inner | inner
    · exact .inl own
    · exact .inr (.inl (hleft.lower hlo inner))
    · exact .inr (.inr (hright.lower hlo inner))
  run {pos} m inside := by
    have self : Resumable (Route.branches number left right) limit pos pos m
        { owner := number, position := pos, choice := 0, snapshot := m } :=
      ⟨.inl ⟨rfl, rfl⟩, Nat.le_refl pos, Nat.le_refl pos, inside, .refl pos pos m⟩
    have first : Settled (Route.branches number left right) limit pos pos m
        (c.run pos (m.suspend number pos 0)) :=
      (hleft.run (m.suspend number pos 0) inside).lift (.of_eq rfl rfl rfl)
        (.push self rfl .refl) (Nat.le_refl pos) (Nat.le_refl pos) (Nat.le_refl pos) inside
        fun point found => .inr (.inl found.route)
    have second : Settled (Route.branches number left right) limit pos pos m (d.run pos m) :=
      (hright.run m inside).carry (Nat.le_refl pos) inside fun point found => .inr (.inr found.route)
    simp only [Matcher.alternation]
    cases hrun : c.run pos (m.suspend number pos 0) with
    | failed m' => exact second
    | matched stop m' =>
        rw [hrun] at first
        exact first
  resume {lo point} found lower upper := by
    have inside : lo ≤ limit := Nat.le_trans lower upper
    rcases found with ⟨owner, choice⟩ | inner | inner
    · simp only [Matcher.alternation, if_pos owner, if_pos choice]
      exact (hright.run point.snapshot upper).lift (.refl lo _ _) .refl lower
        (Nat.le_refl _) (Nat.le_refl _) upper
        fun point' found => .inr (.inr (hright.lower lower found.route))
    · rw [alternation_resume_left d numberLeft (hleft.owns inner)]
      exact (hleft.resume inner lower upper).carry lower inside
        fun point' found => .inr (.inl found.route)
    · rw [alternation_resume_right numberRight numberLeft (hright.owns inner)]
      exact (hright.resume inner lower upper).carry lower inside
        fun point' found => .inr (.inr found.route)

/-! ## Repetitions -/

section Repetitions

variable {min : Nat} {max : Option Nat} {lo least : Nat} {entry : Memory}

theorem finish_settled {count pos : Nat} {m : Memory} (lower : least ≤ pos) (upper : pos ≤ limit)
    (since : Memory.Since lo pos entry m)
    (grown : Grown (Resumable route limit lo least entry) entry.points m.points) :
    Settled route limit lo least entry (finish min count pos m) := by
  unfold finish
  split
  · exact .failed (since.widen upper) grown
  · exact .matched lower upper since grown

theorem beginning_grown {count pos : Nat} {m : Memory}
    (counted : lo + count ≤ pos) (lower : least ≤ pos) (upper : pos ≤ limit)
    (within : ¬ max.any (· ≤ count) = true) (since : Memory.Since lo pos entry m)
    (grown : Grown (Resumable (Route.repetitions number min max route) limit lo least entry)
      entry.points m.points) :
    Grown (Resumable (Route.repetitions number min max route) limit lo least entry) entry.points
      (if min ≤ count then m.suspend number pos count else m).points := by
  by_cases enough : min ≤ count
  · rw [if_pos enough]
    have allowed : ∀ most ∈ max, count < most := by
      intro most hmost
      rw [Option.mem_def.mp hmost] at within
      simpa using within
    exact .push ⟨.inl ⟨rfl, enough, allowed⟩, counted, lower, upper, since⟩ rfl grown
  · rw [if_neg enough]
    exact grown

/--
A loop that has counted `count` repetitions goes on in a memory that grew out of `entry`. Each
repetition takes a character, so the count never gets ahead of the position.
-/
theorem iterate_settled (h : Guided limit route body) (remaining : Nat) {count pos : Nat}
    {m : Memory} (counted : lo + count ≤ pos) (lower : least ≤ pos) (upper : pos ≤ limit)
    (since : Memory.Since lo pos entry m)
    (grown : Grown (Resumable (Route.repetitions number min max route) limit lo least entry)
      entry.points m.points) :
    Settled (Route.repetitions number min max route) limit lo least entry
      (iterate body number min max remaining count pos m) := by
  induction remaining generalizing count pos m with
  | zero => exact finish_settled lower upper since grown
  | succ remaining ih =>
      unfold iterate
      split
      · exact finish_settled lower upper since grown
      · rename_i within
        extract_lets left
        have begun : (left.enterLoop number count pos).loops[number]? =
            some { count, start := pos } := by
          rw [Memory.loops_enterLoop, if_pos rfl]
        have same : Memory.Since lo pos m left := by
          simp only [left]
          split <;> exact .of_eq rfl rfl rfl
        have entered : Memory.Since lo pos entry (left.enterLoop number count pos) :=
          (since.trans same (Nat.le_refl lo) (Nat.le_refl pos)).enterLoop number counted
            (Nat.le_refl pos)
        have carry : ∀ point,
            Resumable route limit pos pos (left.enterLoop number count pos) point →
              Route.repetitions number min max route lo point := by
          intro point found
          have mark := found.since.exists_mark begun (Nat.le_trans (Nat.le_add_right _ _) counted)
            counted found.lower
          exact .inr ⟨mark, h.lower (Nat.le_trans (Nat.le_add_right _ _) counted) found.route⟩
        have ran := (h.run (left.enterLoop number count pos) upper).lift entered
          (beginning_grown counted lower upper within since grown) (by omega) lower
          (Nat.le_refl pos) upper carry
        split
        · exact finish_settled lower upper since grown
        · rename_i next m' hrun
          have forward := ((h.run (left.enterLoop number count pos) upper).stop_le
            (congrArg Outcome.stop? hrun)).1
          rw [hrun] at ran
          split
          · exact finish_settled lower upper since grown
          · rename_i moved
            cases ran with
            | matched hstop hlimit since' grown' =>
                exact ih (by omega) hstop hlimit since' grown'

theorem loop (h : Guided limit route body) (hnumber : body.number = number + 1) (length min : Nat)
    (max : Option Nat) :
    Guided limit (Route.repetitions number min max route)
      (Matcher.loop length number body min max) where
  restores := loop_restores length number body min max
  owns found := by
    rcases found with own | inner
    · exact loop_owns_self length body min max own.1
    · exact (loop_within_body length min max hnumber).owns (h.owns inner.2)
  lower hlo found := by
    rcases found with own | ⟨⟨mark, hmark, counted, before⟩, inner⟩
    · exact .inl own
    · exact .inr ⟨⟨mark, hmark, by omega, before⟩, h.lower hlo inner⟩
  run {pos} m inside := by
    have ran : Settled (Route.repetitions number min max route) limit pos pos m
        (iterate body number min max (length - pos) 0 pos m) :=
      h.iterate_settled (length - pos) (Nat.le_refl pos) (Nat.le_refl pos) inside (.refl pos pos m)
        .refl
    simp only [Matcher.loop]
    cases hrun : iterate body number min max (length - pos) 0 pos m with
    | failed m' => exact .unchanged _ _ _ _ _
    | matched stop m' =>
        rw [hrun] at ran
        exact ran
  resume {lo point} found lower upper := by
    have inside : lo ≤ limit := Nat.le_trans lower upper
    rcases found with ⟨owner, enough, _⟩ | ⟨⟨mark, hmark, counted, before⟩, inner⟩
    · simp only [Matcher.loop, if_pos owner, if_pos enough]
      exact .matched (Nat.le_refl _) upper (.refl _ _ _) .refl
    · have bounds := (owns_iff body point).mp (h.owns inner)
      have other : point.owner ≠ number := by omega
      have carry : ∀ point', Resumable route limit lo point.position point.snapshot point' →
          Route.repetitions number min max route lo point' := fun point' found =>
        .inr ⟨found.since.exists_mark hmark (Nat.le_refl lo) counted
          (Nat.le_trans before found.lower), found.route⟩
      have resumed := (h.resume inner lower upper).carry lower inside carry
      simp only [Matcher.loop, if_neg other, hmark]
      cases hresume : body.resume point point.snapshot with
      | failed m' =>
          rw [hresume] at resumed
          exact resumed
      | matched next m' =>
          rw [hresume] at resumed
          cases resumed with
          | matched hnext hlimit since grown =>
              by_cases stays : next = mark.start
              · simp only [if_pos stays]
                exact .failed (since.widen hlimit) grown
              · simp only [if_neg stays]
                exact h.iterate_settled (length - next) (by omega) hnext hlimit since grown

end Repetitions

/-! ## Sequences -/

theorem chain_nil (length number : Nat) : Guided limit Route.barred (chain length number []) where
  restores := runParts_failed
  owns := False.elim
  lower _ := id
  run {pos} m inside := .matched (Nat.le_refl pos) inside (.refl pos pos m) .refl
  resume := False.elim

section Chains

variable {rest : List Matcher}

theorem rest_settled (hrest : Guided limit others (chain length (number + part.size) rest))
    {lo least next : Nat} {entry m : Memory}
    (h : Settled first limit lo least entry (.matched next m)) (lower : lo ≤ next) :
    Settled (Route.either first others) limit lo least entry (runParts length rest next m) := by
  cases h with
  | matched hnext upper since grown =>
      have below : Grown (Resumable (Route.either first others) limit lo least entry) entry.points
          m.points := grown.mono fun point found => found.imp (.inl found.route)
      exact (hrest.run m upper).lift since below lower hnext (Nat.le_refl next) upper
        fun point found => .inr (hrest.lower lower found.route)

/--
All that a sequence drains are points of the part that is drained: when the rest fails, it takes its
own points along.
-/
theorem drain_settled (hfirst : Guided limit first part)
    (hrest : Guided limit others (chain length (number + part.size) rest)) {pos : Nat}
    {entry : Memory} (rounds : Rounds) {m : Memory}
    (grown : Grown (Resumable first limit pos pos entry) entry.points m.points) :
    Settled (Route.either first others) limit pos pos entry
      (drain part (runParts length rest) entry rounds m) := by
  induction rounds generalizing m with
  | none => exact .unchanged _ _ _ _ _
  | next rounds ih =>
      unfold drain
      split
      · exact .unchanged _ _ _ _ _
      · rename_i point stack hpoints
        split
        · rename_i high
          have above : entry.points.length < (point :: stack).length := by
            rw [← hpoints]
            exact (Memory.risesAbove_iff m entry).mp (Bool.and_eq_true_iff.mp high).1
          rw [hpoints] at grown
          obtain ⟨found, hbelow, hstack⟩ := grown.of_cons above
          have resumed : Settled first limit pos pos entry (part.resume point point.snapshot) :=
            (hfirst.resume found.route found.lower found.upper).lift found.since (hbelow ▸ hstack)
              (Nat.le_refl pos) found.lower (Nat.le_refl _) found.upper
              fun point' found' => found'.route
          split
          · rename_i m' hresume
            rw [hresume] at resumed
            exact ih () resumed.grown
          · rename_i next m' hresume
            rw [hresume] at resumed
            have continued := rest_settled hrest resumed (resumed.stop_le rfl).1
            split
            · rename_i m'' hrun
              obtain rfl : m'' = m' := hrest.restores hrun
              exact ih () resumed.grown
            · rename_i stop m'' hrun
              rw [hrun] at continued
              exact continued
        · exact .unchanged _ _ _ _ _

theorem chain_cons (hfirst : Guided limit first part)
    (hrest : Guided limit others (chain length (number + part.size) rest))
    (hnumber : part.number = number) :
    Guided limit (Route.either first others) (chain length number (part :: rest)) where
  restores := runParts_failed
  owns found := by
    rcases found with here | later
    · exact (chain_within_first length rest hnumber).owns (hfirst.owns here)
    · exact (chain_within_rest length number part rest).owns (hrest.owns later)
  lower hlo found := found.imp (hfirst.lower hlo) (hrest.lower hlo)
  run {pos} m inside := by
    have ran := hfirst.run m inside
    simp only [chain, runParts]
    split
    · exact .unchanged _ _ _ _ _
    · rename_i next m' hrun
      rw [hrun] at ran
      have continued := rest_settled hrest ran (ran.stop_le rfl).1
      split
      · rename_i stop m'' hmatched
        rw [hmatched] at continued
        exact continued
      · rename_i m'' hfailed
        obtain rfl : m'' = m' := hrest.restores hfailed
        exact drain_settled hfirst hrest _ ran.grown
  resume {lo point} found lower upper := by
    have inside : lo ≤ limit := Nat.le_trans lower upper
    rcases found with here | later
    · have resumed := hfirst.resume here lower upper
      simp only [chain, resumeParts, hfirst.owns here, if_true]
      cases hresume : part.resume point point.snapshot with
      | failed m' =>
          rw [hresume] at resumed
          exact resumed.carry lower inside fun point' found' => .inl found'.route
      | matched next m' =>
          rw [hresume] at resumed
          exact rest_settled hrest resumed (Nat.le_trans lower (resumed.stop_le rfl).1)
    · rw [chain_resume_rest hnumber (hrest.owns later)]
      exact (hrest.resume later lower upper).carry lower inside
        fun point' found' => .inr found'.route

end Chains

theorem sequence {parts : List Matcher} (h : Guided limit route (chain length (number + 1) parts)) :
    Guided limit route (Matcher.sequence length number parts) :=
  h.within (sequence_within_chain length number parts) rfl rfl

end Guided
end Matcher

namespace Pattern

mutual

/-- Every operator of a pattern can take up what it leaves, however far the text may be read. -/
theorem matcher_guided {s : Subject} {limit : Nat} (h : s.size ≤ limit) (number : Nat) :
    (p : Pattern) → Matcher.Guided limit (p.route number) (p.matcher s number)
  | .sequence parts => (matchers_guided h (number + 1) parts).sequence
  | .alternation left right => by
      have guided := (matcher_guided h (number + 1) left).alternation
        (matcher_guided h (number + 1 + (left.matcher s (number + 1)).size) right)
        (matcher_number s _ left) (matcher_number s _ right)
      rw [matcher_size] at guided
      rw [matcher, matcher_size]
      exact guided
  | .loop body min max =>
      (matcher_guided h (number + 1) body).loop (matcher_number s _ body) s.size min max
  | .group body index =>
      (matcher_guided h (number + 1) body).group (matcher_number s _ body) index
  | .atomic body => (matcher_guided h (number + 1) body).atomic
  | .lookahead _ => .lookahead
  | .lookbehind _ width => .lookbehind width
  | .negation body => .negation h body.isZeroWidth
  | .empty | .literal _ | .anyChar | .digit | .word | .space | .charClass .. | .lineStart
  | .lineEnd | .wordEdge | .backreference _ => .single fun captures pos stop inside hstop => by
      have advances := singleStop?_advances hstop
      omega

theorem matchers_guided {s : Subject} {limit : Nat} (h : s.size ≤ limit) (number : Nat) :
    (parts : List Pattern) → Matcher.Guided limit (routeAmong number parts)
      (Matcher.chain s.size number (matchers s number parts))
  | [] => .chain_nil s.size number
  | part :: rest => by
      have others := matchers_guided h (number + (part.matcher s number).size) rest
      have guided := (matcher_guided h number part).chain_cons others (matcher_number s number part)
      rw [matcher_size] at guided
      rw [matchers, matcher_size]
      exact guided

end

end Pattern

end Rematch
