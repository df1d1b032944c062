import Rematch.Proofs.Activity

/-!
# The extent of an attempt

An attempt that begins within the text stays there: no position, recorded span or count of repetitions
gets past the end, and a match spans all of its groups.
-/

namespace Rematch

def Outcome.EndsWithin (outcome : Outcome) (lower limit : Nat) : Prop :=
  outcome.memory.Bounded limit ∧ ∀ stop, outcome.stop? = some stop → lower ≤ stop ∧ stop ≤ limit

theorem Settled.endsWithin {route : Route} {limit lo least : Nat} {entry : Memory}
    {outcome : Outcome} (h : Settled route limit lo least entry outcome)
    (bounded : entry.Bounded limit) : outcome.EndsWithin least limit :=
  ⟨h.bounded bounded, fun _ => h.stop_le⟩

namespace Activity

variable {s : Subject}

/-- An activity begins, remembers and ends within the text, and a loop counts no more than that. -/
def StaysWithin (s : Subject) : Activity → Prop
  | .run number p pos m => pos ≤ s.size ∧ m.Bounded s.size ∧
      ((p.matcher s number).run pos m).EndsWithin pos s.size
  | .runParts _ _ pos m => pos ≤ s.size ∧ m.Bounded s.size
  | .drain _ _ _ entry m => entry.Bounded s.size ∧ m.Bounded s.size
  | .iterate _ _ _ _ count pos m => count ≤ pos ∧ pos ≤ s.size ∧ m.Bounded s.size
  | .resume number p point m => point.position ≤ s.size ∧ m.Bounded s.size ∧
      ((p.matcher s number).resume point m).EndsWithin point.position s.size
  | .resumeParts _ _ point m => point.position ≤ s.size ∧ m.Bounded s.size

def captured? (s : Subject) : Activity → Option Span
  | .run number (.group body index) pos m =>
      ((body.matcher s (number + 1)).run pos (m.openGroup index pos)).stop?.map fun stop =>
        { start := pos, stop }
  | .resume number (.group body index) point m =>
      m.groupStarts[index]?.bind fun start =>
        ((body.matcher s (number + 1)).resume point m).stop?.map fun stop => { start, stop }
  | _ => none

theorem Ready.staysWithin {a : Activity} (ready : a.Ready s.size) : a.StaysWithin s := by
  cases a with
  | run number p pos m =>
      exact ⟨ready.1, ready.2, (run_settled (Nat.le_refl s.size) ready).endsWithin ready.2⟩
  | runParts _ _ _ _ | iterate _ _ _ _ _ _ _ => exact ready
  | drain _ _ _ _ _ => exact ready.1
  | resume number p point m =>
      obtain ⟨⟨rfl, upper, bounded⟩, lo, lower, found⟩ := ready
      have settled := resume_settled (s := s) (Nat.le_refl s.size) lower upper found
      exact ⟨upper, bounded, settled.endsWithin bounded⟩
  | resumeParts _ _ _ _ => exact ready.1.2

theorem Ready.captured {a : Activity} (ready : a.Ready s.size) {span : Span}
    (h : a.captured? s = some span) : span.start ≤ span.stop ∧ span.stop ≤ s.size := by
  unfold captured? at h
  split at h
  · rename_i number body index pos m
    obtain ⟨stop, hstop, rfl⟩ := Option.map_eq_some_iff.mp h
    have inner : (run (number + 1) body pos (m.openGroup index pos)).Ready s.size :=
      ⟨ready.1, ready.2.openGroup index ready.1⟩
    exact (run_settled (Nat.le_refl s.size) inner).stop_le hstop
  · rename_i number body index point m
    obtain ⟨start, hstart, hmap⟩ := Option.bind_eq_some_iff.mp h
    obtain ⟨stop, hstop, rfl⟩ := Option.map_eq_some_iff.mp hmap
    obtain ⟨⟨rfl, upper, _⟩, lo, lower, ⟨start', hstart', _, before⟩, inner⟩ := ready
    rw [hstart] at hstart'
    cases hstart'
    have bounds := (resume_settled (Nat.le_refl s.size) lower upper inner).stop_le hstop
    exact ⟨Nat.le_trans before bounds.1, bounds.2⟩
  · contradiction

end Activity

namespace Pattern

variable {p : Pattern} {s : Subject} {start : Nat}

/-- A match begins where it is looked for, ends within the text and spans all of its groups. -/
theorem matchAt_span {found : Match} (h : p.matchAt s start = some found) :
    found.start = start ∧ start ≤ found.stop ∧ found.stop ≤ s.size ∧
      ∀ (index : Nat) (span : Span), found.groups[index]? = some span →
        start ≤ span.start ∧ span.start ≤ span.stop ∧ span.stop ≤ found.stop := by
  have inside := le_size_of_matchAt h
  rw [matchAt_eq_run p s inside] at h
  have settled := (matcher_guided (Nat.le_refl s.size) 0 p).run ∅ inside
  cases hrun : (p.matcher s 0).run start ∅ with
  | failed m => simp [hrun] at h
  | matched stop m =>
      rw [hrun] at h settled
      cases h
      cases settled with
      | matched lower upper since _ =>
          refine ⟨rfl, lower, upper, fun index span hspan => ?_⟩
          rcases since.captures hspan with earlier | within
          · simp [show (∅ : Memory).captures = ∅ from rfl] at earlier
          · exact within

theorem simpleStop?_backreference {captures : Captures} {index pos stop : Nat} {span : Span}
    (captured : captures[index]? = some span)
    (h : simpleStop? s captures pos (.backreference index) = some stop) :
    stop = pos + span.length ∧ stop ≤ s.size := by
  rw [simpleStop?_of_captured captured] at h
  exact Subject.stop_of_again? h

/--
An attempt at a position of the text stays within the text, in lookarounds as well: wherever an
operator is run or resumed, it ends no earlier than there and no later than the text, and all spans,
starts, marks and points that are recorded lie within the text, also in the memories that points keep.
A group never captures backwards. Whatever is run finds the captured texts within the text. The sum by
which a back-reference looks ahead is at most twice the size; it is a position only if it does not
pass the end, and else nothing goes on from it. A match spans its groups.
-/
theorem attempt_within_text (p : Pattern) (s : Subject) (start : Nat) (inside : start ≤ s.size) :
    (∀ a, p.Occurs s start a → a.StaysWithin s) ∧
    (∀ a span, p.Occurs s start a → a.captured? s = some span →
      span.start ≤ span.stop ∧ span.stop ≤ s.size) ∧
    (∀ number q pos (m : Memory) (index : Nat) (span : Span), p.Occurs s start (.run number q pos m) →
      m.captures[index]? = some span → span.start ≤ span.stop ∧ span.stop ≤ s.size ∧
        pos + span.length ≤ 2 * s.size ∧
        ∀ stop, simpleStop? s m.captures pos (.backreference index) = some stop →
          stop = pos + span.length ∧ stop ≤ s.size) ∧
    (∀ found, p.matchAt s start = some found →
      found.start = start ∧ found.start ≤ found.stop ∧ found.stop ≤ s.size ∧
        ∀ (index : Nat) (span : Span), found.groups[index]? = some span →
          found.start ≤ span.start ∧ span.start ≤ span.stop ∧ span.stop ≤ found.stop) := by
  have ready : ∀ a, p.Occurs s start a → a.Ready s.size := fun a occurs =>
    occurs.ready (Nat.le_refl s.size) inside
  refine ⟨fun a occurs => (ready a occurs).staysWithin,
    fun a span occurs => (ready a occurs).captured, ?_, ?_⟩
  · intro number q pos m index span occurs captured
    have position : pos ≤ s.size := (ready _ occurs).1
    have bounds := (ready _ occurs).2.within.captures captured
    have ahead : pos + span.length ≤ 2 * s.size := by
      unfold Span.length
      omega
    exact ⟨bounds.1, bounds.2, ahead, fun stop => simpleStop?_backreference captured⟩
  · intro found hfound
    have spans := matchAt_span hfound
    rw [spans.1]
    exact ⟨rfl, spans.2⟩

/--
A back-reference looks further ahead than the text goes. On `aaa` the group of `(a*)\1` takes all three
characters first, and the reference then adds their number to the position 3.
-/
theorem backreference_looks_past_end :
    let p : Pattern := .sequence [.group (.loop (.literal 'a') 0 none) 1, .backreference 1]
    let s : Subject := { text := #['a', 'a', 'a'] }
    ∃ (number pos : Nat) (m : Memory) (span : Span),
      p.Occurs s 0 (.run number (.backreference 1) pos m) ∧ m.captures[1]? = some span ∧
        pos + span.length = 6 ∧ s.size + 1 < pos + span.length := by
  intro p s
  let part : Pattern := .group (.loop (.literal 'a') 0 none) 1
  let m := ((part.matcher s 1).run 0 ∅).memory
  have stops : ((part.matcher s 1).run 0 ∅).stop? = some 3 := by decide
  have hrun : (part.matcher s 1).run 0 ∅ = .matched 3 m := Outcome.eq_matched_of_stop? stops
  have entered : p.Occurs s 0 (.runParts 1 [part, .backreference 1] 0 ∅) := .call .run .sequence
  have occurs : p.Occurs s 0 (.run 4 (.backreference 1) 3 m) := .call (.call entered (.rest hrun)) .part
  exact ⟨4, 3, m, ⟨0, 3⟩, occurs, by decide, by decide, by decide⟩

/--
On `xabc` the pattern `(x(a|ab))c` with both groups numbered 1 first ends after `xa`. When the point of
the inner group is taken up, both groups begin where the inner one does, and capture no further back.
-/
theorem attempt_within_text_shared_number :
    let part : Pattern := .group (.sequence [.literal 'x', .group (.alternation (.literal 'a')
      (.sequence [.literal 'a', .literal 'b'])) 1]) 1
    let p : Pattern := .sequence [part, .literal 'c']
    let s : Subject := { text := #['x', 'a', 'b', 'c'] }
    let m := ((part.matcher s 1).run 0 ∅).memory
    (∃ point below, m.points = point :: below ∧ p.Occurs s 0 (.resume 1 part point point.snapshot) ∧
      (Activity.resume 1 part point point.snapshot).captured? s = some ⟨1, 3⟩ ∧ 1 ≤ 3 ∧ 3 ≤ s.size) ∧
    ∃ found, p.matchAt s 0 = some found ∧ found.groups[1]? = some ⟨1, 3⟩ ∧
      found.start ≤ 1 ∧ 3 ≤ found.stop ∧ found.stop ≤ s.size := by
  intro part p s m
  have extent := attempt_within_text p s 0 (by decide)
  constructor
  · have stops : ((part.matcher s 1).run 0 ∅).stop? = some 2 := by decide
    have hrun : (part.matcher s 1).run 0 ∅ = .matched 2 m := Outcome.eq_matched_of_stop? stops
    obtain ⟨m', hrest⟩ : ∃ m', Matcher.runParts s.size
        (matchers s (1 + part.operatorCount) [.literal 'c']) 2 m = .failed m' :=
      (Outcome.stop?_eq_none_iff _).mp (by decide)
    have captured : m.points.head?.bind (fun point =>
        (Activity.resume 1 part point point.snapshot).captured? s) = some ⟨1, 3⟩ := by decide
    have owned : m.points.head?.any (part.matcher s 1).owns = true := by decide
    cases hpoints : m.points with
    | nil => simp [hpoints] at owned
    | cons point below =>
        simp only [hpoints, List.head?_cons, Option.bind_some, Option.any_some] at captured owned
        have above : (∅ : Memory).depth < m.depth := by
          rw [Memory.depth, Memory.depth, hpoints]
          exact Nat.zero_lt_succ _
        have takes : Activity.Takes s 1 part ∅ m point := ⟨by rw [hpoints]; rfl, above, owned⟩
        have occurs : p.Occurs s 0 (.resume 1 part point point.snapshot) :=
          .call (.drain_first hrun hrest) (.drainPoint takes)
        exact ⟨point, below, rfl, occurs, captured, extent.2.1 _ _ occurs captured⟩
  · have groups : (p.matchAt s 0).bind (·.groups[1]?) = some ⟨1, 3⟩ := by decide
    obtain ⟨found, hfound, hgroup⟩ := Option.bind_eq_some_iff.mp groups
    obtain ⟨_, _, upper, spans⟩ := extent.2.2.2 found hfound
    have bounds := spans 1 _ hgroup
    exact ⟨found, hfound, hgroup, bounds.1, bounds.2.2, upper⟩

end Pattern

end Rematch
