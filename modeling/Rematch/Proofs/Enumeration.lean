import Rematch.Proofs.Repetition
import Rematch.Proofs.Starts
import Rematch.Proofs.Succession

/-!
# Enumeration

Running a pattern and then taking up the choice points it leaves, the latest first, comes upon the
results of the pattern in their order and upon nothing else.
-/

namespace Rematch

namespace Matcher

/--
The results come upon by taking up the latest choice point again and again, each in the memory it
keeps, until no more than `depth` points are left.
-/
inductive Enumerates (root : Matcher) (depth : Nat) : Outcome → List Result → Prop
  | done {m : Memory} : m.depth ≤ depth → Enumerates root depth (.failed m) []
  | again {m rest : Memory} {point : ChoicePoint} {list : List Result} : depth < m.depth →
      m.pop? = some (point, rest) → Enumerates root depth (root.resume point point.snapshot) list →
      Enumerates root depth (.failed m) list
  | found {stop : Nat} {m : Memory} {list : List Result} :
      Enumerates root depth (.failed m) list →
      Enumerates root depth (.matched stop m) ({ stop, captures := m.captures } :: list)

theorem Enumerates.unique {root : Matcher} {depth : Nat} {outcome : Outcome}
    {list list' : List Result} (h : root.Enumerates depth outcome list)
    (h' : root.Enumerates depth outcome list') : list = list' := by
  induction h generalizing list' with
  | done low =>
      cases h' with
      | done _ => rfl
      | again high _ _ => omega
  | again high hpop _ ih =>
      cases h' with
      | done low => omega
      | again _ hpop' rest =>
          cases hpop.symm.trans hpop'
          exact ih rest
  | found _ ih =>
      cases h' with
      | found rest => rw [ih rest]

variable {c : Matcher} {entry : Memory} {base stack : List ChoicePoint}
variable {rounds : Nat} {arrivals : List Arrival}

/-- What a stack has yet to yield is what taking up its points comes upon. -/
theorem Pending.enumerates (h : c.Pending entry base stack rounds arrivals) {m : Memory}
    (hstack : m.points = stack) :
    c.Enumerates base.length (.failed m) (arrivals.map Arrival.result) := by
  have latest : ∀ {m : Memory} {point below}, m.points = point :: below →
      m.pop? = some (point, { m with points := below }) := by
    intro m point below hpoints
    unfold Memory.pop?
    rw [hpoints]
  induction h generalizing m with
  | done =>
      exact .done (Nat.le_of_eq (congrArg List.length hstack))
  | dead suspends hresume _ ih =>
      have height := suspends.above.length_le
      refine .again ?_ (latest hstack) ?_
      · rw [Memory.depth, hstack, List.length_cons]
        omega
      · rw [hresume]
        exact ih rfl
  | live suspends hresume _ _ ih =>
      have height := suspends.above.length_le
      refine .again ?_ (latest hstack) ?_
      · rw [Memory.depth, hstack, List.length_cons]
        omega
      · rw [hresume]
        exact .found (ih rfl)

theorem Yields.enumerates {origin : GroupStarts} {outcome : Outcome}
    (h : c.Yields entry base origin outcome rounds arrivals) :
    c.Enumerates base.length outcome (arrivals.map Arrival.result) := by
  cases outcome with
  | failed m => exact Pending.enumerates h rfl
  | matched stop m =>
      obtain ⟨others, rfl, _, pending⟩ := h
      exact .found (pending.enumerates rfl)

end Matcher

namespace Subject

variable {s : Subject} {pos stop : Nat}

theorem advances_of_take? {accept : Char → Bool} (h : s.take? accept pos = some stop) :
    pos ≤ stop ∧ stop ≤ max pos s.size := by
  unfold take? at h
  split at h
  · rename_i accepted
    cases h
    cases hc : s.char? pos with
    | none => simp [hc] at accepted
    | some c =>
        have inside : pos < s.size := (Array.getElem?_eq_some_iff.mp hc).1
        omega
  · contradiction

theorem advances_of_stay? {holds : Bool} (h : stay? holds pos = some stop) :
    pos ≤ stop ∧ stop ≤ max pos s.size := by
  unfold stay? at h
  split at h
  · cases h
    omega
  · contradiction

theorem stop_of_again? {span : Span} (h : s.again? span pos = some stop) :
    stop = pos + span.length ∧ stop ≤ s.size := by
  unfold again? at h
  dsimp only at h
  split at h
  · rename_i again
    cases h
    exact ⟨rfl, again.1⟩
  · contradiction

theorem advances_of_again? {span : Span} (h : s.again? span pos = some stop) :
    pos ≤ stop ∧ stop ≤ max pos s.size := by
  have room := stop_of_again? h
  omega

end Subject

namespace Pattern

set_option maxRecDepth 2000 in
theorem simpleStop?_advances {s : Subject} {captures : Captures} {pos stop : Nat} {p : Pattern}
    (h : simpleStop? s captures pos p = some stop) : pos ≤ stop ∧ stop ≤ max pos s.size := by
  cases p with
  | empty =>
      obtain rfl : pos = stop := Option.some.inj h
      omega
  | literal _ | anyChar | digit | word | space => exact Subject.advances_of_take? h
  | lineStart | lineEnd | wordEdge => exact Subject.advances_of_stay? h
  | backreference index =>
      unfold simpleStop? at h
      dsimp only at h
      split at h
      · obtain rfl : pos = stop := Option.some.inj h
        omega
      · exact Subject.advances_of_again? h
  | _ => contradiction

theorem singleStop?_advances {s : Subject} {captures : Captures} {pos stop : Nat} {p : Pattern}
    (h : singleStop? s captures pos p = some stop) : pos ≤ stop ∧ stop ≤ max pos s.size := by
  unfold singleStop? at h
  split at h
  · split at h
    · rename_i holds
      cases h
      have inside : pos < s.size := by
        unfold specialHolds at holds
        split at holds
        · contradiction
        · rename_i hc
          exact (Array.getElem?_eq_some_iff.mp hc).1
      omega
    · contradiction
  · exact simpleStop?_advances h

mutual

/-- The matcher of a pattern yields the arrivals of the pattern. -/
theorem matcher_lawful (s : Subject) (number : Nat) :
    (p : Pattern) → Matcher.Lawful s.size (p.matcher s number) (p.arrivals s)
  | .sequence parts => (matchers_lawful s (number + 1) parts).sequence
  | .alternation left right =>
      (matcher_lawful s (number + 1) left).alternation (matcher_lawful s _ right)
        (matcher_number s _ left) (matcher_number s _ right)
  | .loop body min max =>
      (matcher_lawful s (number + 1) body).loop (matcher_number s _ body) min max
  | .group body index =>
      (matcher_lawful s (number + 1) body).group (matcher_number s _ body) index
  | .atomic body => (matcher_lawful s (number + 1) body).atomic (matcher_number s _ body)
  | .lookahead body => (matcher_lawful s (number + 1) body).lookahead
  | .lookbehind body width => (matcher_lawful s (number + 1) body).lookbehind width
  | .negation body => (matcher_lawful s (number + 1) body).negation body.isZeroWidth
  | .empty | .literal _ | .anyChar | .digit | .word | .space | .charClass .. | .lineStart
  | .lineEnd | .wordEdge | .backreference _ => .single _ fun _ _ _ => singleStop?_advances

theorem matchers_lawful (s : Subject) (number : Nat) : (parts : List Pattern) →
    Matcher.Lawful s.size (Matcher.chain s.size number (matchers s number parts))
      (partArrivals s parts)
  | [] => .chain_nil
  | part :: rest =>
      (matcher_lawful s number part).chain_cons (matchers_lawful s _ rest)
        (matcher_number s number part)

end

theorem run_enumerates_arrivals (p : Pattern) (s : Subject) (number pos : Nat) (m : Memory) :
    (p.matcher s number).Enumerates m.depth ((p.matcher s number).run pos m)
      ((p.arrivals s m.marks pos).map Arrival.result) := by
  obtain ⟨rounds, yields, _⟩ :=
    (matcher_lawful s number p).yields _ (Nat.le_refl _) pos m m.groupStarts
  have enumerates := yields.enumerates
  rw [Arrival.map_result_setOrigin] at enumerates
  exact enumerates

theorem run_enumerates_iff {p : Pattern} (h : p.groupsApart = true) (s : Subject)
    (number pos : Nat) (m : Memory) (list : List Result) :
    (p.matcher s number).Enumerates m.depth ((p.matcher s number).run pos m) list ↔
      list = p.results s m.captures pos := by
  have enumerates := run_enumerates_arrivals p s number pos m
  rw [arrivals_map_result s p h m.marks pos] at enumerates
  constructor
  · intro other
    exact other.unique enumerates
  · rintro rfl
    exact enumerates

theorem matchAt_eq_head? (p : Pattern) (s : Subject) {start : Nat} (h : start ≤ s.size) :
    p.matchAt s start = (p.arrivals s {} start).head?.map fun a =>
      { start, stop := a.stop, groups := a.marks.captures } := by
  have lawful := matcher_lawful s 0 p
  rw [matchAt_eq_run p s h]
  cases hrun : (p.matcher s 0).run start ∅ with
  | failed m =>
      have none : p.arrivals s {} start = [] := lawful.eq_nil_of_failed hrun
      rw [none]
      rfl
  | matched stop m =>
      obtain ⟨origin, others, hlist⟩ := lawful.eq_cons_of_matched hrun
      have heads : p.arrivals s {} start = _ := hlist
      rw [heads]
      rfl

/-- A match reports what one of the arrivals has. -/
theorem exists_arrival_of_matchAt {p : Pattern} {s : Subject} {start : Nat} {m : Match}
    (found : p.matchAt s start = some m) : ∃ a ∈ p.arrivals s {} start,
      m = { start, stop := a.stop, groups := a.marks.captures } := by
  rw [matchAt_eq_head? p s (le_size_of_matchAt found), Option.map_eq_some_iff] at found
  obtain ⟨a, first, rfl⟩ := found
  exact ⟨a, List.mem_of_head? first, rfl⟩

/--
Running a pattern without nested groups of one number, at any place in a tree and in any memory, and
taking up its choice points comes upon its results, all of them and in their order. An attempt at a
position finds the first.
-/
theorem enumerates_results (p : Pattern) (s : Subject) (h : p.groupsApart = true) :
    (∀ number pos m list,
      (p.matcher s number).Enumerates m.depth ((p.matcher s number).run pos m) list ↔
        list = p.results s m.captures pos) ∧
    (∀ start, start ≤ s.size → p.matchAt s start =
      (p.results s ∅ start).head?.map fun result =>
        { start, stop := result.stop, groups := result.captures }) := by
  refine ⟨run_enumerates_iff h s, ?_⟩
  intro start inside
  rw [matchAt_eq_head? p s inside]
  have same : (p.arrivals s {} start).map Arrival.result = p.results s ∅ start :=
    arrivals_map_result s p h {} start
  rw [← same, List.head?_map, Option.map_map]
  rfl

/-- On `aab` the pattern `(a|aa)+` has three results, the one of two repetitions first. -/
theorem enumerates_results_repeated_group :
    let p : Pattern := .loop (.group (.alternation (.literal 'a')
      (.sequence [.literal 'a', .literal 'a'])) 1) 1 none
    let s : Subject := { text := #['a', 'a', 'b'] }
    let captured : Nat → Nat → Captures := fun start stop =>
      (∅ : Captures).insert 1 { start, stop }
    p.groupsApart = true ∧
      (p.matcher s 0).Enumerates 0 ((p.matcher s 0).run 0 ∅)
        [⟨2, captured 1 2⟩, ⟨1, captured 0 1⟩, ⟨2, captured 0 2⟩] ∧
      p.matchAt s 0 = some { start := 0, stop := 2, groups := captured 1 2 } := by
  intro p s captured
  have apart : p.groupsApart = true := by decide
  have law := enumerates_results p s apart
  refine ⟨apart, (law.1 0 0 ∅ _).mpr (by decide), ?_⟩
  rw [law.2 0 (by decide)]
  decide

/--
Two limits. Of `(?:aa|a){2}` on `aa` nothing is found, since the first repetition takes both
characters and is not taken up again. In `(a(|b))` with both groups numbered 1, the outer group
begins where the inner one did when the choice in the inner one is taken up.
-/
theorem enumerates_results_limits :
    (let body : Pattern := .alternation (.sequence [.literal 'a', .literal 'a']) (.literal 'a')
      let p : Pattern := .loop body 2 (some 2)
      let s : Subject := { text := #['a', 'a'] }
      Result.iterate (body.results s) 2 (some 2) 2 0 ∅ 0 = [{ stop := 2, captures := ∅ }] ∧
        ¬ (p.matcher s 0).Enumerates 0 ((p.matcher s 0).run 0 ∅) [{ stop := 2, captures := ∅ }]) ∧
    (let p : Pattern := .group (.sequence [.literal 'a',
        .group (.alternation .empty (.literal 'b')) 1]) 1
      let s : Subject := { text := #['a', 'b'] }
      ¬ (p.matcher s 0).Enumerates 0 ((p.matcher s 0).run 0 ∅) (p.results s ∅ 0)) := by
  refine ⟨⟨by decide, ?_⟩, ?_⟩
  · intro h
    have none := (run_enumerates_iff (by decide) _ 0 0 ∅ _).mp h
    revert none
    decide
  · intro p s h
    have same := h.unique (run_enumerates_arrivals p s 0 0 ∅)
    revert same
    decide

end Pattern

end Rematch
