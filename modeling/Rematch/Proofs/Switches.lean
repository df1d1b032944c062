import Rematch.Proofs.Lockstep

/-!
# What the options reach

An operator looks at few of the options: the wildcard at one, the anchors at one, and what compares
characters at the two for case, of which the second counts only under the first. Options that agree in
what the operators of a pattern look at give the same matches.
-/

namespace Rematch

/-! ## Case -/

namespace Options

structure SameCase (options options' : Options) : Prop where
  ignoreCase : options.ignoreCase = options'.ignoreCase
  /-- The mapping counts only if case is disregarded. -/
  cultureSensitive : options.ignoreCase = true → options.cultureSensitive = options'.cultureSensitive

variable {options options' : Options}

theorem SameCase.fold_eq (same : SameCase options options') : options.fold = options'.fold := by
  funext c
  rw [fold, fold, ← same.ignoreCase]
  refine ite_congr rfl (fun disregarded => ?_) fun _ => rfl
  rw [same.cultureSensitive disregarded]

/-- Nothing is changed by the mapping as long as case is regarded. -/
theorem SameCase.of_exact (exact : options.ignoreCase = false) (cultureSensitive : Bool) :
    SameCase options { options with cultureSensitive } where
  ignoreCase := rfl
  cultureSensitive disregarded := by
    rw [exact] at disregarded
    contradiction

end Options

namespace CharSet

variable {set : CharSet} {options options' : Options}

def isEmpty (set : CharSet) : Bool :=
  set.singles.isEmpty && set.ranges.isEmpty

theorem accepts_of_isEmpty (h : set.isEmpty = true) (options : Options) (c : Char) :
    set.accepts options c = false := by
  rw [isEmpty, Bool.and_eq_true, List.isEmpty_iff, List.isEmpty_iff] at h
  simp [accepts, contains, containsFolded, h]

theorem accepts_sameCase (same : options.SameCase options') (c : Char) :
    set.accepts options c = set.accepts options' c := by
  rw [accepts, accepts, same.ignoreCase, same.fold_eq]

end CharSet

/-! ## Operators -/

namespace Pattern

/-- An operator that compares characters of the text with others. A class of specials does not. -/
def comparesCharacters : Pattern → Bool
  | .literal _ | .backreference _ => true
  | .charClass set _ => !set.isEmpty
  | _ => false

end Pattern

/-- Two options agree in what an operator looks at, its parts left aside. -/
structure Options.AgreeFor (options options' : Options) (p : Pattern) : Prop where
  singleline : p = .anyChar → options.singleline = options'.singleline
  multiline : p = .lineStart ∨ p = .lineEnd → options.multiline = options'.multiline
  sameCase : p.comparesCharacters = true → options.SameCase options'

namespace Subject

def readWith (s : Subject) (options : Options) : Subject :=
  { s with options }

variable {s : Subject} {options : Options}

theorem fold_readWith (same : s.options.SameCase options) : (s.readWith options).fold = s.fold :=
  same.fold_eq.symm

theorem again?_readWith (same : s.options.SameCase options) (span : Span) (pos : Nat) :
    (s.readWith options).again? span pos = s.again? span pos := by
  unfold again?
  rw [fold_readWith same]
  rfl

end Subject

namespace Pattern

variable {s : Subject} {options : Options}

theorem simpleStop?_readWith {p : Pattern} (agree : s.options.AgreeFor options p) (captures : Captures)
    (pos : Nat) : simpleStop? (s.readWith options) captures pos p = simpleStop? s captures pos p := by
  cases p with
  | literal c =>
      show (s.readWith options).take? (fun d => _ == (s.readWith options).fold c) pos = _
      rw [Subject.fold_readWith (agree.sameCase rfl)]
      rfl
  | anyChar =>
      show s.take? (fun d => options.singleline || !Text.isNewline d) pos = _
      rw [← agree.singleline rfl]
      rfl
  | lineStart =>
      show Subject.stay? (pos == 0 || (options.multiline && _)) pos = _
      rw [← agree.multiline (.inl rfl)]
      rfl
  | lineEnd =>
      show Subject.stay? (pos == s.size || (options.multiline && _)) pos = _
      rw [← agree.multiline (.inr rfl)]
      rfl
  | backreference index =>
      cases found : captures[index]? with
      | none => rw [simpleStop?_of_uncaptured found, simpleStop?_of_uncaptured found]
      | some span =>
          rw [simpleStop?_of_captured found, simpleStop?_of_captured found]
          exact Subject.again?_readWith (agree.sameCase rfl) span pos
  | _ => rfl

theorem readsAlike_readWith {p : Pattern} (agree : s.options.AgreeFor options p) :
    ReadsAlike (s.readWith options) s p where
  simple := simpleStop?_readWith agree
  listed := by
    rintro set specials rfl pos
    refine congrFun (congrArg Option.map (funext fun c => ?_)) (s.char? pos)
    by_cases empty : set.isEmpty = true
    · rw [CharSet.accepts_of_isEmpty empty, CharSet.accepts_of_isEmpty empty]
    · have compares : (charClass set specials).comparesCharacters = true := by
        simp [comparesCharacters, empty]
      exact (CharSet.accepts_sameCase (agree.sameCase compares) c).symm

/-! ## Matches -/

/-- Options that agree in what the operators of a pattern look at give the same matches. -/
theorem matchAt_readWith {p : Pattern} (agree : ∀ q ∈ p.operators, s.options.AgreeFor options q)
    (start : Nat) : p.matchAt (s.readWith options) start = p.matchAt s start := by
  have size : (s.readWith options).size = s.size := rfl
  exact matchAt_congr size (fun q member => readsAlike_readWith (agree q member)) start

/--
Every option reaches only the operators that look at it, in specials as well. Without a wildcard it
makes no difference whether that takes line ends, and without an anchor whether those hold beside
them. As long as case is regarded, the mapping makes none. Where nothing compares characters, neither
of the options for case does. In each case all others may be set in any way.
-/
theorem matchAt_switches (p : Pattern) (s : Subject) (start : Nat) :
    (.anyChar ∉ p.operators → ∀ singleline,
      p.matchAt (s.readWith { s.options with singleline }) start = p.matchAt s start) ∧
    (.lineStart ∉ p.operators → .lineEnd ∉ p.operators → ∀ multiline,
      p.matchAt (s.readWith { s.options with multiline }) start = p.matchAt s start) ∧
    (s.options.ignoreCase = false → ∀ cultureSensitive,
      p.matchAt (s.readWith { s.options with cultureSensitive }) start = p.matchAt s start) ∧
    ((∀ q ∈ p.operators, q.comparesCharacters = false) → ∀ ignoreCase cultureSensitive,
      p.matchAt (s.readWith { s.options with ignoreCase, cultureSensitive }) start =
        p.matchAt s start) := by
  refine ⟨?_, ?_, ?_, ?_⟩
  · intro absent singleline
    have agree : ∀ q ∈ p.operators, s.options.AgreeFor { s.options with singleline } q := by
      intro q member
      refine ⟨?_, fun _ => rfl, fun _ => ⟨rfl, fun _ => rfl⟩⟩
      rintro rfl
      exact absurd member absent
    exact matchAt_readWith agree start
  · intro noStart noEnd multiline
    have agree : ∀ q ∈ p.operators, s.options.AgreeFor { s.options with multiline } q := by
      intro q member
      refine ⟨fun _ => rfl, ?_, fun _ => ⟨rfl, fun _ => rfl⟩⟩
      rintro (rfl | rfl)
      · exact absurd member noStart
      · exact absurd member noEnd
    exact matchAt_readWith agree start
  · intro regarded cultureSensitive
    have same : s.options.SameCase { s.options with cultureSensitive } := .of_exact regarded _
    have agree : ∀ q ∈ p.operators, s.options.AgreeFor { s.options with cultureSensitive } q :=
      fun _ _ => ⟨fun _ => rfl, fun _ => rfl, fun _ => same⟩
    exact matchAt_readWith agree start
  · intro compares ignoreCase cultureSensitive
    have agree : ∀ q ∈ p.operators,
        s.options.AgreeFor { s.options with ignoreCase, cultureSensitive } q := by
      intro q member
      refine ⟨fun _ => rfl, fun _ => rfl, fun compared => ?_⟩
      rw [compares q member] at compared
      contradiction
    exact matchAt_readWith agree start

/--
In multiline reading `^([\D])$` finds the `K` between two line ends, whatever is said about wildcards
and case. Without anchors, the letter and what follows it are found in any reading of line ends, and by
any mapping as long as case is regarded.
-/
theorem matchAt_switches_line :
    let p : Pattern := .sequence
      [.lineStart, .group (.charClass {} [.negation .digit]) 1, .lineEnd]
    let q : Pattern := .sequence [.literal 'K', .charClass { singles := ['k'] } [.space]]
    let s : Subject := { text := #['1', '\n', 'K', '\n'], options := { multiline := true } }
    .anyChar ∉ p.operators ∧ (∀ r ∈ p.operators, r.comparesCharacters = false) ∧
      p.matchAt s 2 = some { start := 2, stop := 3, groups := (∅ : Captures).insert 1 ⟨2, 3⟩ } ∧
      p.matchAt (s.readWith { multiline := true, singleline := true }) 2 = p.matchAt s 2 ∧
      p.matchAt (s.readWith { multiline := true, ignoreCase := true, cultureSensitive := true }) 2 =
        p.matchAt s 2 ∧
    .lineStart ∉ q.operators ∧ .lineEnd ∉ q.operators ∧ s.options.ignoreCase = false ∧
      q.matchAt s 2 = some { start := 2, stop := 4, groups := ∅ } ∧
      q.matchAt (s.readWith {}) 2 = q.matchAt s 2 ∧
      q.matchAt (s.readWith { multiline := true, cultureSensitive := true }) 2 = q.matchAt s 2 := by
  intro p q s
  have ofP := matchAt_switches p s 2
  have ofQ := matchAt_switches q s 2
  have noWildcard : .anyChar ∉ p.operators := by decide
  have compares : ∀ r ∈ p.operators, r.comparesCharacters = false := by decide
  have noStart : .lineStart ∉ q.operators := by decide
  have noEnd : .lineEnd ∉ q.operators := by decide
  exact ⟨noWildcard, compares, by decide, ofP.1 noWildcard true, ofP.2.2.2 compares true true,
    noStart, noEnd, rfl, by decide, ofQ.2.1 noStart noEnd false, ofQ.2.2.1 rfl true⟩

end Pattern
end Rematch
