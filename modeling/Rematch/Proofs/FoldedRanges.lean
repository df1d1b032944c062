import Rematch.Proofs.CaseFolding

/-!
# Ranges without case

If case is disregarded, a range takes its own characters and what folds to something between its folded
ends. This is what folds like one of its characters if the range folds onto what lies between the folded
ends, as a run of capitals does. A range over capitals and other characters may not: its folded ends may
have other characters between them, or stand the wrong way round.
-/

namespace Rematch

variable {options : Options}

/-! ## Ranges that fold onto an interval -/

namespace CharRange

def Spans (range : CharRange) (options : Options) (c : Char) : Prop :=
  options.fold range.first ≤ options.fold c ∧ options.fold c ≤ options.fold range.last

/--
A range that folds onto what lies between its folded ends, but for characters of which the range has all
that fold like them.
-/
structure FoldsOnto (range : CharRange) (options : Options) : Prop where
  kept : ∀ {d}, range.contains d = true →
    range.Spans options d ∨ ∀ c, options.fold d = options.fold c → range.contains c = true
  covered : ∀ {c}, range.Spans options c →
    ∃ d, options.fold d = options.fold c ∧ range.contains d = true

theorem foldsOnto_iff {range : CharRange} :
    range.FoldsOnto options ↔
      ∀ c, range.contains c = true ∨ range.Spans options c ↔
        ∃ d, options.fold d = options.fold c ∧ range.contains d = true := by
  constructor
  · intro onto c
    constructor
    · rintro (inside | between)
      · exact ⟨c, rfl, inside⟩
      · exact onto.covered between
    · rintro ⟨d, same, inside⟩
      rcases onto.kept inside with between | all
      · right
        rwa [Spans, ← same]
      · exact .inl (all c same)
  · intro exact
    refine ⟨fun {d} inside => ?_, fun between => (exact _).mp (.inr between)⟩
    by_cases between : range.Spans options d
    · exact .inl between
    · refine .inr fun c same => ((exact c).mpr ⟨d, same, inside⟩).resolve_right ?_
      rwa [Spans, ← same]

theorem contains_iff_toNat (range : CharRange) (c : Char) :
    range.contains c = true ↔ range.first.toNat ≤ c.toNat ∧ c.toNat ≤ range.last.toNat :=
  range.contains_iff c

def chars (range : CharRange) : List Char :=
  (List.range' range.first.toNat (range.last.toNat + 1 - range.first.toNat)).map Char.ofNat

theorem of_all_chars {range : CharRange} {holds : Char → Bool} (h : range.chars.all holds = true)
    {c : Char} (inside : range.contains c = true) : holds c = true := by
  obtain ⟨above, below⟩ := (range.contains_iff_toNat c).mp inside
  have member : c ∈ range.chars :=
    List.mem_map.mpr ⟨c.toNat, List.mem_range'_1.mpr ⟨above, by omega⟩, Char.ofNat_toNat c⟩
  exact List.all_eq_true.mp h c member

theorem FoldsOnto.of_shift {range : CharRange} {distance : Nat} (ordered : range.first ≤ range.last)
    (gapless : ∀ n, range.first.toNat ≤ n → n ≤ range.last.toNat → n.isValidChar)
    (shift : ∀ c, range.contains c = true → (options.fold c).toNat = c.toNat + distance) :
    range.FoldsOnto options := by
  have first := shift _ ((range.contains_iff _).mpr ⟨Char.le_refl _, ordered⟩)
  have last := shift _ ((range.contains_iff _).mpr ⟨ordered, Char.le_refl _⟩)
  constructor
  · intro d inside
    have ends := (range.contains_iff_toNat d).mp inside
    have folded := shift d inside
    left
    constructor
    · show (options.fold range.first).toNat ≤ (options.fold d).toNat
      omega
    · show (options.fold d).toNat ≤ (options.fold range.last).toNat
      omega
  · rintro c ⟨above, below⟩
    replace above : (options.fold range.first).toNat ≤ (options.fold c).toNat := above
    replace below : (options.fold c).toNat ≤ (options.fold range.last).toNat := below
    -- the character that lies so far in front of what `c` folds to
    have valid : ((options.fold c).toNat - distance).isValidChar :=
      gapless _ (by omega) (by omega)
    let d := Char.ofNatAux _ valid
    have number : d.toNat = (options.fold c).toNat - distance := rfl
    have inside : range.contains d = true := (range.contains_iff_toNat d).mpr (by omega)
    have same : (options.fold d).toNat = (options.fold c).toNat := by
      rw [shift d inside]
      omega
    exact ⟨d, Char.toNat_inj.mp same, inside⟩

/--
The range runs over no gap among the characters, and its characters are all at one distance from what they
fold to, as can be checked one after the other.
-/
def shiftsBy (range : CharRange) (options : Options) (distance : Nat) : Bool :=
  range.first ≤ range.last && (range.last.toNat < 0xd800 || 0xdfff < range.first.toNat) &&
    range.chars.all fun c => (options.fold c).toNat == c.toNat + distance

theorem FoldsOnto.of_shiftsBy {range : CharRange} {distance : Nat}
    (h : range.shiftsBy options distance = true) : range.FoldsOnto options := by
  simp only [shiftsBy, Bool.and_eq_true, Bool.or_eq_true, decide_eq_true_eq] at h
  obtain ⟨⟨ordered, gapless⟩, shift⟩ := h
  have valid : range.last.toNat < 0xd800 ∨ 0xdfff < range.last.toNat ∧ range.last.toNat < 0x110000 :=
    range.last.valid
  have shifted : ∀ c, range.contains c = true → (options.fold c).toNat = c.toNat + distance :=
    fun c inside => beq_iff_eq.mp (of_all_chars shift inside)
  refine of_shift ordered (fun n above below => ?_) shifted
  show n < 0xd800 ∨ 0xdfff < n ∧ n < 0x110000
  omega

end CharRange

/-! ## Classes -/

namespace CharSet

variable {set : CharSet}

def ContainsAlike (set : CharSet) (options : Options) (c : Char) : Prop :=
  ∃ d, options.fold d = options.fold c ∧ set.contains d = true

theorem accepts_iff (disregarded : options.ignoreCase = true) (c : Char) :
    set.accepts options c = true ↔
      (∃ single ∈ set.singles, options.fold single = options.fold c) ∨
        ∃ range ∈ set.ranges, range.contains c = true ∨ range.Spans options c := by
  simp only [accepts, contains, containsFolded, CharRange.Spans, disregarded, Bool.true_and,
    Bool.or_eq_true, List.contains_iff_mem, List.any_eq_true, Bool.and_eq_true, decide_eq_true_eq,
    beq_iff_eq]
  constructor
  · rintro ((single | ⟨range, member, inside⟩) | single | ⟨range, member, between⟩)
    · exact .inl ⟨c, single, rfl⟩
    · exact .inr ⟨range, member, .inl inside⟩
    · exact .inl single
    · exact .inr ⟨range, member, .inr between⟩
  · rintro (single | ⟨range, member, inside | between⟩)
    · exact .inr (.inl single)
    · exact .inl (.inr ⟨range, member, inside⟩)
    · exact .inr (.inr ⟨range, member, between⟩)

theorem containsAlike_iff (c : Char) :
    set.ContainsAlike options c ↔
      (∃ single ∈ set.singles, options.fold single = options.fold c) ∨
        ∃ range ∈ set.ranges, ∃ d, options.fold d = options.fold c ∧ range.contains d = true := by
  simp only [ContainsAlike, contains, Bool.or_eq_true, List.contains_iff_mem, List.any_eq_true]
  constructor
  · rintro ⟨d, same, single | ⟨range, member, inside⟩⟩
    · exact .inl ⟨d, single, same⟩
    · exact .inr ⟨range, member, d, same, inside⟩
  · rintro (⟨single, member, same⟩ | ⟨range, member, d, same, inside⟩)
    · exact ⟨single, same, .inl member⟩
    · exact ⟨d, same, .inr ⟨range, member, inside⟩⟩

theorem accepts_iff_containsAlike (disregarded : options.ignoreCase = true)
    (onto : ∀ range ∈ set.ranges, range.FoldsOnto options) (c : Char) :
    set.accepts options c = true ↔ set.ContainsAlike options c := by
  rw [accepts_iff disregarded, containsAlike_iff]
  refine or_congr_right (exists_congr fun range => and_congr_right fun member => ?_)
  exact CharRange.foldsOnto_iff.mp (onto range member) c

/-- A range on its own is read up to case exactly if it folds onto what lies between its folded ends. -/
theorem accepts_range_iff (disregarded : options.ignoreCase = true) (range : CharRange) :
    (∀ c, ({ ranges := [range] } : CharSet).accepts options c = true ↔
        ({ ranges := [range] } : CharSet).ContainsAlike options c) ↔ range.FoldsOnto options := by
  simp only [accepts_iff disregarded, containsAlike_iff, CharRange.foldsOnto_iff,
    List.mem_singleton, exists_eq_left, List.not_mem_nil, false_and, exists_false, false_or]

end CharSet

namespace Pattern

/--
If case is disregarded, a class without specials whose ranges fold onto what lies between their folded
ends takes the next character exactly if that folds like one of its singles or like a character of one of
its ranges, in any memory and under any number. Characters that fold alike are taken together. A range
folds so if its characters are all at one distance from what they fold to. No weaker condition on a range
will do: it is what the range needs where it stands on its own.
-/
theorem charClass_takes_up_to_case (s : Subject) (disregarded : s.options.ignoreCase = true)
    (set : CharSet) (onto : ∀ range ∈ set.ranges, range.FoldsOnto s.options) :
    (∀ (number : Nat) (m : Memory) {pos : Nat} {c : Char}, s.char? pos = some c →
      let outcome := ((Pattern.charClass set []).matcher s number).run pos m
      (outcome = .matched (pos + 1) m ↔ set.ContainsAlike s.options c) ∧
        (outcome = .failed m ↔ ¬ set.ContainsAlike s.options c)) ∧
      (∀ c d, s.options.fold c = s.options.fold d →
        set.accepts s.options c = set.accepts s.options d) ∧
      (∀ (range : CharRange) (distance : Nat), range.shiftsBy s.options distance = true →
        range.FoldsOnto s.options) ∧
      ∀ range : CharRange,
        (∀ c, ({ ranges := [range] } : CharSet).accepts s.options c = true ↔
          ({ ranges := [range] } : CharSet).ContainsAlike s.options c) ↔ range.FoldsOnto s.options := by
  have exact := CharSet.accepts_iff_containsAlike disregarded onto
  refine ⟨fun number m pos c there => ?_, fun c d same => ?_, fun _ _ => .of_shiftsBy,
    CharSet.accepts_range_iff disregarded⟩
  · intro outcome
    have read : outcome = if set.accepts s.options c then .matched (pos + 1) m else .failed m := by
      simp only [outcome, matcher, Matcher.single, singleStop?, specialHolds, anySpecialHolds, there,
        Bool.or_false]
      split <;> simp_all
    rw [read, ← exact]
    split <;> simp_all
  · rw [Bool.eq_iff_iff, exact, exact, CharSet.ContainsAlike, CharSet.ContainsAlike, same]

/--
The Kelvin sign folds like the capital `K`, which is in the range; a digit folds like nothing in the
class.
-/
theorem charClass_takes_up_to_case_kelvin :
    let s : Subject := { text := #['\u212a', '1'], options := { ignoreCase := true } }
    let set : CharSet := { ranges := [⟨'A', 'Z'⟩], singles := ['_'] }
    s.options.ignoreCase = true ∧ (∀ range ∈ set.ranges, range.FoldsOnto s.options) ∧
      ((Pattern.charClass set []).matcher s 3).run 0 ∅ = .matched 1 ∅ ∧
      ((Pattern.charClass set []).matcher s 3).run 1 ∅ = .failed ∅ ∧
      set.accepts s.options 'k' = set.accepts s.options '\u212a' := by
  intro s set
  have onto : ∀ range ∈ set.ranges, range.FoldsOnto s.options := by
    intro range member
    obtain rfl := List.mem_singleton.mp member
    have shifts : (⟨'A', 'Z'⟩ : CharRange).shiftsBy s.options 32 = true := by decide
    exact .of_shiftsBy shifts
  obtain ⟨takes, together, -⟩ := charClass_takes_up_to_case s rfl set onto
  have kelvin : set.ContainsAlike s.options '\u212a' := ⟨'K', by decide, by decide⟩
  have other : ¬ set.ContainsAlike s.options '1' := by
    rw [← CharSet.accepts_iff_containsAlike rfl onto]
    decide
  exact ⟨rfl, onto, (takes 3 ∅ rfl).1.mpr kelvin, (takes 3 ∅ rfl).2.mpr other,
    together 'k' '\u212a' (by decide)⟩

/--
The ends of `[Z-a]` fold to `z` and `a`, which have nothing between them: the class takes an `a` but not
the capital `A`. Between what the ends of `[@-A]` fold to there is `[`, which folds like neither.
-/
theorem charClass_takes_up_to_case_failures :
    let options : Options := { ignoreCase := true }
    let crossed : CharSet := { ranges := [⟨'Z', 'a'⟩] }
    let wide : CharSet := { ranges := [⟨'@', 'A'⟩] }
    (options.fold 'a' = options.fold 'A' ∧ crossed.ContainsAlike options 'A' ∧
      (Pattern.charClass crossed []).matchAt { text := #['a'], options } 0 =
        some { start := 0, stop := 1, groups := ∅ } ∧
      (Pattern.charClass crossed []).matchAt { text := #['A'], options } 0 = none) ∧
    ¬ wide.ContainsAlike options '[' ∧
      (Pattern.charClass wide []).matchAt { text := #['['], options } 0 =
        some { start := 0, stop := 1, groups := ∅ } := by
  intro options crossed wide
  refine ⟨⟨by decide, ⟨'a', by decide, by decide⟩, by decide, by decide⟩, ?_, by decide⟩
  have apart : (⟨'@', 'A'⟩ : CharRange).chars.all
      (fun d => options.fold d != options.fold '[') = true := by
    decide
  rintro ⟨d, same, inside⟩
  have listed : (⟨'@', 'A'⟩ : CharRange).contains d = true := by
    simpa [wide, CharSet.contains] using inside
  exact bne_iff_ne.mp (CharRange.of_all_chars apart listed) same

end Pattern
end Rematch
