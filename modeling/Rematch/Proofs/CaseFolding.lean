import Rematch.Proofs.Lockstep

/-!
# Characters up to case

If case is disregarded, an attempt sees a character only as what it folds to and as a line end, a
digit, a word character or a blank. Two texts that agree in these at every place have the same matches,
as long as folding keeps the characters of a range between the folded ends.
-/

namespace Rematch

/-! ## Characters that are read alike -/

structure Options.Alike (options : Options) (c d : Char) : Prop where
  fold : options.fold c = options.fold d
  newline : Text.isNewline c = Text.isNewline d
  decimal : Text.isDecimal c = Text.isDecimal d
  word : Text.isWordChar c = Text.isWordChar d
  space : Text.isSpace c = Text.isSpace d

/-- Folding keeps every character of a range between the folded ends. -/
def CharRange.FoldsWithin (range : CharRange) (options : Options) : Prop :=
  ∀ c, range.contains c = true →
    options.fold range.first ≤ options.fold c ∧ options.fold c ≤ options.fold range.last

section Sets

variable {set : CharSet} {options : Options}

theorem CharSet.containsFolded_of_contains
    (within : ∀ range ∈ set.ranges, range.FoldsWithin options) {c : Char}
    (h : set.contains c = true) : set.containsFolded options.fold c = true := by
  simp only [contains, containsFolded, Bool.or_eq_true, List.contains_iff_mem, List.any_eq_true,
    Bool.and_eq_true, decide_eq_true_eq] at h ⊢
  rcases h with single | ⟨range, member, inside⟩
  · exact .inl ⟨c, single, by simp⟩
  · exact .inr ⟨range, member, within range member c inside⟩

theorem CharSet.accepts_congr (within : ∀ range ∈ set.ranges, range.FoldsWithin options) {c d : Char}
    (same : options.fold c = options.fold d) : set.accepts options c = set.accepts options d := by
  by_cases disregarded : options.ignoreCase = true
  · -- being listed as written adds nothing to being listed up to case
    have folded : ∀ e, set.accepts options e = set.containsFolded options.fold e := by
      intro e
      rw [accepts, disregarded, Bool.true_and, Bool.or_eq_right_iff_imp]
      exact containsFolded_of_contains within
    rw [folded, folded, containsFolded, containsFolded, same]
  · rw [Bool.not_eq_true] at disregarded
    rw [Options.fold_of_exact disregarded, Options.fold_of_exact disregarded] at same
    rw [same]

end Sets

/-! ## Texts that are read alike -/

namespace Subject

/-- Two texts of one length under the same options whose characters are alike, place by place. -/
structure Resembles (s s' : Subject) : Prop where
  options : s.options = s'.options
  size : s.size = s'.size
  alike : ∀ {pos c c'}, s.char? pos = some c → s'.char? pos = some c' → s.options.Alike c c'

namespace Resembles

variable {s s' : Subject} (h : s.Resembles s')

include h

theorem map_char? {β : Type} {f : Char → β} (hf : ∀ {c d}, s.options.Alike c d → f c = f d)
    (pos : Nat) : (s.char? pos).map f = (s'.char? pos).map f := by
  have there := Pattern.isSome_char?_congr h.size pos
  cases hc : s.char? pos with
  | none => simp_all
  | some c =>
      cases hd : s'.char? pos with
      | none => simp_all
      | some d => rw [Option.map_some, Option.map_some, hf (h.alike hc hd)]

theorem any_char? {accept : Char → Bool} (hf : ∀ {c d}, s.options.Alike c d → accept c = accept d)
    (pos : Nat) : (s.char? pos).any accept = (s'.char? pos).any accept := by
  have same := h.map_char? hf pos
  cases hc : s.char? pos <;> cases hd : s'.char? pos <;> simp_all

theorem any_charBefore? {accept : Char → Bool}
    (hf : ∀ {c d}, s.options.Alike c d → accept c = accept d) :
    (pos : Nat) → (s.charBefore? pos).any accept = (s'.charBefore? pos).any accept
  | 0 => rfl
  | pos + 1 => h.any_char? hf pos

theorem take?_congr {accept : Char → Bool}
    (hf : ∀ {c d}, s.options.Alike c d → accept c = accept d) (pos : Nat) :
    s.take? accept pos = s'.take? accept pos := by
  rw [take?, take?, h.any_char? hf]

theorem fold_eq : s.fold = s'.fold := by
  funext c
  rw [fold, fold, h.options]

theorem map_fold_text : s.text.map s.fold = s'.text.map s'.fold := by
  refine Array.ext_getElem? fun pos => ?_
  rw [Array.getElem?_map, Array.getElem?_map, ← h.fold_eq]
  exact h.map_char? (fun alike => alike.fold) pos

theorem map_fold_slice (start stop : Nat) :
    (s.slice start stop).map s.fold = (s'.slice start stop).map s'.fold := by
  simp only [slice, ← Array.toList_map, Array.map_extract, h.map_fold_text]

theorem again?_congr (span : Span) (pos : Nat) : s.again? span pos = s'.again? span pos := by
  refine ite_congr ?_ (fun _ => rfl) fun _ => rfl
  rw [spanText, spanText, h.size, h.map_fold_slice, h.map_fold_slice]

end Resembles
end Subject

/-! ## Matches -/

namespace Pattern

variable {s s' : Subject}

theorem simpleStop?_resembles (h : s.Resembles s') (p : Pattern) (captures : Captures) (pos : Nat) :
    simpleStop? s captures pos p = simpleStop? s' captures pos p := by
  cases p with
  | literal c =>
      show s.take? (fun d => s.fold d == s.fold c) pos = s'.take? (fun d => s'.fold d == s'.fold c) pos
      rw [← h.fold_eq]
      exact h.take?_congr (fun alike => congrArg (· == s.fold c) alike.fold) pos
  | anyChar =>
      show s.take? (fun d => s.options.singleline || !Text.isNewline d) pos =
        s'.take? (fun d => s'.options.singleline || !Text.isNewline d) pos
      rw [← h.options]
      exact h.take?_congr (fun alike => by rw [alike.newline]) pos
  | digit => exact h.take?_congr (fun alike => alike.decimal) pos
  | word => exact h.take?_congr (fun alike => alike.word) pos
  | space => exact h.take?_congr (fun alike => alike.space) pos
  | lineStart =>
      show Subject.stay? (s.atStart pos) pos = Subject.stay? (s'.atStart pos) pos
      rw [Subject.atStart, Subject.atStart, ← h.options, h.any_charBefore? fun alike => alike.newline]
  | lineEnd =>
      show Subject.stay? (s.atEnd pos) pos = Subject.stay? (s'.atEnd pos) pos
      rw [Subject.atEnd, Subject.atEnd, ← h.options, h.size, h.any_char? fun alike => alike.newline]
  | wordEdge =>
      show Subject.stay? (s.atBoundary pos) pos = Subject.stay? (s'.atBoundary pos) pos
      rw [Subject.atBoundary, Subject.atBoundary, h.any_charBefore? fun alike => alike.word,
        h.any_char? fun alike => alike.word]
  | backreference index =>
      cases found : captures[index]? with
      | none => rw [simpleStop?_of_uncaptured found, simpleStop?_of_uncaptured found]
      | some span =>
          rw [simpleStop?_of_captured found, simpleStop?_of_captured found]
          exact h.again?_congr span pos
  | _ => rfl

theorem readsAlike_of_resembles (h : s.Resembles s') {p : Pattern}
    (within : ∀ set specials, p = .charClass set specials →
      ∀ range ∈ set.ranges, range.FoldsWithin s.options) : ReadsAlike s s' p where
  simple := simpleStop?_resembles h p
  listed := fun {set specials} hp pos => by
    rw [← h.options]
    exact h.map_char? (fun alike => set.accepts_congr (within set specials hp) alike.fold) pos

/--
Texts that are read alike have the same matches with the same groups, one by one and from left to
right, if folding keeps the characters of every range of the pattern between the folded ends.
-/
theorem matches_of_resembles {p : Pattern} (h : s.Resembles s')
    (within : ∀ set specials, .charClass set specials ∈ p.operators →
      ∀ range ∈ set.ranges, range.FoldsWithin s.options) :
    (∀ start, p.matchAt s start = p.matchAt s' start) ∧ p.search s = p.search s' ∧
      p.allMatches s = p.allMatches s' := by
  have alike : ∀ q ∈ p.operators, ReadsAlike s s' q := by
    rintro q member
    refine readsAlike_of_resembles h ?_
    rintro set specials rfl
    exact within set specials member
  have attempts := matchAt_congr h.size alike
  exact ⟨attempts, search_congr h.size attempts, allMatches_congr h.size attempts⟩

/--
The Kelvin sign is read as a `k` by a literal, a backreference and a range, and so are the capital
and the small letter.
-/
theorem matches_of_resembles_kelvin :
    let p : Pattern := .sequence [.group (.literal 'k') 1, .backreference 1,
      .charClass { ranges := [⟨'j', 'l'⟩] } [.space]]
    let s : Subject := { text := #['K', 'k', '\u212a'], options := { ignoreCase := true } }
    let s' : Subject := { text := #['\u212a', 'K', 'k'], options := { ignoreCase := true } }
    s.Resembles s' ∧ (⟨'j', 'l'⟩ : CharRange).FoldsWithin s.options ∧
      p.matchAt s 0 = some { start := 0, stop := 3, groups := (∅ : Captures).insert 1 ⟨0, 1⟩ } ∧
      p.matchAt s' 0 = p.matchAt s 0 ∧ p.allMatches s' = p.allMatches s := by
  intro p s s'
  have resembles : s.Resembles s' := by
    refine ⟨rfl, rfl, fun {pos c c'} hc hc' => ?_⟩
    match pos, hc, hc' with
    | 0, hc, hc' | 1, hc, hc' | 2, hc, hc' =>
        obtain ⟨rfl⟩ := Option.some.inj hc
        obtain ⟨rfl⟩ := Option.some.inj hc'
        exact ⟨by decide, by decide, by decide, by decide, by decide⟩
  have within : (⟨'j', 'l'⟩ : CharRange).FoldsWithin s.options := by
    intro c inside
    have ends := (CharRange.contains_iff _ c).mp inside
    have listed : c = 'j' ∨ c = 'k' ∨ c = 'l' := by
      have first : 106 ≤ c.toNat := ends.1
      have last : c.toNat ≤ 108 := ends.2
      simp only [← Char.toNat_inj]
      change c.toNat = 106 ∨ c.toNat = 107 ∨ c.toNat = 108
      omega
    rcases listed with rfl | rfl | rfl <;> decide
  have ranges : ∀ set specials, .charClass set specials ∈ p.operators →
      ∀ range ∈ set.ranges, range.FoldsWithin s.options := by
    intro set specials member
    obtain ⟨rfl, rfl⟩ : set = { ranges := [⟨'j', 'l'⟩] } ∧ specials = [.space] := by
      simpa [p, operators, partOperators] using member
    simpa using within
  obtain ⟨attempts, _, walks⟩ := matches_of_resembles resembles ranges
  exact ⟨resembles, within, by decide, (attempts 0).symm, walks.symm⟩

end Pattern
end Rematch
