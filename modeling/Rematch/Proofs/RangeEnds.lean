import Rematch.Proofs.RoundTrip

/-!
# The ends of a range

A range with its ends written so that neither of them closes, escapes, negates or joins. The last end
may be an escape. The first may not: a backslash between brackets always begins an escape of its own, so
the hyphen behind it joins nothing.
-/

namespace Rematch
namespace Pattern

/-! ## Written ranges -/

/--
A character as it is written at the end of a range: a line end or a tab by its letter, a character with
a meaning between brackets behind a backslash.
-/
def endText (c : Char) : List Char :=
  if c = '\n' then ['\\', 'n']
  else if c = '\r' then ['\\', 'r']
  else if c = '\t' then ['\\', 't']
  else if classSigns.contains c then ['\\', c]
  else [c]

def rangeText (first last : Char) : List Char :=
  '[' :: (endText first ++ '-' :: (endText last ++ [']']))

theorem endText_cases (c : Char) :
    (∃ x, endText c = ['\\', x] ∧ Token.escapedChar x = c ∧ Token.escapedEntry x = .single c) ∨
      (endText c = [c] ∧ c ≠ ']' ∧ c ≠ '\\' ∧ c ≠ '^' ∧ c ≠ '-') := by
  unfold endText
  split
  · rename_i control
    exact .inl ⟨'n', rfl, control.symm, by rw [control]; rfl⟩
  · split
    · rename_i control
      exact .inl ⟨'r', rfl, control.symm, by rw [control]; rfl⟩
    · split
      · rename_i control
        exact .inl ⟨'t', rfl, control.symm, by rw [control]; rfl⟩
      · split
        · rename_i sign
          refine .inl ⟨c, rfl, ?_⟩
          simp only [classSigns, List.contains_iff_mem, List.mem_cons, List.not_mem_nil, or_false]
            at sign
          rcases sign with rfl | rfl | rfl | rfl
          all_goals exact ⟨rfl, rfl⟩
        · rename_i plain
          exact .inr ⟨rfl, by simpa [classSigns] using plain⟩

end Pattern

namespace Token

open Pattern

/-- The last end is read whether it is an escape or not, if the first end is none. -/
theorem scanClassEntries_rangeEnds {first : Char} (plain : endText first = [first]) (last : Char)
    (rest : List Char) :
    scanClassEntries (endText first ++ '-' :: (endText last ++ ']' :: rest)) =
      some ([.range first last], rest) := by
  obtain ⟨x, escaped, _⟩ | ⟨_, notClosing, notEscape, _⟩ := endText_cases first
  · rw [plain] at escaped
    simp at escaped
  rw [plain]
  rcases endText_cases last with ⟨y, written, meaning, _⟩ | ⟨written, notClosing', notEscape', _⟩
  · have scanned := scanClassEntries.eq_4 first y (']' :: rest) notClosing notEscape
    simp [written, meaning, scanned, scanClassEntries]
  · have scanned := scanClassEntries_range notClosing notEscape notClosing' notEscape' (']' :: rest)
    simp [written, scanned, scanClassEntries]

/-- Behind an escape the hyphen stands for itself. -/
theorem scanClassEntries_escapedEnd {first : Char} (escaped : endText first ≠ [first]) (last : Char)
    (rest : List Char) :
    scanClassEntries (endText first ++ '-' :: (endText last ++ ']' :: rest)) =
      some ([.single first, .single '-', .single last], rest) := by
  obtain ⟨x, written, _, meaning⟩ | ⟨plain, _⟩ := endText_cases first
  · rw [written]
    rcases endText_cases last with ⟨y, written', _, meaning'⟩ | ⟨written', closes, escapes, _, joins⟩
    · have hyphen := @scanClassEntries_single '-' '\\' (by decide) (by decide) (by decide)
        (y :: ']' :: rest)
      simp [scanClassEntries, written', meaning, meaning', hyphen]
    · have hyphen := @scanClassEntries_single '-' last (by decide) (by decide) joins (']' :: rest)
      have single := @scanClassEntries_single last ']' closes escapes (by decide) rest
      simp [scanClassEntries, written', meaning, hyphen, single]
  · exact absurd plain escaped

end Token

namespace Pattern

theorem parse_of_plain {text : List Char} {p : Pattern} (plain : Token.Plain text (.item p) [])
    (noSign : Token.scanRepeats text = none) : parse text = .ok p :=
  parse_eq_ok_iff.mpr ⟨_, Reader.reads_item plain noSign, rfl, rfl⟩

theorem head_endText (c : Char) (rest : List Char) : (endText c ++ rest).head? ≠ some '^' := by
  rcases endText_cases c with ⟨x, written, _⟩ | ⟨written, _, _, negates, _⟩
  · simp [written]
  · simpa [written] using negates

theorem compile_rangeText {first last : Char} {entry : Token.ClassEntry}
    {entries : List Token.ClassEntry}
    (scanned : Token.scanClassEntries (endText first ++ '-' :: (endText last ++ [']'])) =
      some (entry :: entries, [])) :
    compile (String.ofList (rangeText first last)) =
      .ok (Token.ClassEntry.toPattern (entry :: entries)) := by
  have scannedClass := Token.scanClass_eq_some_iff.mpr
    ⟨entry, entries, .inr ⟨head_endText first _, scanned, rfl⟩⟩
  rw [compile, String.toList_ofList]
  exact parse_of_plain (.charClass scannedClass) rfl

/-- If case is regarded, a class without specials takes the characters of its set, one by one. -/
theorem matchAt_charClass_iff {s : Subject} (exact : s.options.ignoreCase = false) {set : CharSet}
    {pos : Nat} {m : Match} :
    (Pattern.charClass set []).matchAt s pos = some m ↔
      ∃ c, s.char? pos = some c ∧ set.contains c = true ∧
        m = { start := pos, stop := pos + 1, groups := ∅ } := by
  by_cases inside : pos ≤ s.size
  · rw [matchAt_eq_results rfl s inside]
    cases here : s.char? pos with
    | none => simp [results, singleStop?, specialHolds, here]
    | some c =>
        by_cases member : set.contains c = true
        · simp [results, singleStop?, specialHolds, here, CharSet.accepts_of_exact set exact, member]
          exact eq_comm
        · simp [results, singleStop?, specialHolds, anySpecialHolds, here,
            CharSet.accepts_of_exact set exact, member]
  · have beyond : s.char? pos = none := Array.getElem?_eq_none (Nat.le_of_not_le inside)
    simp [matchAt_of_size_lt _ (Nat.lt_of_not_le inside), beyond]

theorem contains_between (a b c : Char) :
    (CharRange.between a b).contains c = true ↔ (a ≤ c ∧ c ≤ b) ∨ (b ≤ c ∧ c ≤ a) := by
  rw [CharRange.between]
  split
  · rename_i reversed
    rw [CharRange.contains_iff]
    refine ⟨.inr, fun inside => inside.resolve_left ?_⟩
    rintro ⟨above, below⟩
    exact Char.not_le.mpr reversed (Char.le_trans above below)
  · rename_i ordered
    rw [CharRange.contains_iff]
    refine ⟨.inl, fun inside => ?_⟩
    rcases inside with inside | ⟨above, below⟩
    · exact inside
    · have le := Char.not_lt.mp ordered
      exact ⟨Char.le_trans le above, Char.le_trans below le⟩

/--
A hyphen between two characters makes a range of them if the first is written as it is, whether the last
one is an escape or not. The class takes the characters between the two, whichever of them is the smaller.
If the first is written as an escape, the hyphen joins nothing: the class takes the three characters that
stand in it.
-/
theorem range_of_plain_first (first last : Char) :
    (endText first = [first] →
      let range : Pattern := .charClass { ranges := [.between first last] } []
      compile (String.ofList (rangeText first last)) = .ok range ∧
        ∀ (s : Subject) (pos : Nat) (m : Match), s.options.ignoreCase = false →
          (range.matchAt s pos = some m ↔
            ∃ c, s.char? pos = some c ∧ ((first ≤ c ∧ c ≤ last) ∨ (last ≤ c ∧ c ≤ first)) ∧
              m = { start := pos, stop := pos + 1, groups := ∅ })) ∧
    (endText first ≠ [first] →
      let entries : Pattern := .charClass { singles := [first, '-', last] } []
      compile (String.ofList (rangeText first last)) = .ok entries ∧
        ∀ (s : Subject) (pos : Nat) (m : Match), s.options.ignoreCase = false →
          (entries.matchAt s pos = some m ↔
            ∃ c, s.char? pos = some c ∧ (c = first ∨ c = '-' ∨ c = last) ∧
              m = { start := pos, stop := pos + 1, groups := ∅ })) := by
  constructor
  · intro plain range
    refine ⟨compile_rangeText (Token.scanClassEntries_rangeEnds plain last []), ?_⟩
    intro s pos m exact
    rw [matchAt_charClass_iff exact]
    simp only [CharSet.contains, List.contains_nil, Bool.false_or, List.any_cons, List.any_nil,
      Bool.or_false, contains_between]
  · intro escaped entries
    refine ⟨compile_rangeText (Token.scanClassEntries_escapedEnd escaped last []), ?_⟩
    intro s pos m exact
    rw [matchAt_charClass_iff exact]
    simp only [CharSet.contains, List.any_nil, Bool.or_false, List.contains_iff_mem, List.mem_cons,
      List.not_mem_nil, or_false]

/--
A plus sign and a tab, of which the tab is an escape, in both orders. The line feed lies between them; the
class that the escape begins does not take it.
-/
theorem range_of_plain_first_tab :
    let range : Pattern := .charClass { ranges := [⟨'\t', '+'⟩] } []
    let entries : Pattern := .charClass { singles := ['\t', '-', '+'] } []
    let s : Subject := { text := #['\n'] }
    (endText '+' = ['+'] ∧ compile "[+-\\t]" = .ok range ∧
        range.matchAt s 0 = some { start := 0, stop := 1, groups := ∅ }) ∧
      (endText '\t' ≠ ['\t'] ∧ compile "[\\t-+]" = .ok entries ∧ entries.matchAt s 0 = none) := by
  intro range entries s
  obtain ⟨compiled, takes⟩ := (range_of_plain_first '+' '\t').1 rfl
  obtain ⟨compiled', takes'⟩ := (range_of_plain_first '\t' '+').2 (by decide)
  refine ⟨⟨rfl, compiled, (takes s 0 _ rfl).mpr ⟨'\n', rfl, by decide, rfl⟩⟩, by decide, compiled', ?_⟩
  apply Option.eq_none_iff_forall_ne_some.mpr
  intro m found
  obtain ⟨c, here, listed, _⟩ := (takes' s 0 m rfl).mp found
  obtain rfl : '\n' = c := Option.some.inj here
  exact absurd listed (by decide)

/--
The pattern `[\]-a]`, whose first end is an escape, is not the range from the bracket to `a`, and does not
match the low line that lies between them, as the range does.
-/
theorem range_of_plain_first_failures :
    let range : Pattern := .charClass { ranges := [.between ']' 'a'] } []
    let entries : Pattern := .charClass { singles := [']', '-', 'a'] } []
    let s : Subject := { text := #['_'] }
    String.ofList (rangeText ']' 'a') = "[\\]-a]" ∧
      compile "[\\]-a]" = .ok entries ∧ entries ≠ range ∧ entries.matchAt s 0 = none ∧
      range.matchAt s 0 = some { start := 0, stop := 1, groups := ∅ } := by
  intro range entries s
  exact ⟨rfl, by rfl, by decide, by decide, by decide⟩

end Pattern
end Rematch
