import Mathlib.Data.List.Basic
import Rematch.Proofs.Expansion
import Rematch.Proofs.Pieces
import Rematch.Proofs.RoundTrip

/-!
# Words as patterns

A text that is written character by character so that every one stands for itself is a pattern that
matches the text as it is. Searching, splitting and replacing by it are what they are for texts: they
take the leftmost occurrence and go on behind it.
-/

namespace Rematch

/-! ## Occurrences of a word -/

section Words

variable {word : List Char}

theorem dropInfix?_eq_some {text before after : List Char} :
    text.dropInfix? word = some (before, after) ↔
      text = before ++ word ++ after ∧
        ∀ before' after', text = before' ++ word ++ after' → before.length ≤ before'.length := by
  rw [List.dropInfix?_eq_some_iff]
  constructor
  · rintro ⟨⟨found, same, equal⟩, least⟩
    obtain rfl := eq_of_beq equal
    exact ⟨same, fun before' after' same' => least before' found after' same' (beq_self_eq_true _)⟩
  · rintro ⟨same, least⟩
    refine ⟨⟨word, same, beq_self_eq_true word⟩, fun before' found after' same' equal => ?_⟩
    obtain rfl := eq_of_beq equal
    exact least before' after' same'

theorem dropInfix?_append (word after : List Char) :
    (word ++ after).dropInfix? word = some ([], after) :=
  dropInfix?_eq_some.mpr ⟨rfl, fun _ _ _ => Nat.zero_le _⟩

theorem dropInfix?_cons {c : Char} {text : List Char} (absent : ¬ word <+: c :: text) :
    (c :: text).dropInfix? word =
      (text.dropInfix? word).map fun (before, after) => (c :: before, after) := by
  -- Whatever stands before an occurrence begins with the first character.
  have split {before after : List Char} (same : c :: text = before ++ word ++ after) :
      ∃ before', before = c :: before' ∧ text = before' ++ word ++ after := by
    cases before with
    | nil => exact absurd ⟨after, same.symm⟩ absent
    | cons d before' =>
        obtain ⟨rfl, behind⟩ := List.cons.inj same
        exact ⟨before', rfl, behind⟩
  ext ⟨before, after⟩
  simp only [Option.map_eq_some_iff, Prod.exists, Prod.mk.injEq]
  constructor
  · intro found
    obtain ⟨same, least⟩ := dropInfix?_eq_some.mp found
    obtain ⟨before', rfl, same'⟩ := split same
    refine ⟨before', after, dropInfix?_eq_some.mpr ⟨same', fun other after' same => ?_⟩, rfl, rfl⟩
    have least := least (c :: other) after' (by rw [same]; rfl)
    simpa using least
  · rintro ⟨before', after', found, rfl, rfl⟩
    obtain ⟨same, least⟩ := dropInfix?_eq_some.mp found
    refine dropInfix?_eq_some.mpr ⟨by rw [same]; rfl, fun other after same' => ?_⟩
    obtain ⟨other', rfl, behind⟩ := split same'
    simpa using least other' after behind

theorem dropInfix?_nil_of_ne_nil (nonempty : word ≠ []) : [].dropInfix? word = none := by
  simp [List.dropInfix?, List.dropInfix?.go, nonempty]

theorem length_lt_of_dropInfix? (nonempty : word ≠ []) {text before after : List Char}
    (found : text.dropInfix? word = some (before, after)) : after.length < text.length := by
  obtain ⟨rfl, -⟩ := dropInfix?_eq_some.mp found
  have positive := List.length_pos_iff.mpr nonempty
  simp only [List.length_append]
  omega

/-- Where a word occurs in a text that begins at `start`: the leftmost occurrence, then those behind it. -/
def occurrencesFrom (nonempty : word ≠ []) (start : Nat) (text : List Char) : List Nat :=
  match found : text.dropInfix? word with
  | none => []
  | some (before, after) =>
      have := length_lt_of_dropInfix? nonempty found
      let here := start + before.length
      here :: occurrencesFrom nonempty (here + word.length) after
termination_by text.length

def splitAtWord (nonempty : word ≠ []) (text : List Char) : List (List Char) :=
  match found : text.dropInfix? word with
  | none => [text]
  | some (before, after) =>
      have := length_lt_of_dropInfix? nonempty found
      before :: splitAtWord nonempty after
termination_by text.length

def replaceWord (nonempty : word ≠ []) (replacement text : List Char) : List Char :=
  match found : text.dropInfix? word with
  | none => text
  | some (before, after) =>
      have := length_lt_of_dropInfix? nonempty found
      before ++ replacement ++ replaceWord nonempty replacement after
termination_by text.length

variable (nonempty : word ≠ []) (start : Nat)

theorem occurrencesFrom_of_none {text : List Char} (absent : text.dropInfix? word = none) :
    occurrencesFrom nonempty start text = [] := by
  rw [occurrencesFrom]
  split <;> simp_all

theorem occurrencesFrom_of_some {text before after : List Char}
    (found : text.dropInfix? word = some (before, after)) :
    occurrencesFrom nonempty start text =
      (start + before.length) ::
        occurrencesFrom nonempty (start + before.length + word.length) after := by
  rw [occurrencesFrom]
  split <;> simp_all

theorem splitAtWord_of_none {text : List Char} (absent : text.dropInfix? word = none) :
    splitAtWord nonempty text = [text] := by
  rw [splitAtWord]
  split <;> simp_all

theorem splitAtWord_of_some {text before after : List Char}
    (found : text.dropInfix? word = some (before, after)) :
    splitAtWord nonempty text = before :: splitAtWord nonempty after := by
  rw [splitAtWord]
  split <;> simp_all

theorem replaceWord_of_none {replacement text : List Char} (absent : text.dropInfix? word = none) :
    replaceWord nonempty replacement text = text := by
  rw [replaceWord]
  split <;> simp_all

theorem replaceWord_of_some {replacement text before after : List Char}
    (found : text.dropInfix? word = some (before, after)) :
    replaceWord nonempty replacement text =
      before ++ replacement ++ replaceWord nonempty replacement after := by
  rw [replaceWord]
  split <;> simp_all

theorem occurrencesFrom_append (after : List Char) :
    occurrencesFrom nonempty start (word ++ after) =
      start :: occurrencesFrom nonempty (start + word.length) after :=
  occurrencesFrom_of_some nonempty start (dropInfix?_append word after)

theorem occurrencesFrom_cons {c : Char} {text : List Char} (absent : ¬ word <+: c :: text) :
    occurrencesFrom nonempty start (c :: text) = occurrencesFrom nonempty (start + 1) text := by
  have later := dropInfix?_cons absent
  cases found : text.dropInfix? word with
  | none =>
      rw [found] at later
      rw [occurrencesFrom_of_none _ _ found, occurrencesFrom_of_none _ _ later]
  | some parts =>
      rw [found] at later
      rw [occurrencesFrom_of_some _ _ found, occurrencesFrom_of_some _ _ later, List.length_cons,
        Nat.add_right_comm start 1, Nat.add_assoc start parts.1.length 1]

theorem occurrencesFrom_nil : occurrencesFrom nonempty start [] = [] :=
  occurrencesFrom_of_none nonempty start (dropInfix?_nil_of_ne_nil nonempty)

end Words

namespace Pattern

/-! ## Words as patterns -/

def quote (word : List Char) : List Char :=
  word.flatMap fun c => (Pattern.literal c).print

def ofWord (word : List Char) : Pattern :=
  concat (word.map .literal)

theorem print_literal (c : Char) : (Pattern.literal c).print = literalText c := by
  rw [print, printBefore, List.append_nil]

theorem printPartsBefore_literals (word rest : List Char) :
    printPartsBefore rest (word.map .literal) = quote word ++ rest := by
  induction word with
  | nil => rfl
  | cons c word ih =>
      simp [printPartsBefore, isAlternation, printBefore, ih, quote, print_literal]

theorem print_ofWord (word : List Char) : (ofWord word).print = quote word := by
  match word with
  | [] => rfl
  | [c] => simp [ofWord, quote]
  | c :: d :: rest =>
      have parts := printPartsBefore_literals (c :: d :: rest) []
      rw [List.append_nil] at parts
      exact parts

theorem allParts_literals (word : List Char) :
    allParts hasCanonicalForm (word.map .literal) = true := by
  induction word with
  | nil => rfl
  | cons c word ih => simp [allParts, all, hasCanonicalForm, ih]

theorem groupOrder_ofWord (word : List Char) : (ofWord word).groupOrder = [] := by
  simp [ofWord, groupOrder]

theorem isCanonical_ofWord (word : List Char) : (ofWord word).isCanonical = true := by
  have form : (ofWord word).all hasCanonicalForm = true := by
    match word with
    | [] => rfl
    | [c] => rfl
    | c :: d :: rest =>
        have parts := allParts_literals (c :: d :: rest)
        simp [ofWord, all, hasCanonicalForm, dissolves] at parts ⊢
        exact parts
  simp [isCanonical, form, groupOrder_ofWord]

/-- A quoted word is compiled to the pattern that takes its characters. -/
theorem compile_quote (word : List Char) : compile (String.ofList (quote word)) = .ok (ofWord word) := by
  rw [← print_ofWord]
  exact compile_toString_of_canonical (isCanonical_ofWord word)

variable {word : List Char} {s : Subject}

theorem results_literal (c : Char) (captures : Captures) (pos : Nat) :
    (Pattern.literal c).results s captures pos =
      ((s.take? (fun d => s.fold d == s.fold c) pos).map
        fun stop => { stop, captures : Result }).toList := by
  have taken : singleStop? s captures pos (.literal c) =
      s.take? (fun d => s.fold d == s.fold c) pos := rfl
  rw [← taken]
  simp only [results]
  cases singleStop? s captures pos (.literal c) <;> rfl

theorem take?_literal (exact : s.options.ignoreCase = false) (c : Char) (pos : Nat) :
    s.take? (fun d => s.fold d == s.fold c) pos =
      if s.text.toList[pos]? = some c then some (pos + 1) else none := by
  simp only [Subject.take?, Subject.char?, Subject.fold, Options.fold_of_exact exact,
    Array.getElem?_toList]
  cases s.text[pos]? with
  | none => simp
  | some d => by_cases same : d = c <;> simp [same]

/-- If case is regarded, the parts of a word have one result, behind the word, if the word is there. -/
theorem partResults_literals (exact : s.options.ignoreCase = false) (captures : Captures) (pos : Nat) :
    partResults s (word.map .literal) captures pos =
      if word <+: s.text.toList.drop pos then [{ stop := pos + word.length, captures }] else [] := by
  induction word generalizing pos with
  | nil => simp [partResults]
  | cons c word ih =>
      rw [List.map_cons, partResults, results_literal, take?_literal exact]
      by_cases here : s.text.toList[pos]? = some c
      · obtain ⟨inside, rfl⟩ := List.getElem?_eq_some_iff.mp here
        rw [if_pos here, List.drop_eq_getElem_cons inside]
        simp only [Option.map_some, Option.toList_some, List.flatMap_cons, List.flatMap_nil,
          List.append_nil, ih, List.cons_prefix_cons, true_and, List.length_cons, Nat.add_assoc,
          Nat.add_comm 1]
      · have absent : ¬ c :: word <+: s.text.toList.drop pos := by
          rintro ⟨after, same⟩
          have first := congrArg (·[0]?) same
          simp only [List.cons_append, List.getElem?_cons_zero, List.getElem?_drop, Nat.add_zero] at first
          exact here first.symm
        rw [if_neg here, if_neg absent]
        rfl

theorem matchAt_ofWord (nonempty : word ≠ []) (exact : s.options.ignoreCase = false) (pos : Nat) :
    (ofWord word).matchAt s pos =
      if word <+: s.text.toList.drop pos then
        some { start := pos, stop := pos + word.length, groups := ∅ }
      else none := by
  by_cases inside : pos ≤ s.size
  · have apart : (ofWord word).groupsApart = true :=
      groupsApart_of_nodup _ (by rw [groupOrder_ofWord]; exact .nil)
    rw [matchAt_eq_results apart s inside, ofWord, Branches.results_concat, partResults_literals exact]
    split <;> rfl
  · have behind : s.text.toList.drop pos = [] := by
      rw [List.drop_eq_nil_iff, Array.length_toList]
      exact Nat.le_of_not_le inside
    rw [matchAt_of_size_lt _ (Nat.lt_of_not_le inside), behind, if_neg]
    simpa using nonempty

def occurrence (word : List Char) (start : Nat) : Match where
  start
  stop := start + word.length
  groups := ∅

variable (nonempty : word ≠ []) (exact : s.options.ignoreCase = false)

section Exact

include nonempty exact

/-- The matches from a position on are the occurrences from there on. -/
theorem matchesFrom_ofWord {steps pos : Nat} (enough : s.size < pos + steps) :
    matchesFrom ((ofWord word).matchAt s) steps pos =
      (occurrencesFrom nonempty pos (s.text.toList.drop pos)).map (occurrence word) := by
  induction steps generalizing pos with
  | zero =>
      have behind : s.text.toList.drop pos = [] :=
        List.drop_eq_nil_of_le (Nat.le_of_lt enough)
      rw [behind, occurrencesFrom_nil]
      rfl
  | succ steps ih =>
      have positive := List.length_pos_iff.mpr nonempty
      rw [matchesFrom, matchAt_ofWord nonempty exact]
      split
      · next found there =>
          -- The word is here, and the search goes on behind it.
          split at there
          · next here =>
              obtain ⟨after, same⟩ := here
              obtain rfl := Option.some.inj there
              have behind : s.text.toList.drop (pos + word.length) = after := by
                rw [← List.drop_drop, ← same, List.drop_left]
              rw [← same, occurrencesFrom_append, List.map_cons, ← behind, ← ih (by omega),
                Nat.max_eq_left (Nat.add_le_add_left positive pos)]
              rfl
          · contradiction
      · next there =>
          split at there
          · contradiction
          · next absent =>
              rw [ih (by omega)]
              by_cases inside : pos < s.text.toList.length
              · rw [List.drop_eq_getElem_cons inside] at absent ⊢
                rw [occurrencesFrom_cons nonempty pos absent]
              · have behind {pos} (beyond : s.text.toList.length ≤ pos) :=
                  List.drop_eq_nil_of_le beyond
                rw [behind (by omega), behind (by omega), occurrencesFrom_nil, occurrencesFrom_nil]

theorem allMatches_ofWord :
    (ofWord word).allMatches s = (occurrencesFrom nonempty 0 s.text.toList).map (occurrence word) := by
  rw [allMatches_eq_matchesFrom, matchesFrom_ofWord nonempty exact (by omega), List.drop_zero]

theorem search_ofWord :
    (ofWord word).search s =
      (s.text.toList.dropInfix? word).map fun parts => occurrence word parts.1.length := by
  rw [search_eq_head?, allMatches_ofWord nonempty exact]
  cases found : s.text.toList.dropInfix? word with
  | none => rw [occurrencesFrom_of_none _ _ found]; rfl
  | some parts =>
      rw [occurrencesFrom_of_some _ _ found, Nat.zero_add]
      rfl

end Exact

theorem drop_of_dropInfix? {last : Nat} {before after : List Char}
    (found : (s.text.toList.drop last).dropInfix? word = some (before, after)) :
    s.slice last (last + before.length) = before ∧
      s.text.toList.drop (last + before.length + word.length) = after := by
  obtain ⟨same, -⟩ := dropInfix?_eq_some.mp found
  constructor
  · simp [Subject.slice, List.extract_eq_take_drop, same]
  · rw [Nat.add_assoc, ← List.drop_drop, same, ← List.length_append, List.drop_left]

theorem slice_size (last : Nat) : s.slice last s.size = s.text.toList.drop last := by
  simp [Subject.slice, Subject.size, List.take_of_length_le]

theorem piecesFrom_occurrences {text : List Char} (last : Nat) (here : s.text.toList.drop last = text) :
    s.piecesFrom last ((occurrencesFrom nonempty last text).map (occurrence word)) =
      splitAtWord nonempty text := by
  cases found : text.dropInfix? word with
  | none =>
      rw [occurrencesFrom_of_none _ _ found, splitAtWord_of_none _ found, List.map_nil,
        Subject.piecesFrom, slice_size, here]
  | some parts =>
      have shorter := length_lt_of_dropInfix? nonempty found
      obtain ⟨piece, behind⟩ := drop_of_dropInfix? (here ▸ found)
      have later := piecesFrom_occurrences _ behind
      rw [occurrencesFrom_of_some _ _ found, splitAtWord_of_some _ found, List.map_cons,
        s.piecesFrom_cons (Nat.le_add_right _ _), ← later]
      exact congrArg (· :: _) piece
termination_by text.length

theorem replaceFrom_occurrences (replacement : List Char) {text : List Char} (last : Nat)
    (here : s.text.toList.drop last = text) :
    s.replaceFrom (fun _ => replacement) last
        ((occurrencesFrom nonempty last text).map (occurrence word)) =
      replaceWord nonempty replacement text := by
  cases found : text.dropInfix? word with
  | none =>
      rw [occurrencesFrom_of_none _ _ found, replaceWord_of_none _ found, List.map_nil,
        Subject.replaceFrom, slice_size, here]
  | some parts =>
      have shorter := length_lt_of_dropInfix? nonempty found
      obtain ⟨piece, behind⟩ := drop_of_dropInfix? (here ▸ found)
      have later := replaceFrom_occurrences replacement _ behind
      have reached : ¬ (occurrence word (last + parts.1.length)).start < last :=
        Nat.not_lt_of_le (Nat.le_add_right _ _)
      rw [occurrencesFrom_of_some _ _ found, replaceWord_of_some _ found, List.map_cons,
        Subject.replaceFrom, if_neg reached, ← later]
      exact congrArg (· ++ replacement ++ _) piece
termination_by text.length

/--
A word of at least one character, written so that every character stands for itself, is a pattern for the
word. It compiles to the characters in their order, and if case is regarded, then in every text its
leftmost match is the leftmost occurrence of the word, its matches are the occurrences that are found by
going on behind the last one, splitting by it is splitting the text at the word, and replacing by a text
with every sign doubled is replacing the word by that text.
-/
theorem quoted_word (word : List Char) (nonempty : word ≠ []) :
    compile (String.ofList (quote word)) = .ok (ofWord word) ∧
      ∀ s : Subject, s.options.ignoreCase = false →
        (ofWord word).search s =
          (s.text.toList.dropInfix? word).map (fun parts => occurrence word parts.1.length) ∧
        (ofWord word).allMatches s =
          (occurrencesFrom nonempty 0 s.text.toList).map (occurrence word) ∧
        (ofWord word).split s = splitAtWord nonempty s.text.toList ∧
        ∀ replacement, (ofWord word).replace s (Template.escape replacement) =
          replaceWord nonempty replacement s.text.toList := by
  refine ⟨compile_quote word, fun s exact => ?_⟩
  have occurrences := allMatches_ofWord nonempty exact
  refine ⟨search_ofWord nonempty exact, occurrences, ?_, fun replacement => ?_⟩
  · rw [split, occurrences]
    exact piecesFrom_occurrences nonempty 0 List.drop_zero
  · have constant : Template.expand (Template.escape replacement) s = fun _ => replacement :=
      funext (Template.expand_escape replacement s)
    rw [replace, replaceWith, constant, occurrences]
    exact replaceFrom_occurrences nonempty replacement 0 List.drop_zero

/--
Two full stops, which overlap with themselves, are written `\.\.`. They are found twice in five of them,
and a sign in the replacement is kept.
-/
theorem quoted_word_full_stops :
    let word := ['.', '.']
    let s : Subject := { text := #['a', '.', '.', '.', '.', '.', 'b'] }
    ∃ nonempty : word ≠ [],
      compile "\\.\\." = .ok (.sequence [.literal '.', .literal '.']) ∧
      occurrencesFrom nonempty 0 s.text.toList = [1, 3] ∧
      splitAtWord nonempty s.text.toList = [['a'], [], ['.', 'b']] ∧
      replaceWord nonempty ['$', '1'] s.text.toList = ['a', '$', '1', '$', '1', '.', 'b'] := by
  intro word s
  have nonempty : word ≠ [] := by decide
  obtain ⟨compiled, found⟩ := quoted_word word nonempty
  obtain ⟨-, occurrences, pieces, replaced⟩ := found s rfl
  have starts := congrArg (·.map Match.start) occurrences
  rw [List.map_map] at starts
  refine ⟨nonempty, compiled, ?_, pieces.symm.trans (by decide), ?_⟩
  · calc occurrencesFrom nonempty 0 s.text.toList
      _ = ((ofWord word).allMatches s).map Match.start := by rw [starts]; exact (List.map_id _).symm
      _ = [1, 3] := by decide
  · exact (replaced ['$', '1']).symm.trans (by decide)

end Pattern
end Rematch
