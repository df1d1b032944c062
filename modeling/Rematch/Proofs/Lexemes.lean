import Rematch.Pattern.Print
import Rematch.Pattern.Token

/-!
# Lexemes

The part of a text that a token takes. Bounds, escapes and classes show where they end, whatever
stands behind them. An opening parenthesis and a brace that opens no bounds do not; but they remain
what they are if the text is cut off anywhere behind them, and so every token does.
-/

namespace Rematch
namespace Token

/--
What a scanner finds takes a part of the text that shows its own end: with anything else behind this
part the scanner finds the same.
-/
def SelfDelimiting {α : Type} (scanner : List Char → Option (α × List Char)) : Prop :=
  ∀ text found rest, scanner text = some (found, rest) →
    ∃ lexeme, lexeme ≠ [] ∧ text = lexeme ++ rest ∧
      ∀ other, scanner (lexeme ++ other) = some (found, other)

/-! ## Numbers and bounds -/

structure Numeral (digits : List Char) (n : Nat) : Prop where
  nonempty : digits ≠ []
  decimal : ∀ d ∈ digits, Text.isDecimal d = true
  value : decimalValue digits = n
  fits : n < UInt64.size

/-- Digits in front of something else are taken as a whole. -/
theorem span_numeral {digits rest : List Char} {n : Nat} (numeral : Numeral digits n)
    (ends : ∀ d ∈ rest.head?, Text.isDecimal d = false) :
    (digits ++ rest).takeWhile Text.isDecimal = digits ∧
      (digits ++ rest).dropWhile Text.isDecimal = rest := by
  rw [List.takeWhile_append_of_pos numeral.decimal, List.dropWhile_append_of_pos numeral.decimal]
  cases rest with
  | nil => simp
  | cons d rest => simp [ends d rfl]

theorem scanNumber_eq_some_iff {text rest : List Char} {n : Nat} :
    scanNumber text = some (n, rest) ↔
      ∃ digits, Numeral digits n ∧ text = digits ++ rest ∧
        ∀ d ∈ rest.head?, Text.isDecimal d = false := by
  constructor
  · intro h
    simp only [scanNumber] at h
    split at h
    · contradiction
    · rename_i nonempty
      split at h
      · rename_i fits
        cases h
        refine ⟨text.takeWhile Text.isDecimal, ⟨by simpa using nonempty, ?_, rfl, fits⟩,
          List.takeWhile_append_dropWhile.symm, ?_⟩
        · exact List.all_eq_true.mp List.all_takeWhile
        · intro d hd
          have first := List.head?_dropWhile_not Text.isDecimal text
          rw [hd] at first
          simpa using first
      · contradiction
  · rintro ⟨digits, numeral, rfl, ends⟩
    obtain ⟨taken, left⟩ := span_numeral numeral ends
    simp [scanNumber, taken, left, numeral.nonempty, numeral.value, numeral.fits]

theorem scanNumber_append {digits : List Char} {n : Nat} (numeral : Numeral digits n) {c : Char}
    (stops : Text.isDecimal c = false) (rest : List Char) :
    scanNumber (digits ++ c :: rest) = some (n, c :: rest) :=
  scanNumber_eq_some_iff.mpr ⟨digits, numeral, rfl, by simpa using stops⟩

inductive Bounds : (min : Nat) → (max : Option Nat) → List Char → Prop
  | exactly {digits : List Char} {n : Nat} (numeral : Numeral digits n) :
      Bounds n (some n) (digits ++ ['}'])
  | atLeast {digits : List Char} {n : Nat} (numeral : Numeral digits n) :
      Bounds n none (digits ++ [',', '}'])
  | between {first second : List Char} {min max : Nat} (least : Numeral first min)
      (most : Numeral second max) : Bounds min (some max) (first ++ ',' :: (second ++ ['}']))

theorem scanBounds_eq_some_iff {text rest : List Char} {token : Token} :
    scanBounds text = some (token, rest) ↔
      ∃ min max lexeme, token = .repeats min max ∧ Bounds min max lexeme ∧
        text = lexeme ++ rest := by
  constructor
  · intro h
    unfold scanBounds at h
    split at h
    · rename_i n after hn
      cases h
      obtain ⟨digits, numeral, rfl, _⟩ := scanNumber_eq_some_iff.mp hn
      exact ⟨n, some n, _, rfl, .exactly numeral, by simp⟩
    · rename_i n after hn
      cases h
      obtain ⟨digits, numeral, rfl, _⟩ := scanNumber_eq_some_iff.mp hn
      exact ⟨n, none, _, rfl, .atLeast numeral, by simp⟩
    · rename_i least after _ hleast
      split at h
      · rename_i most after' hmost
        cases h
        obtain ⟨first, first_numeral, rfl, _⟩ := scanNumber_eq_some_iff.mp hleast
        obtain ⟨second, second_numeral, rfl, _⟩ := scanNumber_eq_some_iff.mp hmost
        exact ⟨least, some most, _, rfl, .between first_numeral second_numeral, by simp⟩
      · contradiction
    · contradiction
  · rintro ⟨min, max, lexeme, rfl, bounds, rfl⟩
    have brace : Text.isDecimal '}' = false := by decide
    have comma : Text.isDecimal ',' = false := by decide
    cases bounds with
    | exactly numeral => simp [scanBounds, scanNumber_append numeral brace]
    | atLeast numeral => simp [scanBounds, scanNumber_append numeral comma]
    | @between first second least most first_numeral second_numeral =>
        obtain ⟨d, others, rfl⟩ := List.exists_cons_of_ne_nil second_numeral.nonempty
        have digit : d ≠ '}' := by
          rintro rfl
          simpa [brace] using second_numeral.decimal '}' List.mem_cons_self
        have last := scanNumber_append second_numeral brace rest
        simp only [List.cons_append] at last
        simp [scanBounds, scanNumber_append first_numeral comma, last, digit]

inductive Sign : (min : Nat) → (max : Option Nat) → List Char → Prop
  | star : Sign 0 none ['*']
  | plus : Sign 1 none ['+']
  | optional : Sign 0 (some 1) ['?']
  | bounds {min : Nat} {max : Option Nat} {lexeme : List Char} (h : Bounds min max lexeme) :
      Sign min max ('{' :: lexeme)

theorem scanRepeats_eq_some_iff {text rest : List Char} {token : Token} :
    scanRepeats text = some (token, rest) ↔
      ∃ min max lexeme, token = .repeats min max ∧ Sign min max lexeme ∧ text = lexeme ++ rest := by
  constructor
  · intro h
    unfold scanRepeats at h
    split at h
    · cases h
      exact ⟨0, none, _, rfl, .star, rfl⟩
    · cases h
      exact ⟨1, none, _, rfl, .plus, rfl⟩
    · cases h
      exact ⟨0, some 1, _, rfl, .optional, rfl⟩
    · obtain ⟨min, max, lexeme, rfl, bounds, rfl⟩ := scanBounds_eq_some_iff.mp h
      exact ⟨min, max, _, rfl, .bounds bounds, rfl⟩
    · contradiction
  · rintro ⟨min, max, lexeme, rfl, sign, rfl⟩
    cases sign with
    | bounds bounds => exact scanBounds_eq_some_iff.mpr ⟨min, max, _, rfl, bounds, rfl⟩
    | _ => rfl

theorem scanRepeats_selfDelimiting : SelfDelimiting scanRepeats := by
  intro text token rest h
  obtain ⟨min, max, lexeme, rfl, sign, rfl⟩ := scanRepeats_eq_some_iff.mp h
  refine ⟨lexeme, by cases sign <;> simp, rfl, fun other => ?_⟩
  exact scanRepeats_eq_some_iff.mpr ⟨min, max, lexeme, rfl, sign, rfl⟩

/-! ## Classes -/

theorem scanClassEntries_range {a b : Char} (notClosing : a ≠ ']') (notEscape : a ≠ '\\')
    (notClosing' : b ≠ ']') (notEscape' : b ≠ '\\') (text : List Char) :
    scanClassEntries (a :: '-' :: b :: text) =
      (scanClassEntries text).map fun (entries, rest) => (.range a b :: entries, rest) := by
  rw [scanClassEntries.eq_5 a b text notClosing notEscape fun _ _ escape _ => notEscape' escape,
    if_neg notClosing']

theorem scanClassEntries_single {a c : Char} (notClosing : a ≠ ']') (notEscape : a ≠ '\\')
    (noHyphen : c ≠ '-') (text : List Char) :
    scanClassEntries (a :: c :: text) =
      (scanClassEntries (c :: text)).map fun (entries, rest) => (.single a :: entries, rest) := by
  apply scanClassEntries.eq_6 a (c :: text) notClosing (fun _ _ escape _ => notEscape escape)
  · exact fun _ _ same => noHyphen (List.cons.inj same).1
  · exact fun _ _ same => noHyphen (List.cons.inj same).1

theorem scanClassEntries_selfDelimiting : SelfDelimiting scanClassEntries := by
  intro text entries rest h
  fun_induction scanClassEntries text generalizing entries rest with
  | case1 => contradiction
  | case2 text =>
      cases h
      exact ⟨[']'], by simp, rfl, fun _ => rfl⟩
  | case3 c text ih =>
      obtain ⟨⟨later, after⟩, found, same⟩ := Option.map_eq_some_iff.mp h
      cases same
      obtain ⟨lexeme, _, rfl, law⟩ := ih _ _ found
      refine ⟨'\\' :: c :: lexeme, by simp, rfl, fun other => ?_⟩
      simp [scanClassEntries, law other]
  | case4 a b text notClosing notEscape ih =>
      obtain ⟨⟨later, after⟩, found, same⟩ := Option.map_eq_some_iff.mp h
      cases same
      obtain ⟨lexeme, _, rfl, law⟩ := ih _ _ found
      refine ⟨a :: '-' :: '\\' :: b :: lexeme, by simp, rfl, fun other => ?_⟩
      simp [scanClassEntries.eq_4 a b _ notClosing notEscape, law other]
  | case5 a text notClosing notEscape _ =>
      cases h
      refine ⟨[a, '-', ']'], by simp, rfl, fun other => ?_⟩
      simp [scanClassEntries.eq_5 a ']' other notClosing notEscape (by simp)]
  | case6 a b text notClosing notEscape whole notClosing' ih =>
      obtain ⟨⟨later, after⟩, found, same⟩ := Option.map_eq_some_iff.mp h
      cases same
      obtain ⟨lexeme, nonempty, rfl, law⟩ := ih _ _ found
      -- A backslash here would have escaped the next character, and there is one.
      have plain : b ≠ '\\' := by
        rintro rfl
        obtain ⟨c, others, rfl⟩ := List.exists_cons_of_ne_nil nonempty
        exact whole c _ rfl rfl
      refine ⟨a :: '-' :: b :: lexeme, by simp, rfl, fun other => ?_⟩
      simp [scanClassEntries_range notClosing notEscape notClosing' plain, law other]
  | case7 a text notClosing notEscape noEscapedEnd noEnd ih =>
      obtain ⟨⟨later, after⟩, found, same⟩ := Option.map_eq_some_iff.mp h
      cases same
      obtain ⟨lexeme, nonempty, rfl, law⟩ := ih _ _ found
      obtain ⟨c, others, rfl⟩ := List.exists_cons_of_ne_nil nonempty
      -- A hyphen alone is no list of entries, so one that begins no range cannot come next.
      have noHyphen : c ≠ '-' := by
        rintro rfl
        cases others with
        | nil => simpa [scanClassEntries] using law []
        | cons d others => exact noEnd d _ rfl
      refine ⟨a :: c :: others, by simp, rfl, fun other => ?_⟩
      have scanned := law other
      rw [List.cons_append] at scanned
      simp [scanClassEntries_single notClosing (notEscape c _ · rfl) noHyphen, scanned]

theorem scanClass_eq_some_iff {text rest : List Char} {token : Token} :
    scanClass text = some (token, rest) ↔
      ∃ entry entries,
        (∃ inner, text = '^' :: inner ∧ scanClassEntries inner = some (entry :: entries, rest) ∧
          token = .item (.negation (ClassEntry.toPattern (entry :: entries)))) ∨
        (text.head? ≠ some '^' ∧ scanClassEntries text = some (entry :: entries, rest) ∧
          token = .item (ClassEntry.toPattern (entry :: entries))) := by
  constructor
  · intro h
    unfold scanClass at h
    split at h
    · rename_i inner
      split at h
      · rename_i entry entries after found
        cases h
        exact ⟨entry, entries, .inl ⟨inner, rfl, found, rfl⟩⟩
      · contradiction
    · rename_i plain
      split at h
      · rename_i entry entries after found
        cases h
        refine ⟨entry, entries, .inr ⟨?_, found, rfl⟩⟩
        intro sign
        obtain ⟨inner, rfl⟩ := List.head?_eq_some_iff.mp sign
        exact plain inner rfl
      · contradiction
  · rintro ⟨entry, entries, ⟨inner, rfl, found, rfl⟩ | ⟨plain, found, rfl⟩⟩
    · simp [scanClass, found]
    · unfold scanClass
      split
      · exact absurd rfl plain
      · simp [found]

theorem scanClass_selfDelimiting : SelfDelimiting scanClass := by
  intro text token rest h
  obtain ⟨entry, entries, ⟨inner, rfl, found, rfl⟩ | ⟨plain, found, rfl⟩⟩ :=
    scanClass_eq_some_iff.mp h
  · obtain ⟨lexeme, _, rfl, law⟩ := scanClassEntries_selfDelimiting _ _ _ found
    refine ⟨'^' :: lexeme, by simp, rfl, fun other => ?_⟩
    exact scanClass_eq_some_iff.mpr
      ⟨entry, entries, .inl ⟨lexeme ++ other, rfl, law other, rfl⟩⟩
  · obtain ⟨lexeme, nonempty, rfl, law⟩ := scanClassEntries_selfDelimiting _ _ _ found
    refine ⟨lexeme, nonempty, rfl, fun other => ?_⟩
    have plain' : (lexeme ++ other).head? ≠ some '^' := by
      obtain ⟨c, others, rfl⟩ := List.exists_cons_of_ne_nil nonempty
      exact plain
    exact scanClass_eq_some_iff.mpr ⟨entry, entries, .inr ⟨plain', law other, rfl⟩⟩

/-! ## Tokens -/

def openingText : Grouping → List Char
  | .capturing => ['(']
  | .plain => ['(', '?', ':']
  | .atomic => ['(', '?', '>']
  | .lookahead => ['(', '?', '=']
  | .negativeLookahead => ['(', '?', '!']
  | .lookbehind => ['(', '?', '<', '=']
  | .negativeLookbehind => ['(', '?', '<', '!']

theorem eq_openingText_append {text rest : List Char} {kind : Grouping}
    (h : scanGrouping text = (kind, rest)) : '(' :: text = openingText kind ++ rest := by
  unfold scanGrouping at h
  split at h <;> cases h <;> rfl

theorem scanGrouping_openingText {kind : Grouping} (signed : kind ≠ .capturing)
    (rest : List Char) : scanGrouping ((openingText kind).tail ++ rest) = (kind, rest) := by
  cases kind <;> first | contradiction | rfl

theorem scanGrouping_of_append {text rest more : List Char} {kind : Grouping}
    (h : scanGrouping (text ++ more) = (kind, rest ++ more)) :
    scanGrouping text = (kind, rest) := by
  have whole := eq_openingText_append h
  rw [← List.append_assoc, ← List.cons_append, List.append_cancel_right_eq] at whole
  by_cases signed : kind = .capturing
  · subst signed
    obtain rfl : text = rest := by simpa [openingText] using whole
    cases short : scanGrouping text with
    | mk kind' rest' =>
        have opened := eq_openingText_append short
        by_cases signed' : kind' = .capturing
        · subst signed'
          simpa [openingText] using opened.symm
        · -- A sign would also be there with more text behind it.
          have text_eq := congrArg List.tail opened
          rw [List.tail_cons, List.tail_append_of_ne_nil (by cases kind' <;> simp [openingText])]
            at text_eq
          rw [text_eq, List.append_assoc, scanGrouping_openingText signed'] at h
          exact absurd (congrArg Prod.fst h) signed'
  · have text_eq := congrArg List.tail whole
    rw [List.tail_cons, List.tail_append_of_ne_nil (by cases kind <;> simp [openingText])]
      at text_eq
    rw [text_eq, scanGrouping_openingText signed]

/-- What shows its own end is found as well if the text is cut off anywhere behind it. -/
theorem SelfDelimiting.of_append {α : Type} {scanner : List Char → Option (α × List Char)}
    (h : SelfDelimiting scanner) {text rest more : List Char} {found : α}
    (scanned : scanner (text ++ more) = some (found, rest ++ more)) :
    scanner text = some (found, rest) := by
  obtain ⟨lexeme, _, same, law⟩ := h _ _ _ scanned
  rw [← List.append_assoc, List.append_cancel_right_eq] at same
  rw [same]
  exact law rest

/--
A token other than a repetition at the front of a text. What stands behind it matters to an opening
parenthesis only.
-/
inductive Plain : (text : List Char) → Token → (rest : List Char) → Prop
  | lineStart {rest : List Char} : Plain ('^' :: rest) (.item .lineStart) rest
  | lineEnd {rest : List Char} : Plain ('$' :: rest) (.item .lineEnd) rest
  | anyChar {rest : List Char} : Plain ('.' :: rest) (.item .anyChar) rest
  | bar {rest : List Char} : Plain ('|' :: rest) .bar rest
  | closing {rest : List Char} : Plain (')' :: rest) .closing rest
  | opening {text rest : List Char} {kind : Grouping} (h : scanGrouping text = (kind, rest)) :
      Plain ('(' :: text) (.opening kind) rest
  | charClass {text rest : List Char} {token : Token} (h : scanClass text = some (token, rest)) :
      Plain ('[' :: text) token rest
  | escape (c : Char) {rest : List Char} : Plain ('\\' :: c :: rest) (.item (escapedItem c)) rest
  | literal {c : Char} (h : Pattern.isMeta c = true → c = '{') {rest : List Char} :
      Plain (c :: rest) (.item (.literal c)) rest

theorem scanPlain_eq_some_iff {text rest : List Char} {token : Token} :
    scanPlain text = some (token, rest) ↔ Plain text token rest := by
  constructor
  · intro h
    unfold scanPlain at h
    split at h
    all_goals try contradiction
    · cases h; exact .lineStart
    · cases h; exact .lineEnd
    · cases h; exact .anyChar
    · cases h; exact .bar
    · cases h; exact .closing
    · cases h; exact .opening rfl
    · exact .charClass h
    · cases h; exact .escape _
    · split at h
      · contradiction
      · rename_i other
        cases h
        refine .literal fun isMeta => ?_
        simp [Pattern.isMeta] at isMeta other
        grind
  · intro h
    cases h with
    | @literal c h =>
        have isPlain (d : Char) (isMeta : Pattern.isMeta d = true) (noBrace : d ≠ '{') : c ≠ d := by
          rintro rfl
          exact noBrace (h isMeta)
        rw [scanPlain.eq_9 c rest (isPlain _ rfl (by decide)) (isPlain _ rfl (by decide))
          (isPlain _ rfl (by decide)) (isPlain _ rfl (by decide)) (isPlain _ rfl (by decide))
          (isPlain _ rfl (by decide)) (isPlain _ rfl (by decide))
          fun _ _ escape _ => isPlain _ rfl (by decide) escape]
        simp [isPlain '*' rfl (by decide), isPlain '+' rfl (by decide),
          isPlain '?' rfl (by decide), isPlain ']' rfl (by decide), isPlain '\\' rfl (by decide)]
    | opening h => simp [scanPlain, h]
    | charClass h => exact h
    | _ => rfl

theorem Plain.of_append {text rest more : List Char} {token : Token}
    (h : Plain (text ++ more) token (rest ++ more)) : Plain text token rest := by
  generalize whole : text ++ more = text' at h
  generalize left : rest ++ more = rest' at h
  -- What the token takes stands in front of what is cut off.
  have cut {lexeme : List Char} (same : text ++ more = lexeme ++ (rest ++ more)) :
      text = lexeme ++ rest := by
    rwa [← List.append_assoc, List.append_cancel_right_eq] at same
  cases h with
  | lineStart | lineEnd | anyChar | bar | closing =>
      subst left
      rw [@cut [_] whole]
      constructor
  | literal h =>
      subst left
      rw [@cut [_] whole]
      exact .literal h
  | escape c =>
      subst left
      rw [@cut [_, c] whole]
      exact .escape c
  | @opening inner _ kind grouped =>
      subst left
      have opened := cut (whole.trans (eq_openingText_append grouped))
      obtain ⟨inner, rfl⟩ : ∃ inner, text = '(' :: inner := by
        cases kind <;> exact ⟨_, opened⟩
      rw [← (List.cons.inj whole).2] at grouped
      exact .opening (scanGrouping_of_append grouped)
  | @charClass inner _ _ scanned =>
      subst left
      obtain ⟨lexeme, _, rfl, law⟩ := scanClass_selfDelimiting _ _ _ scanned
      rw [@cut ('[' :: lexeme) whole]
      exact .charClass (law rest)

theorem scan_cases {afterItem : Bool} {text rest : List Char} {token : Token}
    (h : scan afterItem text = some (token, rest)) :
    (afterItem = true ∧ scanRepeats text = some (token, rest)) ∨
      ((afterItem = true → scanRepeats text = none) ∧ Plain text token rest) := by
  cases afterItem with
  | false => exact .inr ⟨by simp, scanPlain_eq_some_iff.mp h⟩
  | true =>
      cases repeats : scanRepeats text with
      | none =>
          simp only [scan, repeats] at h
          exact .inr ⟨fun _ => rfl, scanPlain_eq_some_iff.mp h⟩
      | some found =>
          simp only [scan, repeats] at h
          exact .inl ⟨rfl, h⟩

/-- What a token shows of the text that it has been found in. -/
theorem spelling_of_scan {afterItem : Bool} {text rest : List Char} {token : Token}
    (h : scan afterItem text = some (token, rest)) :
    match token with
    | .item p => Plain text (.item p) rest
    | .repeats min max => ∃ lexeme, Sign min max lexeme ∧ text = lexeme ++ rest
    | .bar => text = '|' :: rest
    | .opening kind => text = openingText kind ++ rest
    | .closing => text = ')' :: rest := by
  rcases scan_cases h with ⟨_, repeats⟩ | ⟨_, plain⟩
  · obtain ⟨min, max, lexeme, rfl, sign, rfl⟩ := scanRepeats_eq_some_iff.mp repeats
    exact ⟨lexeme, sign, rfl⟩
  · cases plain with
    | opening grouped => exact eq_openingText_append grouped
    | charClass scanned =>
        have isClass := Plain.charClass scanned
        obtain ⟨_, _, ⟨_, _, _, rfl⟩ | ⟨_, _, rfl⟩⟩ := scanClass_eq_some_iff.mp scanned
        · exact isClass
        · exact isClass
    | bar | closing => rfl
    | lineStart => exact .lineStart
    | lineEnd => exact .lineEnd
    | anyChar => exact .anyChar
    | escape c => exact .escape c
    | literal plain => exact .literal plain

theorem plain_of_scan_item {afterItem : Bool} {text rest : List Char} {p : Pattern}
    (h : scan afterItem text = some (.item p, rest)) : Plain text (.item p) rest :=
  spelling_of_scan h

theorem sign_of_scan_repeats {afterItem : Bool} {text rest : List Char} {min : Nat}
    {max : Option Nat} (h : scan afterItem text = some (.repeats min max, rest)) :
    ∃ lexeme, Sign min max lexeme ∧ text = lexeme ++ rest :=
  spelling_of_scan h

theorem opening_of_scan {afterItem : Bool} {text rest : List Char} {kind : Grouping}
    (h : scan afterItem text = some (.opening kind, rest)) : text = openingText kind ++ rest :=
  spelling_of_scan h

theorem closing_of_scan {afterItem : Bool} {text rest : List Char}
    (h : scan afterItem text = some (.closing, rest)) : text = ')' :: rest :=
  spelling_of_scan h

theorem scan_of_plain {afterItem : Bool} {text rest : List Char} {token : Token}
    (noSign : afterItem = true → scanRepeats text = none) (plain : Plain text token rest) :
    scan afterItem text = some (token, rest) := by
  have scanned := scanPlain_eq_some_iff.mpr plain
  cases afterItem with
  | false => exact scanned
  | true => simpa [scan, noSign rfl] using scanned

/-- Every token takes at least a character. -/
theorem scan_lexeme {afterItem : Bool} {text rest : List Char} {token : Token}
    (h : scan afterItem text = some (token, rest)) :
    ∃ lexeme, lexeme ≠ [] ∧ text = lexeme ++ rest := by
  rcases scan_cases h with ⟨_, repeats⟩ | ⟨_, plain⟩
  · obtain ⟨lexeme, nonempty, same, _⟩ := scanRepeats_selfDelimiting _ _ _ repeats
    exact ⟨lexeme, nonempty, same⟩
  · cases plain with
    | @opening text rest kind grouped =>
        have opened := eq_openingText_append grouped
        exact ⟨openingText kind, by cases kind <;> simp [openingText], opened⟩
    | charClass scanned =>
        obtain ⟨lexeme, _, rfl, _⟩ := scanClass_selfDelimiting _ _ _ scanned
        exact ⟨'[' :: lexeme, by simp, rfl⟩
    | escape c => exact ⟨['\\', c], by simp, rfl⟩
    | _ => exact ⟨[_], by simp, rfl⟩

/-- A token stays what it is if the text is cut off anywhere behind it. -/
theorem scan_of_append {afterItem : Bool} {text rest more : List Char} {token : Token}
    (h : scan afterItem (text ++ more) = some (token, rest ++ more)) :
    scan afterItem text = some (token, rest) := by
  rcases scan_cases h with ⟨item, repeats⟩ | ⟨noSign, plain⟩
  · simp [scan, item, scanRepeats_selfDelimiting.of_append repeats]
  · -- Bounds that are there in a part of the text are there in the text.
    have noSign' : afterItem = true → scanRepeats text = none := by
      intro item
      cases short : scanRepeats text with
      | none => rfl
      | some found =>
          obtain ⟨lexeme, _, rfl, law⟩ := scanRepeats_selfDelimiting _ found.1 found.2 short
          have longer := law (found.2 ++ more)
          rw [← List.append_assoc, noSign item] at longer
          contradiction
    exact scan_of_plain noSign' plain.of_append

end Token
end Rematch
