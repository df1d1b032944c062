import Rematch.Proofs.Flatten

/-!
# Reading a printed pattern

The text of a pattern, read with anything behind it, adds to the branches what the pattern is when
flat. Two things are in the way: a repetition of the empty pattern has nothing in front of its sign,
and the ends of ranges stand in a class as they are, so some of them end the class, escape what
follows, negate the class or join it to the character before.
-/

namespace Rematch

open Pattern

namespace Token

/-! ## Numbers and signs -/

theorem numeral_toDigits {n : Nat} (fits : n < UInt64.size) : Numeral (Nat.toDigits 10 n) n where
  nonempty := Nat.toDigits_ne_nil
  decimal _ member := Nat.isDigit_of_mem_toDigits (by decide) (by decide) member
  value := Nat.ofDigitChars_toDigits (by decide) (by decide)
  fits := fits

theorem sign_boundsText {min : Nat} {max : Option Nat} (least : min < UInt64.size)
    (most : ∀ n ∈ max, n < UInt64.size) : Sign min max (boundsText min max) := by
  unfold boundsText
  split
  · exact .star
  · exact .plus
  · exact .optional
  · have numeral := Bounds.atLeast (numeral_toDigits least)
    exact .bounds numeral
  · rename_i max _
    have numeral := numeral_toDigits least
    split
    · rename_i same
      subst same
      exact .bounds (.exactly numeral)
    · have between := Bounds.between numeral (numeral_toDigits (most max rfl))
      simpa using Sign.bounds between

/-! ## Single characters and classes -/

theorem literalText_cases (c : Char) :
    (∃ x, literalText c = ['\\', x] ∧ escapedItem x = .literal c ∧ escapedEntry x = .single c) ∨
      (literalText c = [c] ∧ isMeta c = false) := by
  unfold literalText
  split
  · rename_i control
    exact .inl ⟨'n', rfl, by rw [control]; rfl, by rw [control]; rfl⟩
  · split
    · rename_i control
      exact .inl ⟨'r', rfl, by rw [control]; rfl, by rw [control]; rfl⟩
    · split
      · rename_i control
        exact .inl ⟨'t', rfl, by rw [control]; rfl, by rw [control]; rfl⟩
      · split
        · rename_i isMeta
          refine .inl ⟨c, rfl, ?_⟩
          simp only [Pattern.isMeta, List.contains_iff_mem, List.mem_cons, List.not_mem_nil,
            or_false] at isMeta
          rcases isMeta with rfl | rfl | rfl | rfl | rfl | rfl | rfl | rfl | rfl | rfl | rfl | rfl |
            rfl
          all_goals exact ⟨rfl, rfl⟩
        · rename_i plain
          exact .inr ⟨rfl, Bool.eq_false_iff.mpr plain⟩

theorem ne_of_not_isMeta {c d : Char} (plain : isMeta c = false) (h : isMeta d = true) : c ≠ d := by
  rintro rfl
  rw [plain] at h
  contradiction

theorem plain_literalText (c : Char) (rest : List Char) :
    Plain (literalText c ++ rest) (.item (.literal c)) rest := by
  rcases literalText_cases c with ⟨x, same, escaped, _⟩ | ⟨same, plain⟩
  · rw [same, ← escaped]
    exact .escape x
  · rw [same]
    exact .literal fun isMeta => absurd rfl (ne_of_not_isMeta plain isMeta)

theorem scanRepeats_literalText (c : Char) (rest : List Char) :
    scanRepeats (literalText c ++ rest) = none := by
  rcases literalText_cases c with ⟨x, same, _⟩ | ⟨same, plain⟩
  · rw [same]
    rfl
  · rw [same]
    have other (d : Char) (h : isMeta d = true) : c ≠ d := ne_of_not_isMeta plain h
    simp [scanRepeats, other '*' rfl, other '+' rfl, other '?' rfl, other '{' rfl]

theorem plain_backreference {index : Nat} (low : 1 ≤ index) (high : index ≤ 9) (rest : List Char) :
    Plain (printBefore rest (.backreference index)) (.item (.backreference index)) rest := by
  have digit : index = 1 ∨ index = 2 ∨ index = 3 ∨ index = 4 ∨ index = 5 ∨ index = 6 ∨ index = 7 ∨
      index = 8 ∨ index = 9 := by omega
  rcases digit with rfl | rfl | rfl | rfl | rfl | rfl | rfl | rfl | rfl
  all_goals exact .escape _

theorem singleText_cases (c : Char) :
    (∃ x, singleText c = ['\\', x] ∧ escapedEntry x = .single c) ∨
      (singleText c = [c] ∧ isMeta c = false ∧ c ≠ '-') := by
  unfold singleText
  split
  · rename_i hyphen
    exact .inl ⟨c, rfl, by rw [hyphen]; rfl⟩
  · rename_i other
    rcases literalText_cases c with ⟨x, same, _, escaped⟩ | ⟨same, plain⟩
    · exact .inl ⟨x, same, escaped⟩
    · exact .inr ⟨same, plain, other⟩

/-- Singles are read as they are, unless the last one begins a range with what stands behind it. -/
theorem scanClassEntries_singles {text rest : List Char} {entries : List ClassEntry}
    (found : scanClassEntries text = some (entries, rest)) (singles : List Char)
    (apart : ∀ c ∈ singles.getLast?, singleText c = [c] → text.head? ≠ some '-') :
    scanClassEntries (singles.flatMap singleText ++ text) =
      some (singles.map .single ++ entries, rest) := by
  induction singles with
  | nil => exact found
  | cons c singles ih =>
      have later := ih fun last member => apart last (by
        rw [List.getLast?_cons, member]
        rfl)
      rw [List.flatMap_cons, List.append_assoc]
      rcases singleText_cases c with ⟨x, same, escaped⟩ | ⟨same, plain, noHyphen⟩
      · simp [same, scanClassEntries, later, escaped]
      · -- What stands behind the character is the next single or the text, and no hyphen.
        obtain ⟨d, others, hnext, other⟩ : ∃ d others,
            singles.flatMap singleText ++ text = d :: others ∧ d ≠ '-' := by
          cases singles with
          | nil =>
              have first := apart c rfl same
              cases text with
              | nil => contradiction
              | cons d others => exact ⟨d, others, rfl, by simpa using first⟩
          | cons d singles =>
              rcases singleText_cases d with ⟨x, same, _⟩ | ⟨same, _, noHyphen⟩
              · exact ⟨'\\', _, by rw [List.flatMap_cons, same]; rfl, by decide⟩
              · exact ⟨d, _, by rw [List.flatMap_cons, same]; rfl, noHyphen⟩
        rw [hnext] at later
        rw [same, hnext, List.singleton_append, scanClassEntries_single
          (ne_of_not_isMeta plain rfl) (ne_of_not_isMeta plain rfl) other, later]
        rfl

/-- Ranges are read as they are, unless an end of one closes the class or begins an escape. -/
theorem scanClassEntries_ranges {text rest : List Char} {entries : List ClassEntry}
    (found : scanClassEntries text = some (entries, rest)) (ranges : List CharRange)
    (ends : ∀ range ∈ ranges, (range.first ≠ ']' ∧ range.first ≠ '\\') ∧
      range.last ≠ ']' ∧ range.last ≠ '\\') :
    scanClassEntries ((ranges.flatMap fun range => [range.first, '-', range.last]) ++ text) =
      some ((ranges.map fun range => .range range.first range.last) ++ entries, rest) := by
  induction ranges with
  | nil => exact found
  | cons range ranges ih =>
      rw [List.forall_mem_cons] at ends
      have plain := ends.1
      simp [scanClassEntries_range plain.1.1 plain.1.2 plain.2.1 plain.2.2, ih ends.2]

theorem exists_shorthand {p : Pattern} (h : p.isShorthand = true) :
    ∃ letter, shorthand? letter = some p ∧ ∀ rest, printBefore rest p = '\\' :: letter :: rest := by
  unfold isShorthand at h
  split at h
  · exact ⟨'d', rfl, fun _ => rfl⟩
  · exact ⟨'w', rfl, fun _ => rfl⟩
  · exact ⟨'s', rfl, fun _ => rfl⟩
  · exact ⟨'D', rfl, fun _ => rfl⟩
  · exact ⟨'W', rfl, fun _ => rfl⟩
  · exact ⟨'S', rfl, fun _ => rfl⟩
  · contradiction

theorem scanClassEntries_specials {text rest : List Char} {entries : List ClassEntry}
    (found : scanClassEntries text = some (entries, rest)) (specials : List Pattern)
    (short : ∀ p ∈ specials, p.isShorthand = true) :
    scanClassEntries (printAllBefore text specials) =
      some (specials.map .special ++ entries, rest) := by
  induction specials with
  | nil => exact found
  | cons p specials ih =>
      rw [List.forall_mem_cons] at short
      obtain ⟨letter, means, written⟩ := exists_shorthand short.1
      rw [printAllBefore, written, scanClassEntries, ih short.2]
      simp [escapedEntry, means]

end Token

/-! ## Legible patterns -/

/--
Whether a class can be read back. No end of a range closes the class or begins an escape. The first
range begins with no sign of negation where one is read, and with no hyphen behind a single that
stands as it is.
-/
def CharSet.isLegible (negated : Bool) (set : CharSet) : Bool :=
  (set.ranges.all fun range =>
    (range.first != ']' && range.first != '\\') && (range.last != ']' && range.last != '\\')) &&
  (set.ranges.head?.all fun range =>
    (range.first != '^' || negated || !set.singles.isEmpty) &&
      (range.first != '-' || set.singles.getLast?.all fun c => singleText c != [c]))

namespace Pattern

mutual

/-- Whether a pattern can be read back: all classes can, and the empty pattern is not repeated. -/
def isLegible : Pattern → Bool
  | .charClass set _ => set.isLegible false
  | .negation (.charClass set _) => set.isLegible true
  | .sequence parts => areLegible parts
  | .alternation left right => isLegible left && isLegible right
  | .loop body _ _ => body != .empty && isLegible body
  | .group body _ | .atomic body | .lookahead body | .lookbehind body _ | .negation body =>
      isLegible body
  | _ => true

def areLegible : List Pattern → Bool
  | [] => true
  | part :: rest => isLegible part && areLegible rest

end

end Pattern

namespace Token

def entriesOf (set : CharSet) (specials : List Pattern) : List ClassEntry :=
  set.singles.map .single ++
    ((set.ranges.map fun range => .range range.first range.last) ++ specials.map .special)

theorem between_of_le {range : CharRange} (ordered : range.first ≤ range.last) :
    CharRange.between range.first range.last = range := by
  rw [CharRange.between, if_neg (Char.not_lt.mpr ordered)]

theorem toPattern_entriesOf {set : CharSet} {specials : List Pattern}
    (ordered : ∀ range ∈ set.ranges, range.first ≤ range.last) :
    ClassEntry.toPattern (entriesOf set specials) = .charClass set specials := by
  have ranges : set.ranges.map (fun range => CharRange.between range.first range.last) =
      set.ranges := by
    rw [List.map_congr_left fun range member => between_of_le (ordered range member), List.map_id']
  have nothing {α β : Type} (list : List α) : list.filterMap (fun _ => (none : Option β)) = [] :=
    List.filterMap_eq_nil_iff.mpr fun _ _ => rfl
  simp only [ClassEntry.toPattern, ClassEntry.toSet, ClassEntry.specials, entriesOf,
    List.filterMap_append, List.filterMap_map, Function.comp_def, List.filterMap_eq_map',
    List.filterMap_some, List.append_nil, List.nil_append, ranges, nothing]

section Classes

variable {set : CharSet} {specials : List Pattern} {negated : Bool}

theorem head_specials (short : ∀ p ∈ specials, p.isShorthand = true) (rest : List Char) {c : Char}
    (h : (printAllBefore (']' :: rest) specials).head? = some c) : c = '\\' ∨ c = ']' := by
  cases specials with
  | nil =>
      obtain rfl := Option.some.inj h
      exact .inr rfl
  | cons p specials =>
      obtain ⟨letter, _, written⟩ := exists_shorthand (short p List.mem_cons_self)
      rw [printAllBefore, written] at h
      exact .inl (Option.some.inj h).symm

theorem scanClassEntries_setText (legible : set.isLegible negated = true)
    (short : ∀ p ∈ specials, p.isShorthand = true) (rest : List Char) :
    scanClassEntries (setText set ++ printAllBefore (']' :: rest) specials) =
      some (entriesOf set specials, rest) := by
  simp only [CharSet.isLegible, Bool.and_eq_true, List.all_eq_true, bne_iff_ne] at legible
  have last := @scanClassEntries_specials (']' :: rest) rest [] rfl specials short
  have middle := scanClassEntries_ranges last set.ranges legible.1
  rw [List.append_nil] at middle
  rw [setText, List.append_assoc]
  apply scanClassEntries_singles middle
  intro c member same
  cases hranges : set.ranges with
  | nil =>
      rw [List.flatMap_nil, List.nil_append]
      intro hyphen
      simpa using head_specials short rest hyphen
  | cons range ranges =>
      have hyphen := legible.2
      rw [hranges] at hyphen
      simp only [List.head?_cons, Option.all_some, Bool.and_eq_true, Bool.or_eq_true, bne_iff_ne]
        at hyphen
      rw [Option.mem_def.mp member, Option.all_some, same] at hyphen
      simpa using hyphen.2

theorem head_setText (legible : set.isLegible false = true)
    (short : ∀ p ∈ specials, p.isShorthand = true) (rest : List Char) :
    (setText set ++ printAllBefore (']' :: rest) specials).head? ≠ some '^' := by
  rw [setText, List.append_assoc]
  cases hsingles : set.singles with
  | cons c singles =>
      rcases singleText_cases c with ⟨x, same, _⟩ | ⟨same, plain, _⟩
      · simp [List.flatMap_cons, same]
      · simpa [List.flatMap_cons, same] using ne_of_not_isMeta plain rfl
  | nil =>
      rw [List.flatMap_nil, List.nil_append]
      cases hranges : set.ranges with
      | cons range ranges =>
          simp only [CharSet.isLegible, hranges, hsingles, Bool.and_eq_true] at legible
          simpa using legible.2
      | nil =>
          rw [List.flatMap_nil, List.nil_append]
          intro sign
          simpa using head_specials short rest sign

theorem exists_entriesOf (sound : (Pattern.charClass set specials).isWellFormed = true) :
    ∃ entry entries, entriesOf set specials = entry :: entries ∧
      ClassEntry.toPattern (entry :: entries) = .charClass set specials := by
  simp only [isWellFormed, Bool.and_eq_true, List.all_eq_true, decide_eq_true_eq] at sound
  have whole := @toPattern_entriesOf set specials sound.2.1
  cases hentries : entriesOf set specials with
  | nil =>
      rw [entriesOf] at hentries
      simp at hentries
      simp [hentries] at sound
  | cons entry entries =>
      rw [hentries] at whole
      exact ⟨entry, entries, rfl, whole⟩

theorem isShorthand_of_isWellFormed (sound : (Pattern.charClass set specials).isWellFormed = true) :
    ∀ p ∈ specials, p.isShorthand = true := by
  simp only [isWellFormed, Bool.and_eq_true, List.all_eq_true] at sound
  exact sound.2.2

theorem plain_charClass (sound : (Pattern.charClass set specials).isWellFormed = true)
    (legible : set.isLegible false = true) (rest : List Char) :
    Plain (printBefore rest (.charClass set specials)) (.item (.charClass set specials)) rest := by
  have short := isShorthand_of_isWellFormed sound
  have scanned := scanClassEntries_setText legible short rest
  obtain ⟨entry, entries, hentries, whole⟩ := exists_entriesOf sound
  rw [hentries] at scanned
  rw [printBefore, ← whole]
  exact .charClass (scanClass_eq_some_iff.mpr
    ⟨entry, entries, .inr ⟨head_setText legible short rest, scanned, rfl⟩⟩)

theorem plain_negatedClass (sound : (Pattern.charClass set specials).isWellFormed = true)
    (legible : set.isLegible true = true) (rest : List Char) :
    Plain (printBefore rest (.negation (.charClass set specials)))
      (.item (.negation (.charClass set specials))) rest := by
  have scanned := scanClassEntries_setText legible (isShorthand_of_isWellFormed sound) rest
  obtain ⟨entry, entries, hentries, whole⟩ := exists_entriesOf sound
  rw [hentries] at scanned
  rw [printBefore, ← whole]
  exact .charClass (scanClass_eq_some_iff.mpr
    ⟨entry, entries, .inl ⟨_, rfl, scanned, rfl⟩⟩)

end Classes

end Token

/-! ## Reading back -/

def ConsecutiveAfter (n : Nat) (numbers : List Nat) : Prop :=
  numbers = List.range' (n + 1) numbers.length

theorem consecutiveAfter_append {n : Nat} {numbers others : List Nat} :
    ConsecutiveAfter n (numbers ++ others) ↔
      ConsecutiveAfter n numbers ∧ ConsecutiveAfter (n + numbers.length) others := by
  unfold ConsecutiveAfter
  rw [List.length_append, ← List.range'_append_1, Nat.add_right_comm]
  constructor
  · intro h
    exact List.append_inj h List.length_range'.symm
  · rintro ⟨h, h'⟩
    rw [← h, ← h']

theorem consecutiveAfter_cons {n number : Nat} {numbers : List Nat} :
    ConsecutiveAfter n (number :: numbers) ↔ number = n + 1 ∧ ConsecutiveAfter (n + 1) numbers := by
  simp [ConsecutiveAfter, List.range'_succ]

namespace Pattern

/-- A single operator is written with a first character of its own, which is no question mark. -/
theorem head_print_item {p : Pattern} (single : p.isCompound = false) (kept : p ≠ .empty) :
    ∃ c, p.print.head? = some c ∧ c ≠ '?' := by
  cases p with
  | empty | sequence | alternation | loop => contradiction
  | literal c =>
      rcases Token.literalText_cases c with ⟨x, same, _⟩ | ⟨same, plain⟩
      · exact ⟨'\\', by simp [print, printBefore, same], by decide⟩
      · exact ⟨c, by simp [print, printBefore, same], Token.ne_of_not_isMeta plain rfl⟩
  | negation body =>
      cases body with
      | negation inner =>
          simp only [print, printBefore]
          split <;> exact ⟨_, rfl, by decide⟩
      | _ => exact ⟨_, rfl, by decide⟩
  | _ => exact ⟨_, rfl, by decide⟩

theorem head_printBefore_item {p : Pattern} (single : p.isCompound = false) (kept : p ≠ .empty)
    (rest : List Char) : (printBefore rest p).head? ≠ some '?' := by
  obtain ⟨c, first, other⟩ := head_print_item single kept
  rw [printBefore_eq, List.head?_append, first]
  simpa using other

mutual

/-- A pattern begins with a question mark only if it has no text and the mark stands behind it. -/
theorem head_printBefore {rest : List Char} (h : rest.head? ≠ some '?') : (p : Pattern) →
    p.isLegible = true → (printBefore rest p).head? ≠ some '?'
  | .sequence parts, legible => head_printPartsBefore h parts legible
  | .alternation left right, legible => by
      rw [isLegible, Bool.and_eq_true] at legible
      rw [printBefore]
      exact head_printBefore (by simp) left legible.1
  | .loop body min max, legible => by
      simp only [isLegible, Bool.and_eq_true, bne_iff_ne] at legible
      rw [printBefore]
      cases compound : body.isCompound with
      | true => simp
      | false => exact head_printBefore_item compound legible.1 _
  | .empty, _ => h
  | .literal c, _ | .anyChar, _ | .digit, _ | .word, _ | .space, _ | .charClass .., _
  | .lineStart, _ | .lineEnd, _ | .wordEdge, _ | .backreference _, _ | .group .., _ | .atomic _, _
  | .lookahead _, _ | .lookbehind .., _ | .negation _, _ => by
      refine head_printBefore_item rfl ?_ rest
      simp

theorem head_printPartsBefore {rest : List Char} (h : rest.head? ≠ some '?') :
    (parts : List Pattern) → areLegible parts = true →
    (printPartsBefore rest parts).head? ≠ some '?'
  | [], _ => h
  | part :: parts, legible => by
      rw [areLegible, Bool.and_eq_true] at legible
      rw [printPartsBefore]
      cases part.isAlternation with
      | true => simp
      | false => exact head_printBefore (head_printPartsBefore h parts legible.2) part legible.1

end

end Pattern

namespace Reader

open Token

variable {r : Reader} {text rest : List Char}

def write (r : Reader) (p : Pattern) : Reader :=
  { r with current := r.current.write p, groups := r.groups + p.groupOrder.length }

def writeParts (r : Reader) (parts : List Pattern) : Reader :=
  { r with
    current := r.current.writeParts parts, groups := r.groups + (partGroupOrder parts).length }

theorem reads_item {p : Pattern} (plain : Plain text (.item p) rest)
    (noSign : scanRepeats text = none) :
    r.Reads text { r with current := r.current.add p } rest :=
  .single (scan_of_plain (fun _ => noSign) plain) (.item p)

theorem reads_bar : r.Reads ('|' :: rest) { r with current := r.current.next } rest :=
  .single (scan_of_plain (fun _ => rfl) .bar) .bar

theorem scan_opening {afterItem : Bool} {kind : Grouping}
    (first : kind = .capturing → text.head? ≠ some '?') :
    scan afterItem (openingText kind ++ text) = some (.opening kind, text) := by
  have grouped : scanGrouping ((openingText kind).tail ++ text) = (kind, text) := by
    cases kind with
    | capturing =>
        have other := first rfl
        show scanGrouping text = _
        unfold scanGrouping
        split <;> first | exact absurd rfl other | rfl
    | _ => rfl
  have whole : openingText kind ++ text = '(' :: ((openingText kind).tail ++ text) := by
    cases kind <;> rfl
  rw [whole]
  exact scan_of_plain (fun _ => rfl) (.opening grouped)

/-- A body between parentheses adds what the group makes of the flat body. -/
theorem reads_enclosed (kind : Grouping) {body item : Pattern} {groups : Nat}
    (legible : body.isLegible = true)
    (count : groups = if kind = .capturing then r.groups + 1 else r.groups)
    (inside : ∀ rest, Reads { groups } (printBefore rest body) (write { groups } body) rest)
    (made : kind.apply groups body.flatten = .ok item) :
    r.Reads (openingText kind ++ printBefore (')' :: rest) body)
      { r with current := r.current.add item, groups := groups + body.groupOrder.length } rest := by
  have opening := @scan_opening (printBefore (')' :: rest) body) r.afterItem kind fun _ =>
    head_printBefore (by simp) body legible
  have closing : scan (write { groups } body).afterItem (')' :: rest) = some (.closing, rest) :=
    scan_of_plain (fun _ => rfl) .closing
  exact .group opening count (inside _) rfl closing made

theorem reads_sign {b : Branches} {item : Pattern} {min : Nat} {max : Option Nat}
    (sound : (Pattern.loop item min max).isWellFormed = true) (behind : r.current = b.add item) :
    r.Reads (boundsText min max ++ rest)
      { r with current := b.add (.loop item min max) } rest := by
  simp only [isWellFormed, Bool.and_eq_true, decide_eq_true_eq, Option.all_eq_true] at sound
  have sign := sign_boundsText sound.1 fun most member => (sound.2 most member).2
  have scanned : scan r.afterItem (boundsText min max ++ rest) = some (.repeats min max, rest) := by
    have found : scanRepeats (boundsText min max ++ rest) = some (.repeats min max, rest) :=
      scanRepeats_eq_some_iff.mpr ⟨min, max, _, rfl, sign, rfl⟩
    simp [scan, afterItem, behind, Branches.add, found]
  have items : r.current.items = item :: b.items := by rw [behind, Branches.add]
  have taken := @Takes.repeats r (boundsText min max ++ rest) item b.items min max items
    fun most member => (sound.2 most member).1
  rw [behind] at taken
  exact .single scanned taken

theorem behind_flatten {body : Pattern} {width : Nat} (sound : body.all isWellFormed = true)
    (h : (Pattern.lookbehind body width).isWellFormed = true) :
    body.flatten.behind = .ok (.lookbehind body.flatten width) := by
  simp only [isWellFormed, Bool.and_eq_true, beq_iff_eq] at h
  exact behind_eq_ok_iff.mpr ⟨width, fixedWidth?_flatten sound h.1, rfl⟩

mutual

/--
The text of a pattern is read as the flat pattern, whatever stands before and behind it, if the
groups of the pattern have the numbers that the reader gives them.
-/
theorem reads_print : (p : Pattern) → p.all isWellFormed = true → p.isLegible = true →
    (r : Reader) → ConsecutiveAfter r.groups p.groupOrder → (rest : List Char) →
    r.Reads (printBefore rest p) (r.write p) rest
  | .sequence parts, sound, legible, r, numbered, rest =>
      reads_printParts parts (Bool.and_eq_true_iff.mp sound).2 legible r numbered rest
  | .alternation left right, sound, legible, r, numbered, rest => by
      simp only [all, Bool.and_eq_true] at sound
      rw [isLegible, Bool.and_eq_true] at legible
      rw [Pattern.groupOrder, consecutiveAfter_append] at numbered
      have same : r.write (.alternation left right) =
          write { r.write left with current := (r.write left).current.next } right := by
        simp [write, Branches.write, Pattern.groupOrder, Nat.add_assoc]
      rw [same, printBefore]
      have first := reads_print left sound.2.1 legible.1 r numbered.1
      exact ((first _).trans reads_bar).trans
        (reads_print right sound.2.2 legible.2 _ numbered.2 rest)
  | .loop body min max, sound, legible, r, numbered, rest => by
      simp only [all, Bool.and_eq_true] at sound
      simp only [isLegible, Bool.and_eq_true, bne_iff_ne] at legible
      rw [printBefore]
      cases compound : body.isCompound with
      | true =>
          exact (reads_enclosed .plain legible.2 rfl
            (reads_print body sound.2 legible.2 { groups := r.groups } numbered) rfl).trans
            (reads_sign sound.1 rfl)
      | false =>
          have single : body.isAlternation = false := by cases body <;> first | rfl | contradiction
          have kept : body.dissolves = false := by cases body <;> first | rfl | contradiction
          have item : (r.write body).current = r.current.add body.flatten :=
            Branches.write_of_item single kept r.current
          exact (reads_print body sound.2 legible.2 r numbered _).trans (reads_sign sound.1 item)
  | .group body index, sound, legible, r, numbered, rest => by
      rw [Pattern.groupOrder, consecutiveAfter_cons] at numbered
      obtain ⟨rfl, numbered⟩ := numbered
      have same : r.write (.group body (r.groups + 1)) = { r with
          current := r.current.add (.group body.flatten (r.groups + 1))
          groups := r.groups + 1 + body.groupOrder.length } := by
        simp [write, Branches.write, flatten, Pattern.groupOrder, Nat.add_assoc, Nat.add_comm]
      rw [same]
      have sound := Bool.and_eq_true_iff.mp sound
      exact reads_enclosed .capturing legible rfl
        (reads_print body sound.2 legible { groups := r.groups + 1 } numbered) rfl
  | .atomic body, sound, legible, r, numbered, rest => by
      have sound := Bool.and_eq_true_iff.mp sound
      exact reads_enclosed .atomic legible rfl
        (reads_print body sound.2 legible { groups := r.groups } numbered) rfl
  | .lookahead body, sound, legible, r, numbered, rest => by
      have sound := Bool.and_eq_true_iff.mp sound
      exact reads_enclosed .lookahead legible rfl
        (reads_print body sound.2 legible { groups := r.groups } numbered) rfl
  | .lookbehind body width, sound, legible, r, numbered, rest => by
      have sound := Bool.and_eq_true_iff.mp sound
      exact reads_enclosed .lookbehind legible rfl
        (reads_print body sound.2 legible { groups := r.groups } numbered)
        (behind_flatten sound.2 sound.1)
  | .negation (.lookahead body), sound, legible, r, numbered, rest => by
      simp only [all, Bool.and_eq_true] at sound
      exact reads_enclosed .negativeLookahead legible rfl
        (reads_print body sound.2.2 legible { groups := r.groups } numbered) rfl
  | .negation (.lookbehind body width), sound, legible, r, numbered, rest => by
      simp only [all, Bool.and_eq_true] at sound
      refine reads_enclosed .negativeLookbehind legible rfl
        (reads_print body sound.2.2 legible { groups := r.groups } numbered) ?_
      rw [Grouping.apply, behind_flatten sound.2.2 sound.2.1]
      rfl
  | .negation (.charClass set specials), sound, legible, r, _, rest =>
      reads_item (plain_negatedClass (Bool.and_eq_true_iff.mp sound).2 legible rest) rfl
  | .negation .digit, _, _, r, _, rest => reads_item (.escape 'D') rfl
  | .negation .word, _, _, r, _, rest => reads_item (.escape 'W') rfl
  | .negation .space, _, _, r, _, rest => reads_item (.escape 'S') rfl
  | .negation .wordEdge, _, _, r, _, rest => reads_item (.escape 'B') rfl
  | .negation .empty, sound, _, _, _, _ | .negation (.literal _), sound, _, _, _, _
  | .negation .anyChar, sound, _, _, _, _ | .negation .lineStart, sound, _, _, _, _
  | .negation .lineEnd, sound, _, _, _, _ | .negation (.backreference _), sound, _, _, _, _
  | .negation (.sequence _), sound, _, _, _, _ | .negation (.alternation ..), sound, _, _, _, _
  | .negation (.loop ..), sound, _, _, _, _ | .negation (.group ..), sound, _, _, _, _
  | .negation (.atomic _), sound, _, _, _, _ | .negation (.negation _), sound, _, _, _, _ => by
      simp [all, isWellFormed, isNegatable] at sound
  | .empty, _, _, r, _, rest => .refl r rest
  | .literal c, _, _, r, _, rest =>
      reads_item (plain_literalText c rest) (scanRepeats_literalText c rest)
  | .charClass set specials, sound, legible, r, _, rest =>
      reads_item (plain_charClass sound legible rest) rfl
  | .backreference index, sound, _, r, _, rest => by
      simp only [all, isWellFormed, Bool.and_eq_true, decide_eq_true_eq] at sound
      exact reads_item (plain_backreference sound.1 sound.2 rest) rfl
  | .anyChar, _, _, r, _, rest => reads_item .anyChar rfl
  | .lineStart, _, _, r, _, rest => reads_item .lineStart rfl
  | .lineEnd, _, _, r, _, rest => reads_item .lineEnd rfl
  | .digit, _, _, r, _, rest => reads_item (.escape 'd') rfl
  | .word, _, _, r, _, rest => reads_item (.escape 'w') rfl
  | .space, _, _, r, _, rest => reads_item (.escape 's') rfl
  | .wordEdge, _, _, r, _, rest => reads_item (.escape 'b') rfl

theorem reads_printParts : (parts : List Pattern) → allParts isWellFormed parts = true →
    areLegible parts = true → (r : Reader) → ConsecutiveAfter r.groups (partGroupOrder parts) →
    (rest : List Char) → r.Reads (printPartsBefore rest parts) (r.writeParts parts) rest
  | [], _, _, r, _, rest => .refl r rest
  | part :: parts, sound, legible, r, numbered, rest => by
      rw [allParts, Bool.and_eq_true] at sound
      rw [areLegible, Bool.and_eq_true] at legible
      rw [partGroupOrder, consecutiveAfter_append] at numbered
      have later (r' : Reader) (count : r'.groups = r.groups + part.groupOrder.length) :=
        reads_printParts parts sound.2 legible.2 r' (count ▸ numbered.2) rest
      rw [printPartsBefore]
      cases single : part.isAlternation with
      | true =>
          have same : r.writeParts (part :: parts) = writeParts { r with
              current := r.current.add part.flatten
              groups := r.groups + part.groupOrder.length } parts := by
            simp [writeParts, Branches.writeParts, single, partGroupOrder, Nat.add_assoc, flatten]
          rw [same]
          exact (reads_enclosed .plain legible.1 rfl
            (reads_print part sound.1 legible.1 { groups := r.groups } numbered.1) rfl).trans
            (later _ rfl)
      | false =>
          have same : r.writeParts (part :: parts) = (r.write part).writeParts parts := by
            simp [writeParts, write, Branches.writeParts, single, partGroupOrder, Nat.add_assoc]
          rw [same]
          exact (reads_print part sound.1 legible.1 r numbered.1 _).trans (later _ rfl)

end

end Reader

namespace Pattern

/-- The text of a pattern that can be read back is read as the flat pattern. -/
theorem parse_print {p : Pattern} (sound : p.all isWellFormed = true) (legible : p.isLegible = true)
    (numbered : ConsecutiveAfter 0 p.groupOrder) : parse p.print = .ok p.flatten :=
  parse_eq_ok_iff.mpr
    ⟨Reader.write {} p, Reader.reads_print p sound legible {} numbered [], rfl, rfl⟩

end Pattern

end Rematch
