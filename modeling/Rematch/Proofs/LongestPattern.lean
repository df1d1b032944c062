import Rematch.Proofs.Offsets
import Rematch.Proofs.Refusal

/-!
# The longest part of a text that is a pattern

A text that cannot be read to its end is refused at the place behind the longest part of it, from the
beginning on, that is a pattern. A longer part is read like the text as far as it goes, but for a last
token that it cuts off; of these only bounds can be read in part, and they neither open nor close a group.
-/

namespace Rematch

namespace Token

/-! ## Texts with more behind them -/

/--
A token other than a repetition stays what it is if the text goes on, unless it is a parenthesis that
gets a sign.
-/
theorem Plain.append {text rest : List Char} {token : Token} (h : Plain text token rest)
    (more : List Char) :
    Plain (text ++ more) token (rest ++ more) ∨
      token = .opening .capturing ∧ ∃ kind next, Plain (text ++ more) (.opening kind) next := by
  cases h with
  | @opening inner _ kind grouped =>
      by_cases signed : kind = .capturing
      · subst signed
        exact .inr ⟨rfl, _, _, .opening rfl⟩
      · left
        have opened := eq_openingText_append grouped
        have inner_eq := congrArg List.tail opened
        rw [List.tail_cons, List.tail_append_of_ne_nil (by cases kind <;> simp [openingText])]
          at inner_eq
        have longer := scanGrouping_openingText signed (rest ++ more)
        rw [← List.append_assoc, ← inner_eq] at longer
        exact .opening longer
  | charClass scanned =>
      obtain ⟨lexeme, _, rfl, law⟩ := scanClass_selfDelimiting _ _ _ scanned
      left
      rw [List.cons_append, List.append_assoc]
      exact .charClass (law _)
  | literal plain => exact .inl (.literal plain)
  | escape c => exact .inl (.escape c)
  | lineStart => exact .inl .lineStart
  | lineEnd => exact .inl .lineEnd
  | anyChar => exact .inl .anyChar
  | bar => exact .inl .bar
  | closing => exact .inl .closing

/-- A repetition sign that is there only because the text goes on begins with a brace. -/
theorem head_of_scanRepeats_append {text more next : List Char} {token : Token}
    (nonempty : text ≠ []) (short : scanRepeats text = none)
    (long : scanRepeats (text ++ more) = some (token, next)) : text.head? = some '{' := by
  obtain ⟨c, text, rfl⟩ := List.exists_cons_of_ne_nil nonempty
  obtain ⟨min, max, lexeme, rfl, sign, same⟩ := scanRepeats_eq_some_iff.mp long
  cases sign with
  | bounds =>
      obtain ⟨rfl, -⟩ := List.cons.inj same
      rfl
  | _ =>
      obtain ⟨rfl, -⟩ := List.cons.inj same
      simp [scanRepeats] at short

/--
What stands behind a text can change its first token in two ways only: it completes bounds after a brace,
or gives a parenthesis its sign.
-/
theorem scan_append {afterItem : Bool} {text rest : List Char} {token : Token}
    (h : scan afterItem text = some (token, rest)) (more : List Char) :
    scan afterItem (text ++ more) = some (token, rest ++ more) ∨
      (text.head? = some '{' ∧
        ∃ min max next, scan afterItem (text ++ more) = some (.repeats min max, next)) ∨
      token = .opening .capturing ∧
        ∃ kind next, scan afterItem (text ++ more) = some (.opening kind, next) := by
  rcases scan_cases h with ⟨item, repeats⟩ | ⟨noSign, plain⟩
  · obtain ⟨lexeme, _, rfl, law⟩ := scanRepeats_selfDelimiting _ _ _ repeats
    left
    rw [List.append_assoc]
    simp [scan, item, law]
  · by_cases noSign' : afterItem = true → scanRepeats (text ++ more) = none
    · rcases plain.append more with plain | ⟨unsigned, kind, next, opening⟩
      · exact .inl (scan_of_plain noSign' plain)
      · exact .inr (.inr ⟨unsigned, kind, next, scan_of_plain noSign' opening⟩)
    · obtain ⟨item, signed⟩ := Classical.not_imp.mp noSign'
      obtain ⟨⟨found, next⟩, long⟩ := Option.ne_none_iff_exists'.mp signed
      have brace := head_of_scanRepeats_append (by cases plain <;> simp) (noSign item) long
      obtain ⟨min, max, _, rfl, _⟩ := scanRepeats_eq_some_iff.mp long
      exact .inr (.inl ⟨brace, min, max, next, by simp [scan, item, long]⟩)

theorem afterItem_of_scan_repeats {afterItem : Bool} {text rest : List Char} {min : Nat}
    {max : Option Nat} (h : scan afterItem text = some (.repeats min max, rest)) :
    afterItem = true := by
  rcases scan_cases h with ⟨item, _⟩ | ⟨_, plain⟩
  · exact item
  · cases plain with
    | charClass scanned =>
        obtain ⟨_, _, ⟨_, _, _, isItem⟩ | ⟨_, _, isItem⟩⟩ := scanClass_eq_some_iff.mp scanned
        all_goals contradiction

/-! ## Texts without closing parentheses -/

theorem not_mem_of_sign {min : Nat} {max : Option Nat} {lexeme : List Char}
    (sign : Sign min max lexeme) : ')' ∉ lexeme := by
  have noDigit {digits : List Char} {n : Nat} (numeral : Numeral digits n) : ')' ∉ digits := by
    intro member
    exact absurd (numeral.decimal _ member) (by decide)
  cases sign with
  | bounds bounds =>
      cases bounds with
      | exactly numeral | atLeast numeral => simp [noDigit numeral]
      | between least most => simp [noDigit least, noDigit most]
  | _ => decide

theorem not_mem_openingText (kind : Grouping) : ')' ∉ openingText kind := by
  cases kind <;> decide

end Token

open Token

namespace Reader

variable {r r' : Reader} {source rest : List Char}

/-! ## Where reading ends -/

/-- No token can be taken, and if nothing is left a group is still open. -/
structure Blocked (r : Reader) (rest : List Char) : Prop where
  refused : ∀ token next, scan r.afterItem rest = some (token, next) → r.accept rest token = none
  unfinished : rest = [] → r.opened ≠ []

def unread (r : Reader) (rest : List Char) : List Char :=
  match r.opened.getLast? with
  | some outermost => outermost.source
  | none => rest

theorem stuck_eq (r : Reader) (text rest : List Char) :
    r.stuck text rest =
      .unexpectedInput (byteLength text - byteLength (r.unread rest)) (r.unread rest) := rfl

theorem accept_eq_none_iff {token : Token} :
    r.accept source token = none ↔
      (∃ min max, token = .repeats min max ∧ r.current.items = []) ∨
        token = .closing ∧ r.opened = [] := by
  cases token with
  | repeats min max => cases items : r.current.items <;> simp [accept, items]
  | closing => cases opened : r.opened <;> simp [accept, opened]
  | _ => simp [accept]

/-- The text is refused at a place only where the reader is blocked. -/
theorem exists_blocked_of_read {text start : List Char} {offset steps : Nat}
    (enough : source.length ≤ steps)
    (h : read text steps r source = .error (.unexpectedInput offset start)) :
    ∃ r' rest, r.Reads source r' rest ∧ r'.Blocked rest ∧ r'.unread rest = start ∧
      offset = byteLength text - byteLength start := by
  fun_induction read text steps r source with
  | case1 => contradiction
  | case2 steps r opened =>
      rw [stuck_eq] at h
      cases h
      refine ⟨r, [], .refl r [], ⟨fun _ _ scanned => ?_, fun _ => by simpa using opened⟩, rfl, rfl⟩
      obtain ⟨lexeme, nonempty, same⟩ := scan_lexeme scanned
      exact absurd (List.append_eq_nil_iff.mp same.symm).1 nonempty
  | case3 r source nonempty => exact absurd (List.length_eq_zero_iff.mp (Nat.le_zero.mp enough)) nonempty
  | case4 steps r source nonempty noToken =>
      rw [stuck_eq] at h
      cases h
      refine ⟨r, source, .refl r source, ⟨?_, fun empty => absurd empty nonempty⟩, rfl, rfl⟩
      simp [noToken]
  | case5 steps r source nonempty token next scanned refused =>
      rw [stuck_eq] at h
      cases h
      refine ⟨r, source, .refl r source, ⟨?_, fun empty => absurd empty nonempty⟩, rfl, rfl⟩
      simpa [scanned] using refused
  | case6 steps r source nonempty token next scanned e accepted =>
      cases h
      obtain ⟨_, _, _, _, _, same⟩ | ⟨_, _, _, _, _, _, same⟩ := accept_eq_error_iff.mp accepted
      all_goals contradiction
  | case7 steps r source nonempty token next scanned between accepted ih =>
      obtain ⟨lexeme, some, rfl⟩ := scan_lexeme scanned
      have shorter : next.length ≤ steps := by
        have := List.length_pos_iff.mpr some
        simp at enough
        omega
      obtain ⟨r', rest, reads, blocked⟩ := ih shorter h
      exact ⟨r', rest, .step scanned (accept_eq_ok_iff.mp accepted) reads, blocked⟩

theorem Takes.unique {r₁ r₂ : Reader} {token : Token} (h : r.Takes source token r₁)
    (h' : r.Takes source token r₂) : r₁ = r₂ := by
  have same := (accept_eq_ok_iff.mpr h).symm.trans (accept_eq_ok_iff.mpr h')
  exact Except.ok.inj (Option.some.inj same)

/-- Of two runs from one place, the one that goes further goes on from the end of the other. -/
theorem Reads.onward {r₁ r₂ : Reader} {rest₁ rest₂ : List Char} (h : r.Reads source r₁ rest₁)
    (h' : r.Reads source r₂ rest₂) (further : rest₂.length ≤ rest₁.length) :
    r₁.Reads rest₁ r₂ rest₂ := by
  induction h with
  | refl => exact h'
  | @step r between r₁ source next rest₁ token scanned taken later ih =>
      cases h' with
      | refl =>
          -- the other run has not even begun
          obtain ⟨lexeme, nonempty, rfl⟩ := scan_lexeme scanned
          obtain ⟨part, rfl⟩ := later.exists_append
          have some := List.length_pos_iff.mpr nonempty
          simp at further
          omega
      | step scanned' taken' later' =>
          obtain ⟨rfl, rfl⟩ := Prod.mk.inj (Option.some.inj (scanned.symm.trans scanned'))
          obtain rfl := taken.unique taken'
          exact ih later' further

theorem Reads.opened_suffix (h : r.Reads source r' rest) (unclosed : ')' ∉ source) :
    r.opened <:+ r'.opened := by
  induction h with
  | refl => exact List.suffix_rfl
  | @step r between r' source next rest token scanned taken later ih =>
      have ahead : ')' ∉ next := by
        obtain ⟨lexeme, _, rfl⟩ := scan_lexeme scanned
        exact fun member => unclosed (List.mem_append_right lexeme member)
      have kept : r.opened <:+ between.opened := by
        cases taken with
        | opening => exact List.suffix_cons _ _
        | closing =>
            rw [closing_of_scan scanned] at unclosed
            exact absurd List.mem_cons_self unclosed
        | _ => exact List.suffix_rfl
      exact kept.trans (ih ahead)

theorem Reads.source_suffix {whole : List Char} (h : r.Reads source r' rest)
    (start : source <:+ whole) (before : ∀ g ∈ r.opened, g.source <:+ whole) :
    rest <:+ whole ∧ ∀ g ∈ r'.opened, g.source <:+ whole := by
  induction h with
  | refl => exact ⟨start, before⟩
  | @step r between r' source next rest token scanned taken later ih =>
      obtain ⟨lexeme, _, rfl⟩ := scan_lexeme scanned
      refine ih ((List.suffix_append lexeme next).trans start) ?_
      cases taken with
      | opening => exact List.forall_mem_cons.mpr ⟨start, before⟩
      | closing inside =>
          rw [inside] at before
          exact (List.forall_mem_cons.mp before).2
      | _ => exact before

theorem Reads.unread_suffix (h : r.Reads source r' rest) (closed : r.opened = []) :
    r'.unread rest <:+ source := by
  obtain ⟨after, inside⟩ := h.source_suffix List.suffix_rfl (by simp [closed])
  unfold unread
  split
  · rename_i outermost last
    exact inside _ (List.mem_of_getLast? last)
  · exact after

/-- What is not reported of a text has been read with no group left open. -/
theorem exists_reads_unread {text : List Char} (h : Reads {} text r rest) :
    ∃ outer, Reads {} text outer (r.unread rest) ∧ outer.opened = [] ∧
      (r.opened ≠ [] → r.unread rest ≠ []) := by
  have nested := Nested.of_reads h
  clear h
  induction nested with
  | @outside r rest run flat => exact ⟨r, by simpa [unread, flat] using run, flat, by simp [flat]⟩
  | @inside outer inner kind groups source start rest around opening count run flat ih =>
      obtain ⟨before, reads, closed, nonempty⟩ := ih
      cases opened : outer.opened with
      | nil =>
          have first := around.reads
          obtain ⟨lexeme, some, rfl⟩ := scan_lexeme opening
          refine ⟨outer, by simpa [unread, flat] using first, opened, fun _ => ?_⟩
          simp [unread, flat, some]
      | cons g others =>
          have same : (inner.under ({ kind, index := groups, around := outer.current, source } ::
              g :: others)).unread rest = outer.unread source := by
            simp [unread, flat, opened, List.getLast?_cons]
          rw [same]
          exact ⟨before, reads, closed, fun _ => nonempty (by simp [opened])⟩

/--
A run either stays in front of some last part of the text, or a token of it begins there and ends later.
-/
theorem Reads.stays_or_crosses {front more : List Char} (h : r.Reads (front ++ more) r' rest) :
    (∃ front', rest = front' ++ more) ∨
      ∃ before front' token next after, r.Reads (front ++ more) before (front' ++ more) ∧
        scan before.afterItem (front' ++ more) = some (token, next) ∧
        before.Takes (front' ++ more) token after ∧ after.Reads next r' rest ∧
        next.length < more.length := by
  generalize whole : front ++ more = source at h
  induction h generalizing front with
  | refl => exact .inl ⟨front, whole.symm⟩
  | @step r between r' source next rest token scanned taken later ih =>
      subst whole
      by_cases inside : more.length ≤ next.length
      · obtain ⟨lexeme, _, same⟩ := scan_lexeme scanned
        obtain ⟨front', rfl⟩ : more <:+ next :=
          List.suffix_of_suffix_length_le ⟨front, rfl⟩ ⟨lexeme, same.symm⟩ inside
        rcases ih rfl with stays | ⟨before, front'', token', next', after, reads, crosses⟩
        · exact .inl stays
        · exact .inr ⟨before, front'', token', next', after, .step scanned taken reads, crosses⟩
      · exact .inr ⟨r, front, token, next, between, .refl _ _, scanned, taken, later, by omega⟩

/-! ## Longer parts -/

/-- Where the text is blocked, no part of it that goes further can be read to its end. -/
theorem Blocked.front_eq_nil {front more : List Char} {last : Reader}
    (blocked : r.Blocked (front ++ more))
    (goesOn : (r.cut more.length).Reads front last []) : front = [] := by
  cases goesOn with
  | refl => rfl
  | @step _ between _ _ next _ token scanned taken =>
      have accepted := accept_eq_ok_iff.mpr taken
      exfalso
      rcases scan_append scanned more with whole | ⟨_, min, max, next, whole⟩ | ⟨_, kind, next, whole⟩
      · have refused := accept_eq_none_iff.mp (blocked.refused _ _ whole)
        have refused' : (r.cut more.length).accept front token = none :=
          accept_eq_none_iff.mpr (by simpa [cut] using refused)
        simp [refused'] at accepted
      · obtain ⟨_, _, _, items⟩ | ⟨other, _⟩ := accept_eq_none_iff.mp (blocked.refused _ _ whole)
        · have item : r.afterItem = true := afterItem_of_scan_repeats whole
          simp [afterItem, items] at item
        · contradiction
      · obtain ⟨_, _, other, _⟩ | ⟨other, _⟩ := accept_eq_none_iff.mp (blocked.refused _ _ whole)
        all_goals contradiction

/--
A token that begins in a part of the text and ends behind it begins outside of groups, and opens none, if
that part can be read to its end with no group left open.
-/
theorem Takes.outside {front more next : List Char} {between last : Reader} {token : Token}
    (scanned : scan r.afterItem (front ++ more) = some (token, next))
    (taken : r.Takes (front ++ more) token between) (crosses : next.length < more.length)
    (part : (r.cut more.length).Reads front last []) (closed : last.opened = []) :
    r.opened = [] ∧ (front ≠ [] → between.opened = []) := by
  -- The part ends inside the token, so a closing parenthesis in it would be one of the token.
  have unclosed {lexeme : List Char} (free : ')' ∉ lexeme) (same : front ++ more = lexeme ++ next) :
      ')' ∉ front := by
    have shorter := congrArg List.length same
    simp at shorter
    have inside : front <+: lexeme :=
      List.prefix_of_prefix_length_le ⟨more, same⟩ (List.prefix_append lexeme next) (by omega)
    exact fun member => free (inside.subset member)
  have outside (free : ')' ∉ front) : r.opened = [] := by
    have kept := part.opened_suffix free
    rw [closed, List.suffix_nil] at kept
    exact List.map_eq_nil_iff.mp kept
  cases part with
  | refl => exact ⟨List.map_eq_nil_iff.mp closed, fun other => absurd rfl other⟩
  | step scanned' taken' later =>
      rcases scan_append scanned' more with whole | ⟨_, min, max, _, whole⟩ | ⟨rfl, kind, _, whole⟩
      · cases scanned.symm.trans whole
        rw [List.length_append] at crosses
        omega
      · cases scanned.symm.trans whole
        obtain ⟨lexeme, sign, same⟩ := sign_of_scan_repeats scanned
        have closed' := outside (unclosed (not_mem_of_sign sign) same)
        cases taken
        exact ⟨closed', fun _ => closed'⟩
      · -- The part opens a group that it cannot close.
        cases scanned.symm.trans whole
        have free := unclosed (not_mem_openingText kind) (opening_of_scan scanned)
        obtain ⟨lexeme, _, rfl⟩ := scan_lexeme scanned'
        have kept := later.opened_suffix fun member => free (List.mem_append_right lexeme member)
        cases taken'
        simp [closed] at kept

end Reader

namespace Pattern

open Reader

/-- A part of the text that is a pattern does not reach behind the place where the text is refused. -/
theorem length_unread_le {longer more rest : List Char} {r : Reader} {p : Pattern}
    (reads : Reads {} (longer ++ more) r rest) (blocked : r.Blocked rest)
    (parsed : parse longer = .ok p) : (r.unread rest).length ≤ more.length := by
  obtain ⟨last, part, finished, _⟩ := parse_eq_ok_iff.mp parsed
  -- A run over the text goes on as the run over the part does, while it is in front of the rest.
  have along {between : Reader} {front : List Char}
      (h : Reads {} (longer ++ more) between (front ++ more)) :
      (between.cut more.length).Reads front last [] := by
    obtain ⟨text, same, shorter⟩ := h.cut
    obtain rfl := List.append_cancel_right same
    exact shorter.onward part (Nat.zero_le _)
  rcases reads.stays_or_crosses with ⟨front, rfl⟩ |
    ⟨before, front, token, next, after, lead, scanned, taken, later, crosses⟩
  · have ahead := along reads
    obtain rfl := blocked.front_eq_nil ahead
    have kept := ahead.opened_suffix List.not_mem_nil
    rw [finished, List.suffix_nil] at kept
    have flat : r.opened = [] := List.map_eq_nil_iff.mp kept
    simp [unread, flat]
  · obtain ⟨outside, between⟩ := taken.outside scanned crosses (along lead) finished
    by_cases exactly : front = []
    · subst exactly
      exact ((Reads.step scanned taken later).unread_suffix outside).length_le
    · have inside := (later.unread_suffix (between exactly)).length_le
      omega

/-- What stands in front of the place where a text is refused is a pattern. -/
theorem exists_parse_unread {text rest : List Char} {r : Reader} (reads : Reads {} text r rest)
    (blocked : r.Blocked rest) :
    ∃ accepted, text = accepted ++ r.unread rest ∧ r.unread rest ≠ [] ∧
      ∃ p, parse accepted = .ok p := by
  obtain ⟨outer, before, closed, nonempty⟩ := exists_reads_unread reads
  have before' : Reads {} text outer ([] ++ r.unread rest) := before
  obtain ⟨accepted, same, alone⟩ := before'.cut
  refine ⟨accepted, same, ?_, _, parse_eq_ok_iff.mpr ⟨_, alone, by simp [cut, closed], rfl⟩⟩
  by_cases flat : r.opened = []
  · have rest_eq : r.unread rest = rest := by simp [unread, flat]
    rw [rest_eq]
    exact fun empty => blocked.unfinished empty flat
  · exact nonempty flat

theorem utf8ByteSize_eq (text : String) : text.utf8ByteSize = byteLength text.toList := by
  rw [← size_utf8, utf8, String.ofList_toList]
  rfl

/--
If a text is refused because of what stands somewhere in it, the place is given by the number of bytes in
front of it, and what stands there up to the end is reported, which is not nothing. The text in front of it
is a pattern, and no longer part of the text from its beginning on is one.
-/
theorem unexpectedInput_after_longest {text : String} {offset : Nat} {rest : List Char}
    (refused : compile text = .error (.unexpectedInput offset rest)) :
    ∃ accepted : String, text = accepted ++ String.ofList rest ∧ rest ≠ [] ∧
      accepted.utf8ByteSize = offset ∧ (∃ p, compile accepted = .ok p) ∧
      ∀ longer more : String, text = longer ++ more → offset < longer.utf8ByteSize →
        ∀ p, compile longer ≠ .ok p := by
  obtain ⟨r, last, reads, blocked, rfl, rfl⟩ := exists_blocked_of_read (Nat.le_refl _) refused
  obtain ⟨accepted, same, nonempty, p, parsed⟩ := exists_parse_unread reads blocked
  have whole : text = String.ofList accepted ++ String.ofList (r.unread last) := by
    rw [← String.ofList_append, ← same, String.ofList_toList]
  have size : byteLength text.toList - byteLength (r.unread last) = byteLength accepted := by
    rw [same, byteLength_append, Nat.add_sub_cancel]
  refine ⟨String.ofList accepted, whole, nonempty, ?_, ⟨p, ?_⟩, ?_⟩
  · rw [utf8ByteSize_eq, String.toList_ofList, size]
  · rw [compile, String.toList_ofList, parsed]
  · intro longer more parts beyond q compiled
    have halves := (congrArg String.toList parts).symm
    rw [String.toList_append] at halves
    rw [← halves] at reads
    have within := length_unread_le reads blocked compiled
    -- A part that leaves no less behind it is a part of what is accepted.
    have lengths := congrArg List.length (halves.trans same)
    simp only [List.length_append] at lengths
    obtain ⟨others, rfl⟩ : longer.toList <+: accepted :=
      List.prefix_of_prefix_length_le ⟨more.toList, halves⟩ ⟨r.unread last, same.symm⟩ (by omega)
    rw [size, utf8ByteSize_eq, byteLength_append] at beyond
    omega

/--
The group is not closed, as the parenthesis behind it is one in a class. The text is refused at the group,
whatever could be read in it.
-/
theorem unexpectedInput_after_longest_group :
    compile "é\x7b2\x7d(a\x7b1,2\x7d|b[)]" =
        .error (.unexpectedInput 5 "(a\x7b1,2\x7d|b[)]".toList) ∧
      (∃ p, compile "é\x7b2\x7d" = .ok p) ∧
      ∀ p, compile "é\x7b2\x7d(a\x7b1,2\x7d" ≠ .ok p := by
  have refused : compile "é\x7b2\x7d(a\x7b1,2\x7d|b[)]" =
      .error (.unexpectedInput 5 "(a\x7b1,2\x7d|b[)]".toList) := by rfl
  obtain ⟨accepted, whole, _, _, accepts, longest⟩ := unexpectedInput_after_longest refused
  have front : "é\x7b2\x7d" ++ "(a\x7b1,2\x7d|b[)]" = accepted ++ "(a\x7b1,2\x7d|b[)]" := by
    rw [String.ofList_toList] at whole
    exact whole
  rw [String.append_left_inj] at front
  subst front
  exact ⟨refused, accepts, longest "é\x7b2\x7d(a\x7b1,2\x7d" "|b[)]" rfl (by decide)⟩

end Pattern
end Rematch
