import Mathlib.Data.List.DropRight
import Rematch.Proofs.WellFormed

/-!
# Refused patterns

What a compiled pattern keeps to, and what a refused one breaks: bounds out of order and lookbehinds
without a width are reported only if the text has them. A lookbehind is found by following the
reader from the parenthesis that opened it, as a run of its own over the text inside.
-/

namespace Rematch

open Token

/-! ## Runs over a part of the text -/

/-- The open group as it would be if the text were `length` characters shorter. -/
def OpenGroup.cut (g : OpenGroup) (length : Nat) : OpenGroup :=
  { g with source := g.source.rdrop length }

namespace Reader

def cut (r : Reader) (length : Nat) : Reader :=
  { r with opened := r.opened.map (·.cut length) }

section Cut

variable {r r' : Reader} {source rest text more : List Char} {token : Token}

theorem rdrop_append (text more : List Char) : (text ++ more).rdrop more.length = text := by
  simp [List.rdrop]

theorem Takes.cut (h : r.Takes (text ++ more) token r') :
    (r.cut more.length).Takes text token (r'.cut more.length) := by
  cases h with
  | item p => exact .item p
  | repeats behind inOrder => exact .repeats behind inOrder
  | bar => exact .bar
  | opening kind count =>
      have entered := @Takes.opening (r.cut more.length) text kind _ count
      simpa [Reader.cut, OpenGroup.cut, rdrop_append] using entered
  | @closing innermost opened item inside made =>
      have inside' : (r.cut more.length).opened =
          innermost.cut more.length :: opened.map (·.cut more.length) := by
        simp [Reader.cut, inside]
      exact @Takes.closing _ _ (innermost.cut more.length) _ item inside' made

/-- A run needs nothing of the text behind the part that it takes. -/
theorem Reads.cut (h : r.Reads source r' (rest ++ more)) :
    ∃ text, source = text ++ more ∧ (r.cut more.length).Reads text (r'.cut more.length) rest := by
  generalize whole : rest ++ more = rest' at h
  induction h with
  | refl r rest' => exact ⟨rest, whole.symm, .refl _ rest⟩
  | step scanned taken _ ih =>
      obtain ⟨next, rfl, later⟩ := ih whole
      obtain ⟨lexeme, _, rfl⟩ := scan_lexeme scanned
      rw [← List.append_assoc] at scanned taken
      exact ⟨lexeme ++ next, (List.append_assoc ..).symm,
        .step (scan_of_append scanned) taken.cut later⟩

end Cut

/-! ## Runs within the innermost open group -/

/--
What has been read since the innermost open group was opened, as a run of its own; the same holds
of the reader before that group.
-/
inductive Nested (text : List Char) : Reader → List Char → Prop
  | outside {r : Reader} {rest : List Char} (run : Reads {} text r rest) (flat : r.opened = []) :
      Nested text r rest
  | inside {outer inner : Reader} {kind : Grouping} {groups : Nat} {source start rest : List Char}
      (around : Nested text outer source)
      (opening : scan outer.afterItem source = some (.opening kind, start))
      (count : groups = if kind = .capturing then outer.groups + 1 else outer.groups)
      (run : Reads { groups } start inner rest) (flat : inner.opened = []) :
      Nested text
        (inner.under ({ kind, index := groups, around := outer.current, source } :: outer.opened))
        rest

namespace Nested

variable {text source rest next : List Char} {r r' : Reader} {token : Token}

theorem reads (h : Nested text r rest) : Reads {} text r rest := by
  induction h with
  | outside run _ => exact run
  | inside _ opening count run _ ih =>
      have entered := Reads.single opening (Takes.opening _ count)
      exact (ih.trans entered).trans (run.under _)

theorem extend {current : Branches} {groups : Nat} (h : Nested text r source)
    (run : ∀ opened, Reads { r with opened } source { r with current, opened, groups } rest) :
    Nested text { r with current, groups } rest := by
  cases h with
  | outside before flat => exact .outside (before.trans (run r.opened)) flat
  | @inside outer inner _ _ _ _ _ around opening count before flat =>
      exact @Nested.inside _ _ { inner with current, groups } _ _ _ _ _ around opening count
        (before.trans (run inner.opened)) flat

theorem step (h : Nested text r rest)
    (scanned : scan r.afterItem rest = some (token, next)) (taken : r.Takes rest token r') :
    Nested text r' next := by
  cases taken with
  | item p => exact h.extend fun _ => .single scanned (.item p)
  | repeats behind inOrder => exact h.extend fun _ => .single scanned (.repeats behind inOrder)
  | bar => exact h.extend fun _ => .single scanned .bar
  | opening kind count => exact .inside h scanned count (.refl _ next) rfl
  | @closing innermost opened item inside made =>
      cases h with
      | outside _ flat =>
          rw [flat] at inside
          contradiction
      | @inside outer inner kind groups source start _ around opening count run flat =>
          rw [opened_under, flat, List.nil_append, List.cons.injEq] at inside
          obtain ⟨rfl, rfl⟩ := inside
          have added (opened : List OpenGroup) := @Reads.group { outer with opened } _ _ _ _ inner
            _ _ _ opening count run flat scanned made
          exact around.extend added

/-- Wherever the reader comes to, its innermost open group has been read in a run of its own. -/
theorem of_reads (h : Reads {} text r rest) : Nested text r rest := by
  have along {r r' : Reader} {source rest : List Char} (h : r.Reads source r' rest)
      (start : Nested text r source) : Nested text r' rest := by
    induction h with
    | refl => exact start
    | step scanned taken _ ih => exact ih (start.step scanned taken)
  exact along h (.outside (.refl _ text) rfl)

end Nested

end Reader

namespace Pattern

open Reader

/-! ## What is refused -/

/-- Two bounds stand in the text where they are a repetition sign, namely behind an item. -/
def HasBounds (text : List Char) (min max : Nat) : Prop :=
  ∃ before first second after r,
    text = before ++ '{' :: (first ++ ',' :: (second ++ '}' :: after)) ∧
    Numeral first min ∧ Numeral second max ∧
    Reads {} text r ('{' :: (first ++ ',' :: (second ++ '}' :: after))) ∧ r.afterItem = true

def HasLookbehind (text : List Char) (body : Pattern) : Prop :=
  ∃ before kind inside after r, (kind = .lookbehind ∨ kind = .negativeLookbehind) ∧
    text = before ++ (openingText kind ++ (inside ++ ')' :: after)) ∧
    Reads {} text r (openingText kind ++ (inside ++ ')' :: after)) ∧
    read inside inside.length { groups := r.groups } inside = .ok body

theorem hasBounds_of_scan {text rest next : List Char} {r : Reader} {min max : Nat}
    (reads : Reads {} text r rest) (item : r.current.items ≠ [])
    (scanned : scan r.afterItem rest = some (.repeats min (some max), next))
    (outOfOrder : max < min) : HasBounds text min max := by
  obtain ⟨before, rfl⟩ := reads.exists_append
  obtain ⟨lexeme, sign, rfl⟩ := sign_of_scan_repeats scanned
  have after : r.afterItem = true := by simpa [afterItem] using item
  -- Of the signs with a maximum, only two bounds can be out of order.
  cases sign with
  | optional => omega
  | bounds bounds =>
      cases bounds with
      | exactly => omega
      | @between first second _ _ least most =>
          have same : '{' :: (first ++ ',' :: (second ++ ['}'])) ++ next =
              '{' :: (first ++ ',' :: (second ++ '}' :: next)) := by simp
          rw [same] at reads ⊢
          exact ⟨before, first, second, next, r, rfl, least, most, reads, after⟩

theorem hasLookbehind_of_scan {text rest next : List Char} {r : Reader} {innermost : OpenGroup}
    {opened : List OpenGroup} (reads : Reads {} text r rest)
    (scanned : scan r.afterItem rest = some (.closing, next))
    (inside : r.opened = innermost :: opened)
    (behind : innermost.kind = .lookbehind ∨ innermost.kind = .negativeLookbehind) :
    HasLookbehind text r.current.toPattern := by
  obtain rfl := closing_of_scan scanned
  cases Nested.of_reads reads with
  | outside _ flat =>
      rw [flat] at inside
      contradiction
  | @inside outer inner kind groups source start _ around opening count run flat =>
      rw [opened_under, flat, List.nil_append, List.cons.injEq] at inside
      obtain ⟨rfl, rfl⟩ := inside
      obtain ⟨body, rfl, alone⟩ := @Reads.cut _ _ _ [] (')' :: next) run
      obtain rfl := opening_of_scan opening
      have before := around.reads
      obtain ⟨lead, rfl⟩ := before.exists_append
      have same : groups = outer.groups := by
        rw [count, if_neg (by rcases behind with rfl | rfl <;> simp)]
      subst same
      obtain ⟨steps, _, whole⟩ := @read_of_reads body _ _ _ _ _ alone (Nat.le_refl _)
      refine ⟨lead, kind, body, next, outer, behind, rfl, before, ?_⟩
      have closed : (inner.cut (')' :: next).length).opened = [] := by rw [cut, flat, List.map_nil]
      exact whole.trans (read_nil closed)

/--
What compiling guarantees. All operators of a compiled pattern are well formed: bounds are in order,
a lookbehind has the width of its body, which has one and no branches, backreferences or open
repetitions, a sequence has at least two parts, a backreference has one digit, only shorthands, word
edges, classes and conditions are negated, and a class has an entry, only shorthands as specials and
ordered ranges. Where a repetition or a lookbehind is the cause of a refusal, it stands in the text
with the values that are reported, and these break the rule.
-/
theorem compile_contract (text : String) :
    (∀ p, compile text = .ok p → ∀ place q, p.at? place = some q → q.isWellFormed = true) ∧
    (∀ min max, compile text = .error (.boundsOutOfOrder min max) →
      max < min ∧ HasBounds text.toList min max) ∧
    (∀ body, compile text = .error (.lookbehindWidth body) →
      body.fixedWidth? = none ∧ HasLookbehind text.toList body) := by
  refine ⟨fun p compiled place q hq => check_at (isWellFormed_of_parse compiled) hq, ?_, ?_⟩
  · intro min max refused
    obtain ⟨r, rest, reads, stuck | ⟨token, next, scanned, refusal⟩⟩ :=
      exists_reads_of_read_eq_error refused
    · contradiction
    · rcases accept_eq_error_iff.mp refusal with
        ⟨min', max', rfl, item, outOfOrder, same⟩ | ⟨_, _, _, _, _, _, same⟩
      · cases same
        exact ⟨outOfOrder, hasBounds_of_scan reads item scanned outOfOrder⟩
      · contradiction
  · intro body refused
    obtain ⟨r, rest, reads, stuck | ⟨token, next, scanned, refusal⟩⟩ :=
      exists_reads_of_read_eq_error refused
    · contradiction
    · rcases accept_eq_error_iff.mp refusal with
        ⟨_, _, _, _, _, same⟩ | ⟨innermost, opened, rfl, inside, behind, unfixed, same⟩
      · contradiction
      · cases same
        exact ⟨unfixed, hasLookbehind_of_scan reads scanned inside behind⟩

/-- A compiled pattern, one with bounds out of order, and one with a lookbehind of no width. -/
theorem compile_contract_causes :
    let behind : Pattern := .lookbehind (.loop (.group .anyChar 1) 2 (some 2)) 2
    let branches : Pattern := .alternation (.group (.literal 'a') 1) (.backreference 1)
    (compile "(?<=(.){2})b" = .ok (.sequence [behind, .literal 'b']) ∧
        behind.isWellFormed = true) ∧
      (compile "xa{3,2}" = .error (.boundsOutOfOrder 3 2) ∧ HasBounds "xa{3,2}".toList 3 2) ∧
      (compile "b(?<!(a)|\\1)" = .error (.lookbehindWidth branches) ∧
        HasLookbehind "b(?<!(a)|\\1)".toList branches) := by
  intro behind branches
  have compiled : compile "(?<=(.){2})b" = .ok (.sequence [behind, .literal 'b']) := by rfl
  have reversed : compile "xa{3,2}" = .error (.boundsOutOfOrder 3 2) := by rfl
  have unfixed : compile "b(?<!(a)|\\1)" = .error (.lookbehindWidth branches) := by rfl
  exact ⟨⟨compiled, (compile_contract _).1 _ compiled [0] behind rfl⟩,
    ⟨reversed, ((compile_contract _).2.1 3 2 reversed).2⟩,
    ⟨unfixed, ((compile_contract _).2.2 branches unfixed).2⟩⟩

end Pattern

end Rematch
