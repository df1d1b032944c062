import Rematch.Pattern.Reader
import Rematch.Proofs.Lexemes

/-!
# Runs of the reader

Reading as a relation: what a token does to the reader, and where the reader comes to when it takes
one token after the other. A text is a pattern if such a run takes all of it and leaves no group
open; an error is what the first token that cannot be taken says.
-/

namespace Rematch

open Token

namespace Reader

/-- What a token that stands at `source` does to a reader that can take it. -/
inductive Takes (r : Reader) (source : List Char) : Token → Reader → Prop
  | item (p : Pattern) : Takes r source (.item p) { r with current := r.current.add p }
  | repeats {item : Pattern} {items : List Pattern} {min : Nat} {max : Option Nat}
      (behind : r.current.items = item :: items) (inOrder : ∀ most ∈ max, min ≤ most) :
      Takes r source (.repeats min max)
        { r with current := { r.current with items := .loop item min max :: items } }
  | bar : Takes r source .bar { r with current := r.current.next }
  | opening (kind : Grouping) {groups : Nat}
      (count : groups = if kind = .capturing then r.groups + 1 else r.groups) :
      Takes r source (.opening kind)
        { current := {}
          opened := { kind, index := groups, around := r.current, source } :: r.opened
          groups }
  | closing {innermost : OpenGroup} {opened : List OpenGroup} {item : Pattern}
      (inside : r.opened = innermost :: opened)
      (made : innermost.kind.apply innermost.index r.current.toPattern = .ok item) :
      Takes r source .closing { r with current := innermost.around.add item, opened }

theorem map_eq_ok_iff {α β : Type} {f : α → β} {x : Except PatternError α} {b : β} :
    x.map f = .ok b ↔ ∃ a, x = .ok a ∧ f a = b := by
  cases x <;> simp [Except.map]

theorem map_eq_error_iff {α β : Type} {f : α → β} {x : Except PatternError α} {e : PatternError} :
    x.map f = .error e ↔ x = .error e := by
  cases x <;> simp [Except.map]

theorem bounded_eq_ok_iff {item repeated : Pattern} {min : Nat} {max : Option Nat} :
    item.bounded min max = .ok repeated ↔
      (∀ most ∈ max, min ≤ most) ∧ .loop item min max = repeated := by
  cases max with
  | none => simp [Pattern.bounded]
  | some most =>
      by_cases outOfOrder : most < min
      · simp [Pattern.bounded, outOfOrder, Nat.not_le_of_lt outOfOrder]
      · simp [Pattern.bounded, outOfOrder, Nat.le_of_not_lt outOfOrder]

theorem bounded_eq_error_iff {item : Pattern} {min : Nat} {max : Option Nat} {e : PatternError} :
    item.bounded min max = .error e ↔
      ∃ most, max = some most ∧ most < min ∧ .boundsOutOfOrder min most = e := by
  cases max with
  | none => simp [Pattern.bounded]
  | some most =>
      by_cases outOfOrder : most < min
      · simp [Pattern.bounded, outOfOrder]
      · simp [Pattern.bounded, outOfOrder]

theorem behind_eq_ok_iff {body item : Pattern} :
    body.behind = .ok item ↔
      ∃ width, body.fixedWidth? = some width ∧ .lookbehind body width = item := by
  cases width : body.fixedWidth? <;> simp [Pattern.behind, width]

theorem behind_eq_error_iff {body : Pattern} {e : PatternError} :
    body.behind = .error e ↔ body.fixedWidth? = none ∧ .lookbehindWidth body = e := by
  cases width : body.fixedWidth? <;> simp [Pattern.behind, width]

theorem apply_eq_error_iff {kind : Grouping} {index : Nat} {body : Pattern} {e : PatternError} :
    kind.apply index body = .error e ↔
      (kind = .lookbehind ∨ kind = .negativeLookbehind) ∧
        body.fixedWidth? = none ∧ .lookbehindWidth body = e := by
  cases kind with
  | lookbehind => simp [Grouping.apply, behind_eq_error_iff]
  | negativeLookbehind => simp [Grouping.apply, map_eq_error_iff, behind_eq_error_iff]
  | _ => simp [Grouping.apply]

theorem accept_eq_ok_iff {r r' : Reader} {source : List Char} {token : Token} :
    r.accept source token = some (.ok r') ↔ r.Takes source token r' := by
  constructor
  · intro h
    cases token with
    | item p =>
        cases h
        exact .item p
    | bar =>
        cases h
        exact .bar
    | opening kind =>
        cases h
        exact .opening kind rfl
    | repeats min max =>
        cases behind : r.current.items with
        | nil => simp [accept, behind] at h
        | cons item items =>
            simp only [accept, behind, Option.some.injEq, map_eq_ok_iff, bounded_eq_ok_iff] at h
            obtain ⟨_, ⟨inOrder, rfl⟩, rfl⟩ := h
            exact .repeats behind inOrder
    | closing =>
        cases inside : r.opened with
        | nil => simp [accept, inside] at h
        | cons innermost opened =>
            simp only [accept, inside, Option.some.injEq, map_eq_ok_iff] at h
            obtain ⟨item, made, rfl⟩ := h
            exact .closing inside made
  · intro h
    cases h with
    | item | bar => rfl
    | opening kind count => simp [accept, count]
    | @repeats item items min max behind inOrder =>
        have made := (@bounded_eq_ok_iff item _ min max).mpr ⟨inOrder, rfl⟩
        simp [accept, behind, made, Except.map]
    | closing inside made => simp [accept, inside, made, Except.map]

/-- The token completes an error: bounds out of order, or a lookbehind without a width. -/
theorem accept_eq_error_iff {r : Reader} {source : List Char} {token : Token} {e : PatternError} :
    r.accept source token = some (.error e) ↔
      (∃ min max, token = .repeats min (some max) ∧ r.current.items ≠ [] ∧ max < min ∧
        e = .boundsOutOfOrder min max) ∨
      (∃ innermost opened, token = .closing ∧ r.opened = innermost :: opened ∧
        (innermost.kind = .lookbehind ∨ innermost.kind = .negativeLookbehind) ∧
        r.current.toPattern.fixedWidth? = none ∧ e = .lookbehindWidth r.current.toPattern) := by
  constructor
  · intro h
    cases token with
    | item | bar | opening => simp [accept] at h
    | repeats min max =>
        cases behind : r.current.items with
        | nil => simp [accept, behind] at h
        | cons item items =>
            simp only [accept, behind, Option.some.injEq, map_eq_error_iff, bounded_eq_error_iff]
              at h
            obtain ⟨most, rfl, outOfOrder, rfl⟩ := h
            exact .inl ⟨min, most, rfl, by simp, outOfOrder, rfl⟩
    | closing =>
        cases inside : r.opened with
        | nil => simp [accept, inside] at h
        | cons innermost opened =>
            simp only [accept, inside, Option.some.injEq, map_eq_error_iff, apply_eq_error_iff] at h
            obtain ⟨kind, unfixed, rfl⟩ := h
            exact .inr ⟨innermost, opened, rfl, rfl, kind, unfixed, rfl⟩
  · rintro (⟨min, max, rfl, behind, outOfOrder, rfl⟩ |
      ⟨innermost, opened, rfl, inside, kind, unfixed, rfl⟩)
    · obtain ⟨item, items, hitems⟩ := List.exists_cons_of_ne_nil behind
      have made := (@bounded_eq_error_iff item _ _ _).mpr ⟨max, rfl, outOfOrder, rfl⟩
      simp [accept, hitems, made, Except.map]
    · have made := (@apply_eq_error_iff _ innermost.index _ _).mpr ⟨kind, unfixed, rfl⟩
      simp [accept, inside, made, Except.map]

/-! ## Runs -/

inductive Reads : (r : Reader) → (source : List Char) → (r' : Reader) → (rest : List Char) → Prop
  | refl (r : Reader) (rest : List Char) : Reads r rest r rest
  | step {r between r' : Reader} {source next rest : List Char} {token : Token}
      (scanned : scan r.afterItem source = some (token, next))
      (taken : r.Takes source token between) (later : Reads between next r' rest) :
      Reads r source r' rest

namespace Reads

variable {r r' r'' : Reader} {source between rest : List Char}

theorem single {token : Token} (scanned : scan r.afterItem source = some (token, rest))
    (taken : r.Takes source token r') : r.Reads source r' rest :=
  .step scanned taken (.refl r' rest)

theorem trans (h : r.Reads source r' between) (h' : r'.Reads between r'' rest) :
    r.Reads source r'' rest := by
  induction h with
  | refl => exact h'
  | step scanned taken _ ih => exact .step scanned taken (ih h')

theorem exists_append (h : r.Reads source r' rest) : ∃ taken, source = taken ++ rest := by
  induction h with
  | refl => exact ⟨[], rfl⟩
  | step scanned _ _ ih =>
      obtain ⟨lexeme, _, rfl⟩ := scan_lexeme scanned
      obtain ⟨taken, rfl⟩ := ih
      exact ⟨lexeme ++ taken, (List.append_assoc ..).symm⟩

/-- What holds of a reader and is kept by every token holds after a run. -/
theorem preserves {P : Reader → Prop}
    (keeps : ∀ {r r' : Reader} {source next : List Char} {token : Token},
      scan r.afterItem source = some (token, next) → r.Takes source token r' → P r → P r')
    (h : r.Reads source r' rest) (start : P r) : P r' := by
  induction h with
  | refl => exact start
  | step scanned taken _ ih => exact ih (keeps scanned taken start)

end Reads

/-! ## Levels of grouping -/

def under (r : Reader) (around : List OpenGroup) : Reader :=
  { r with opened := r.opened ++ around }

@[simp] theorem opened_under (r : Reader) (around : List OpenGroup) :
    (r.under around).opened = r.opened ++ around := rfl

variable {r r' : Reader} {source start next rest : List Char} {token : Token}

theorem Takes.under (h : r.Takes source token r') (around : List OpenGroup) :
    (r.under around).Takes source token (r'.under around) := by
  cases h with
  | item p => exact .item p
  | repeats behind inOrder => exact .repeats behind inOrder
  | bar => exact .bar
  | opening kind count => exact .opening kind count
  | closing inside made => exact .closing (by rw [opened_under, inside]; rfl) made

/-- A run goes the same way inside further groups, which it leaves open. -/
theorem Reads.under (h : r.Reads source r' rest) (around : List OpenGroup) :
    (r.under around).Reads source (r'.under around) rest := by
  induction h with
  | refl r rest => exact .refl _ rest
  | step scanned taken _ ih => exact .step scanned (taken.under around) ih

/-- A run from an opening parenthesis to the one that closes it adds one item. -/
theorem Reads.group {inner : Reader} {kind : Grouping} {groups : Nat} {item : Pattern}
    (opening : scan r.afterItem source = some (.opening kind, start))
    (count : groups = if kind = .capturing then r.groups + 1 else r.groups)
    (body : Reads { groups } start inner rest) (closed : inner.opened = [])
    (closing : scan inner.afterItem rest = some (.closing, next))
    (made : kind.apply groups inner.current.toPattern = .ok item) :
    r.Reads source { r with current := r.current.add item, groups := inner.groups } next := by
  have entered := Reads.single opening (Takes.opening kind count)
  let group : OpenGroup := { kind, index := groups, around := r.current, source }
  have inside := body.under (group :: r.opened)
  have innermost : (inner.under (group :: r.opened)).opened = group :: r.opened := by
    rw [opened_under, closed, List.nil_append]
  exact (entered.trans inside).trans (.single closing (.closing innermost made))

/-! ## Reading a whole text -/

section Whole

variable {text source rest : List Char} {r r' : Reader} {steps : Nat} {p : Pattern}

theorem read_of_reads (h : r.Reads source r' rest) (enough : source.length ≤ steps) :
    ∃ steps', rest.length ≤ steps' ∧ read text steps r source = read text steps' r' rest := by
  induction h generalizing steps with
  | refl => exact ⟨steps, enough, rfl⟩
  | @step r between r' source next rest token scanned taken _ ih =>
      obtain ⟨lexeme, nonempty, rfl⟩ := scan_lexeme scanned
      obtain ⟨c, lexeme, rfl⟩ := List.exists_cons_of_ne_nil nonempty
      cases steps with
      | zero => simp at enough
      | succ steps =>
          have enough' : next.length ≤ steps := by
            simp at enough
            omega
          obtain ⟨steps', fits, same⟩ := ih enough'
          have accepted := accept_eq_ok_iff.mpr taken
          rw [List.cons_append] at scanned accepted ⊢
          exact ⟨steps', fits, by simp [read, scanned, accepted, same]⟩

theorem read_nil (closed : r.opened = []) : read text steps r [] = .ok r.current.toPattern := by
  cases steps <;> simp [read, closed]

theorem exists_reads_of_read_eq_ok (h : read text steps r source = .ok p) :
    ∃ r', r.Reads source r' [] ∧ r'.opened = [] ∧ r'.current.toPattern = p := by
  fun_induction read text steps r source with
  | case1 steps r closed =>
      cases h
      exact ⟨r, .refl r [], by simpa using closed, rfl⟩
  | case7 steps r source nonempty token next scanned between accepted ih =>
      obtain ⟨r', later, closed, made⟩ := ih h
      exact ⟨r', .step scanned (accept_eq_ok_iff.mp accepted) later, closed, made⟩
  | _ => contradiction

/-- An error is that of the first token that cannot be taken, or says that there is none. -/
theorem exists_reads_of_read_eq_error {e : PatternError}
    (h : read text steps r source = .error e) :
    ∃ r' rest, r.Reads source r' rest ∧
      (e = r'.stuck text rest ∨
        ∃ token next, scan r'.afterItem rest = some (token, next) ∧
          r'.accept rest token = some (.error e)) := by
  fun_induction read text steps r source with
  | case6 steps r source nonempty token next scanned e accepted =>
      cases h
      exact ⟨r, source, .refl r source, .inr ⟨token, next, scanned, accepted⟩⟩
  | case7 steps r source nonempty token next scanned between accepted ih =>
      obtain ⟨r', rest, later, cause⟩ := ih h
      exact ⟨r', rest, .step scanned (accept_eq_ok_iff.mp accepted) later, cause⟩
  | case1 => contradiction
  | _ =>
      cases h
      exact ⟨_, _, .refl _ _, .inl rfl⟩

end Whole

end Reader

namespace Pattern

/-- A text is a pattern if the reader can take all of it and has closed every group. -/
theorem parse_eq_ok_iff {text : List Char} {p : Pattern} :
    parse text = .ok p ↔
      ∃ r, Reader.Reads {} text r [] ∧ r.opened = [] ∧ r.current.toPattern = p := by
  constructor
  · exact Reader.exists_reads_of_read_eq_ok
  · rintro ⟨r, reads, closed, rfl⟩
    obtain ⟨steps, _, same⟩ := @Reader.read_of_reads text _ _ _ _ _ reads (Nat.le_refl _)
    rw [parse, same, Reader.read_nil closed]

end Pattern
end Rematch
