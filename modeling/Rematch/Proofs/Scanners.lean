import Rematch.Pattern.Descent
import Rematch.Proofs.Lexemes

/-!
# What the parsers without groups compute

A parser for a repetition sign, a class or a single item neither gives up nor looks at the context. It
finds what the scanner of tokens finds, and refuses a text where the scanner finds nothing.
-/

namespace Rematch
namespace Descent

open Token Descent.Parser

variable {α β : Type}

/-- The reply to a text in which a scanner has found something or nothing. -/
inductive Agrees (ctx : Context) : Option (α × List Char) → Reply α × Context → Prop
  | found (a : α) (rest : List Char) : Agrees ctx (some (a, rest)) (.ok rest a, ctx)
  | refused (setback : Setback) : Agrees ctx none (.error setback, ctx)

def Parser.Computes (p : Parser α) (scanner : List Char → Option (α × List Char)) : Prop :=
  ∀ input ctx, Agrees ctx (scanner input) (p input ctx)

def first? (accepts : Char → Bool) : List Char → Option (Char × List Char)
  | [] => none
  | c :: rest => if accepts c then some (c, rest) else none

@[simp] theorem first?_self (c : Char) (rest : List Char) :
    first? (· = c) (c :: rest) = some (c, rest) := by
  simp [first?]

theorem eq_of_first? {c d : Char} {text rest : List Char}
    (found : first? (· = c) text = some (d, rest)) : text = c :: rest := by
  cases text with
  | nil => contradiction
  | cons e text =>
      simp only [first?] at found
      split at found
      · next same =>
          cases found
          rw [of_decide_eq_true same]
      · contradiction

theorem first?_of_ne {c : Char} {text : List Char} (other : ∀ rest, text = c :: rest → False) :
    first? (· = c) text = none := by
  cases text with
  | nil => rfl
  | cons d rest =>
      have different : d ≠ c := by
        rintro rfl
        exact other rest rfl
      simp [first?, different]

namespace Parser.Computes

variable {p q : Parser α} {f g : List Char → Option (α × List Char)} {input rest : List Char} {a : α}

theorem of_some (h : p.Computes f) (found : f input = some (a, rest)) (ctx : Context) :
    p input ctx = (.ok rest a, ctx) := by
  have computes := h input ctx
  rw [found] at computes
  generalize p input ctx = result at computes ⊢
  cases computes with
  | found => rfl

theorem of_none (h : p.Computes f) (absent : f input = none) (ctx : Context) :
    ∃ setback, p input ctx = (.error setback, ctx) := by
  have computes := h input ctx
  rw [absent] at computes
  generalize p input ctx = result at computes ⊢
  cases computes with
  | refused setback => exact ⟨setback, rfl⟩

theorem eq_of_ok (h : p.Computes f) {ctx ctx' : Context} (replied : p input ctx = (.ok rest a, ctx')) :
    f input = some (a, rest) ∧ ctx' = ctx := by
  have computes := h input ctx
  rw [replied] at computes
  generalize f input = found at computes ⊢
  cases computes with
  | found => exact ⟨rfl, rfl⟩

theorem eq_of_error (h : p.Computes f) {ctx ctx' : Context} {setback : Setback}
    (replied : p input ctx = (.error setback, ctx')) : f input = none ∧ ctx' = ctx := by
  have computes := h input ctx
  rw [replied] at computes
  generalize f input = found at computes ⊢
  cases computes with
  | refused => exact ⟨rfl, rfl⟩

theorem not_failure (h : p.Computes f) {ctx ctx' : Context} {setback : Setback} :
    p input ctx ≠ (.failure setback, ctx') := by
  intro replied
  have computes := h input ctx
  rw [replied] at computes
  generalize f input = found at computes
  cases computes

theorem congr (h : p.Computes f) (same : ∀ input, f input = g input) : p.Computes g := by
  rwa [← funext same]

theorem pure (a : α) : (pure a : Parser α).Computes fun input => some (a, input) :=
  fun input _ => .found a input

theorem oneChar (accepts : Char → Bool) (cause : Cause) :
    (Parser.oneChar accepts cause).Computes (first? accepts) := by
  intro input ctx
  cases input with
  | nil => exact .refused _
  | cons c rest =>
      simp only [Parser.oneChar, first?]
      split
      · exact .found c rest
      · exact .refused _

theorem bind {p : Parser α} {q : α → Parser β} {f : List Char → Option (α × List Char)}
    {g : α → List Char → Option (β × List Char)} (h : p.Computes f) (h' : ∀ a, (q a).Computes (g a)) :
    (p >>= q).Computes fun input => (f input).bind fun found => g found.1 found.2 := by
  intro input ctx
  show Agrees ctx ((f input).bind _) _
  cases found : f input with
  | none =>
      obtain ⟨setback, refused⟩ := h.of_none found ctx
      rw [bind_of_error refused]
      exact .refused setback
  | some taken =>
      rw [bind_of_ok (h.of_some found ctx)]
      exact h' taken.1 taken.2 ctx

end Parser.Computes

theorem Agrees.orElse {p q : Parser α} {x y : Option (α × List Char)} {input : List Char} {ctx : Context}
    (h : Agrees ctx x (p input ctx)) (h' : Agrees ctx y (q input ctx)) :
    Agrees ctx (x.or y) (p.orElse q input ctx) := by
  simp only [Parser.orElse]
  generalize p input ctx = result at h
  cases h with
  | found a rest => exact .found a rest
  | refused setback =>
      rw [Option.none_or]
      exact h'

/-! ## Combinators -/

namespace Combinators

variable (lib : Combinators) {p q : Parser α} {f g : List Char → Option (α × List Char)}

theorem char_computes (c : Char) : (lib.char c).Computes (first? (· = c)) := by
  rw [char_eq]
  exact .oneChar _ _

theorem anychar_computes : lib.anychar.Computes (first? fun _ => true) := by
  rw [anychar_eq]
  exact .oneChar _ _

theorem noneOf_computes (listed : List Char) :
    (lib.noneOf listed).Computes (first? fun c => !listed.contains c) := by
  rw [noneOf_eq]
  exact .oneChar _ _

theorem tag_computes (text : List Char) :
    (lib.tag text).Computes fun input =>
      if text <+: input then some (text, input.drop text.length) else none := by
  intro input ctx
  rw [tag_apply]
  simp only
  split
  · exact .found _ _
  · exact .refused _

theorem digit1_computes :
    lib.digit1.Computes fun input =>
      if (input.takeWhile Text.isDecimal).isEmpty then none
      else some (input.takeWhile Text.isDecimal, input.dropWhile Text.isDecimal) := by
  intro input ctx
  rw [digit1_apply]
  simp only
  split
  · exact .refused _
  · exact .found _ _

theorem map_computes (h : p.Computes f) (change : α → β) :
    (lib.map p change).Computes fun input => (f input).map fun found => (change found.1, found.2) := by
  rw [map_eq]
  exact (h.bind fun a => .pure (change a)).congr fun _ => Option.map_eq_bind.symm

theorem value_computes (h : p.Computes f) (b : β) :
    (lib.value b p).Computes fun input => (f input).map fun found => (b, found.2) := by
  rw [value_eq]
  exact (h.bind fun _ => .pure b).congr fun _ => Option.map_eq_bind.symm

theorem mapRes_computes (h : p.Computes f) (change : α → Option β) :
    (lib.mapRes p change).Computes fun input =>
      (f input).bind fun found => (change found.1).map fun b => (b, found.2) := by
  intro input ctx
  rw [mapRes_apply]
  refine h.bind (g := fun a rest => (change a).map fun b => (b, rest)) (fun a => ?_) input ctx
  cases change a with
  | none => exact fun _ _ => .refused _
  | some b => exact .pure b

theorem opt_computes (h : p.Computes f) :
    (lib.opt p).Computes fun input =>
      ((f input).map fun found => (some found.1, found.2)).or (some (none, input)) := by
  rw [opt_eq]
  have found := (h.bind fun a => .pure (some a)).congr fun _ => Option.map_eq_bind.symm
  exact fun input ctx => (found input ctx).orElse (.found none input)

theorem preceded_computes {q : Parser β} {g : List Char → Option (β × List Char)} (h : p.Computes f)
    (h' : q.Computes g) :
    (lib.preceded p q).Computes fun input => (f input).bind fun found => g found.2 := by
  rw [preceded_eq]
  exact h.bind fun _ => h'

theorem pair_computes {q : Parser β} {g : List Char → Option (β × List Char)} (h : p.Computes f)
    (h' : q.Computes g) :
    (lib.pair p q).Computes fun input => (f input).bind fun found =>
      (g found.2).map fun other => ((found.1, other.1), other.2) := by
  rw [pair_eq]
  exact h.bind fun a => (h'.bind fun b => .pure (a, b)).congr fun _ => Option.map_eq_bind.symm

theorem alt_computes_one (h : p.Computes f) : (lib.alt [p]).Computes f := by
  rwa [alt_one]

theorem alt_computes_cons {others : List (Parser α)} (h : p.Computes f)
    (h' : (lib.alt (q :: others)).Computes g) :
    (lib.alt (p :: q :: others)).Computes fun input => (f input).or (g input) := by
  rw [alt_cons]
  exact fun input ctx => (h input ctx).orElse (h' input ctx)

end Combinators

/-! ## Repetition signs -/

variable (lib : Combinators)

theorem number_computes : (number lib).Computes scanNumber := by
  refine (lib.mapRes_computes lib.digit1_computes decimal?).congr fun input => ?_
  simp only [scanNumber, decimal?]
  split
  · rfl
  · split <;> simp_all

def signOf? : Option (Token × List Char) → Option ((Nat × Option Nat) × List Char)
  | some (.repeats min max, rest) => some ((min, max), rest)
  | _ => none

theorem bounds_computes :
    (bounds lib).Computes fun input => (first? (· = '\x7b') input).bind fun found =>
      signOf? (scanBounds found.2) := by
  have upper := lib.opt_computes
    (lib.preceded_computes (lib.char_computes ',') (lib.opt_computes (number_computes lib)))
  refine ((lib.char_computes _).bind fun _ => (number_computes lib).bind fun min =>
    upper.bind fun max => (lib.char_computes _).bind fun _ => .pure _).congr fun input => ?_
  congr 1
  funext ⟨_, text⟩
  have noNumber (rest : List Char) : scanNumber ('\x7d' :: rest) = none := rfl
  simp only [scanBounds]
  split
  · next least rest found => simp [found, first?, signOf?]
  · next least rest found => simp [found, first?, signOf?, noNumber]
  · next least rest other found =>
      split
      · next most after upper => simp [found, upper, signOf?]
      · next noUpper =>
          cases upper : scanNumber rest with
          | none => simp [found, upper, first?_of_ne other, signOf?]
          | some number =>
              obtain ⟨most, after⟩ := number
              have noBrace := first?_of_ne fun last same => noUpper most last (same ▸ upper)
              simp [found, upper, noBrace, signOf?]
  · next noBounds noUpper other =>
      cases found : scanNumber text with
      | none => rfl
      | some number =>
          obtain ⟨least, rest⟩ := number
          have noComma := first?_of_ne fun after same => other least after (same ▸ found)
          have noBrace := first?_of_ne fun after same => noBounds least after (same ▸ found)
          simp [noComma, noBrace, signOf?]

theorem quantifier_computes :
    (quantifier lib).Computes fun input => signOf? (scanRepeats input) := by
  refine (lib.alt_computes_cons (lib.value_computes (lib.char_computes _) _)
    (lib.alt_computes_cons (lib.value_computes (lib.char_computes _) _)
      (lib.alt_computes_cons (lib.value_computes (lib.char_computes _) _)
        (lib.alt_computes_one (bounds_computes lib))))).congr fun input => ?_
  unfold scanRepeats
  split
  · rfl
  · rfl
  · rfl
  · simp [first?]
  · next star plus optional brace =>
      simp [first?_of_ne star, first?_of_ne plus, first?_of_ne optional, first?_of_ne brace, signOf?]

/-! ## Classes -/

def rangeEnd? : List Char → Option (Char × List Char)
  | '\\' :: c :: rest => some (escapedChar c, rest)
  | text => first? (fun c => !([']', '\\'] : List Char).contains c) text

def entry? : List Char → Option (ClassEntry × List Char)
  | '\\' :: c :: rest => some (escapedEntry c, rest)
  | a :: '-' :: rest =>
      if a = ']' then none
      else
        match rangeEnd? rest with
        | some (b, rest) => some (.range a b, rest)
        | none => some (.single a, '-' :: rest)
  | a :: rest => if a = ']' then none else some (.single a, rest)
  | [] => none

theorem rangeEnd?_of_plain {a : Char} (noBracket : a ≠ ']') (noEscape : a ≠ '\\') (rest : List Char) :
    rangeEnd? (a :: rest) = some (a, rest) := by
  unfold rangeEnd?
  split
  · next escape => exact absurd (List.cons.inj escape).1 noEscape
  · simp [first?, noBracket, noEscape]

/-- Where no end of a range is, there is nothing, a last backslash, or the closing bracket. -/
theorem rangeEnd?_eq_none {text : List Char} (absent : rangeEnd? text = none) :
    text = [] ∨ text = ['\\'] ∨ ∃ rest, text = ']' :: rest := by
  match text with
  | [] => exact .inl rfl
  | c :: rest =>
      by_cases bracket : c = ']'
      · exact .inr (.inr ⟨rest, by rw [bracket]⟩)
      · by_cases escape : c = '\\'
        · subst escape
          cases rest with
          | nil => exact .inr (.inl rfl)
          | cons d rest => simp [rangeEnd?] at absent
        · rw [rangeEnd?_of_plain bracket escape] at absent
          contradiction

theorem rangeEnd?_eq_some {text rest : List Char} {b : Char} (found : rangeEnd? text = some (b, rest)) :
    (∃ c, text = '\\' :: c :: rest ∧ b = escapedChar c) ∨
      (b ≠ ']' ∧ b ≠ '\\' ∧ text = b :: rest) := by
  unfold rangeEnd? at found
  split at found
  · next c rest =>
      cases found
      exact .inl ⟨c, rfl, rfl⟩
  · cases text with
    | nil => contradiction
    | cons c rest =>
        simp only [first?] at found
        split at found
        · next other =>
            cases found
            simp at other
            exact .inr ⟨other.1, other.2, rfl⟩
        · contradiction

theorem escape_of_ne {text : List Char} (plain : ∀ c rest, text = '\\' :: c :: rest → False) :
    (first? (· = '\\') text).bind (fun found => first? (fun _ => true) found.2) = none := by
  match text with
  | [] => rfl
  | [c] => by_cases sign : c = '\\' <;> simp [first?, sign]
  | c :: d :: rest =>
      have noEscape : c ≠ '\\' := by
        rintro rfl
        exact plain d rest rfl
      simp [first?, noEscape]

theorem classChar_computes : (classChar lib).Computes rangeEnd? := by
  refine (lib.alt_computes_cons
    (lib.map_computes (lib.preceded_computes (lib.char_computes '\\') lib.anychar_computes) escapedChar)
    (lib.alt_computes_one (lib.noneOf_computes _))).congr fun input => ?_
  unfold rangeEnd?
  split
  · simp [first?]
  · next plain => rw [escape_of_ne plain, Option.map_none, Option.none_or]

theorem classItem_computes : (classItem lib).Computes entry? := by
  refine (lib.alt_computes_cons
    (lib.map_computes (lib.preceded_computes (lib.char_computes '\\') lib.anychar_computes) escapedEntry)
    (lib.alt_computes_cons (lib.map_computes (lib.pair_computes (classChar_computes lib)
        (lib.preceded_computes (lib.char_computes '-') (classChar_computes lib))) _)
      (lib.alt_computes_one (lib.map_computes (lib.noneOf_computes _) _)))).congr fun input => ?_
  unfold entry?
  split
  · simp [first?]
  · next a rest noEscape =>
      rw [escape_of_ne fun c rest' same => noEscape (List.cons.inj same).1]
      by_cases bracket : a = ']'
      · subst bracket
        rfl
      · rw [rangeEnd?_of_plain bracket noEscape]
        cases upper : rangeEnd? rest <;> simp [first?, bracket, upper]
  · next a rest plain noHyphen =>
      rw [escape_of_ne fun c rest' same => plain c rest' (List.cons.inj same).1 (List.cons.inj same).2]
      by_cases bracket : a = ']'
      · subst bracket
        rfl
      · by_cases escape : a = '\\'
        · -- a last backslash stands for itself
          subst escape
          cases rest with
          | nil => rfl
          | cons c rest => exact (plain c rest rfl rfl).elim
        · simp only [rangeEnd?_of_plain bracket escape, first?_of_ne noHyphen, Option.bind_some]
          simp [first?, bracket]
  · rfl

theorem scanClassEntries_of_entry {text rest : List Char} {entry : ClassEntry}
    (found : entry? text = some (entry, rest)) :
    scanClassEntries text =
      (scanClassEntries rest).map fun (entries, after) => (entry :: entries, after) := by
  unfold entry? at found
  split at found
  · cases found
    rfl
  · next a text noEscape =>
      split at found
      · contradiction
      · next noBracket =>
          split at found
          · next b rest upper =>
              cases found
              obtain ⟨c, rfl, rfl⟩ | ⟨noBracket', noEscape', rfl⟩ := rangeEnd?_eq_some upper
              · exact scanClassEntries.eq_4 a c rest noBracket noEscape
              · exact scanClassEntries_range noBracket noEscape noBracket' noEscape' rest
          · next noUpper =>
              cases found
              obtain rfl | rfl | ⟨rest, rfl⟩ := rangeEnd?_eq_none noUpper
              · exact scanClassEntries.eq_6 a ['-'] noBracket (fun _ _ same _ => noEscape same)
                  (by simp) (by simp)
              · -- without anything to escape there is no closing bracket either
                rw [scanClassEntries.eq_5 a '\\' [] noBracket noEscape (by simp)]
                rfl
              · rw [scanClassEntries.eq_5 a ']' rest noBracket noEscape (by simp), if_pos rfl]
                rfl
  · next a rest plain noHyphen =>
      split at found
      · contradiction
      · next noBracket =>
          cases found
          exact scanClassEntries.eq_6 a rest noBracket plain (fun _ _ same => noHyphen _ same)
            fun _ _ same => noHyphen _ same
  · contradiction

theorem eq_of_entry_none {text : List Char} (absent : entry? text = none) :
    text = [] ∨ ∃ rest, text = ']' :: rest := by
  unfold entry? at absent
  split at absent
  · contradiction
  · split at absent
    · next bracket => exact .inr ⟨_, by rw [bracket]⟩
    · split at absent <;> contradiction
  · split at absent
    · next bracket => exact .inr ⟨_, by rw [bracket]⟩
    · contradiction
  · exact .inl rfl

theorem many0_classItem (text : List Char) (ctx : Context) :
    ∃ entries left, lib.many0 (classItem lib) text ctx = (.ok left entries, ctx) ∧
      scanClassEntries text = (first? (· = ']') left).map fun found => (entries, found.2) := by
  have computes := classItem_computes lib
  have run := lib.many0_repeats (classItem_lawful lib) text ctx
  generalize lib.many0 (classItem lib) text ctx = result at run ⊢
  induction run with
  | @stop text ctx ctx' setback refused =>
      obtain ⟨absent, rfl⟩ := computes.eq_of_error refused
      refine ⟨[], text, rfl, ?_⟩
      obtain rfl | ⟨rest, rfl⟩ := eq_of_entry_none absent <;> rfl
  | giveUp failed => exact absurd failed computes.not_failure
  | @next text rest rest' ctx between ctx' entry others taken later ih =>
      obtain ⟨entries, left, same, scanned⟩ := ih
      obtain ⟨found, rfl⟩ := computes.eq_of_ok taken
      cases same
      refine ⟨entry :: others, rest', rfl, ?_⟩
      rw [scanClassEntries_of_entry found, scanned, Option.map_map]
      rfl
  | giveUpLater taken later ih =>
      obtain ⟨_, _, same, _⟩ := ih
      cases same

/-- The entries of a class, of which there must be one, and the closing bracket. -/
theorem classBody_computes {γ : Type} (wrap : List ClassEntry → γ) :
    Parser.Computes (do
      let items ← lib.many1 (classItem lib)
      let _ ← lib.char ']'
      return wrap items)
      fun text => (scanClassEntries text).bind fun found =>
        if found.1.isEmpty then none else some (wrap found.1, found.2) := by
  intro text ctx
  have computes := classItem_computes lib
  show Agrees ctx ((scanClassEntries text).bind _) _
  rw [lib.many1_eq (classItem_lawful lib)]
  cases found : entry? text with
  | none =>
      obtain ⟨setback, refused⟩ := computes.of_none found ctx
      rw [bind_of_error (bind_of_error refused)]
      obtain rfl | ⟨rest, rfl⟩ := eq_of_entry_none found
      · exact .refused setback
      · exact .refused setback
  | some parts =>
      obtain ⟨entry, rest⟩ := parts
      obtain ⟨entries, left, items, scanned⟩ := many0_classItem lib rest ctx
      have taken : (do
          let a ← classItem lib
          let others ← lib.many0 (classItem lib)
          return a :: others : Parser (List ClassEntry)) text ctx =
          (.ok left (entry :: entries), ctx) := by
        rw [bind_of_ok (computes.of_some found ctx), bind_of_ok items]
        rfl
      rw [bind_of_ok taken, scanClassEntries_of_entry found, scanned]
      have closing : Agrees ctx ((first? (· = ']') left).bind fun bracket =>
          some (wrap (entry :: entries), bracket.2)) _ :=
        ((lib.char_computes ']').bind fun _ => .pure (wrap (entry :: entries))) left ctx
      generalize first? (· = ']') left = bracket at closing ⊢
      cases bracket <;> exact closing

def itemOf? : Option (Token × List Char) → Option (Pattern × List Char)
  | some (.item p, rest) => some (p, rest)
  | _ => none

theorem charClass_computes :
    (charClass lib).Computes fun input => (first? (· = '[') input).bind fun found =>
      itemOf? (scanClass found.2) := by
  refine ((lib.char_computes '[').bind fun _ => (lib.opt_computes (lib.char_computes '^')).bind
    fun sign => classBody_computes lib fun items => if sign.isSome then
      .negation (ClassEntry.toPattern items) else ClassEntry.toPattern items).congr fun input => ?_
  cases first? (· = '[') input with
  | none => rfl
  | some found =>
      obtain ⟨_, text⟩ := found
      simp only [Option.bind_some, scanClass]
      split
      · next inner =>
          simp only [first?_self, Option.map_some, Option.some_or, Option.bind_some]
          rcases scanClassEntries inner with _ | ⟨_ | ⟨entry, entries⟩, rest⟩ <;> rfl
      · next plain =>
          simp only [first?_of_ne plain, Option.map_none, Option.none_or, Option.bind_some]
          rcases scanClassEntries text with _ | ⟨_ | ⟨entry, entries⟩, rest⟩ <;> rfl

/-! ## Atoms -/

theorem anchor_computes :
    (anchor lib).Computes fun input =>
      ((first? (· = '^') input).map fun found => (.lineStart, found.2)).or
        ((first? (· = '$') input).map fun found => (.lineEnd, found.2)) :=
  lib.alt_computes_cons (lib.value_computes (lib.char_computes _) _)
    (lib.alt_computes_one (lib.value_computes (lib.char_computes _) _))

theorem dot_computes :
    (dot lib).Computes fun input => (first? (· = '.') input).map fun found => (.anyChar, found.2) :=
  lib.value_computes (lib.char_computes _) _

theorem escaped_computes :
    (escaped lib).Computes fun input => (first? (· = '\\') input).bind fun sign =>
      (first? (fun _ => true) sign.2).bind fun found => some (escapedItem found.1, found.2) :=
  (lib.char_computes _).bind fun _ => lib.anychar_computes.bind fun c => .pure (escapedItem c)

theorem atom_agrees {input : List Char} (noGroup : ∀ rest, input = '(' :: rest → False)
    (body : Parser Pattern) (ctx : Context) :
    Agrees ctx (itemOf? (scanPlain input)) (atom lib body input ctx) := by
  obtain ⟨setback, refused⟩ := (lib.char_computes '(').of_none (first?_of_ne noGroup) ctx
  have noGroup' : Agrees ctx none (grouped lib body input ctx) := by
    rw [grouped, bind_of_error refused]
    exact .refused setback
  have literal := lib.map_computes (lib.noneOf_computes
    ['^', '$', '.', '*', '+', '?', '(', ')', '[', ']', '\x7b', '|', '\\']) Pattern.literal
  have brace := lib.value_computes (lib.char_computes '\x7b') (Pattern.literal '\x7b')
  have chosen := (anchor_computes lib input ctx).orElse <| (dot_computes lib input ctx).orElse <|
    (charClass_computes lib input ctx).orElse <| (escaped_computes lib input ctx).orElse <|
    noGroup'.orElse <| (literal input ctx).orElse (brace input ctx)
  simp only [atom, lib.alt_cons, lib.alt_one]
  refine Eq.mp (congrArg (Agrees ctx · _) ?_) chosen
  unfold scanPlain
  split
  case h_6 rest => exact (noGroup rest rfl).elim
  case h_9 c rest caret dollar stop bar closing opening bracket escape =>
    by_cases sign : c = '\\'
    · -- a last backslash is no item
      subst sign
      cases rest with
      | nil => rfl
      | cons d rest => exact (escape d rest rfl rfl).elim
    · by_cases brace : c = '\x7b'
      · subst brace
        rfl
      · simp only [imp_false] at caret dollar stop bar closing opening bracket
        by_cases refused : ['*', '+', '?', ']', '\\'].contains c = true <;>
          simp_all [first?, itemOf?]
  all_goals simp [first?, itemOf?]

theorem atom_parenthesis (body : Parser Pattern) (text : List Char) (ctx : Context) :
    ∃ others : Parser Pattern,
      atom lib body ('(' :: text) ctx = (grouped lib body).orElse others ('(' :: text) ctx ∧
        ∀ ctx, ∃ setback, others ('(' :: text) ctx = (.error setback, ctx) := by
  have refuses {p : Parser Pattern} {f : List Char → Option (Pattern × List Char)} (h : p.Computes f)
      (absent : f ('(' :: text) = none) (ctx : Context) := h.of_none absent ctx
  obtain ⟨_, noAnchor⟩ := refuses (anchor_computes lib) (by simp [first?]) ctx
  obtain ⟨_, noDot⟩ := refuses (dot_computes lib) (by simp [first?]) ctx
  obtain ⟨_, noClass⟩ := refuses (charClass_computes lib) (by simp [first?]) ctx
  obtain ⟨_, noEscape⟩ := refuses (escaped_computes lib) (by simp [first?]) ctx
  have literal := lib.map_computes (lib.noneOf_computes
    ['^', '$', '.', '*', '+', '?', '(', ')', '[', ']', '\x7b', '|', '\\']) Pattern.literal
  have brace := lib.value_computes (lib.char_computes '\x7b') (Pattern.literal '\x7b')
  refine ⟨(literalChar lib).orElse (lib.value (.literal '\x7b') (lib.char '\x7b')), ?_, fun ctx => ?_⟩
  · simp only [atom, lib.alt_cons, lib.alt_one, orElse_of_error noAnchor, orElse_of_error noDot,
      orElse_of_error noClass, orElse_of_error noEscape]
  · obtain ⟨_, noLiteral⟩ := refuses literal (by simp [first?]) ctx
    obtain ⟨setback, noBrace⟩ := refuses brace (by simp [first?]) ctx
    exact ⟨setback, (orElse_of_error noLiteral).trans noBrace⟩

def sign? : List Char → Option (Grouping × List Char)
  | ':' :: rest => some (.plain, rest)
  | '>' :: rest => some (.atomic, rest)
  | '=' :: rest => some (.lookahead, rest)
  | '!' :: rest => some (.negativeLookahead, rest)
  | '<' :: '=' :: rest => some (.lookbehind, rest)
  | '<' :: '!' :: rest => some (.negativeLookbehind, rest)
  | _ => none

theorem groupSign_computes : (groupSign lib).Computes sign? := by
  have sign (kind : Grouping) (c : Char) := lib.value_computes (lib.char_computes c) kind
  have signs (kind : Grouping) (c d : Char) := lib.value_computes (lib.tag_computes [c, d]) kind
  refine (lib.alt_computes_cons (sign _ _) (lib.alt_computes_cons (sign _ _)
    (lib.alt_computes_cons (sign _ _) (lib.alt_computes_cons (sign _ _)
      (lib.alt_computes_cons (signs _ _ _) (lib.alt_computes_one (signs _ _ _))))))).congr fun input => ?_
  fun_cases sign? input
  case case7 plain atomic lookahead negative behind notBehind =>
    have absent (c d : Char) (none : ∀ rest, input = c :: d :: rest → False) : ¬ [c, d] <+: input :=
      fun ⟨rest, same⟩ => none rest same.symm
    rw [first?_of_ne plain, first?_of_ne atomic, first?_of_ne lookahead, first?_of_ne negative,
      if_neg (absent _ _ behind), if_neg (absent _ _ notBehind)]
    rfl
  all_goals simp [first?]

theorem groupKind_computes : (groupKind lib).Computes fun input => some (scanGrouping input) := by
  refine ((lib.opt_computes (lib.preceded_computes (lib.char_computes '?')
    (groupSign_computes lib))).bind fun kind => .pure _).congr fun input => ?_
  fun_cases scanGrouping input
  case case7 plain atomic lookahead negative behind notBehind =>
    have noSign : (first? (· = '?') input).bind (fun found => sign? found.2) = none := by
      cases found : first? (· = '?') input with
      | none => rfl
      | some parts =>
          obtain rfl := eq_of_first? found
          exact sign?.eq_7 parts.2 (fun _ same => plain _ (congrArg _ same))
            (fun _ same => atomic _ (congrArg _ same)) (fun _ same => lookahead _ (congrArg _ same))
            (fun _ same => negative _ (congrArg _ same)) (fun _ same => behind _ (congrArg _ same))
            (fun _ same => notBehind _ (congrArg _ same))
    rw [noSign]
    rfl
  all_goals simp [first?, sign?]

end Descent
end Rematch
