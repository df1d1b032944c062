import Rematch.Pattern.Error
import Rematch.Pattern.Token

/-!
# Parsers and their combinators

A parser takes a first part of a text, refuses the text, or gives up. A refusal leaves it to others to try
something else, while giving up is final. What the parsers of one text have in common is a context, with
the number of groups so far and the error that has been recorded.

The combinators are taken from a library. What is known of them is what the library documents.
-/

namespace Rematch
namespace Descent

inductive Cause where
  | char
  | eof
  | noneOf
  | tag
  | digit
  | mapRes
  | many0
  | many1
  | verify
deriving DecidableEq, Repr

structure Setback where
  rest : List Char
  cause : Cause
deriving DecidableEq, Repr

inductive Reply (α : Type) where
  /-- A value for what has been taken, and the text that is left. -/
  | ok (rest : List Char) (value : α)
  /-- The text does not suit the parser. -/
  | error (setback : Setback)
  /-- No other parser is to be tried. -/
  | failure (setback : Setback)
deriving DecidableEq, Repr

structure Context where
  /-- How many capturing groups have been opened. -/
  groups : Nat := 0
  /-- The error that has been recorded. -/
  error : Option PatternError := none
deriving DecidableEq, Repr

def Parser (α : Type) : Type :=
  List Char → Context → Reply α × Context

/-- One parser after the other, as far as they succeed. -/
instance : Monad Parser where
  pure a := fun input ctx => (.ok input a, ctx)
  bind p f := fun input ctx =>
    match p input ctx with
    | (.ok rest a, ctx) => f a rest ctx
    | (.error setback, ctx) => (.error setback, ctx)
    | (.failure setback, ctx) => (.failure setback, ctx)

namespace Parser

variable {α β : Type}

def refuse (setback : Setback) : Parser α := fun _ ctx =>
  (.error setback, ctx)

/-- Records an error, unless there is one already, and gives up. -/
def fail (start : List Char) (e : PatternError) : Parser α := fun _ ctx =>
  (.failure { rest := start, cause := .verify }, { ctx with error := ctx.error.or (some e) })

def orElse (p q : Parser α) : Parser α := fun input ctx =>
  match p input ctx with
  | (.error _, ctx) => q input ctx
  | settled => settled

def oneChar (accepts : Char → Bool) (cause : Cause) : Parser Char := fun input ctx =>
  match input with
  | [] => (.error { rest := [], cause }, ctx)
  | c :: rest => if accepts c then (.ok rest c, ctx) else (.error { rest := c :: rest, cause }, ctx)

end Parser

/-- The combinators of a library, and what it documents of them. -/
structure Combinators where
  char : Char → Parser Char
  anychar : Parser Char
  noneOf : List Char → Parser Char
  tag : List Char → Parser (List Char)
  digit1 : Parser (List Char)
  map {α β : Type} : Parser α → (α → β) → Parser β
  mapRes {α β : Type} : Parser α → (α → Option β) → Parser β
  opt {α : Type} : Parser α → Parser (Option α)
  value {α β : Type} : β → Parser α → Parser β
  alt {α : Type} : List (Parser α) → Parser α
  many0 {α : Type} : Parser α → Parser (List α)
  many1 {α : Type} : Parser α → Parser (List α)
  pair {α β : Type} : Parser α → Parser β → Parser (α × β)
  preceded {α β : Type} : Parser α → Parser β → Parser β
  char_eq (c : Char) : char c = .oneChar (· = c) .char
  anychar_eq : anychar = .oneChar (fun _ => true) .eof
  noneOf_eq (listed : List Char) : noneOf listed = .oneChar (fun c => !listed.contains c) .noneOf
  tag_apply (text input : List Char) (ctx : Context) :
    tag text input ctx =
      if text <+: input then (.ok (input.drop text.length) text, ctx)
      else (.error { rest := input, cause := .tag }, ctx)
  digit1_apply (input : List Char) (ctx : Context) :
    digit1 input ctx =
      if (input.takeWhile Text.isDecimal).isEmpty then (.error { rest := input, cause := .digit }, ctx)
      else (.ok (input.dropWhile Text.isDecimal) (input.takeWhile Text.isDecimal), ctx)
  map_eq {α β : Type} (p : Parser α) (f : α → β) :
    map p f = do
      let a ← p
      return f a
  /-- Where the function fails, the text is refused as a whole. -/
  mapRes_apply {α β : Type} (p : Parser α) (f : α → Option β) (input : List Char) (ctx : Context) :
    mapRes p f input ctx = (do
      let a ← p
      match f a with
      | some b => return b
      | none => .refuse { rest := input, cause := .mapRes } : Parser β) input ctx
  opt_eq {α : Type} (p : Parser α) :
    opt p = .orElse (do
      let a ← p
      return some a) (return none)
  value_eq {α β : Type} (b : β) (p : Parser α) :
    value b p = do
      let _ ← p
      return b
  alt_one {α : Type} (p : Parser α) : alt [p] = p
  alt_cons {α : Type} (p q : Parser α) (others : List (Parser α)) :
    alt (p :: q :: others) = p.orElse (alt (q :: others))
  /-- A success that takes nothing is refused, so that a repetition comes to an end. -/
  many0_apply {α : Type} (p : Parser α) (input : List Char) (ctx : Context) :
    many0 p input ctx =
      match p input ctx with
      | (.ok rest a, ctx) =>
          if rest.length < input.length then (do
            let others ← many0 p
            return a :: others : Parser (List α)) rest ctx
          else (.error { rest := input, cause := .many0 }, ctx)
      | (.error _, ctx) => (.ok input [], ctx)
      | (.failure setback, ctx) => (.failure setback, ctx)
  many1_apply {α : Type} (p : Parser α) (input : List Char) (ctx : Context) :
    many1 p input ctx =
      match p input ctx with
      | (.ok rest a, ctx) =>
          match many0 p rest ctx with
          | (.ok rest others, ctx) => (.ok rest (a :: others), ctx)
          | (.error setback, ctx) => (.error { setback with cause := .many1 }, ctx)
          | (.failure setback, ctx) => (.failure setback, ctx)
      | (.error setback, ctx) => (.error setback, ctx)
      | (.failure setback, ctx) => (.failure setback, ctx)
  pair_eq {α β : Type} (p : Parser α) (q : Parser β) :
    pair p q = do
      let a ← p
      let b ← q
      return (a, b)
  preceded_eq {α β : Type} (p : Parser α) (q : Parser β) :
    preceded p q = do
      let _ ← p
      q

/-! ## The combinators written out -/

namespace Parser

variable {α : Type}

def firstOf : List (Parser α) → Parser α
  | [] => refuse { rest := [], cause := .verify }
  | [p] => p
  | p :: q :: others => p.orElse (firstOf (q :: others))

/-- Repeats a parser until it refuses; a success that takes nothing is refused. -/
def repeatedly (p : Parser α) (input : List Char) (ctx : Context) : Reply (List α) × Context :=
  match p input ctx with
  | (.ok rest a, ctx) =>
      if rest.length < input.length then
        match repeatedly p rest ctx with
        | (.ok rest others, ctx) => (.ok rest (a :: others), ctx)
        | (.error setback, ctx) => (.error setback, ctx)
        | (.failure setback, ctx) => (.failure setback, ctx)
      else (.error { rest := input, cause := .many0 }, ctx)
  | (.error _, ctx) => (.ok input [], ctx)
  | (.failure setback, ctx) => (.failure setback, ctx)
termination_by input.length

end Parser

def Combinators.standard : Combinators where
  char c := .oneChar (· = c) .char
  anychar := .oneChar (fun _ => true) .eof
  noneOf listed := .oneChar (fun c => !listed.contains c) .noneOf
  tag text input ctx :=
    if text <+: input then (.ok (input.drop text.length) text, ctx)
    else (.error { rest := input, cause := .tag }, ctx)
  digit1 input ctx :=
    if (input.takeWhile Text.isDecimal).isEmpty then (.error { rest := input, cause := .digit }, ctx)
    else (.ok (input.dropWhile Text.isDecimal) (input.takeWhile Text.isDecimal), ctx)
  map p f := do return f (← p)
  mapRes p f input ctx := (do
    match f (← p) with
    | some b => return b
    | none => .refuse { rest := input, cause := .mapRes } : Parser _) input ctx
  opt p := .orElse (do return some (← p)) (return none)
  value b p := do
    let _ ← p
    return b
  alt := .firstOf
  many0 := .repeatedly
  many1 p input ctx :=
    match p input ctx with
    | (.ok rest a, ctx) =>
        match Parser.repeatedly p rest ctx with
        | (.ok rest others, ctx) => (.ok rest (a :: others), ctx)
        | (.error setback, ctx) => (.error { setback with cause := .many1 }, ctx)
        | (.failure setback, ctx) => (.failure setback, ctx)
    | (.error setback, ctx) => (.error setback, ctx)
    | (.failure setback, ctx) => (.failure setback, ctx)
  pair p q := do return (← p, ← q)
  preceded p q := do
    let _ ← p
    q
  char_eq _ := rfl
  anychar_eq := rfl
  noneOf_eq _ := rfl
  tag_apply _ _ _ := rfl
  digit1_apply _ _ := rfl
  map_eq _ _ := rfl
  mapRes_apply _ _ _ _ := rfl
  opt_eq _ := rfl
  value_eq _ _ := rfl
  alt_one _ := rfl
  alt_cons _ _ _ := rfl
  many0_apply p input ctx := by
    rw [Parser.repeatedly]
    rcases p input ctx with ⟨⟨rest, _⟩ | _ | _, between⟩
    · simp only [Bind.bind]
      rcases p.repeatedly rest between with ⟨_ | _ | _, _⟩ <;> rfl
    · rfl
    · rfl
  many1_apply _ _ _ := rfl
  pair_eq _ _ := rfl
  preceded_eq _ _ := rfl

/-! ## What parsers keep to -/

namespace Reply

/--
What a parser may say of a text, given the error that has been recorded before and after. A success takes
at least so many characters and records nothing, and neither does a refusal. If the parser gives up, there
is an error, the first one that has been recorded.
-/
def IsLawful {α : Type} (least : Nat) (input : List Char) (before after : Option PatternError) :
    Reply α → Prop
  | .ok rest _ => (∃ taken, input = taken ++ rest ∧ least ≤ taken.length) ∧ after = before
  | .error _ => after = before
  | .failure _ => ∃ e, after = some (before.getD e)

theorem IsLawful.prepend {α : Type} {reply : Reply α} {m n : Nat} {taken rest : List Char}
    {before after : Option PatternError} (h : reply.IsLawful n rest before after)
    (enough : m ≤ taken.length) : reply.IsLawful (m + n) (taken ++ rest) before after := by
  cases reply with
  | ok =>
      obtain ⟨⟨taken', rfl, enough'⟩, kept⟩ := h
      refine ⟨⟨taken ++ taken', (List.append_assoc ..).symm, ?_⟩, kept⟩
      rw [List.length_append]
      exact Nat.add_le_add enough enough'
  | error => exact h
  | failure => exact h

end Reply

namespace Parser

section Steps

variable {α β : Type} {p : Parser α} {f : α → Parser β} {input rest : List Char} {ctx ctx' : Context}
variable {a : α} {setback : Setback}

theorem bind_of_ok (replied : p input ctx = (.ok rest a, ctx')) :
    (p >>= f) input ctx = f a rest ctx' := by
  simp only [Bind.bind, replied]

theorem bind_of_error (replied : p input ctx = (.error setback, ctx')) :
    (p >>= f) input ctx = (.error setback, ctx') := by
  simp only [Bind.bind, replied]

theorem bind_of_failure (replied : p input ctx = (.failure setback, ctx')) :
    (p >>= f) input ctx = (.failure setback, ctx') := by
  simp only [Bind.bind, replied]

theorem orElse_of_ok {q : Parser α} (replied : p input ctx = (.ok rest a, ctx')) :
    p.orElse q input ctx = (.ok rest a, ctx') := by
  simp only [orElse, replied]

theorem orElse_of_error {q : Parser α} (replied : p input ctx = (.error setback, ctx')) :
    p.orElse q input ctx = q input ctx' := by
  simp only [orElse, replied]

theorem orElse_of_failure {q : Parser α} (replied : p input ctx = (.failure setback, ctx')) :
    p.orElse q input ctx = (.failure setback, ctx') := by
  simp only [orElse, replied]

end Steps

variable {α β : Type} {p q : Parser α} {least m n : Nat}

def Lawful (least : Nat) (p : Parser α) : Prop :=
  ∀ input ctx, (p input ctx).1.IsLawful least input ctx.error (p input ctx).2.error

/-- The parser refuses no text. -/
def Settled (p : Parser α) : Prop :=
  ∀ input ctx setback ctx', p input ctx ≠ (.error setback, ctx')

namespace Lawful

section Replies

variable {input rest : List Char} {ctx ctx' : Context} {a : α} {setback : Setback}

theorem of_ok (h : p.Lawful least) (replied : p input ctx = (.ok rest a, ctx')) :
    (∃ taken, input = taken ++ rest ∧ least ≤ taken.length) ∧ ctx'.error = ctx.error := by
  have lawful := h input ctx
  rwa [replied] at lawful

theorem of_error (h : p.Lawful least) (replied : p input ctx = (.error setback, ctx')) :
    ctx'.error = ctx.error := by
  have lawful := h input ctx
  rwa [replied] at lawful

theorem of_failure (h : p.Lawful least) (replied : p input ctx = (.failure setback, ctx')) :
    ∃ e, ctx'.error = some (ctx.error.getD e) := by
  have lawful := h input ctx
  rwa [replied] at lawful

theorem length_lt (h : p.Lawful 1) (replied : p input ctx = (.ok rest a, ctx')) :
    rest.length < input.length := by
  obtain ⟨⟨taken, rfl, some⟩, -⟩ := h.of_ok replied
  rw [List.length_append]
  omega

end Replies

theorem of_replies
    (ok : ∀ {input ctx rest a ctx'}, p input ctx = (.ok rest a, ctx') →
      (∃ taken, input = taken ++ rest ∧ least ≤ taken.length) ∧ ctx'.error = ctx.error)
    (error : ∀ {input ctx setback ctx'}, p input ctx = (.error setback, ctx') →
      ctx'.error = ctx.error)
    (failure : ∀ {input ctx setback ctx'}, p input ctx = (.failure setback, ctx') →
      ∃ e, ctx'.error = some (ctx.error.getD e)) : p.Lawful least := by
  intro input ctx
  rcases replied : p input ctx with ⟨⟨rest, a⟩ | setback | setback, ctx'⟩
  · exact ok replied
  · exact error replied
  · exact failure replied

theorem mono (h : p.Lawful m) (fewer : n ≤ m) : p.Lawful n := by
  refine of_replies (fun replied => ?_) h.of_error h.of_failure
  obtain ⟨⟨taken, same, enough⟩, kept⟩ := h.of_ok replied
  exact ⟨⟨taken, same, Nat.le_trans fewer enough⟩, kept⟩

theorem pure (a : α) : Lawful 0 (pure a) :=
  fun _ _ => ⟨⟨[], rfl, Nat.le_refl 0⟩, rfl⟩

theorem refuse (setback : Setback) : Lawful least (Parser.refuse setback : Parser α) :=
  fun _ _ => rfl

theorem fail (start : List Char) (e : PatternError) :
    Lawful least (Parser.fail start e : Parser α) := by
  intro _ ctx
  refine ⟨e, ?_⟩
  cases recorded : ctx.error <;> simp [Parser.fail, recorded]

theorem oneChar (accepts : Char → Bool) (cause : Cause) : Lawful 1 (Parser.oneChar accepts cause) := by
  intro input ctx
  cases input with
  | nil => rfl
  | cons c rest =>
      by_cases accepted : accepts c = true
      · simp only [Parser.oneChar, accepted, if_true]
        exact ⟨⟨[c], rfl, Nat.le_refl 1⟩, rfl⟩
      · simp only [Parser.oneChar, accepted]
        rfl

/-- Parsers one after the other take what each of them takes. -/
theorem bind {f : α → Parser β} (h : p.Lawful m) (h' : ∀ a, (f a).Lawful n) :
    Lawful (m + n) (p >>= f) := by
  intro input ctx
  rcases replied : p input ctx with ⟨⟨rest, a⟩ | setback | setback, between⟩
  · obtain ⟨⟨taken, rfl, enough⟩, kept⟩ := h.of_ok replied
    rw [bind_of_ok replied, ← kept]
    exact (h' a rest between).prepend enough
  · rw [bind_of_error replied]
    exact h.of_error replied
  · rw [bind_of_failure replied]
    exact h.of_failure replied

theorem orElse (h : p.Lawful least) (h' : q.Lawful least) : (p.orElse q).Lawful least := by
  intro input ctx
  rcases replied : p input ctx with ⟨⟨rest, a⟩ | setback | setback, between⟩
  · rw [orElse_of_ok replied]
    exact h.of_ok replied
  · rw [orElse_of_error replied, ← h.of_error replied]
    exact h' input between
  · rw [orElse_of_failure replied]
    exact h.of_failure replied

end Lawful

theorem Settled.bind {f : α → Parser β} (h : p.Settled) (h' : ∀ a, (f a).Settled) :
    Settled (p >>= f) := by
  intro input ctx setback ctx' refused
  rcases replied : p input ctx with ⟨⟨rest, a⟩ | setback' | setback', between⟩
  · rw [bind_of_ok replied] at refused
    exact h' a rest between setback ctx' refused
  · exact h input ctx setback' between replied
  · rw [bind_of_failure replied] at refused
    cases refused

theorem Settled.pure (a : α) : Settled (pure a) := by
  intro input ctx setback ctx' refused
  cases refused

end Parser

/-! ## What the combinators keep to -/

namespace Combinators

open Descent.Parser

variable (lib : Combinators) {α β : Type} {p : Parser α} {q : Parser β} {least m n : Nat}

theorem char_lawful (c : Char) : (lib.char c).Lawful 1 := by
  rw [char_eq]
  exact .oneChar _ _

theorem anychar_lawful : lib.anychar.Lawful 1 := by
  rw [anychar_eq]
  exact .oneChar _ _

theorem noneOf_lawful (listed : List Char) : (lib.noneOf listed).Lawful 1 := by
  rw [noneOf_eq]
  exact .oneChar _ _

theorem tag_lawful (text : List Char) : (lib.tag text).Lawful text.length := by
  intro input ctx
  rw [tag_apply]
  split
  · next found =>
      obtain ⟨rest, rfl⟩ := found
      exact ⟨⟨text, by rw [List.drop_left], Nat.le_refl _⟩, rfl⟩
  · rfl

theorem digit1_lawful : lib.digit1.Lawful 1 := by
  intro input ctx
  rw [digit1_apply]
  split
  · rfl
  · next some =>
      refine ⟨⟨_, List.takeWhile_append_dropWhile.symm, ?_⟩, rfl⟩
      exact List.length_pos_iff.mpr (by simpa using some)

theorem map_lawful (h : p.Lawful least) (f : α → β) : (lib.map p f).Lawful least := by
  rw [map_eq]
  exact h.bind fun a => .pure (f a)

theorem value_lawful (b : β) (h : p.Lawful least) : (lib.value b p).Lawful least := by
  rw [value_eq]
  exact h.bind fun _ => .pure b

theorem mapRes_lawful (h : p.Lawful least) (f : α → Option β) : (lib.mapRes p f).Lawful least := by
  intro input ctx
  rw [mapRes_apply]
  refine h.bind (n := 0) (fun a => ?_) input ctx
  split
  · exact .pure _
  · exact .refuse _

theorem opt_lawful (h : p.Lawful least) : (lib.opt p).Lawful 0 := by
  rw [opt_eq]
  exact .orElse (h.mono (Nat.zero_le least) |>.bind fun a => .pure (some a)) (.pure none)

theorem pair_lawful (h : p.Lawful m) (h' : q.Lawful n) : (lib.pair p q).Lawful (m + n) := by
  rw [pair_eq]
  exact h.bind fun a => h'.bind fun b => .pure (a, b)

theorem preceded_lawful (h : p.Lawful m) (h' : q.Lawful n) : (lib.preceded p q).Lawful (m + n) := by
  rw [preceded_eq]
  exact h.bind fun _ => h'

theorem alt_lawful {p : Parser α} {others : List (Parser α)}
    (h : ∀ q ∈ p :: others, q.Lawful least) : (lib.alt (p :: others)).Lawful least := by
  induction others generalizing p with
  | nil =>
      rw [alt_one]
      exact h p List.mem_cons_self
  | cons q others ih =>
      rw [alt_cons]
      obtain ⟨first, later⟩ := List.forall_mem_cons.mp h
      exact first.orElse (ih later)

/-- How a parser is repeated, until it refuses the text or gives up. -/
inductive Repeats (p : Parser α) : List Char → Context → Reply (List α) × Context → Prop
  | stop {input : List Char} {ctx ctx' : Context} {setback : Setback}
      (refused : p input ctx = (.error setback, ctx')) : Repeats p input ctx (.ok input [], ctx')
  | giveUp {input : List Char} {ctx ctx' : Context} {setback : Setback}
      (failed : p input ctx = (.failure setback, ctx')) :
      Repeats p input ctx (.failure setback, ctx')
  | next {input rest rest' : List Char} {ctx between ctx' : Context} {a : α} {others : List α}
      (taken : p input ctx = (.ok rest a, between))
      (later : Repeats p rest between (.ok rest' others, ctx')) :
      Repeats p input ctx (.ok rest' (a :: others), ctx')
  | giveUpLater {input rest : List Char} {ctx between ctx' : Context} {a : α} {setback : Setback}
      (taken : p input ctx = (.ok rest a, between))
      (later : Repeats p rest between (.failure setback, ctx')) :
      Repeats p input ctx (.failure setback, ctx')

/--
A parser whose successes all take a character is repeated until it refuses the text or gives up. The
repetition is never stopped for want of progress.
-/
theorem many0_repeats (h : p.Lawful 1) (input : List Char) (ctx : Context) :
    Repeats p input ctx (lib.many0 p input ctx) := by
  rw [many0_apply]
  rcases replied : p input ctx with ⟨⟨rest, a⟩ | setback | setback, between⟩
  · have shorter := h.length_lt replied
    have later := many0_repeats h rest between
    simp only [if_pos shorter]
    rcases replied' : lib.many0 p rest between with ⟨⟨rest', others⟩ | setback | setback, ctx'⟩
    all_goals rw [replied'] at later
    · rw [bind_of_ok replied']
      exact .next replied later
    · cases later
    · rw [bind_of_failure replied']
      exact .giveUpLater replied later
  · exact .stop replied
  · exact .giveUp replied
termination_by input.length

theorem Repeats.isLawful (h : p.Lawful 1) {input : List Char} {ctx : Context}
    {result : Reply (List α) × Context} (run : Repeats p input ctx result) :
    result.1.IsLawful 0 input ctx.error result.2.error := by
  induction run with
  | stop refused => exact ⟨⟨[], rfl, Nat.le_refl 0⟩, h.of_error refused⟩
  | giveUp failed => exact h.of_failure failed
  | next taken later ih =>
      obtain ⟨⟨front, rfl, _⟩, kept⟩ := h.of_ok taken
      rw [← kept]
      exact ih.prepend (m := 0) (Nat.zero_le _)
  | giveUpLater taken later ih =>
      obtain ⟨-, kept⟩ := h.of_ok taken
      rwa [← kept]

theorem many0_lawful (h : p.Lawful 1) : (lib.many0 p).Lawful 0 :=
  fun input ctx => (lib.many0_repeats h input ctx).isLawful h

theorem many0_settled (h : p.Lawful 1) : (lib.many0 p).Settled := by
  intro input ctx setback ctx' refused
  have run := lib.many0_repeats h input ctx
  rw [refused] at run
  cases run

theorem many1_eq (h : p.Lawful 1) :
    lib.many1 p = do
      let a ← p
      let others ← lib.many0 p
      return a :: others := by
  funext input ctx
  rw [many1_apply]
  rcases replied : p input ctx with ⟨⟨rest, a⟩ | setback | setback, between⟩
  · rw [bind_of_ok replied]
    dsimp only
    rcases replied' : lib.many0 p rest between with ⟨⟨rest', others⟩ | setback | setback, ctx'⟩
    · rw [bind_of_ok replied']
      rfl
    · exact absurd replied' (lib.many0_settled h rest between setback ctx')
    · rw [bind_of_failure replied']
  · rw [bind_of_error replied]
  · rw [bind_of_failure replied]

theorem many1_lawful (h : p.Lawful 1) : (lib.many1 p).Lawful 1 := by
  rw [lib.many1_eq h]
  exact h.bind fun a => (lib.many0_lawful h).bind fun others => .pure (a :: others)

end Combinators
end Descent
end Rematch
