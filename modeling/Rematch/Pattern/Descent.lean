import Rematch.Pattern.Combinators
import Rematch.Pattern.Reader

/-!
# Reading a pattern by descent

A written pattern is read by one parser for each of its parts: branches of quantified atoms, where an atom
can be a group with branches again. The parsers are made with the combinators of a library.

A parser that is part of another is tried in the order in which they are listed; once an error is recorded
no other is tried.
-/

namespace Rematch
namespace Descent

open Token Descent.Parser

variable (lib : Combinators)

/-! ## Repetition signs -/

def decimal? (digits : List Char) : Option Nat :=
  if decimalValue digits < UInt64.size then some (decimalValue digits) else none

def number : Parser Nat :=
  lib.mapRes lib.digit1 decimal?

/--
Bounds in braces. Without a comma both are the same, and without a number behind it there is no upper
one.
-/
def bounds : Parser (Nat × Option Nat) := do
  let _ ← lib.char '\x7b'
  let min ← number lib
  let max ← lib.opt (lib.preceded (lib.char ',') (lib.opt (number lib)))
  let _ ← lib.char '\x7d'
  return (min, max.getD (some min))

def quantifier : Parser (Nat × Option Nat) :=
  lib.alt
    [lib.value (0, none) (lib.char '*'),
      lib.value (1, none) (lib.char '+'),
      lib.value (0, some 1) (lib.char '?'),
      bounds lib]

theorem number_lawful : (number lib).Lawful 1 :=
  lib.mapRes_lawful lib.digit1_lawful _

theorem bounds_lawful : (bounds lib).Lawful 1 := by
  have upper := lib.opt_lawful
    (lib.preceded_lawful (lib.char_lawful ',') (lib.opt_lawful (number_lawful lib)))
  refine Lawful.mono (.bind (lib.char_lawful _) fun _ => .bind (number_lawful lib) fun _ =>
    .bind upper fun _ => .bind (lib.char_lawful _) fun _ => .pure _) ?_
  omega

theorem quantifier_lawful : (quantifier lib).Lawful 1 := by
  refine lib.alt_lawful (List.forall_mem_cons.mpr ⟨?_, ?_⟩)
  · exact lib.value_lawful _ (lib.char_lawful _)
  · simp [lib.value_lawful _ (lib.char_lawful _), bounds_lawful]

def repeatedFrom (node : Pattern) (input : List Char) (ctx : Context) : Reply Pattern × Context :=
  match sign : quantifier lib input ctx with
  | (.ok rest (min, max), ctx) =>
      match node.bounded min max with
      | .ok node =>
          have := (quantifier_lawful lib).length_lt sign
          repeatedFrom node rest ctx
      | .error e => fail input e input ctx
  | (_, ctx) => (.ok input node, ctx)
termination_by input.length

/-- Repeats an item by all signs that follow it. Bounds that are out of order are recorded as an error. -/
def repeated (node : Pattern) : Parser Pattern :=
  repeatedFrom lib node

section Repeated

variable {lib} {node node' : Pattern} {input rest : List Char} {ctx ctx' : Context} {min : Nat}
variable {max : Option Nat}

theorem repeated_of_refused {setback : Setback}
    (refused : quantifier lib input ctx = (.error setback, ctx')) :
    repeated lib node input ctx = (.ok input node, ctx') := by
  rw [repeated, repeatedFrom]
  split <;> simp_all

theorem repeated_of_ok (sign : quantifier lib input ctx = (.ok rest (min, max), ctx'))
    (made : node.bounded min max = .ok node') :
    repeated lib node input ctx = repeated lib node' rest ctx' := by
  rw [repeated, repeatedFrom]
  split <;> simp_all [repeated]

theorem repeated_of_outOfOrder {e : PatternError}
    (sign : quantifier lib input ctx = (.ok rest (min, max), ctx'))
    (refused : node.bounded min max = .error e) :
    repeated lib node input ctx = fail input e input ctx' := by
  rw [repeated, repeatedFrom]
  split <;> simp_all

end Repeated

/-! ## Character classes -/

def classChar : Parser Char :=
  lib.alt
    [lib.map (lib.preceded (lib.char '\\') lib.anychar) escapedChar,
      lib.noneOf [']', '\\']]

def classItem : Parser ClassEntry :=
  lib.alt
    [lib.map (lib.preceded (lib.char '\\') lib.anychar) escapedEntry,
      lib.map (lib.pair (classChar lib) (lib.preceded (lib.char '-') (classChar lib)))
        (fun ends => .range ends.1 ends.2),
      lib.map (lib.noneOf [']']) .single]

def charClass : Parser Pattern := do
  let _ ← lib.char '['
  let negated ← lib.opt (lib.char '^')
  let items ← lib.many1 (classItem lib)
  let _ ← lib.char ']'
  let node := ClassEntry.toPattern items
  return if negated.isSome then .negation node else node

theorem classChar_lawful : (classChar lib).Lawful 1 := by
  have escape := lib.preceded_lawful (lib.char_lawful '\\') lib.anychar_lawful
  refine lib.alt_lawful (List.forall_mem_cons.mpr ⟨?_, ?_⟩)
  · exact lib.map_lawful (escape.mono (by omega)) _
  · simp [lib.noneOf_lawful]

theorem classItem_lawful : (classItem lib).Lawful 1 := by
  have escape := lib.preceded_lawful (lib.char_lawful '\\') lib.anychar_lawful
  have range := lib.pair_lawful (classChar_lawful lib)
    (lib.preceded_lawful (lib.char_lawful '-') (classChar_lawful lib))
  refine lib.alt_lawful (List.forall_mem_cons.mpr ⟨?_, List.forall_mem_cons.mpr ⟨?_, ?_⟩⟩)
  · exact lib.map_lawful (escape.mono (by omega)) _
  · exact lib.map_lawful (range.mono (by omega)) _
  · simp [lib.map_lawful (lib.noneOf_lawful _)]

theorem charClass_lawful : (charClass lib).Lawful 1 := by
  have items := lib.many1_lawful (classItem_lawful lib)
  refine Lawful.mono (.bind (lib.char_lawful _) fun _ => .bind (lib.opt_lawful (lib.char_lawful _))
    fun _ => .bind items fun _ => .bind (lib.char_lawful _) fun _ => .pure _) ?_
  omega

/-! ## Atoms -/

def anchor : Parser Pattern :=
  lib.alt [lib.value .lineStart (lib.char '^'), lib.value .lineEnd (lib.char '$')]

def dot : Parser Pattern :=
  lib.value .anyChar (lib.char '.')

def escaped : Parser Pattern := do
  let _ ← lib.char '\\'
  let c ← lib.anychar
  return escapedItem c

theorem anchor_lawful : (anchor lib).Lawful 1 :=
  lib.alt_lawful (by simp [lib.value_lawful _ (lib.char_lawful _)])

theorem dot_lawful : (dot lib).Lawful 1 :=
  lib.value_lawful _ (lib.char_lawful _)

theorem escaped_lawful : (escaped lib).Lawful 1 :=
  Lawful.mono (.bind (lib.char_lawful _) fun _ => .bind lib.anychar_lawful fun _ => .pure _) (by omega)

def groupSign : Parser Grouping :=
  lib.alt
    [lib.value .plain (lib.char ':'),
      lib.value .atomic (lib.char '>'),
      lib.value .lookahead (lib.char '='),
      lib.value .negativeLookahead (lib.char '!'),
      lib.value .lookbehind (lib.tag ['<', '=']),
      lib.value .negativeLookbehind (lib.tag ['<', '!'])]

def groupKind : Parser Grouping := do
  let kind ← lib.opt (lib.preceded (lib.char '?') (groupSign lib))
  return kind.getD .capturing

theorem groupSign_lawful : (groupSign lib).Lawful 1 := by
  have sign (kind : Grouping) (c : Char) := lib.value_lawful kind (lib.char_lawful c)
  have signs (kind : Grouping) (c d : Char) : (lib.value kind (lib.tag [c, d])).Lawful 1 :=
    lib.value_lawful kind ((lib.tag_lawful [c, d]).mono (by simp))
  exact lib.alt_lawful (by simp [sign, signs])

theorem groupKind_lawful : (groupKind lib).Lawful 0 :=
  .bind (lib.opt_lawful (lib.preceded_lawful (lib.char_lawful '?') (groupSign_lawful lib)))
    fun _ => .pure _

def remaining : Parser (List Char) := fun input ctx =>
  (.ok input input, ctx)

/-- The number of a new group. Only a capturing group counts. -/
def groupIndex (kind : Grouping) : Parser Nat := fun input ctx =>
  if kind = .capturing then (.ok input (ctx.groups + 1), { ctx with groups := ctx.groups + 1 })
  else (.ok input 0, ctx)

def settle (start : List Char) : Except PatternError Pattern → Parser Pattern
  | .ok p => return p
  | .error e => fail start e

/--
A group, whose body is read by another parser. A lookbehind whose body has no fixed width is recorded as an
error at the body.
-/
def grouped (body : Parser Pattern) : Parser Pattern := do
  let _ ← lib.char '('
  let kind ← groupKind lib
  let index ← groupIndex kind
  let start ← remaining
  let inner ← body
  let _ ← lib.char ')'
  settle start (kind.apply index inner)

theorem remaining_lawful : remaining.Lawful 0 :=
  fun _ _ => ⟨⟨[], rfl, Nat.le_refl 0⟩, rfl⟩

theorem groupIndex_lawful (kind : Grouping) : (groupIndex kind).Lawful 0 := by
  intro input ctx
  unfold groupIndex
  split <;> exact ⟨⟨[], rfl, Nat.le_refl 0⟩, rfl⟩

theorem settle_lawful (start : List Char) (made : Except PatternError Pattern) :
    (settle start made).Lawful 0 := by
  cases made with
  | ok p => exact .pure p
  | error e => exact .fail start e

theorem grouped_lawful {body : Parser Pattern} (h : body.Lawful 0) : (grouped lib body).Lawful 1 :=
  Lawful.mono (.bind (lib.char_lawful _) fun _ => .bind (groupKind_lawful lib) fun kind =>
    .bind (groupIndex_lawful kind) fun _ => .bind remaining_lawful fun start => .bind h fun _ =>
    .bind (lib.char_lawful _) fun _ => settle_lawful start _) (by omega)

def literalChar : Parser Pattern :=
  lib.map (lib.noneOf ['^', '$', '.', '*', '+', '?', '(', ')', '[', ']', '\x7b', '|', '\\']) .literal

/-- An opening brace is an atom if it opens no bounds. -/
def atom (body : Parser Pattern) : Parser Pattern :=
  lib.alt
    [anchor lib, dot lib, charClass lib, escaped lib, grouped lib body, literalChar lib,
      lib.value (.literal '\x7b') (lib.char '\x7b')]

theorem literalChar_lawful : (literalChar lib).Lawful 1 :=
  lib.map_lawful (lib.noneOf_lawful _) _

theorem atom_lawful {body : Parser Pattern} (h : body.Lawful 0) : (atom lib body).Lawful 1 :=
  lib.alt_lawful (by
    simp [anchor_lawful, dot_lawful, charClass_lawful, escaped_lawful, grouped_lawful lib h,
      literalChar_lawful, lib.value_lawful _ (lib.char_lawful _)])

/-! ## Patterns -/

def quantified (body : Parser Pattern) : Parser Pattern := do
  let node ← atom lib body
  repeated lib node

def sequence (body : Parser Pattern) : Parser Pattern := do
  let parts ← lib.many0 (quantified lib body)
  return Pattern.concat parts

def branch (body : Parser Pattern) : Parser Pattern :=
  lib.preceded (lib.char '|') (sequence lib body)

def alternation (body : Parser Pattern) : Parser Pattern := do
  let first ← sequence lib body
  let others ← lib.many0 (branch lib body)
  return others.foldl .alternation first

def pattern : (depth : Nat) → Parser Pattern
  | 0 => return .empty
  | depth + 1 => alternation lib (pattern depth)

inductive Refusal where
  /-- There is a cause with a meaning of its own. -/
  | cause (e : PatternError)
  /-- The parsers do not get on. -/
  | malformed (setback : Setback)
deriving DecidableEq, Repr

/-- What the parsers make of a text. An error that has been recorded goes before anything else. -/
def answer (text : List Char) : Reply Pattern × Context → Except Refusal Pattern
  | (reply, ctx) =>
      match ctx.error with
      | some e => .error (.cause e)
      | none =>
          match reply with
          | .ok [] p => .ok p
          | .ok rest _ => .error (.cause (.unexpectedInput (byteLength text - byteLength rest) rest))
          | .error setback | .failure setback => .error (.malformed setback)

theorem answer_of_recorded {text : List Char} {result : Reply Pattern × Context} {e : PatternError}
    (recorded : result.2.error = some e) : answer text result = .error (.cause e) := by
  obtain ⟨reply, ctx⟩ := result
  simp only at recorded
  simp only [answer, recorded]

/-- The pattern that a text stands for. Groups are in each other no deeper than the text is long. -/
def parse (text : List Char) : Except Refusal Pattern :=
  answer text (pattern lib (text.length + 1) text {})

end Descent
end Rematch
