import Rematch.Text.Alphanumeric
import Rematch.Pattern.Basic

/-!
# Tokens of a written pattern

A written pattern is read token by token: one-character operators, literals, escapes and whole
character classes are items, and between them stand repetition signs, bars and parentheses. Only one
thing about the text before a token matters: a repetition sign can follow an item and nothing else,
and a brace that opens no bounds there is a literal like any other.
-/

namespace Rematch

/-- What the parentheses around a body make of it. -/
inductive Grouping where
  | capturing
  | plain
  | atomic
  | lookahead
  | negativeLookahead
  | lookbehind
  | negativeLookbehind
deriving DecidableEq, Repr

inductive Token where
  | item (p : Pattern)
  | repeats (min : Nat) (max : Option Nat)
  | bar
  | opening (kind : Grouping)
  | closing
deriving DecidableEq, Repr

namespace Token

/-! ## Repetition signs -/

def decimalValue (digits : List Char) : Nat :=
  digits.foldl (fun n d => 10 * n + (d.toNat - '0'.toNat)) 0

def scanNumber (text : List Char) : Option (Nat × List Char) :=
  let digits := text.takeWhile Text.isDecimal
  if digits.isEmpty then none
  else if decimalValue digits < UInt64.size then
    some (decimalValue digits, text.dropWhile Text.isDecimal)
  else none

/-- Bounds after their opening brace: one number, a number and a comma, or two numbers. -/
def scanBounds (text : List Char) : Option (Token × List Char) :=
  match scanNumber text with
  | some (min, '}' :: rest) => some (.repeats min (some min), rest)
  | some (min, ',' :: '}' :: rest) => some (.repeats min none, rest)
  | some (min, ',' :: rest) =>
      match scanNumber rest with
      | some (max, '}' :: rest) => some (.repeats min (some max), rest)
      | _ => none
  | _ => none

def scanRepeats : List Char → Option (Token × List Char)
  | '*' :: rest => some (.repeats 0 none, rest)
  | '+' :: rest => some (.repeats 1 none, rest)
  | '?' :: rest => some (.repeats 0 (some 1), rest)
  | '{' :: rest => scanBounds rest
  | _ => none

/-! ## Escapes -/

/-- The shorthand for a kind of characters that a letter stands for after a backslash. -/
def shorthand? : Char → Option Pattern
  | 'd' => some .digit
  | 'w' => some .word
  | 's' => some .space
  | 'D' => some (.negation .digit)
  | 'W' => some (.negation .word)
  | 'S' => some (.negation .space)
  | _ => none

def escapedChar : Char → Char
  | 'n' => '\n'
  | 'r' => '\r'
  | 't' => '\t'
  | 'f' => '\x0c'
  | 'v' => '\x0b'
  | '0' => '\x00'
  | c => c

def escapedItem (c : Char) : Pattern :=
  if c = 'b' then .wordEdge
  else if c = 'B' then .negation .wordEdge
  else if '1' ≤ c ∧ c ≤ '9' then .backreference (c.toNat - '0'.toNat)
  else (shorthand? c).getD (.literal (escapedChar c))

/-! ## Character classes -/

inductive ClassEntry where
  | single (c : Char)
  | range (a b : Char)
  | special (p : Pattern)
deriving DecidableEq, Repr

/-- What a backslash and a character mean between brackets, unless they end a range. -/
def escapedEntry (c : Char) : ClassEntry :=
  match shorthand? c with
  | some p => .special p
  | none => .single (escapedChar c)

/--
The entries up to the closing bracket, and the text after it. A backslash always begins an escape,
never a range; any other character begins a range if a hyphen and an end of the range follow.
-/
def scanClassEntries : List Char → Option (List ClassEntry × List Char)
  | [] => none
  | ']' :: rest => some ([], rest)
  | '\\' :: c :: rest =>
      (scanClassEntries rest).map fun (entries, after) => (escapedEntry c :: entries, after)
  | a :: '-' :: '\\' :: b :: rest =>
      (scanClassEntries rest).map fun (entries, after) =>
        (.range a (escapedChar b) :: entries, after)
  | a :: '-' :: b :: rest =>
      if b = ']' then
        some ([.single a, .single '-'], rest)
      else
        (scanClassEntries rest).map fun (entries, after) => (.range a b :: entries, after)
  | a :: rest => (scanClassEntries rest).map fun (entries, after) => (.single a :: entries, after)

def ClassEntry.toSet (entries : List ClassEntry) : CharSet where
  ranges := entries.filterMap fun
    | .range a b => some (.between a b)
    | _ => none
  singles := entries.filterMap fun
    | .single c => some c
    | _ => none

def ClassEntry.specials (entries : List ClassEntry) : List Pattern :=
  entries.filterMap fun
    | .special p => some p
    | _ => none

def ClassEntry.toPattern (entries : List ClassEntry) : Pattern :=
  .charClass (toSet entries) (specials entries)

/-- A class after its opening bracket. A class without entries is none. -/
def scanClass (text : List Char) : Option (Token × List Char) :=
  match text with
  | '^' :: text =>
      match scanClassEntries text with
      | some (entry :: entries, rest) =>
          some (.item (.negation (ClassEntry.toPattern (entry :: entries))), rest)
      | _ => none
  | text =>
      match scanClassEntries text with
      | some (entry :: entries, rest) => some (.item (ClassEntry.toPattern (entry :: entries)), rest)
      | _ => none

/-! ## Tokens -/

def scanGrouping : List Char → Grouping × List Char
  | '?' :: ':' :: rest => (.plain, rest)
  | '?' :: '>' :: rest => (.atomic, rest)
  | '?' :: '=' :: rest => (.lookahead, rest)
  | '?' :: '!' :: rest => (.negativeLookahead, rest)
  | '?' :: '<' :: '=' :: rest => (.lookbehind, rest)
  | '?' :: '<' :: '!' :: rest => (.negativeLookbehind, rest)
  | rest => (.capturing, rest)

def scanPlain : List Char → Option (Token × List Char)
  | '^' :: rest => some (.item .lineStart, rest)
  | '$' :: rest => some (.item .lineEnd, rest)
  | '.' :: rest => some (.item .anyChar, rest)
  | '|' :: rest => some (.bar, rest)
  | ')' :: rest => some (.closing, rest)
  | '(' :: rest => let (kind, rest) := scanGrouping rest; some (.opening kind, rest)
  | '[' :: rest => scanClass rest
  | '\\' :: c :: rest => some (.item (escapedItem c), rest)
  | c :: rest =>
      if ['*', '+', '?', ']', '\\'].contains c then none else some (.item (.literal c), rest)
  | [] => none

def scan (afterItem : Bool) (text : List Char) : Option (Token × List Char) :=
  if afterItem then (scanRepeats text).orElse fun _ => scanPlain text else scanPlain text

end Token

end Rematch
