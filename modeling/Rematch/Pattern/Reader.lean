import Rematch.Pattern.Error
import Rematch.Pattern.Token

/-!
# Reading a written pattern

Tokens are read from left to right into the branches of the innermost open group; a closing
parenthesis makes a pattern of the group and hands it to the group around it. What stops the reading
is reported at the outermost group still open, since a group without its end is no group.
-/

namespace Rematch

structure Branches where
  /-- The branches before the last bar, joined. -/
  earlier : Option Pattern := none
  /-- The items of the current branch, the latest first. -/
  items : List Pattern := []
deriving Repr, DecidableEq

namespace Branches

/-- All branches as one pattern; branches join to the left. -/
def toPattern (branches : Branches) : Pattern :=
  match branches.earlier with
  | none => Pattern.concat branches.items.reverse
  | some earlier => .alternation earlier (Pattern.concat branches.items.reverse)

def add (branches : Branches) (item : Pattern) : Branches :=
  { branches with items := item :: branches.items }

def next (branches : Branches) : Branches :=
  { earlier := some branches.toPattern, items := [] }

end Branches

/-- A group whose closing parenthesis has not been read. -/
structure OpenGroup where
  kind : Grouping
  /-- The number given to a capturing group. -/
  index : Nat
  /-- The branches around the group. -/
  around : Branches
  /-- The text from the opening parenthesis on. -/
  source : List Char
deriving Repr, DecidableEq

def Grouping.apply (kind : Grouping) (index : Nat) (body : Pattern) :
    Except PatternError Pattern :=
  match kind with
  | .capturing => .ok (.group body index)
  | .plain => .ok body
  | .atomic => .ok (.atomic body)
  | .lookahead => .ok (.lookahead body)
  | .negativeLookahead => .ok (.negation (.lookahead body))
  | .lookbehind => Pattern.behind body
  | .negativeLookbehind => (Pattern.behind body).map .negation

structure Reader where
  current : Branches := {}
  /-- The open groups, the innermost first. -/
  opened : List OpenGroup := []
  /-- How many capturing groups have been opened. -/
  groups : Nat := 0
deriving Repr, DecidableEq

namespace Reader

def afterItem (r : Reader) : Bool :=
  !r.current.items.isEmpty

/--
The state after a token that stands at `source`, or the error that the token completes; `none` if
the token has no place here.
-/
def accept (r : Reader) (source : List Char) : Token → Option (Except PatternError Reader)
  | .item p => some (.ok { r with current := r.current.add p })
  | .repeats min max =>
      match r.current.items with
      | [] => none
      | item :: items =>
          some ((Pattern.bounded item min max).map fun repeated =>
            { r with current := { r.current with items := repeated :: items } })
  | .bar => some (.ok { r with current := r.current.next })
  | .opening kind =>
      let groups := if kind = .capturing then r.groups + 1 else r.groups
      some (.ok
        { current := {}
          opened := { kind, index := groups, around := r.current, source } :: r.opened
          groups })
  | .closing =>
      match r.opened with
      | [] => none
      | innermost :: opened =>
          some ((innermost.kind.apply innermost.index r.current.toPattern).map fun item =>
            { r with current := innermost.around.add item, opened })

def stuck (r : Reader) (text rest : List Char) : PatternError :=
  let start := match r.opened.getLast? with
    | some outermost => outermost.source
    | none => rest
  .unexpectedInput (byteLength text - byteLength start) start

/--
Reads `rest`, the last part of `text`, token by token. Every token takes a character, so as many
steps as there are characters are enough.
-/
def read (text : List Char) : (steps : Nat) → Reader → (rest : List Char) →
    Except PatternError Pattern
  | _, r, [] => if r.opened.isEmpty then .ok r.current.toPattern else .error (r.stuck text [])
  | 0, r, rest => .error (r.stuck text rest)
  | steps + 1, r, rest =>
      match Token.scan r.afterItem rest with
      | none => .error (r.stuck text rest)
      | some (token, after) =>
          match r.accept rest token with
          | none => .error (r.stuck text rest)
          | some (.error e) => .error e
          | some (.ok r) => read text steps r after

end Reader

namespace Pattern

def parse (text : List Char) : Except PatternError Pattern :=
  Reader.read text text.length {} text

def compile (text : String) : Except PatternError Pattern :=
  parse text.toList

end Pattern

end Rematch
