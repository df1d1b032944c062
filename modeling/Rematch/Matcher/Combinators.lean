import Rematch.Matcher.Basic

/-!
# Combining matchers

How each operator with parts runs and resumes them. A run leaves its choice points on the stack in
the order in which they are to be given up, the latest first; a resumption finds its way down to the
operator that left the point and carries on from there on the way back up.
-/

namespace Rematch
namespace Matcher

/-! ## One position -/

def single (number : Nat) (stop? : Captures → Nat → Option Nat) : Matcher where
  number
  size := 1
  retries := {}
  run pos m :=
    match stop? m.captures pos with
    | some stop => .matched stop m
    | none => .failed m
  resume _ m := .failed m

/-! ## Sequences -/

/--
Takes up the choices that `part` left since `entry`, the latest first, until the rest of the sequence
matches after one of them. At most as many choices are taken up as there are rounds.
-/
def drain (part : Matcher) (rest : Nat → Memory → Outcome) (entry : Memory) :
    Rounds → Memory → Outcome
  | .none, _ => .failed entry
  | .next rounds, m =>
      match m.points with
      | [] => .failed entry
      | point :: _ =>
          if m.risesAbove entry && part.owns point then
            match part.resume point point.snapshot with
            | .failed m => drain part rest entry (rounds ()) m
            | .matched next m =>
                match rest next m with
                | .failed m => drain part rest entry (rounds ()) m
                | .matched stop m => .matched stop m
          else
            .failed entry

def runParts (length : Nat) : List Matcher → (pos : Nat) → Memory → Outcome
  | [], pos, m => .matched pos m
  | part :: rest, pos, m =>
      match part.run pos m with
      | .failed _ => .failed m
      | .matched next m' =>
          match runParts length rest next m' with
          | .matched stop m'' => .matched stop m''
          | .failed m'' =>
              drain part (runParts length rest) m (part.retries.rounds (length - pos)) m''

def resumeParts (length : Nat) (point : ChoicePoint) (m : Memory) : List Matcher → Outcome
  | [] => .failed m
  | part :: rest =>
      if part.owns point then
        match part.resume point m with
        | .failed m => .failed m
        | .matched next m => runParts length rest next m
      else
        resumeParts length point m rest

def sequence (length number : Nat) (parts : List Matcher) : Matcher where
  number
  size := parts.foldr (fun part size => part.size + size) 1
  retries := parts.foldr (fun part retries => part.retries.andThen retries) {}
  run := runParts length parts
  resume point m := resumeParts length point m parts

/-! ## Alternations -/

def alternation (number : Nat) (left right : Matcher) : Matcher where
  number
  size := left.size + right.size + 1
  retries := left.retries.orElse right.retries
  run pos m :=
    match left.run pos (m.suspend number pos 0) with
    | .matched stop m => .matched stop m
    | .failed _ => right.run pos m
  resume point m :=
    if point.owner = number then
      if point.choice = 0 then right.run point.position m else .failed m
    else if left.owns point then
      left.resume point m
    else if right.owns point then
      right.resume point m
    else
      .failed m

/-! ## Repetitions -/

def finish (min count pos : Nat) (m : Memory) : Outcome :=
  if count < min then .failed m else .matched pos m

/--
Repeats `body`, of which `count` repetitions are complete, as often as it takes a character and the
bounds allow. Before each further repetition it leaves the choice to end here, if that is enough.
Every repetition takes one of the `remaining` characters.
-/
def iterate (body : Matcher) (number min : Nat) (max : Option Nat) :
    (remaining count pos : Nat) → Memory → Outcome
  | 0, count, pos, m => finish min count pos m
  | remaining + 1, count, pos, m =>
      if max.any (· ≤ count) then
        finish min count pos m
      else
        let left := if min ≤ count then m.suspend number pos count else m
        match body.run pos (left.enterLoop number count pos) with
        | .failed _ => finish min count pos m
        | .matched next m' =>
            if next = pos then
              finish min count pos m
            else
              iterate body number min max remaining (count + 1) next m'

def loop (length number : Nat) (body : Matcher) (min : Nat) (max : Option Nat) : Matcher where
  number
  size := body.size + 1
  retries := body.retries.repeated
  run pos m :=
    match iterate body number min max (length - pos) 0 pos m with
    | .matched stop m => .matched stop m
    | .failed _ => .failed m
  resume point m :=
    if point.owner = number then
      if min ≤ point.choice then .matched point.position m else .failed m
    else
      match m.loops[number]? with
      | none => .failed m
      | some mark =>
          match body.resume point m with
          | .failed m => .failed m
          | .matched next m =>
              if next = mark.start then
                .failed m
              else
                iterate body number min max (length - next) (mark.count + 1) next m

/-! ## Groups -/

def group (number : Nat) (body : Matcher) (index : Nat) : Matcher where
  number
  size := body.size + 1
  retries := body.retries
  run pos m :=
    match body.run pos (m.openGroup index pos) with
    | .failed _ => .failed m
    | .matched stop m => .matched stop (m.capture index pos stop)
  resume point m :=
    match m.groupStarts[index]? with
    | none => .failed m
    | some start =>
        match body.resume point m with
        | .failed m => .failed m
        | .matched stop m => .matched stop (m.capture index start stop)

/-- An operator whose choices are given up as soon as it matches. -/
def atomic (number : Nat) (body : Matcher) : Matcher where
  number
  size := body.size + 1
  retries := {}
  run pos m :=
    match body.run pos m with
    | .failed _ => .failed m
    | .matched stop m' => .matched stop (m'.keepOldest m.depth)
  resume _ m := .failed m

/-! ## Conditions -/

def lookahead (number : Nat) (body : Matcher) : Matcher where
  number
  size := body.size + 1
  retries := {}
  run pos m :=
    match body.run pos m with
    | .failed _ => .failed m
    | .matched _ _ => .matched pos m
  resume _ m := .failed m

def lookbehind (number : Nat) (body : Matcher) (width : Nat) : Matcher where
  number
  size := body.size + 1
  retries := {}
  run pos m :=
    if pos < width then
      .failed m
    else
      match body.run (pos - width) m with
      | .failed _ => .failed m
      | .matched stop _ => if stop = pos then .matched pos m else .failed m
  resume _ m := .failed m

/--
Holds where an operator does not match. Unless the operator only holds at a place, its negation takes
a character.
-/
def negation (length number : Nat) (body : Matcher) (zeroWidth : Bool) : Matcher where
  number
  size := body.size + 1
  retries := {}
  run pos m :=
    if !zeroWidth && length ≤ pos then
      .failed m
    else
      match body.run pos m with
      | .matched _ _ => .failed m
      | .failed _ => .matched (if zeroWidth then pos else pos + 1) m
  resume _ m := .failed m

end Matcher
end Rematch
