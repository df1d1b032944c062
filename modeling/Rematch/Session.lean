import Rematch.Search
import Rematch.Pattern.Print

/-!
# Matching by hand

A session keeps one memory for a pattern and a subject and changes it step by step: it runs operators
at any place of the pattern, takes choice points from the stack and resumes them, and saves and
restores memories. A session never ends by itself, and a step that finds nothing to work on says so.
-/

namespace Rematch

structure Session where
  pattern : Pattern
  subject : Subject
  memory : Memory := ∅
  /-- The marked start of a match, no part of the memory. -/
  matchStart : Option Nat := none
  /-- The memories saved so far. -/
  saved : Array Memory := #[]
  /-- The choice point last taken or made. -/
  current : Option ChoicePoint := none

namespace Session

inductive Step where
  /-- Runs the operator at a place. -/
  | run (pos : Nat) (place : Path)
  /-- Takes the latest choice point from the stack and makes it current. -/
  | pop
  /-- Puts back the memory that the current point keeps. -/
  | restorePoint
  /-- Lets the operator at a place take up the current point, in the memory as it is. -/
  | resume (place : Path)
  /-- Puts the current point on the stack. -/
  | pushCurrent
  /-- Takes the latest point, puts back its memory and resumes the whole pattern. -/
  | next
  /-- Goes on to the next result up to `times` times, as long as points are left. -/
  | drain (times : Nat)
  /-- Makes a new point of an operator current. -/
  | makePoint (place : Path) (pos choice : Nat)
  /-- Puts a new point of an operator on the stack. -/
  | pushPoint (place : Path) (pos choice : Nat)
  /-- Saves the memory under the next free number. -/
  | save
  /-- Puts back a saved memory. -/
  | restore (number : Nat)
  /-- Drops all choice points but the oldest. -/
  | keepOldest (depth : Nat)
  /-- Asks what a group has captured. -/
  | askCapture (index : Nat)
  /-- Sets what a group has captured. -/
  | setCapture (index start stop : Nat)
  /-- Marks the start of a match. -/
  | setMatchStart (pos : Nat)
  /-- Asks for the character at a position. -/
  | askChar (pos : Nat)
  /-- Asks for the text and its options. -/
  | askSubject
deriving Repr, DecidableEq

inductive Answer where
  /-- The end of a match, none after a failure. -/
  | stop (stop? : Option Nat)
  /-- The ends of several results. -/
  | stops (stops : List (Option Nat))
  | point (point? : Option ChoicePoint)
  | done
  | noCurrentPoint
  | noPoints
  | number (n : Nat)
  | span (span? : Option Span)
  | char (char? : Option Char)
  | subject (s : Subject)

def settle (session : Session) (outcome : Outcome) : Answer × Session :=
  (.stop outcome.stop?, { session with memory := outcome.memory })

def matcher? (session : Session) (place : Path) : Option Matcher :=
  (session.pattern.at? place).bind fun p =>
    (session.pattern.numberAt? place).map (p.matcher session.subject ·)

def newPoint? (session : Session) (place : Path) (position choice : Nat) : Option ChoicePoint :=
  (session.pattern.numberAt? place).map fun owner =>
    { owner, position, choice, snapshot := session.memory }

def next? (session : Session) : Option (Option Nat × Session) :=
  session.memory.pop?.map fun (point, _) =>
    let outcome := (session.pattern.matcher session.subject 0).resume point point.snapshot
    (outcome.stop?, { session with memory := outcome.memory })

def results : (times : Nat) → Session → List (Option Nat) × Session
  | 0, session => ([], session)
  | times + 1, session =>
      match session.next? with
      | none => ([], session)
      | some (stop?, session) =>
          let (stops, session) := results times session
          (stop? :: stops, session)

def take (session : Session) : Step → Answer × Session
  | .run pos place =>
      match session.matcher? place with
      | some matcher => session.settle (matcher.run pos session.memory)
      | none => (.stop none, session)
  | .pop =>
      match session.memory.pop? with
      | some (point, memory) => (.point (some point), { session with memory, current := some point })
      | none => (.point none, { session with current := none })
  | .restorePoint =>
      match session.current with
      | some point => (.done, { session with memory := point.snapshot })
      | none => (.noCurrentPoint, session)
  | .resume place =>
      match session.current with
      | some point =>
          match session.matcher? place with
          | some matcher => session.settle (matcher.resume point session.memory)
          | none => (.stop none, session)
      | none => (.noCurrentPoint, session)
  | .pushCurrent =>
      match session.current with
      | some point => (.done, { session with memory := session.memory.push point })
      | none => (.noCurrentPoint, session)
  | .next =>
      match session.next? with
      | some (stop?, session) => (.stop stop?, session)
      | none => (.noPoints, session)
  | .drain times =>
      let (stops, session) := results times session
      (.stops stops, session)
  | .makePoint place pos choice =>
      match session.newPoint? place pos choice with
      | some point => (.point (some point), { session with current := some point })
      | none => (.point none, session)
  | .pushPoint place pos choice =>
      match session.newPoint? place pos choice with
      | some point => (.point (some point), { session with memory := session.memory.push point })
      | none => (.point none, session)
  | .save => (.number session.saved.size, { session with saved := session.saved.push session.memory })
  | .restore number =>
      (.done, { session with memory := session.saved[number]?.getD session.memory })
  | .keepOldest depth => (.done, { session with memory := session.memory.keepOldest depth })
  | .askCapture index => (.span (session.memory.captures[index]?), session)
  | .setCapture index start stop =>
      (.done, { session with memory := session.memory.capture index start stop })
  | .setMatchStart pos => (.done, { session with matchStart := some pos })
  | .askChar pos => (.char (session.subject.char? pos), session)
  | .askSubject => (.subject session.subject, session)

def takeAll (session : Session) : List Step → List (Answer × Session)
  | [] => []
  | step :: rest =>
      let (answer, session) := session.take step
      (answer, session) :: session.takeAll rest

def ownerPlace? (session : Session) (point : ChoicePoint) : Option Path :=
  session.pattern.placeOf? point.owner

/-- The text of a choice point: its operator, position and choice, and the depth of its memory. -/
def describe (session : Session) (point : ChoicePoint) : String :=
  let owner := (session.ownerPlace? point).bind session.pattern.at?
  "BacktrackPoint \x7b owner: " ++ (owner.map toString).getD "" ++
    ", position: " ++ toString point.position ++ ", state: " ++ toString point.choice ++
    ", depth: " ++ toString point.snapshot.depth ++ " \x7d"

end Session

end Rematch
