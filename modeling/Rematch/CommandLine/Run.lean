import Rematch.CommandLine.Arguments
import Rematch.Pattern.Reader
import Rematch.Template

/-!
# Runs of the command

A run goes through the subjects in the input, one after the other. It prints the subjects that match, or
every subject with its matches replaced, or the pieces of every subject, and keeps in mind whether a
subject has matched.
-/

namespace Rematch
namespace CommandLine

structure Job where
  pattern : Pattern
  arguments : Arguments
deriving DecidableEq, Repr

structure Report where
  code : Nat
  out : List Char := []
  err : List Char := []
deriving DecidableEq, Repr

/-! ## Subjects -/

/-- A line, written backwards, without the carriage return at its end. -/
def dropReturn : List Char → List Char
  | '\r' :: line => line
  | line => line

/-- The lines of a text, given the begun line backwards. The last line need not be ended. -/
def linesFrom : (line : List Char) → List Char → List (List Char)
  | line, [] => if line.isEmpty then [] else [line.reverse]
  | line, c :: rest =>
      if c = '\n' then (dropReturn line).reverse :: linesFrom [] rest
      else linesFrom (c :: line) rest

/-- The lines of a text without their ends, a line feed with or without a carriage return before. -/
def lines (text : List Char) : List (List Char) :=
  linesFrom [] text

def dropFinalFeed (text : List Char) : List Char :=
  if text.getLast? = some '\n' then text.dropLast else text

/-- The texts that the pattern is applied to: lines, or the whole input if matches may span lines. -/
def subjects (options : Options) (input : List Char) : List (List Char) :=
  if options.multiline || options.singleline then [dropFinalFeed input] else lines input

/-! ## Output -/

def unlines (texts : List (List Char)) : List Char :=
  texts.flatMap (· ++ ['\n'])

structure Progress where
  matched : Bool := false
  printed : Array (List Char) := #[]
deriving DecidableEq, Repr

namespace Job

def subject (job : Job) (text : List Char) : Subject where
  text := text.toArray
  options := job.arguments.options

def isMatch (job : Job) (text : List Char) : Bool :=
  job.pattern.isMatch (job.subject text)

def step (job : Job) (done : Progress) (text : List Char) : Progress :=
  match job.arguments.replacement with
  | some template =>
      { matched := done.matched || job.isMatch text
        printed := done.printed.push (job.pattern.replace (job.subject text) template) }
  | none =>
      if job.arguments.split then
        { matched := done.matched || job.isMatch text
          printed := done.printed ++ job.pattern.split (job.subject text) }
      else if job.isMatch text then
        { matched := true, printed := done.printed.push text }
      else
        done

def reportOn (job : Job) (texts : List (List Char)) : Report :=
  let done := texts.foldl job.step {}
  { code := if done.matched then 0 else 1, out := unlines done.printed.toList }

def run (job : Job) (input : ByteArray) : Report :=
  match String.fromUTF8? input with
  | some text => job.reportOn (subjects job.arguments.options text.toList)
  | none =>
      { code := 2
        err := "error: reading stdin: stream did not contain valid UTF-8\n".toList }

end Job

def prepare (arguments : Arguments) : Except Report Job :=
  match Pattern.parse arguments.pattern with
  | .ok pattern => .ok { pattern, arguments }
  | .error e =>
      .error
        { code := 2
          err := "error: invalid pattern ".toList ++ Text.quoted arguments.pattern ++
            ": ".toList ++ e.message.toList ++ ['\n'] }

def report (arguments : Arguments) (input : ByteArray) : Report :=
  match prepare arguments with
  | .ok job => job.run input
  | .error report => report

end CommandLine
end Rematch
