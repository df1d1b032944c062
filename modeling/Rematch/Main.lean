import Rematch.CommandLine.Run

/-!
# The command

Reads the arguments and the standard input, and prints the report of the run. The input is only read
once the pattern is known to be one.
-/

namespace Rematch
namespace CommandLine

partial def readAll (stream : IO.FS.Stream) (bytes : ByteArray) : IO ByteArray := do
  let chunk ← stream.read 65536
  if chunk.isEmpty then return bytes else readAll stream (bytes ++ chunk)

def deliver (report : Report) : IO UInt32 := do
  IO.print (String.ofList report.out)
  IO.eprint (String.ofList report.err)
  return report.code.toUInt32

end CommandLine
end Rematch

open Rematch.CommandLine in
def main (arguments : List String) : IO UInt32 := do
  match ArgumentParser.conventional.parse arguments with
  | none =>
      IO.eprintln "usage: rematch -E PATTERN [-i] [-m] [-s] [--culture] [--replace TEMPLATE | --split]"
      return 2
  | some arguments =>
      match prepare arguments with
      | .error report => deliver report
      | .ok job => deliver (job.run (← readAll (← IO.getStdin) ByteArray.empty))
