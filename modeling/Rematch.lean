import Rematch.CommandLine.Run
import Rematch.Main
import Rematch.Proofs.Arrivals
import Rematch.Proofs.Failure
import Rematch.Proofs.Ownership
import Rematch.Proofs.Pending
import Rematch.Proofs.Stack
import Rematch.Results
import Rematch.Session
import Rematch.Proofs.Lawful
import Rematch.Proofs.Repetition
import Rematch.Proofs.Enumeration
import Rematch.Proofs.Starts
import Rematch.Proofs.Derivation
import Rematch.Proofs.Routing
import Rematch.Proofs.Pieces
import Rematch.Proofs.Lexemes
import Rematch.Proofs.Reading
import Rematch.Proofs.WellFormed
import Rematch.Proofs.GroupOrder
import Rematch.Proofs.Refusal
import Rematch.Proofs.Flatten
import Rematch.Proofs.Printed
import Rematch.Proofs.RoundTrip
import Rematch.Proofs.Lockstep
import Rematch.Proofs.CaseFolding
import Rematch.Proofs.Reshaping
import Rematch.Proofs.Ungrouped
import Rematch.Proofs.Unbounded
import Rematch.Proofs.Termination
import Rematch.Proofs.Switches
import Rematch.Proofs.FixedWidth
import Rematch.Proofs.Lookbehind
import Rematch.Proofs.Places
import Rematch.Proofs.Unrolling
import Rematch.Proofs.ForeignPoints
import Rematch.Proofs.Nesting
import Rematch.Proofs.Expansion
import Rematch.Proofs.FoldedRanges
import Rematch.Proofs.RangeEnds
import Rematch.Proofs.LongestPattern
import Rematch.Proofs.Quoting
import Rematch.Pattern.Combinators
import Rematch.Pattern.Descent
import Rematch.Proofs.Progress
import Rematch.Proofs.Scanners
import Rematch.Proofs.Descent
import Rematch.Proofs.Specials
import Rematch.Proofs.StopPoints
import Rematch.Proofs.Lines
import Rematch.Proofs.Modes
