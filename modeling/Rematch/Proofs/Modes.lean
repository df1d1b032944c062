import Rematch.Proofs.Lines
import Rematch.Proofs.Pieces

/-!
# Modes of the command

The command prints the subjects that match, or every subject with its matches replaced, or the pieces
of every subject. Its exit code is the same in all three modes, since it is found by the same search,
and what it prints in each of them follows from the laws of searching, replacing and splitting.
-/

namespace Rematch

namespace Subject

variable {s : Subject} {c : Char}

end Subject

namespace Pattern

variable (p : Pattern) (s : Subject)

end Pattern

namespace CommandLine

namespace Job

variable (job : Job)

variable {job} (texts : List (List Char))

end Job

/-! ## What a run comes to -/

variable {arguments : Arguments} {input : ByteArray} {p : Pattern}

end CommandLine
end Rematch
