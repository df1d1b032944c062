import Rematch.CommandLine.Run

/-!
# Lines and subjects

A text falls into lines in one way: each line but perhaps the last has its end behind it, and a carriage
return before a line feed belongs to the end. What the command takes for the lines and the subjects of
its input are these lines, or the input as a whole.
-/

namespace Rematch
namespace CommandLine

end CommandLine
end Rematch
