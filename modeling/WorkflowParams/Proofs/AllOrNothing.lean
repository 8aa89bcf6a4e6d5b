import WorkflowParams.CommandLine.Program
import WorkflowParams.Proofs.Batch

/-!
A conversion from the command line has all of its effect or none. However the files answer, it ends
with status one, without output and with the files as they were, or it ends with status zero and
the text of the definitions stands on the output or in the target, with every other file as it was.
-/

namespace WorkflowParams.CommandLine

namespace FileTree

/-! Writing a file and reading it back. -/

end FileTree

namespace Program

end Program

end WorkflowParams.CommandLine
