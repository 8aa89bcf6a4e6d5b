import WorkflowParams.CommandLine.Program

/-!
The command line on the real file system. Everything that is decided is decided by the program as
a value; this module only carries out its requests.
-/

open WorkflowParams.CommandLine

namespace WorkflowParams.CommandLine

def FileError.ofSystem : IO.Error → FileError
  | .noFileOrDirectory _ _ _ => .notFound
  | .inappropriateType _ 21 _ => .isADirectory
  | .inappropriateType _ _ _ => .notADirectory
  | e => .other (toString e)

def Program.perform : Program → IO Ending
  | .finish ending => pure ending
  | .read path resume => do
    let contents ← EIO.toBaseIO (IO.FS.readBinFile path)
    (resume (contents.mapError .ofSystem)).perform
  | .write path contents resume => do
    let done ← EIO.toBaseIO (IO.FS.writeBinFile path contents)
    (resume (done.mapError .ofSystem)).perform

/-- Colour is used on a terminal, and elsewhere if it is asked for. -/
def wantsColour : IO Bool := do
  let forced := (← IO.getEnv "CLICOLOR_FORCE").any (· ≠ "0")
  let refused := (← IO.getEnv "NO_COLOR").isSome || (← IO.getEnv "CLICOLOR") = some "0"
  return forced || (!refused && (← (← IO.getStdout).isTty))

end WorkflowParams.CommandLine

def main (arguments : List String) : IO UInt32 := do
  let ending ← (Program.ofArguments arguments (← wantsColour)).perform
  (← IO.getStdout).putStr ending.output
  (← IO.getStderr).putStr ending.error
  return ending.status.toUInt32
