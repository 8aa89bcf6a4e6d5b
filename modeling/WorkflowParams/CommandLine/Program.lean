import WorkflowParams.CommandLine.Arguments
import WorkflowParams.CommandLine.FileTree
import WorkflowParams.Diagnostic.Layout
import WorkflowParams.Document

/-!
The program as a whole: what it asks of the file system, one request at a time, and how it ends.
The requests can be answered by a file tree that is held as a value, or by the real one. A
conversion makes at most one read and then at most one write, and writes only when everything else
has succeeded.
-/

namespace WorkflowParams.CommandLine

/-- How a program ends: its status and what it leaves on its two outputs. -/
structure Ending where
  status : UInt8
  output : String
  error : String
  deriving DecidableEq, Repr

inductive Program where
  | finish (ending : Ending)
  | read (path : String) (resume : Except FileError ByteArray → Program)
  | write (path : String) (contents : ByteArray) (resume : Except FileError Unit → Program)

namespace Program

/-- Runs a program on a file tree. A write that fails leaves the tree as it was. -/
def runOn (t : FileTree) : Program → Ending × FileTree
  | .finish ending => (ending, t)
  | .read path resume => (resume (t.read path)).runOn t
  | .write path contents resume =>
    match t.write path contents with
    | .ok t' => (resume (.ok ())).runOn t'
    | .error e => (resume (.error e)).runOn t

def name : String := "womtool-cbas"

def version : String := "0.1.0"

def usage : String := "Usage: " ++ name ++ " [OPTIONS] <WOMTOOL_FILE>"

def helpText : String := "\n".intercalate
  ["Convert the JSON printed by `womtool inputs` (or `womtool outputs`) into",
    "CBAS input or output definitions.",
    "",
    usage,
    "",
    "Arguments:",
    "  <WOMTOOL_FILE>  Path to a JSON file generated by womtool",
    "",
    "Options:",
    "      --output-def               Format the results as output definitions",
    "  -o, --output <PATH>            Write the definitions to this file instead of stdout",
    "      --format <FORMAT>          Emit a list of definitions or an object keyed by",
    "                                 parameter name",
    "                                 [default: list] [possible values: list, map]",
    "      --output-binding <BINDING> Binding kind used for output definitions",
    "                                 [default: record-update]",
    "                                 [possible values: record-update, record-lookup]",
    "      --optional-scan <SCAN>     Where to look for the `optional` marker in a declaration",
    "                                 [default: whole-string]",
    "                                 [possible values: whole-string, annotation]",
    "      --include-defaults         Attach `default = ...` values to the definitions",
    "      --no-color                 Render errors without colour",
    "  -h, --help                     Print help",
    "  -V, --version                  Print version"]

def fail (i : Invocation) (colour : Bool) (d : Diagnostic) : Program :=
  .finish ⟨1, "", d.layout (some i.source) (colour && !i.noColour) ++ "\n"⟩

def fileFailure (activity path : String) (e : FileError) : Diagnostic :=
  { kind := .fileAccess
    message := e.message
    note := some ("while " ++ activity ++ " '" ++ path ++ "'") }

def textOf (contents : Except FileError ByteArray) : Except FileError String :=
  match contents with
  | .error e => .error e
  | .ok bytes =>
    match String.fromUTF8? bytes with
    | some text => .ok text
    | none => .error .notText

/-- Leaves the text where the invocation wants it. -/
def deliver (i : Invocation) (colour : Bool) (text : String) : Program :=
  match i.target with
  | none => .finish ⟨0, text, ""⟩
  | some path => .write path text.toUTF8 fun
    | .ok () => .finish ⟨0, "", ""⟩
    | .error e => fail i colour (fileFailure "writing" path e)

def convert (i : Invocation) (colour : Bool) : Program :=
  .read i.source fun contents =>
    match textOf contents with
    | .error e => fail i colour (fileFailure "reading" i.source e)
    | .ok document =>
      match Document.convert i.settings i.direction i.format document with
      | .error d => fail i colour d
      | .ok text => deliver i colour (text ++ "\n")

/-- The program for a list of arguments. -/
def ofArguments (arguments : List String) (colour : Bool) : Program :=
  match Invocation.ofArguments arguments with
  | .ok i => convert i colour
  | .error .version => .finish ⟨0, name ++ " " ++ version ++ "\n", ""⟩
  | .error .help => .finish ⟨0, helpText ++ "\n", ""⟩
  | .error (.usage e) => .finish ⟨2, "", "error: " ++ e.message ++ "\n\n" ++ usage ++ "\n"⟩

end Program

end WorkflowParams.CommandLine
