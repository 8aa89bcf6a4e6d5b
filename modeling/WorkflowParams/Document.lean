import WorkflowParams.Definition
import WorkflowParams.Json.Entries

/-!
Documents: the declarations that are read, one JSON object from names to declarations, and the
definitions that are written, as a list or as an object by name.
-/

namespace WorkflowParams.Document

open Json

/-- The declarations of a document. A name that is repeated keeps its first place and has its last
declaration. -/
def read (document : String) : Except Diagnostic (Keyed String) :=
  match readTextObject document.toList with
  | .ok entries => .ok (Keyed.ofList entries)
  | .error fault => .error { kind := .json, message := fault.message document }

def toJson (format : Format) (definitions : List Definition) : Value :=
  match format with
  | .list => .array (definitions.map Definition.toJson)
  | .map => .object ((Definition.byName definitions).entries.map fun (name, d) => (name, d.toJson))

def write (format : Format) (definitions : List Definition) : String :=
  (toJson format definitions).pretty

def convert (settings : Settings) (direction : Direction) (format : Format) (document : String) :
    Except Diagnostic String :=
  match read document with
  | .error diagnostic => .error diagnostic
  | .ok declarations =>
    (Definition.buildAll settings direction declarations.entries).map (write format)

end WorkflowParams.Document
