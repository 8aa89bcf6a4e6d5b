import WorkflowParams.Json.Value
import WorkflowParams.Settings

/-!
How a parameter is tied to an attribute of the record that a workflow runs on. Inputs are looked up
in the record; outputs are written back to it, or looked up too where the settings say so.
-/

namespace WorkflowParams

open Json

inductive Direction where
  | input
  | output
  deriving DecidableEq, Repr

namespace Direction

def label : Direction → String
  | .input => "input"
  | .output => "output"

/-- The name under which a definition holds its binding. -/
def bindingKey : Direction → String
  | .input => "source"
  | .output => "destination"

end Direction

inductive Binding where
  | recordLookup (target : String)
  | recordUpdate (target : String)
  deriving DecidableEq, Repr

/-- The attribute for a parameter: its name, with underscores for the dots that separate the parts
of a qualified name. -/
def recordAttribute (name : String) : String :=
  String.ofList (name.toList.map fun c => if c = '.' then '_' else c)

namespace Binding

def ofName (name : String) (direction : Direction) (policy : OutputBinding) : Binding :=
  match direction, policy with
  | .output, .recordUpdate => .recordUpdate (recordAttribute name)
  | _, _ => .recordLookup (recordAttribute name)

def target : Binding → String
  | .recordLookup target | .recordUpdate target => target

def tag : Binding → String
  | .recordLookup _ => "record_lookup"
  | .recordUpdate _ => "record_update"

def toJson (b : Binding) : Value :=
  .object [("type", .text b.tag), ("record_attribute", .text b.target)]

end Binding

end WorkflowParams
