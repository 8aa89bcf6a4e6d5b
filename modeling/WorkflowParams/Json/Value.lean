import WorkflowParams.Decimal.Double

/-!
Values of JSON. A number is an integer or a double and stays what it is; the members of an object
stay in the order in which they are listed.
-/

namespace WorkflowParams.Json

open WorkflowParams.Decimal

inductive Value where
  | null
  | boolean (b : Bool)
  | integer (n : Int)
  | double (x : Double)
  | text (s : String)
  | array (items : List Value)
  | object (members : List (String × Value))
  deriving Inhabited

/-- Puts a member in its place among members in ascending order of their names, by code point; a
member of the same name gives way. -/
def insertMember {α : Type} (name : String) (value : α) : List (String × α) → List (String × α)
  | [] => [(name, value)]
  | (other, present) :: members =>
    if name < other then (name, value) :: (other, present) :: members
    else if name = other then (name, value) :: members
    else (other, present) :: insertMember name value members

end WorkflowParams.Json
