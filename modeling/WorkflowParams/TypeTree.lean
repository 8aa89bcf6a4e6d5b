import WorkflowParams.Json.Value

/-!
The types of workflow parameters: a primitive under any number of arrays and optional marks. A type
has a spelling, as declarations write it, and a JSON form, tagged by its kind.
-/

namespace WorkflowParams

open Json

inductive Primitive where
  | int | string | float | boolean | file
  deriving DecidableEq, Repr

namespace Primitive

def all : List Primitive := [.int, .string, .float, .boolean, .file]

def name : Primitive → String
  | .int => "Int"
  | .string => "String"
  | .float => "Float"
  | .boolean => "Boolean"
  | .file => "File"

def ofName? (name : String) : Option Primitive := all.find? (·.name = name)

@[simp] theorem ofName?_name (p : Primitive) : ofName? p.name = some p := by
  cases p <;> decide

theorem ofName?_eq_some_iff {name : String} {p : Primitive} :
    ofName? name = some p ↔ name = p.name := by
  constructor
  · intro h
    have := List.find?_some h
    exact (of_decide_eq_true this).symm
  · rintro rfl
    exact ofName?_name p

theorem name_injective {p q : Primitive} (h : p.name = q.name) : p = q := by
  have hp := ofName?_name p
  rw [h, ofName?_name] at hp
  exact (Option.some.inj hp).symm

end Primitive

/-- The name that opens an array; it is no primitive. -/
def arrayName : String := "Array"

theorem Primitive.name_ne_arrayName (p : Primitive) : p.name ≠ arrayName := by
  cases p <;> decide

inductive TypeTree where
  | primitive (p : Primitive)
  | array (element : TypeTree) (nonEmpty : Bool)
  | optional (inner : TypeTree)
  deriving DecidableEq, Repr

namespace TypeTree

def isOptional : TypeTree → Bool
  | .optional _ => true
  | _ => false

/-- The number of arrays between the root and the primitive. -/
def arrayDepth : TypeTree → Nat
  | .primitive _ => 0
  | .array element _ => element.arrayDepth + 1
  | .optional inner => inner.arrayDepth

def leaf : TypeTree → Primitive
  | .primitive p => p
  | .array element _ => element.leaf
  | .optional inner => inner.leaf

def spelling : TypeTree → String
  | .primitive p => p.name
  | .array element nonEmpty =>
    arrayName ++ "[" ++ element.spelling ++ "]" ++ if nonEmpty then "+" else ""
  | .optional inner => inner.spelling ++ "?"

instance : ToString TypeTree := ⟨spelling⟩

def toJson : TypeTree → Value
  | .primitive p => .object [("type", .text "primitive"), ("primitive_type", .text p.name)]
  | .array element nonEmpty =>
    .object [("type", .text "array"), ("array_type", element.toJson),
      ("non_empty", .boolean nonEmpty)]
  | .optional inner => .object [("type", .text "optional"), ("optional_type", inner.toJson)]

end TypeTree

end WorkflowParams
