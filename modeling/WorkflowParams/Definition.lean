import WorkflowParams.Binding
import WorkflowParams.Declaration.Interpretation
import WorkflowParams.Keyed

/-!
Parameter definitions: a name, the type that its declaration denotes, the binding, and the default
where it is asked for. A batch of declarations is defined in order and stops at the first that
cannot be.
-/

namespace WorkflowParams

open Json Declaration

structure Definition where
  name : String
  type : TypeTree
  binding : Binding
  direction : Direction
  default : Option Value := none

namespace Definition

def toJson (d : Definition) : Value :=
  .object <|
    [(d.direction.label ++ "_name", .text d.name),
      (d.direction.label ++ "_type", d.type.toJson),
      (d.direction.bindingKey, d.binding.toJson)] ++
    d.default.elim [] fun value => [("default_value", value)]

def build (settings : Settings) (direction : Direction) (name declaration : String) :
    Except Diagnostic Definition :=
  match interpret settings declaration with
  | .error diagnostic =>
    .error (diagnostic.withNote ("while converting parameter '" ++ name ++ "'"))
  | .ok type =>
    .ok
      { name
        type
        binding := .ofName name direction settings.outputBinding
        direction
        default := if settings.includeDefaults then default? declaration else none }

def buildAll (settings : Settings) (direction : Direction) :
    List (String × String) → Except Diagnostic (List Definition)
  | [] => .ok []
  | (name, declaration) :: entries =>
    match build settings direction name declaration with
    | .error diagnostic => .error diagnostic
    | .ok definition => (buildAll settings direction entries).map (definition :: ·)

def byName (definitions : List Definition) : Keyed Definition :=
  Keyed.ofList (definitions.map fun d => (d.name, d))

end Definition

end WorkflowParams
