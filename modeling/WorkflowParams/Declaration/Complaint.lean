import WorkflowParams.Declaration.Token
import WorkflowParams.Diagnostic.Basic
import WorkflowParams.TypeTree

/-!
Why no type could be read from a declaration. Each cause names the columns that it concerns; its
wording is in one place.
-/

namespace WorkflowParams.Declaration

def Token.span (t : Token) : Span := Span.ofColumns t.column t.endColumn

/-- What may stand at a place where something else stands. -/
inductive Expectation where
  | typeName
  | closingBracket
  deriving DecidableEq, Repr

def Expectation.describe : Expectation → String
  | .typeName => "a type name"
  | .closingBracket => "']' after the inner type"

/-- The number of arrays that may be open at once. -/
def maxNesting : Nat := 128

inductive Complaint where
  | noType
  /-- An array name that no bracket follows. -/
  | bareArray (name : Span)
  /-- A pair of brackets, from the opening to the closing one, with no type between them. -/
  | emptyBrackets (brackets : Span)
  | innerType (primitive : Primitive) (bracket : Span)
  | unexpected (wanted : Expectation) (found : Lexeme) (place : Span)
  | ended (wanted : Expectation) (place : Span)
  | tooDeep (name : Span)
  | unsupported (name : String) (place : Span)
  deriving DecidableEq, Repr

namespace Complaint

def kind : Complaint → Diagnostic.Kind
  | .noType => .noTypeFound
  | .bareArray _ | .emptyBrackets _ => .missingInnerType
  | .innerType _ _ => .unexpectedInnerType
  | .unexpected _ _ _ => .unexpectedToken
  | .ended _ _ => .unexpectedEnd
  | .tooDeep _ => .nestingTooDeep
  | .unsupported _ _ => .unsupportedType

def span? : Complaint → Option Span
  | .noType => none
  | .bareArray span | .emptyBrackets span | .innerType _ span | .unexpected _ _ span
  | .ended _ span | .tooDeep span | .unsupported _ span => some span

def message : Complaint → String
  | .noType => "could not be parsed into a type specification"
  | .bareArray _ | .emptyBrackets _ => "Array is missing an inner type"
  | .innerType p _ => "primitive type '" ++ p.name ++ "' does not take an inner type"
  | .unexpected wanted found _ =>
    "expected " ++ wanted.describe ++ ", found " ++ found.describe
  | .ended wanted _ => "expected " ++ wanted.describe ++ ", found end of declaration"
  | .tooDeep _ => "arrays are nested more than " ++ toString maxNesting ++ " levels deep"
  | .unsupported name _ => "'" ++ name ++ "' is not a supported type"

def supportedTypes : List String := Primitive.all.map Primitive.name ++ [arrayName]

def help? : Complaint → Option String
  | .bareArray _ => some "write the element type in brackets, e.g. Array[String]"
  | .tooDeep _ => some "womtool never prints declarations this deep; check the source document"
  | .unsupported _ _ => some ("supported types: " ++ ", ".intercalate supportedTypes)
  | _ => none

def toDiagnostic (c : Complaint) : Diagnostic :=
  { kind := c.kind, message := c.message, span := c.span?, help := c.help? }

end Complaint

end WorkflowParams.Declaration
