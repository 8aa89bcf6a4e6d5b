import WorkflowParams.Diagnostic.Span

/-!
What is reported when a conversion fails: the kind of failure, a message, and as far as they are
known the declaration at fault, the columns in it, what was being done, and what may help.
-/

namespace WorkflowParams

inductive Diagnostic.Kind where
  | noTypeFound
  | missingInnerType
  | unexpectedInnerType
  | unexpectedToken
  | unexpectedEnd
  | nestingTooDeep
  | unsupportedType
  | fileAccess
  | json
  deriving DecidableEq, Repr

namespace Diagnostic.Kind

def title : Kind → String
  | .noTypeFound => "no type found"
  | .missingInnerType => "missing inner type"
  | .unexpectedInnerType => "unexpected inner type"
  | .unexpectedToken => "unexpected token"
  | .unexpectedEnd => "unexpected end of declaration"
  | .nestingTooDeep => "nesting too deep"
  | .unsupportedType => "unsupported type"
  | .fileAccess => "I/O error"
  | .json => "JSON error"

/-- Whether a declaration is at fault, and not the document around it or the file. -/
def concernsDeclaration : Kind → Bool
  | .fileAccess | .json => false
  | _ => true

end Diagnostic.Kind

structure Diagnostic where
  kind : Diagnostic.Kind
  message : String
  span : Option Span := none
  declaration : Option String := none
  note : Option String := none
  help : Option String := none
  deriving DecidableEq, Repr

namespace Diagnostic

def concernsDeclaration (d : Diagnostic) : Bool := d.kind.concernsDeclaration

def isUnsupportedType (d : Diagnostic) : Bool := d.kind = .unsupportedType

def withDeclaration (d : Diagnostic) (declaration : String) : Diagnostic :=
  { d with declaration := some declaration }

def withNote (d : Diagnostic) (note : String) : Diagnostic := { d with note := some note }

/-- The diagnostic in running text. Columns are named only together with the declaration that they
are columns of. -/
def summary (d : Diagnostic) : String :=
  let place := match d.declaration, d.span with
    | none, _ => ""
    | some declaration, none => " in '" ++ declaration ++ "'"
    | some declaration, some span => " in '" ++ declaration ++ "' at " ++ span.describe
  let note := d.note.elim "" ("\nnote: " ++ ·)
  let help := d.help.elim "" ("\nhelp: " ++ ·)
  d.kind.title ++ place ++ ": " ++ d.message ++ note ++ help

end Diagnostic

end WorkflowParams
