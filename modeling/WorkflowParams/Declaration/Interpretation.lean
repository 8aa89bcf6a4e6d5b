import WorkflowParams.Declaration.Annotation
import WorkflowParams.Declaration.Lexer
import WorkflowParams.Declaration.Session
import WorkflowParams.Settings

/-!
The type that a declaration as a whole denotes: the first type in it, optional if its annotation
says so.
-/

namespace WorkflowParams.Declaration

def isOptional (scan : OptionalScan) (declaration : String) : Bool :=
  match scan with
  | .wholeString => mentionsOptional declaration
  | .bareWord => marksOptional 0 (tokenize declaration)

/-- The type without the mark of an optional parameter. -/
def readStructure (declaration : String) : Except Complaint TypeTree :=
  (Session.ofTokens (tokenize declaration)).next.1

def interpret (settings : Settings) (declaration : String) : Except Diagnostic TypeTree :=
  match readStructure declaration with
  | .error complaint => .error (complaint.toDiagnostic.withDeclaration declaration)
  | .ok tree =>
    .ok (if isOptional settings.optionalScan declaration then .optional tree else tree)

end WorkflowParams.Declaration
