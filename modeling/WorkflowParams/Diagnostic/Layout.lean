import WorkflowParams.Diagnostic.Basic

/-!
Laying out a diagnostic for a terminal: the message, the declaration, carets under the columns at
fault, and the note and help below. The layout is a list of pieces of text, each with its ink, and
is the same with colour and without: colour only says how a piece is painted.
-/

namespace WorkflowParams.Diagnostic

inductive Ink where
  | plain
  | strong
  | alarm
  | border
  | noteLabel
  | helpLabel
  deriving DecidableEq, Repr

/-- The parameters of the terminal sequence that selects an ink. -/
def Ink.code? : Ink → Option String
  | .plain => none
  | .strong => some "1"
  | .alarm => some "1;31"
  | .border => some "34"
  | .noteLabel => some "1;36"
  | .helpLabel => some "1;32"

structure Piece where
  ink : Ink
  text : String
  deriving DecidableEq, Repr

namespace Piece

/-- The text between the sequence that selects its ink and the one that resets it; an empty text has
both too. -/
def painted (p : Piece) : String :=
  match p.ink.code? with
  | some code => "\x1b[" ++ code ++ "m" ++ p.text ++ "\x1b[0m"
  | none => p.text

def render (p : Piece) (colour : Bool) : String := if colour then p.painted else p.text

end Piece

def plain (text : String) : Piece := ⟨.plain, text⟩

/-- As many blanks as there are columns before the span, then a caret for each of its columns. -/
def caretLine (span : Span) : List Piece :=
  [plain "\n  ", ⟨.border, "|"⟩, plain " ",
    plain (String.ofList (List.replicate (span.start - 1) ' ')),
    ⟨.alarm, String.ofList (List.replicate span.width '^')⟩]

def snippet (declaration : String) (span : Option Span) : List Piece :=
  [plain "  ", ⟨.border, "|"⟩, plain " ", plain declaration] ++ span.elim [] caretLine

def remark (ink : Ink) (label text : String) : List Piece :=
  [plain "\n", ⟨ink, label⟩, plain ": ", plain text]

def pieces (d : Diagnostic) (file : Option String) : List Piece :=
  file.elim [] (fun name => [⟨.strong, name⟩, plain ": "]) ++
    [⟨.alarm, d.kind.title⟩, plain ": ", plain d.message, plain "\n"] ++
    d.declaration.elim [] (snippet · d.span) ++
    d.note.elim [] (remark .noteLabel "note") ++
    d.help.elim [] (remark .helpLabel "help")

/-- The laid-out diagnostic, headed by the name of a file if one is given. -/
def layout (d : Diagnostic) (file : Option String) (colour : Bool) : String :=
  String.join ((d.pieces file).map (·.render colour))

end WorkflowParams.Diagnostic
