/-!
The tokens of a type declaration: a lexeme together with the columns that it covers. Columns count
characters from one, and both ends of a range belong to the token.
-/

namespace WorkflowParams.Declaration

inductive Lexeme where
  | word (text : String)
  | quoted (value : String)
  | number (text : String)
  | leftBracket | rightBracket
  | plus | question
  | leftParen | rightParen
  | comma | equal
  | symbol (c : Char)
  | endMark
  deriving DecidableEq, Repr, Inhabited

namespace Lexeme

/-- The mark that a single character stands for, if it is one of the eight. -/
def mark? : Char → Option Lexeme
  | '[' => some .leftBracket
  | ']' => some .rightBracket
  | '+' => some .plus
  | '?' => some .question
  | '(' => some .leftParen
  | ')' => some .rightParen
  | ',' => some .comma
  | '=' => some .equal
  | _ => none

/-- How a diagnostic names the lexeme it came upon. -/
def describe : Lexeme → String
  | .word text => "'" ++ text ++ "'"
  | .quoted value => "string \"" ++ value ++ "\""
  | .number text => "number " ++ text
  | .leftBracket => "'['"
  | .rightBracket => "']'"
  | .plus => "'+'"
  | .question => "'?'"
  | .leftParen => "'('"
  | .rightParen => "')'"
  | .comma => "','"
  | .equal => "'='"
  | .symbol c => "'" ++ c.toString ++ "'"
  | .endMark => "end of declaration"

end Lexeme

structure Token where
  lexeme : Lexeme
  column : Nat
  endColumn : Nat
  deriving DecidableEq, Repr, Inhabited

/-- The end mark stands on the column that the next character would have had. -/
def Token.endAt (column : Nat) : Token := ⟨.endMark, column, column⟩

end WorkflowParams.Declaration
