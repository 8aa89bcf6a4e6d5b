import WorkflowParams.Text.Visible

/-!
Text quoted for a reader of messages: in double quotes, with everything that would not be seen as
itself written as an escape.
-/

namespace WorkflowParams.Text

/-- A code point in braces, with as few hexadecimal digits as it needs. -/
def codePoint (c : Char) : List Char :=
  '\\' :: 'u' :: '{' :: Nat.toDigits 16 c.toNat ++ ['}']

def showChar (c : Char) : List Char :=
  match c with
  | '"' => ['\\', '"']
  | '\\' => ['\\', '\\']
  | '\n' => ['\\', 'n']
  | '\r' => ['\\', 'r']
  | '\t' => ['\\', 't']
  | '\x00' => ['\\', '0']
  | c => if isAttaching c || isInvisible c then codePoint c else [c]

def showQuoted (s : String) : String :=
  String.ofList ('"' :: s.toList.flatMap showChar ++ ['"'])

end WorkflowParams.Text
