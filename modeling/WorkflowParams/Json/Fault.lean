/-!
Why a JSON text is refused, and where. A fault keeps the text that was left when it was found;
lines and columns are counted only when the fault is put into words, so that reading itself
carries no positions. Columns count bytes.
-/

namespace WorkflowParams.Json

inductive Cause where
  | endInValue | endInObject | endInText
  | expectedValue | expectedLiteral
  | invalidNumber | numberOutOfRange
  | nameNotText | trailingComma
  | expectedColon | expectedCommaOrBrace
  | trailingCharacters
  | controlCharacter | invalidEscape | endOfHexEscape | loneSurrogate
  | wrongType (found expected : String)
  deriving DecidableEq, Repr

def Cause.message : Cause → String
  | .endInValue => "EOF while parsing a value"
  | .endInObject => "EOF while parsing an object"
  | .endInText => "EOF while parsing a string"
  | .expectedValue => "expected value"
  | .expectedLiteral => "expected ident"
  | .invalidNumber => "invalid number"
  | .numberOutOfRange => "number out of range"
  | .nameNotText => "key must be a string"
  | .trailingComma => "trailing comma"
  | .expectedColon => "expected `:`"
  | .expectedCommaOrBrace => "expected `,` or `\x7d`"
  | .trailingCharacters => "trailing characters"
  | .controlCharacter => "control character (\\u0000-\\u001F) found while parsing a string"
  | .invalidEscape => "invalid escape"
  | .endOfHexEscape => "unexpected end of hex escape"
  | .loneSurrogate => "lone leading surrogate in hex escape"
  | .wrongType found expected => "invalid type: " ++ found ++ ", expected " ++ expected

/-- A cause, the text that was left, and how many bytes of that text the reader had taken. -/
structure Fault where
  cause : Cause
  rest : List Char
  taken : Nat
  deriving DecidableEq, Repr

namespace Fault

/-- A fault that was found once all before `rest` had been read. -/
def before (cause : Cause) (rest : List Char) : Fault := ⟨cause, rest, 0⟩

/-- A fault of the first byte of `rest`. -/
def atFirst (cause : Cause) (rest : List Char) : Fault := ⟨cause, rest, 1⟩

/-- A fault that only shows when the text ends. -/
def atEnd (cause : Cause) : Fault := ⟨cause, [], 0⟩

end Fault

/-- The number of bytes that a text takes up in UTF-8. -/
def byteLength (cs : List Char) : Nat := cs.foldr (fun c size => c.utf8Size + size) 0

/-- Lines are counted from one; a column is the number of bytes read since the line began. -/
structure Location where
  line : Nat
  column : Nat
  deriving DecidableEq, Repr

def Location.after (read : List UInt8) : Location :=
  ⟨read.count 10 + 1, (read.reverse.takeWhile (· ≠ 10)).length⟩

def Fault.location (document : String) (fault : Fault) : Location :=
  let behind := document.utf8ByteSize - byteLength fault.rest
  .after (document.toUTF8.toList.take (behind + fault.taken))

def Fault.message (document : String) (fault : Fault) : String :=
  let place := fault.location document
  fault.cause.message ++ " at line " ++ toString place.line ++ " column " ++ toString place.column

end WorkflowParams.Json
