import WorkflowParams.Declaration.Complaint

/-!
Reading the type that a list of tokens begins with. The reader answers the type, or the complaint
that ended the reading, together with the tokens that it has not passed; it looks at no more than
the first of these. The columns of the end of the declaration are given beside the tokens, for
complaints about an early end.
-/

namespace WorkflowParams.Declaration

/-- A type or a complaint, and the tokens that are left. -/
abbrev Reading := Except Complaint TypeTree × List Token

def startsWith (lexeme : Lexeme) (tokens : List Token) : Bool :=
  tokens.head?.any (·.lexeme = lexeme)

/-- Passes the first token if it is the given one. -/
def skip (lexeme : Lexeme) (tokens : List Token) : List Token :=
  if startsWith lexeme tokens then tokens.tail else tokens

/-- Once a type is complete a question mark may follow it, which says nothing about the type: that a
parameter is optional is said by its annotation. -/
def settle (tree : TypeTree) (tokens : List Token) : Reading :=
  (.ok tree, skip .question tokens)

def readPrimitive (p : Primitive) (tokens : List Token) : Reading :=
  match tokens with
  | token :: _ =>
    if token.lexeme = .leftBracket then (.error (.innerType p token.span), tokens)
    else settle (.primitive p) tokens
  | [] => settle (.primitive p) tokens

/-- Goes on behind the element type of an array. -/
def closeArray (stop : Span) (element : TypeTree) (tokens : List Token) : Reading :=
  match tokens with
  | [] => (.error (.ended .closingBracket stop), tokens)
  | token :: rest =>
    if token.lexeme = .rightBracket then
      settle (.array element (startsWith .plus rest)) (skip .plus rest)
    else (.error (.unexpected .closingBracket token.lexeme token.span), tokens)

/-- The columns from an opening bracket to a closing one directly behind it. -/
def emptyBrackets? (bracket : Token) (inner : List Token) : Option Span :=
  match inner with
  | token :: _ =>
    if token.lexeme = .rightBracket then some (Span.ofColumns bracket.column token.column)
    else none
  | [] => none

/-- Reads a type inside `opened` open arrays. -/
def readType (stop : Span) (opened : Nat) : List Token → Reading
  | [] => (.error (.ended .typeName stop), [])
  | token :: rest =>
    match token.lexeme with
    | .word name =>
      if name = arrayName then
        match rest with
        | [] => (.error (.bareArray token.span), [])
        | bracket :: inner =>
          if bracket.lexeme = .leftBracket then
            match emptyBrackets? bracket inner with
            | some brackets => (.error (.emptyBrackets brackets), inner)
            | none =>
              if opened < maxNesting then
                match readType stop (opened + 1) inner with
                | (.ok element, after) => closeArray stop element after
                | (.error complaint, after) => (.error complaint, after)
              else (.error (.tooDeep token.span), inner)
          else (.error (.bareArray token.span), bracket :: inner)
      else
        match Primitive.ofName? name with
        | some p => readPrimitive p rest
        | none => (.error (.unsupported name token.span), rest)
    | found => (.error (.unexpected .typeName found token.span), token :: rest)

/-- The tokens from the first word outside parentheses on. Parentheses that close without having
been opened are passed over. -/
def fromFirstWord (depth : Nat) : List Token → List Token
  | [] => []
  | token :: rest =>
    match token.lexeme with
    | .word _ => if depth = 0 then token :: rest else fromFirstWord depth rest
    | .leftParen => fromFirstWord (depth + 1) rest
    | .rightParen => fromFirstWord (depth - 1) rest
    | _ => fromFirstWord depth rest

/-- Reads the type that the first word outside parentheses begins. -/
def readFirstType (stop : Span) (tokens : List Token) : Reading :=
  match fromFirstWord 0 tokens with
  | [] => (.error .noType, [])
  | tokens => readType stop 0 tokens

end WorkflowParams.Declaration
