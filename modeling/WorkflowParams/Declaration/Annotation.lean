import WorkflowParams.Declaration.Token
import WorkflowParams.Json.Reader

/-!
What a declaration says besides its type: whether the parameter is optional, and its default. A
default stands between a fixed opening and the last closing parenthesis on the same line; the
first opening that has such a parenthesis counts.
-/

namespace WorkflowParams.Declaration

open Json

def optionalWord : String := "optional"

/-- Whether `word` occurs in a text. -/
def occursIn (word : List Char) : List Char → Bool
  | [] => word.isEmpty
  | c :: cs => word.isPrefixOf (c :: cs) || occursIn word cs

theorem occursIn_iff {word cs : List Char} : occursIn word cs = true ↔ word <:+: cs := by
  induction cs with
  | nil => simp [occursIn]
  | cons c cs ih => simp [occursIn, ih, List.infix_cons_iff]

def mentionsOptional (declaration : String) : Bool :=
  occursIn optionalWord.toList declaration.toList

/-- Whether the word stands among the tokens outside all brackets, `depth` of which are open. A
bracket that closes without having been opened is passed over. -/
def marksOptional (depth : Nat) : List Token → Bool
  | [] => false
  | token :: rest =>
    match token.lexeme with
    | .leftBracket => marksOptional (depth + 1) rest
    | .rightBracket => marksOptional (depth - 1) rest
    | .word text => (depth = 0 && text = optionalWord) || marksOptional depth rest
    | _ => marksOptional depth rest

def defaultOpening : String := "(optional, default = "

/-- The text up to the last closing parenthesis on the first line. -/
def beforeLastParen? : List Char → Option (List Char)
  | [] => none
  | c :: cs =>
    if c = '\n' then none
    else
      match beforeLastParen? cs with
      | some text => some (c :: text)
      | none => if c = ')' then some [] else none

def defaultText? : List Char → Option (List Char)
  | [] => none
  | c :: cs =>
    match (defaultOpening.toList.isPrefixOf? (c :: cs)).bind beforeLastParen? with
    | some text => some text
    | none => defaultText? cs

/-- A default that is not JSON, an expression for instance, is kept as text. -/
def defaultOfText (text : List Char) : Value :=
  (Value.read? text).getD (.text (String.ofList text))

theorem defaultOfText_eq_of_read {text : List Char} {value : Value}
    (h : Value.read? text = some value) : defaultOfText text = value := by
  simp [defaultOfText, h]

def default? (declaration : String) : Option Value :=
  (defaultText? declaration.toList).map defaultOfText

end WorkflowParams.Declaration
