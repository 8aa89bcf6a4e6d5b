import WorkflowParams.Declaration.Token
import WorkflowParams.Text.Blank
import WorkflowParams.Text.Numeric

/-!
Splitting a declaration into tokens. A lexeme is determined by its first character and by how far
it extends over the characters after it; the reader of the whole text cuts off that extent and
goes on behind it, so nothing is lost or read twice. No text is refused: a character without a
meaning of its own becomes a symbol, and a string literal without its closing quote runs to the
end.
-/

namespace WorkflowParams.Declaration

open WorkflowParams.Text

def startsWord (c : Char) : Bool := isAlphabetic c || c = '_'

def continuesWord (c : Char) : Bool := isAlphanumeric c || c = '_'

/-- A number goes on over ASCII letters too, so `1e5` and `0x1F` are one number each. -/
def continuesNumber (c : Char) : Bool := c.isAlphanum || c = '.'

/-- A minus sign belongs to a number only directly before a digit. -/
def startsNumber (c : Char) (following : List Char) : Bool :=
  c.isDigit || (c = '-' && following.head?.any Char.isDigit)

/-- The value of a string literal whose opening quote has been passed: a backslash is dropped and
the character after it taken as it is. -/
def quotedValue : List Char → List Char
  | [] => []
  | '"' :: _ => []
  | '\\' :: [] => []
  | '\\' :: c :: cs => c :: quotedValue cs
  | c :: cs => c :: quotedValue cs

/-- The number of characters from the opening quote, which it does not count, to the closing
quote, which it counts. -/
def quotedExtent : List Char → Nat
  | [] => 0
  | '"' :: _ => 1
  | '\\' :: [] => 1
  | '\\' :: _ :: cs => quotedExtent cs + 2
  | _ :: cs => quotedExtent cs + 1

/-- The lexeme that begins with `c`, and how many of the characters that follow belong to it. -/
def Lexeme.beginning (c : Char) (following : List Char) : Lexeme × Nat :=
  match Lexeme.mark? c with
  | some mark => (mark, 0)
  | none =>
    if c = '"' then
      (.quoted (String.ofList (quotedValue following)), quotedExtent following)
    else if startsNumber c following then
      let digits := following.takeWhile continuesNumber
      (.number (String.ofList (c :: digits)), digits.length)
    else if startsWord c then
      let letters := following.takeWhile continuesWord
      (.word (String.ofList (c :: letters)), letters.length)
    else
      (.symbol c, 0)

/-- A text that has been read up to `column`. -/
structure Scanner where
  rest : List Char
  column : Nat
  deriving DecidableEq, Repr

namespace Scanner

def ofString (text : String) : Scanner := ⟨text.toList, 1⟩

/-- The tokens of `rest`, the first of whose characters stands on `column`. -/
def tokensFrom (column : Nat) : List Char → List Token
  | [] => [Token.endAt column]
  | c :: cs =>
    if isBlank c then
      tokensFrom (column + 1) cs
    else
      let (lexeme, extent) := Lexeme.beginning c cs
      ⟨lexeme, column, column + extent⟩ :: tokensFrom (column + extent + 1) (cs.drop extent)
termination_by cs => cs.length
decreasing_by all_goals grind

@[simp] theorem tokensFrom_nil (column : Nat) : tokensFrom column [] = [Token.endAt column] := by
  simp [tokensFrom]

theorem tokensFrom_cons_of_isBlank {c : Char} (h : isBlank c = true) (column : Nat)
    (cs : List Char) : tokensFrom column (c :: cs) = tokensFrom (column + 1) cs := by
  simp [tokensFrom, h]

theorem tokensFrom_cons_of_not_isBlank {c : Char} (h : isBlank c = false) (column : Nat)
    (cs : List Char) : tokensFrom column (c :: cs) =
      ⟨(Lexeme.beginning c cs).1, column, column + (Lexeme.beginning c cs).2⟩ ::
        tokensFrom (column + (Lexeme.beginning c cs).2 + 1)
          (cs.drop (Lexeme.beginning c cs).2) := by
  simp [tokensFrom, h]

/-- All tokens of the text that is left, and the scanner behind them. -/
def run (s : Scanner) : List Token × Scanner :=
  (tokensFrom s.column s.rest, ⟨[], s.column + s.rest.length⟩)

end Scanner

/-- The tokens of a declaration, the last of which is the end mark. -/
def tokenize (declaration : String) : List Token :=
  (Scanner.ofString declaration).run.1

end WorkflowParams.Declaration
