import WorkflowParams.Json.Value
import WorkflowParams.Json.Text
import WorkflowParams.Decimal.Style

/-!
Writing a value, in one of two layouts that differ only in white space between the tokens: compact
without any, and indented by two spaces a level with each item and member on a line of its own.
Empty containers have nothing between their brackets in either.
-/

namespace WorkflowParams.Json

open WorkflowParams.Decimal

/-- Numbers from `0.00001` up to below `10 ^ 16` are written without an exponent. -/
def numberStyle : Style := ⟨-5, 15⟩

inductive Layout where
  | compact
  | indented
  deriving DecidableEq, Repr

namespace Layout

def lineBreak : Layout → Nat → List Char
  | .compact, _ => []
  | .indented, depth => '\n' :: List.replicate (2 * depth) ' '

def colon : Layout → List Char
  | .compact => [':']
  | .indented => [':', ' ']

end Layout

def writeInteger (n : Int) : List Char :=
  if n < 0 then '-' :: Nat.toDigits 10 n.natAbs else Nat.toDigits 10 n.natAbs

namespace Value

mutual

/-- The text of a value that stands `depth` levels deep. -/
def write (layout : Layout) (depth : Nat) : Value → List Char
  | .null => ['n', 'u', 'l', 'l']
  | .boolean true => ['t', 'r', 'u', 'e']
  | .boolean false => ['f', 'a', 'l', 's', 'e']
  | .integer n => writeInteger n
  | .double x => numberStyle.write x
  | .text s => quote s
  | .array [] => ['[', ']']
  | .array (item :: items) =>
    '[' :: (layout.lineBreak (depth + 1) ++ write layout (depth + 1) item ++
      writeItems layout (depth + 1) items ++ layout.lineBreak depth ++ [']'])
  | .object [] => ['{', '}']
  | .object ((name, value) :: members) =>
    '{' :: (layout.lineBreak (depth + 1) ++ quote name ++ layout.colon ++
      write layout (depth + 1) value ++ writeMembers layout (depth + 1) members ++
      layout.lineBreak depth ++ ['}'])

/-- The items after the first, each behind its comma. -/
def writeItems (layout : Layout) (depth : Nat) : List Value → List Char
  | [] => []
  | item :: items =>
    ',' :: (layout.lineBreak depth ++ write layout depth item ++ writeItems layout depth items)

/-- The members after the first, each behind its comma. -/
def writeMembers (layout : Layout) (depth : Nat) : List (String × Value) → List Char
  | [] => []
  | (name, value) :: members =>
    ',' :: (layout.lineBreak depth ++ quote name ++ layout.colon ++ write layout depth value ++
      writeMembers layout depth members)

end

def compact (v : Value) : String := String.ofList (v.write .compact 0)

def pretty (v : Value) : String := String.ofList (v.write .indented 0)

end Value

end WorkflowParams.Json
