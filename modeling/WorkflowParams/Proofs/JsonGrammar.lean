import WorkflowParams.Json.Reader

/-!
The texts of JSON, as a grammar that does not mention how they are read. A character of a quoted
text may be spelled in several ways, a number keeps the digits that it is written with, and white
space may stand around every token. The grammar counts how many containers may stand inside one
another, since a reader takes no more than so many.
-/

namespace WorkflowParams.Json

/-- White space between tokens. -/
def Blank (cs : List Char) : Prop := ∀ c ∈ cs, isSpace c = true

instance (cs : List Char) : Decidable (Blank cs) :=
  decidable_of_iff (cs.all isSpace = true) List.all_eq_true

theorem blank_nil : Blank [] := by decide

/-! Quoted text. -/

/-- The letters that stand behind a backslash for one character. -/
def letterEscapes : List (Char × Char) :=
  [('"', '"'), ('\\', '\\'), ('/', '/'), ('b', '\x08'), ('f', '\x0c'), ('n', '\n'), ('r', '\r'),
    ('t', '\t')]

/-- Four hexadecimal digits and the number that they denote. -/
inductive HexDigits : List Char → Nat → Prop
  | mk {c₁ c₂ c₃ c₄ : Char} {d₁ d₂ d₃ d₄ : Nat} (h₁ : hexValue? c₁ = some d₁)
      (h₂ : hexValue? c₂ = some d₂) (h₃ : hexValue? c₃ = some d₃) (h₄ : hexValue? c₄ = some d₄) :
      HexDigits [c₁, c₂, c₃, c₄] (16 * (16 * (16 * d₁ + d₂) + d₃) + d₄)

/-- The spellings of a character within quotes. A character past the sixteenth bit is escaped by
two numbers, ten bits in each. -/
inductive Spells : List Char → Char → Prop
  | itself {c : Char} (hquote : c ≠ '"') (hbackslash : c ≠ '\\') (hcontrol : 0x20 ≤ c.toNat) :
      Spells [c] c
  | letter {letter c : Char} (h : (letter, c) ∈ letterEscapes) : Spells ['\\', letter] c
  | unit {digits : List Char} {c : Char} (h : HexDigits digits c.toNat) :
      Spells ('\\' :: 'u' :: digits) c
  | pair {high low : List Char} {c : Char} {leading trailing : Nat}
      (hhigh : HexDigits high (0xD800 + leading)) (hlow : HexDigits low (0xDC00 + trailing))
      (hleading : leading < 0x400) (htrailing : trailing < 0x400)
      (hc : c.toNat = 0x10000 + 0x400 * leading + trailing) :
      Spells ('\\' :: 'u' :: (high ++ '\\' :: 'u' :: low)) c

/-- The spellings of characters in a row. -/
inductive SpellsAll : List Char → List Char → Prop
  | nil : SpellsAll [] []
  | cons {cs rest characters : List Char} {c : Char} (hc : Spells cs c)
      (hrest : SpellsAll rest characters) : SpellsAll (cs ++ rest) (c :: characters)

inductive QuotedText : List Char → String → Prop
  | mk {inside : List Char} {s : String} (h : SpellsAll inside s.toList) :
      QuotedText ('"' :: (inside ++ ['"'])) s

/-- Quoted text with white space around it. -/
inductive SpacedText : List Char → String → Prop
  | mk {before cs after : List Char} {s : String} (hbefore : Blank before) (h : QuotedText cs s)
      (hafter : Blank after) : SpacedText (before ++ (cs ++ after)) s

/-! Numbers. -/

def Digits (cs : List Char) : Prop := cs ≠ [] ∧ ∀ c ∈ cs, c.isDigit = true

/-- Digits without a zero in front of others. -/
def WholeDigits (cs : List Char) : Prop := cs = ['0'] ∨ Digits cs ∧ cs.head? ≠ some '0'

inductive FractionText : List Char → Option (List Char) → Prop
  | none : FractionText [] none
  | some {digits : List Char} (h : Digits digits) : FractionText ('.' :: digits) (some digits)

inductive ExponentText : List Char → Option Exponent → Prop
  | none : ExponentText [] none
  | some {mark : Char} {sign digits : List Char} {negative : Bool} (hmark : mark ∈ ['e', 'E'])
      (hsign : (sign, negative) ∈ [([], false), (['+'], false), (['-'], true)])
      (hdigits : Digits digits) :
      ExponentText (mark :: (sign ++ digits)) (some ⟨negative, digits⟩)

inductive NumeralText : List Char → Numeral → Prop
  | mk {sign whole fraction exponent : List Char} {negative : Bool} {places : Option (List Char)}
      {power : Option Exponent} (hsign : (sign, negative) ∈ [([], false), (['-'], true)])
      (hwhole : WholeDigits whole) (hfraction : FractionText fraction places)
      (hexponent : ExponentText exponent power) :
      NumeralText (sign ++ (whole ++ (fraction ++ exponent))) ⟨negative, whole, places, power⟩

/-! Values. -/

inductive ScalarText : List Char → Value → Prop
  | null : ScalarText ['n', 'u', 'l', 'l'] .null
  | true : ScalarText ['t', 'r', 'u', 'e'] (.boolean true)
  | false : ScalarText ['f', 'a', 'l', 's', 'e'] (.boolean false)
  | text {cs : List Char} {s : String} (h : QuotedText cs s) : ScalarText cs (.text s)
  | number {cs : List Char} {x : Numeral} {v : Value} (h : NumeralText cs x)
      (hv : x.value [] = .ok v) : ScalarText cs v

/-- What a piece of text can stand for: a value, or what is between the brackets of a container that
is not empty. -/
inductive Phrase where
  | value (v : Value)
  | items (items : List Value)
  | members (members : List (String × Value))

/-- The members that an object has if it is given these in turn. -/
def assemble (before members : List (String × Value)) : List (String × Value) :=
  members.foldl (fun present member => insertMember member.1 member.2 present) before

/-- The texts of a phrase in which no more than `room` containers stand inside one another. -/
inductive Denotes : Nat → Phrase → List Char → Prop
  | scalar {room : Nat} {cs : List Char} {v : Value} (h : ScalarText cs v) :
      Denotes room (.value v) cs
  | spaced {room : Nat} {before cs after : List Char} {v : Value} (hbefore : Blank before)
      (h : Denotes room (.value v) cs) (hafter : Blank after) :
      Denotes room (.value v) (before ++ (cs ++ after))
  | emptyArray {room : Nat} {cs : List Char} (h : Blank cs) :
      Denotes (room + 1) (.value (.array [])) ('[' :: (cs ++ [']']))
  | array {room : Nat} {cs : List Char} {items : List Value} (h : Denotes room (.items items) cs) :
      Denotes (room + 1) (.value (.array items)) ('[' :: (cs ++ [']']))
  | lastItem {room : Nat} {cs : List Char} {v : Value} (h : Denotes room (.value v) cs) :
      Denotes room (.items [v]) cs
  | item {room : Nat} {cs rest : List Char} {v : Value} {items : List Value}
      (h : Denotes room (.value v) cs) (hrest : Denotes room (.items items) rest) :
      Denotes room (.items (v :: items)) (cs ++ ',' :: rest)
  | emptyObject {room : Nat} {cs : List Char} (h : Blank cs) :
      Denotes (room + 1) (.value (.object [])) ('{' :: (cs ++ ['}']))
  | object {room : Nat} {cs : List Char} {members : List (String × Value)}
      (h : Denotes room (.members members) cs) :
      Denotes (room + 1) (.value (.object (assemble [] members))) ('{' :: (cs ++ ['}']))
  | lastMember {room : Nat} {name cs : List Char} {s : String} {v : Value}
      (hname : SpacedText name s) (h : Denotes room (.value v) cs) :
      Denotes room (.members [(s, v)]) (name ++ ':' :: cs)
  | member {room : Nat} {name cs rest : List Char} {s : String} {v : Value}
      {members : List (String × Value)} (hname : SpacedText name s)
      (h : Denotes room (.value v) cs) (hrest : Denotes room (.members members) rest) :
      Denotes room (.members ((s, v) :: members)) (name ++ ':' :: (cs ++ ',' :: rest))

end WorkflowParams.Json
