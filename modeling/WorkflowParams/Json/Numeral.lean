import WorkflowParams.Decimal.Double
import WorkflowParams.Json.Progress
import WorkflowParams.Json.Value

/-!
Numbers as JSON writes them. A numeral is first read as it stands, sign, digits, point and
exponent, and then given its value: an integer where it fits 64 bits, otherwise a double. The double
is computed from as many digits as fit 64 bits and need not be the nearest one.
-/

namespace WorkflowParams.Json

open WorkflowParams.Decimal

def digitValue (c : Char) : Nat := c.toNat - '0'.toNat

def naturalOf (digits : List Char) : Nat :=
  digits.foldl (fun n c => 10 * n + digitValue c) 0

/-- At least one digit, as many as there are. -/
def readDigits (cs : List Char) : Except Fault (List Char × List Char) :=
  match cs.takeWhile Char.isDigit with
  | [] =>
    match cs with
    | [] => .error (.atEnd .endInValue)
    | _ => .error (.atFirst .invalidNumber cs)
  | digits => .ok (digits, cs.dropWhile Char.isDigit)

/-- The digits before the point: a zero is followed by no further digit. -/
def readWhole (cs : List Char) : Except Fault (List Char × List Char) :=
  match cs with
  | '0' :: rest =>
    if rest.head?.any Char.isDigit then .error (.atFirst .invalidNumber rest)
    else .ok (['0'], rest)
  | _ => readDigits cs

/-- The digits after the point, if there is a point. -/
def readFraction : List Char → Except Fault (Option (List Char) × List Char)
  | '.' :: rest => (readDigits rest).map fun (digits, rest) => (some digits, rest)
  | cs => .ok (none, cs)

/-- An exponent as it is written. -/
structure Exponent where
  negative : Bool
  digits : List Char
  deriving DecidableEq, Repr

def readExponentDigits (negative : Bool) (cs : List Char) :
    Except Fault (Option Exponent × List Char) :=
  (readDigits cs).map fun (digits, rest) => (some ⟨negative, digits⟩, rest)

def readExponent (cs : List Char) : Except Fault (Option Exponent × List Char) :=
  match cs with
  | [] => .ok (none, [])
  | mark :: rest =>
    if mark = 'e' || mark = 'E' then
      match rest with
      | '+' :: rest => readExponentDigits false rest
      | '-' :: rest => readExponentDigits true rest
      | rest => readExponentDigits false rest
    else .ok (none, cs)

/-- A number as it is written. -/
structure Numeral where
  negative : Bool
  whole : List Char
  fraction : Option (List Char)
  exponent : Option Exponent
  deriving DecidableEq, Repr

/-- What `n` becomes with further digits behind it, as long as it fits 64 bits, and how many digits
are left then. -/
def takeDigits (n : Nat) : List Char → Nat × Nat
  | [] => (n, 0)
  | c :: cs =>
    if 10 * n + digitValue c < 1 <<< 64 then takeDigits (10 * n + digitValue c) cs
    else (n, cs.length + 1)

namespace Numeral

/-- The number without its sign and exponent. Of digits that do not fit 64 bits only the places of
those before the point count. -/
def scaled (x : Numeral) : Scaled :=
  let fraction := x.fraction.getD []
  let (whole, left) := takeDigits 0 x.whole
  let (digits, left') := takeDigits whole fraction
  { digits, scale := left + left' - fraction.length }

/-- A number without point and exponent that fits 64 bits, signed or unsigned. A zero with a sign
is not such a number, since the sign would be lost. -/
def integer? (x : Numeral) : Option Int :=
  match x.fraction, x.exponent with
  | none, none =>
    let n := naturalOf x.whole
    if x.negative then
      if 0 < n ∧ n ≤ 1 <<< 63 then some (-n) else none
    else if n < 1 <<< 64 then some n else none
  | _, _ => none

/-- The power of ten that the exponent stands for. -/
def power (x : Numeral) : Int :=
  match x.exponent with
  | none => 0
  | some e => if e.negative then -naturalOf e.digits else naturalOf e.digits

def double? (x : Numeral) : Option Double :=
  Double.ofDecimal? x.negative x.scaled.digits (x.scaled.scale + x.power)

end Numeral

def maxExponent : Nat := 2147483647

/-- The digits of an exponent behind the one that takes it past the limit, `value` being what the
digits before them denote. -/
def overrun? (value : Nat) : List Char → Option (List Char)
  | [] => none
  | c :: cs =>
    if maxExponent < 10 * value + digitValue c then some cs
    else overrun? (10 * value + digitValue c) cs

/-- The value of a numeral behind which `rest` begins. An exponent past the limit settles the
value at the digit that takes it there: the number is a zero or out of range. -/
def Numeral.value (x : Numeral) (rest : List Char) : Except Fault Value :=
  match x.integer? with
  | some n => .ok (.integer n)
  | none =>
    match x.exponent.bind fun e => (overrun? 0 e.digits).map (e.negative, ·) with
    | some (small, unread) =>
      if small || x.scaled.digits = 0 then .ok (.double (Double.zero x.negative))
      else .error (.before .numberOutOfRange (unread ++ rest))
    | none =>
      match x.double? with
      | some d => .ok (.double d)
      | none => .error (.before .numberOutOfRange rest)

def readUnsigned (negative : Bool) (cs : List Char) : Except Fault (Numeral × List Char) := do
  let (whole, cs) ← readWhole cs
  let (fraction, cs) ← readFraction cs
  let (exponent, cs) ← readExponent cs
  return (⟨negative, whole, fraction, exponent⟩, cs)

def readNumeral : List Char → Except Fault (Numeral × List Char)
  | '-' :: cs => readUnsigned true cs
  | cs => readUnsigned false cs

def readNumber (cs : List Char) : Except Fault (Value × List Char) := do
  let (numeral, rest) ← readNumeral cs
  return (← numeral.value rest, rest)

/-! A reader that succeeds has read something: the text behind what it read is shorter. -/

theorem length_lt_of_readDigits {cs digits rest : List Char}
    (h : readDigits cs = .ok (digits, rest)) : rest.length < cs.length := by
  have hsplit := congrArg List.length
    (List.takeWhile_append_dropWhile (p := Char.isDigit) (l := cs))
  unfold readDigits at h
  split at h
  · split at h <;> simp at h
  · rename_i hne
    simp only [Except.ok.injEq, Prod.mk.injEq] at h
    have : (cs.takeWhile Char.isDigit).length ≠ 0 := by
      simpa using hne
    rw [List.length_append] at hsplit
    rw [← h.2]
    omega

theorem length_lt_of_readWhole {cs digits rest : List Char}
    (h : readWhole cs = .ok (digits, rest)) : rest.length < cs.length := by
  unfold readWhole at h
  split at h
  · split at h
    · simp at h
    · simp_all
  · exact length_lt_of_readDigits h

theorem length_le_of_readFraction {cs rest : List Char} {digits : Option (List Char)}
    (h : readFraction cs = .ok (digits, rest)) : rest.length ≤ cs.length := by
  unfold readFraction at h
  split at h
  · obtain ⟨⟨ds, after⟩, hread, heq⟩ := exists_of_map_eq_ok h
    cases heq
    have := length_lt_of_readDigits hread
    grind
  · simp_all

theorem length_lt_of_readExponentDigits {cs rest : List Char} {negative : Bool}
    {exponent : Option Exponent} (h : readExponentDigits negative cs = .ok (exponent, rest)) :
    rest.length < cs.length := by
  obtain ⟨⟨ds, after⟩, hread, heq⟩ := exists_of_map_eq_ok h
  cases heq
  exact length_lt_of_readDigits hread

theorem length_le_of_readExponent {cs rest : List Char} {exponent : Option Exponent}
    (h : readExponent cs = .ok (exponent, rest)) : rest.length ≤ cs.length := by
  unfold readExponent at h
  split at h
  · simp_all
  · split at h
    · split at h <;> have := length_lt_of_readExponentDigits h <;> grind
    · simp_all

theorem length_lt_of_readUnsigned {cs rest : List Char} {negative : Bool} {x : Numeral}
    (h : readUnsigned negative cs = .ok (x, rest)) : rest.length < cs.length := by
  unfold readUnsigned at h
  cases hw : readWhole cs with
  | error _ => simp [hw, bind, Except.bind] at h
  | ok whole =>
    cases hf : readFraction whole.2 with
    | error _ => simp [hw, hf, bind, Except.bind] at h
    | ok fraction =>
      cases he : readExponent fraction.2 with
      | error _ => simp [hw, hf, he, bind, Except.bind] at h
      | ok exponent =>
        simp only [hw, hf, he, bind, Except.bind, pure, Except.pure, Except.ok.injEq,
          Prod.mk.injEq] at h
        have h1 := length_lt_of_readWhole hw
        have h2 := length_le_of_readFraction hf
        have h3 := length_le_of_readExponent he
        grind

theorem length_lt_of_readNumber {cs rest : List Char} {v : Value}
    (h : readNumber cs = .ok (v, rest)) : rest.length < cs.length := by
  unfold readNumber at h
  cases hn : readNumeral cs with
  | error _ => simp [hn, bind, Except.bind] at h
  | ok numeral =>
    cases hv : numeral.1.value numeral.2 with
    | error _ => simp [hn, hv, bind, Except.bind] at h
    | ok _ =>
      simp only [hn, hv, bind, Except.bind, pure, Except.pure, Except.ok.injEq,
        Prod.mk.injEq] at h
      rw [← h.2]
      unfold readNumeral at hn
      split at hn <;> have := length_lt_of_readUnsigned hn <;> grind

end WorkflowParams.Json
