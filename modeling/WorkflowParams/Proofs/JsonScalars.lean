import Mathlib.Algebra.Group.Int.Defs
import WorkflowParams.Json.Printer
import WorkflowParams.Proofs.NumberReading

/-!
What is written for text and for integers of 64 bits is among the texts that the grammar has for
them, so it is read back, with whatever follows it left.
-/

namespace WorkflowParams.Json

/-! Text, one escaped character at a time. -/

theorem hexValue?_hexDigit : ∀ n < 16, hexValue? (hexDigit n) = some n := by decide

theorem hexDigit_zero : hexDigit 0 = '0' := rfl

/-- The numeric escape of a control character. -/
theorem hexDigits_control {n : Nat} (h : n < 32) :
    HexDigits ['0', '0', hexDigit (n / 16), hexDigit (n % 16)] n := by
  have hzero := hexValue?_hexDigit 0 (by omega)
  rw [hexDigit_zero] at hzero
  have hdigits := HexDigits.mk hzero hzero (hexValue?_hexDigit (n / 16) (by omega))
    (hexValue?_hexDigit (n % 16) (by omega))
  have hvalue : 16 * (16 * (16 * 0 + 0) + n / 16) + n % 16 = n := by omega
  rwa [hvalue] at hdigits

theorem spells_escapeChar (c : Char) : Spells (escapeChar c) c := by
  rw [escapeChar.eq_def]
  split
  case h_8 =>
    split
    · next hcontrol => exact .unit (hexDigits_control hcontrol)
    · next hquote hbackslash _ _ _ _ _ hcontrol =>
        exact .itself hquote hbackslash (Nat.not_lt.mp hcontrol)
  all_goals exact .letter (by decide)

theorem spellsAll_flatMap_escapeChar (characters : List Char) :
    SpellsAll (characters.flatMap escapeChar) characters := by
  induction characters with
  | nil => exact .nil
  | cons c cs ih => exact .cons (spells_escapeChar c) ih

theorem quotedText_quote (s : String) : QuotedText (quote s) s :=
  .mk (spellsAll_flatMap_escapeChar s.toList)

theorem newline_not_mem_escapeChar (c : Char) : '\n' ∉ escapeChar c := by
  rw [escapeChar.eq_def]
  split
  case h_8 =>
    have hdigit : ∀ n < 16, '\n' ≠ hexDigit n := by decide
    split
    · next hcontrol =>
        have hhigh := hdigit (c.toNat / 16) (by omega)
        have hlow := hdigit (c.toNat % 16) (by omega)
        simp [hhigh, hlow]
    · next hnewline _ _ _ => simpa using fun heq => hnewline heq.symm
  all_goals decide

theorem newline_not_mem_quote (s : String) : '\n' ∉ quote s := by
  simp [quote, newline_not_mem_escapeChar]

/-! Integers. -/

theorem isDigit_of_mem_toDigits {n : Nat} {c : Char} (h : c ∈ Nat.toDigits 10 n) :
    c.isDigit = true :=
  Nat.isDigit_of_mem_toDigits (by omega) (by omega) h

/-- No number but zero is written with a zero in front. -/
theorem head?_toDigits {n : Nat} (h : 0 < n) : (Nat.toDigits 10 n).head? ≠ some '0' := by
  induction n using Nat.strongRecOn with
  | ind n ih =>
      by_cases hsmall : n < 10
      · have hdigits : ∀ n < 10, 0 < n → [n.digitChar].head? ≠ some '0' := by decide
        rw [Nat.toDigits_of_lt_base hsmall]
        exact hdigits n hsmall h
      · have hfirst := ih (n / 10) (by omega) (by omega)
        rw [Nat.toDigits_of_base_le (by omega) (by omega)]
        cases hdigits : Nat.toDigits 10 (n / 10) with
        | nil => exact absurd hdigits Nat.toDigits_ne_nil
        | cons first following => rwa [hdigits] at hfirst

theorem wholeDigits_toDigits (n : Nat) : WholeDigits (Nat.toDigits 10 n) := by
  obtain rfl | hn := Nat.eq_zero_or_pos n
  · exact .inl rfl
  · exact .inr ⟨⟨Nat.toDigits_ne_nil, fun _ => isDigit_of_mem_toDigits⟩, head?_toDigits hn⟩

theorem numeralText_writeInteger (n : Int) :
    NumeralText (writeInteger n) ⟨decide (n < 0), Nat.toDigits 10 n.natAbs, none, none⟩ := by
  have htext (sign : List Char) (negative : Bool)
      (hsign : (sign, negative) ∈ [([], false), (['-'], true)]) :=
    NumeralText.mk hsign (wholeDigits_toDigits n.natAbs) .none .none
  simp only [List.append_nil] at htext
  rw [writeInteger]
  split
  · next hneg =>
      rw [decide_eq_true hneg]
      exact htext ['-'] true (by simp)
  · next hneg =>
      rw [decide_eq_false hneg]
      exact htext [] false (by simp)

theorem newline_not_mem_writeInteger (n : Int) : '\n' ∉ writeInteger n := by
  have hdigits : '\n' ∉ Nat.toDigits 10 n.natAbs := by
    intro hmem
    exact absurd (isDigit_of_mem_toDigits hmem) (by decide)
  rw [writeInteger]
  split
  · simpa using hdigits
  · exact hdigits

/-- The integers that 64 bits hold, signed or unsigned. -/
def Fits (n : Int) : Prop := -2 ^ 63 ≤ n ∧ n < 2 ^ 64

theorem integer?_writeInteger {n : Int} (hn : Fits n) :
    Numeral.integer? ⟨decide (n < 0), Nat.toDigits 10 n.natAbs, none, none⟩ = some n := by
  have hvalue : naturalOf (Nat.toDigits 10 n.natAbs) = n.natAbs := Nat.ofDigitChars_ten_toDigits
  obtain ⟨hlow, hhigh⟩ := hn
  simp only [Numeral.integer?, hvalue]
  by_cases hneg : n < 0
  · rw [decide_eq_true hneg, if_pos rfl, if_pos (by omega)]
    congr 1
    omega
  · rw [decide_eq_false hneg, if_neg Bool.false_ne_true, if_pos (by omega)]
    congr 1
    omega

theorem scalarText_writeInteger {n : Int} (hn : Fits n) :
    ScalarText (writeInteger n) (.integer n) := by
  refine .number (numeralText_writeInteger n) ?_
  rw [Numeral.value, integer?_writeInteger hn]

end WorkflowParams.Json
