import Mathlib.Data.List.TakeWhile
import WorkflowParams.Proofs.QuotedReading

/-!
Numbers and the other scalars are read exactly as the grammar has them. A number takes as many
digits as there are, so behind one nothing may stand that would go on with it.
-/

namespace WorkflowParams.Json

/-- Whether digits that stand before a text would go on in it. -/
def extendsDigits (rest : List Char) : Bool := rest.head?.any Char.isDigit

/-- Whether a number that has not come to its exponent would go on in it. -/
def extendsFraction (rest : List Char) : Bool := rest.head?.any fun c => c.isDigit || c = '.'

/-- Whether a number that stands before a text would go on in it. -/
def extendsNumber (rest : List Char) : Bool :=
  rest.head?.any fun c => c.isDigit || c = '.' || c = 'e' || c = 'E'

theorem extendsFraction_of_extendsNumber {rest : List Char} (h : extendsNumber rest = false) :
    extendsFraction rest = false := by
  cases rest with
  | nil => rfl
  | cons c cs => exact (Bool.or_eq_false_iff.mp (Bool.or_eq_false_iff.mp h).1).1

theorem extendsDigits_of_extendsFraction {rest : List Char} (h : extendsFraction rest = false) :
    extendsDigits rest = false := by
  cases rest with
  | nil => rfl
  | cons c cs => exact (Bool.or_eq_false_iff.mp h).1

/-! What has been read as a number is written so. -/

theorem exists_of_bind_eq_ok {α β : Type} {x : Except Fault α} {f : α → Except Fault β} {b : β}
    (h : x >>= f = .ok b) : ∃ a, x = .ok a ∧ f a = .ok b := by
  cases x with
  | error _ => cases h
  | ok a => exact ⟨a, rfl, h⟩

theorem digits_of_readDigits {cs digits rest : List Char}
    (h : readDigits cs = .ok (digits, rest)) : Digits digits ∧ cs = digits ++ rest := by
  rw [readDigits.eq_def] at h
  split at h
  · split at h <;> cases h
  · next hne =>
      obtain ⟨rfl, rfl⟩ := Prod.mk.inj (Except.ok.inj h)
      refine ⟨⟨hne, ?_⟩, (List.takeWhile_append_dropWhile).symm⟩
      intro c hc
      exact List.mem_takeWhile_imp hc

theorem wholeDigits_of_readWhole {cs digits rest : List Char}
    (h : readWhole cs = .ok (digits, rest)) : WholeDigits digits ∧ cs = digits ++ rest := by
  rw [readWhole.eq_def] at h
  split at h
  · split at h
    · cases h
    · obtain ⟨rfl, rfl⟩ := Prod.mk.inj (Except.ok.inj h)
      exact ⟨.inl rfl, rfl⟩
  · next hzero =>
      obtain ⟨hdigits, rfl⟩ := digits_of_readDigits h
      refine ⟨.inr ⟨hdigits, ?_⟩, rfl⟩
      intro hhead
      cases digits with
      | nil => cases hhead
      | cons c digits =>
          obtain rfl := Option.some.inj hhead
          exact hzero _ rfl

theorem fractionText_of_readFraction {cs rest : List Char} {fraction : Option (List Char)}
    (h : readFraction cs = .ok (fraction, rest)) :
    ∃ text, FractionText text fraction ∧ cs = text ++ rest := by
  rw [readFraction.eq_def] at h
  split at h
  · obtain ⟨⟨digits, after⟩, hread, heq⟩ := exists_of_map_eq_ok h
    obtain ⟨rfl, rfl⟩ := Prod.mk.inj heq
    obtain ⟨hdigits, rfl⟩ := digits_of_readDigits hread
    exact ⟨_, .some hdigits, rfl⟩
  · obtain ⟨rfl, rfl⟩ := Prod.mk.inj (Except.ok.inj h)
    exact ⟨[], .none, rfl⟩

theorem exponentText_of_readExponentDigits {cs rest : List Char} (sign : List Char)
    {negative : Bool} {exponent : Option Exponent} {mark : Char} (hmark : mark ∈ ['e', 'E'])
    (hsign : (sign, negative) ∈ [([], false), (['+'], false), (['-'], true)])
    (h : readExponentDigits negative cs = .ok (exponent, rest)) :
    ∃ text, ExponentText text exponent ∧ mark :: (sign ++ cs) = text ++ rest := by
  obtain ⟨⟨digits, after⟩, hread, heq⟩ := exists_of_map_eq_ok h
  obtain ⟨rfl, rfl⟩ := Prod.mk.inj heq
  obtain ⟨hdigits, rfl⟩ := digits_of_readDigits hread
  exact ⟨_, .some hmark hsign hdigits, by simp⟩

theorem exponentText_of_readExponent {cs rest : List Char} {exponent : Option Exponent}
    (h : readExponent cs = .ok (exponent, rest)) :
    ∃ text, ExponentText text exponent ∧ cs = text ++ rest := by
  rw [readExponent.eq_def] at h
  split at h
  · obtain ⟨rfl, rfl⟩ := Prod.mk.inj (Except.ok.inj h)
    exact ⟨[], .none, rfl⟩
  · next mark cs =>
      split at h
      · next hmark =>
          have hmark' : mark ∈ ['e', 'E'] := by simpa using hmark
          split at h
          · exact exponentText_of_readExponentDigits ['+'] hmark' (by simp) h
          · exact exponentText_of_readExponentDigits ['-'] hmark' (by simp) h
          · exact exponentText_of_readExponentDigits [] hmark' (by simp) h
      · obtain ⟨rfl, rfl⟩ := Prod.mk.inj (Except.ok.inj h)
        exact ⟨[], .none, rfl⟩

theorem numeralText_of_readUnsigned {cs rest : List Char} (sign : List Char) {negative : Bool}
    {x : Numeral} (hsign : (sign, negative) ∈ [([], false), (['-'], true)])
    (h : readUnsigned negative cs = .ok (x, rest)) :
    ∃ text, NumeralText text x ∧ sign ++ cs = text ++ rest := by
  obtain ⟨⟨whole, afterWhole⟩, hwhole, h⟩ := exists_of_bind_eq_ok h
  obtain ⟨⟨places, afterPlaces⟩, hplaces, h⟩ := exists_of_bind_eq_ok h
  obtain ⟨⟨power, afterPower⟩, hpower, h⟩ := exists_of_bind_eq_ok h
  obtain ⟨rfl, rfl⟩ := Prod.mk.inj (Except.ok.inj h)
  obtain ⟨hwholeText, rfl⟩ := wholeDigits_of_readWhole hwhole
  obtain ⟨fraction, hfraction, rfl⟩ := fractionText_of_readFraction hplaces
  obtain ⟨exponent, hexponent, rfl⟩ := exponentText_of_readExponent hpower
  exact ⟨_, .mk hsign hwholeText hfraction hexponent, by simp⟩

theorem numeralText_of_readNumeral {cs rest : List Char} {x : Numeral}
    (h : readNumeral cs = .ok (x, rest)) : ∃ text, NumeralText text x ∧ cs = text ++ rest := by
  rw [readNumeral.eq_def] at h
  split at h
  · exact numeralText_of_readUnsigned ['-'] (by simp) h
  · exact numeralText_of_readUnsigned [] (by simp) h

/-- What follows a numeral is only named in its faults. -/
theorem Numeral.value_eq_ok {x : Numeral} {v : Value} {rest : List Char}
    (h : x.value rest = .ok v) (behind : List Char) : x.value behind = .ok v := by
  rw [Numeral.value] at h ⊢
  split at h
  · exact h
  · split at h
    · split at h
      · next hzero => rwa [if_pos hzero]
      · cases h
    · split at h
      · exact h
      · cases h

/-! What is written as a number is read as it. -/

theorem Digits.append_ne_cons {digits : List Char} (h : Digits digits) {c : Char}
    (hc : c.isDigit = false) (rest behind : List Char) : digits ++ rest ≠ c :: behind := by
  obtain ⟨hne, hdigits⟩ := h
  cases digits with
  | nil => exact absurd rfl hne
  | cons first digits =>
      intro heq
      have hfirst := hdigits first (by simp)
      rw [(List.cons.inj heq).1, hc] at hfirst
      exact Bool.false_ne_true hfirst

theorem WholeDigits.digits {digits : List Char} (h : WholeDigits digits) : Digits digits := by
  obtain rfl | ⟨hdigits, -⟩ := h
  · exact ⟨by simp, List.all_eq_true.mp (by decide)⟩
  · exact hdigits

theorem readDigits_of_digits {digits rest : List Char} (h : Digits digits)
    (hrest : extendsDigits rest = false) : readDigits (digits ++ rest) = .ok (digits, rest) := by
  have htake : (digits ++ rest).takeWhile Char.isDigit = digits ∧
      (digits ++ rest).dropWhile Char.isDigit = rest := by
    rw [List.takeWhile_append_of_pos h.2, List.dropWhile_append_of_pos h.2]
    cases rest with
    | nil => simp
    | cons c cs =>
        have hc : c.isDigit = false := hrest
        simp [hc]
  obtain ⟨hne, -⟩ := h
  cases digits with
  | nil => exact absurd rfl hne
  | cons _ _ => simp only [readDigits, htake.1, htake.2]

theorem readWhole_of_wholeDigits {digits rest : List Char} (h : WholeDigits digits)
    (hrest : extendsDigits rest = false) : readWhole (digits ++ rest) = .ok (digits, rest) := by
  obtain rfl | ⟨hdigits, hzero⟩ := h
  · exact if_neg (Bool.eq_false_iff.mp hrest)
  · rw [readWhole]
    · exact readDigits_of_digits hdigits hrest
    · intro cs hcs
      cases digits with
      | nil => exact hdigits.1 rfl
      | cons c digits => exact hzero (congrArg some (List.cons.inj hcs).1)

theorem readFraction_of_fractionText {text rest : List Char} {places : Option (List Char)}
    (h : FractionText text places) (hrest : extendsFraction rest = false) :
    readFraction (text ++ rest) = .ok (places, rest) := by
  cases h with
  | none =>
      rw [List.nil_append, readFraction]
      rintro behind rfl
      cases hrest
  | some hdigits =>
      rw [List.cons_append, readFraction,
        readDigits_of_digits hdigits (extendsDigits_of_extendsFraction hrest)]
      rfl

theorem extendsDigits_fractionText {text rest : List Char} {places : Option (List Char)}
    (h : FractionText text places) (hrest : extendsFraction rest = false) :
    extendsDigits (text ++ rest) = false := by
  cases h with
  | none => exact extendsDigits_of_extendsFraction hrest
  | some _ => rfl

theorem readExponentDigits_of_digits (negative : Bool) {digits rest : List Char}
    (h : Digits digits) (hrest : extendsDigits rest = false) :
    readExponentDigits negative (digits ++ rest) = .ok (some ⟨negative, digits⟩, rest) := by
  rw [readExponentDigits, readDigits_of_digits h hrest]
  rfl

theorem readExponent_of_exponentText {text rest : List Char} {power : Option Exponent}
    (h : ExponentText text power) (hrest : extendsNumber rest = false) :
    readExponent (text ++ rest) = .ok (power, rest) := by
  cases h with
  | none =>
      cases rest with
      | nil => rfl
      | cons c cs => simp_all [extendsNumber, readExponent]
  | @some mark sign digits negative hmark hsign hdigits =>
      have hdigit := extendsDigits_of_extendsFraction (extendsFraction_of_extendsNumber hrest)
      have hread := readExponentDigits_of_digits negative hdigits hdigit
      have hmark' : (mark = 'e' || mark = 'E') = true := by simpa using hmark
      simp only [List.mem_cons, List.not_mem_nil, or_false, Prod.mk.injEq] at hsign
      rw [List.cons_append, List.append_assoc]
      obtain ⟨rfl, rfl⟩ | ⟨rfl, rfl⟩ | ⟨rfl, rfl⟩ := hsign
      · rw [List.nil_append, readExponent, if_pos hmark']
        · exact hread
        all_goals exact hdigits.append_ne_cons rfl rest
      · exact (if_pos hmark').trans hread
      · exact (if_pos hmark').trans hread

theorem extendsFraction_exponentText {text rest : List Char} {power : Option Exponent}
    (h : ExponentText text power) (hrest : extendsNumber rest = false) :
    extendsFraction (text ++ rest) = false := by
  cases h with
  | none => exact extendsFraction_of_extendsNumber hrest
  | some hmark _ _ => obtain rfl | rfl := List.mem_pair.mp hmark <;> rfl

theorem readUnsigned_of_texts (negative : Bool) {whole fraction exponent rest : List Char}
    {places : Option (List Char)} {power : Option Exponent} (hwhole : WholeDigits whole)
    (hfraction : FractionText fraction places) (hexponent : ExponentText exponent power)
    (hrest : extendsNumber rest = false) :
    readUnsigned negative (whole ++ (fraction ++ (exponent ++ rest))) =
      .ok (⟨negative, whole, places, power⟩, rest) := by
  have hbehind := extendsFraction_exponentText hexponent hrest
  simp only [readUnsigned, bind, Except.bind, pure, Except.pure,
    readWhole_of_wholeDigits hwhole (extendsDigits_fractionText hfraction hbehind),
    readFraction_of_fractionText hfraction hbehind, readExponent_of_exponentText hexponent hrest]

theorem readNumeral_of_numeralText {text rest : List Char} {x : Numeral} (h : NumeralText text x)
    (hrest : extendsNumber rest = false) : readNumeral (text ++ rest) = .ok (x, rest) := by
  obtain ⟨hsign, hwhole, hfraction, hexponent⟩ := h
  have hread negative := readUnsigned_of_texts negative hwhole hfraction hexponent hrest
  simp only [List.mem_cons, List.not_mem_nil, or_false, Prod.mk.injEq] at hsign
  simp only [List.append_assoc]
  obtain ⟨rfl, rfl⟩ | ⟨rfl, rfl⟩ := hsign
  · rw [List.nil_append, readNumeral]
    · exact hread false
    · exact hwhole.digits.append_ne_cons rfl _
  · exact hread true

/-! Scalars. -/

/-- Whether a number may begin with a character. -/
def beginsNumber (c : Char) : Bool := c = '-' || c.isDigit

theorem ne_of_beginsNumber {c d : Char} (hc : beginsNumber c = true)
    (hd : beginsNumber d = false) : c ≠ d := by
  intro heq
  rw [heq, hd] at hc
  exact Bool.false_ne_true hc

/-- Not white space, and not where a container opens or closes. -/
def beginsScalar (c : Char) : Bool := !(isSpace c || c = '[' || c = ']' || c = '{' || c = '}')

theorem beginsScalar_of_beginsNumber {c : Char} (h : beginsNumber c = true) :
    beginsScalar c = true := by
  simp [beginsScalar, isSpace, ne_of_beginsNumber h, beginsNumber]

theorem readNumber_of_numeralText {text rest : List Char} {x : Numeral} {v : Value}
    (h : NumeralText text x) (hv : x.value [] = .ok v) (hrest : extendsNumber rest = false) :
    readNumber (text ++ rest) = .ok (v, rest) := by
  simp only [readNumber, readNumeral_of_numeralText h hrest, Numeral.value_eq_ok hv, bind,
    Except.bind, pure, Except.pure]

theorem scalarText_of_readNumber {cs rest : List Char} {v : Value}
    (h : readNumber cs = .ok (v, rest)) : ∃ text, ScalarText text v ∧ cs = text ++ rest := by
  obtain ⟨⟨x, behind⟩, hread, h⟩ := exists_of_bind_eq_ok h
  obtain ⟨value, hvalue, h⟩ := exists_of_bind_eq_ok h
  obtain ⟨rfl, rfl⟩ := Prod.mk.inj (Except.ok.inj h)
  obtain ⟨text, htext, rfl⟩ := numeralText_of_readNumeral hread
  exact ⟨text, .number htext (Numeral.value_eq_ok hvalue []), rfl⟩

theorem exists_cons_of_numeralText {text : List Char} {x : Numeral} (h : NumeralText text x) :
    ∃ c cs, text = c :: cs ∧ beginsNumber c = true := by
  obtain ⟨hsign, hwhole, -, -⟩ := h
  simp only [List.mem_cons, List.not_mem_nil, or_false, Prod.mk.injEq] at hsign
  obtain ⟨rfl, -⟩ | ⟨rfl, -⟩ := hsign
  · obtain ⟨hne, hdigits⟩ := hwhole.digits
    obtain ⟨c, cs, rfl⟩ := List.exists_cons_of_ne_nil hne
    exact ⟨c, _, rfl, Bool.or_eq_true_iff.mpr (.inr (hdigits c (by simp)))⟩
  · exact ⟨'-', _, rfl, rfl⟩

theorem exists_cons_of_scalarText {text : List Char} {v : Value} (h : ScalarText text v) :
    ∃ c cs, text = c :: cs ∧ beginsScalar c = true := by
  cases h with
  | null | true | false => exact ⟨_, _, rfl, rfl⟩
  | text hquoted =>
      obtain ⟨_⟩ := hquoted
      exact ⟨_, _, rfl, rfl⟩
  | number hnumeral _ =>
      obtain ⟨c, cs, rfl, hc⟩ := exists_cons_of_numeralText hnumeral
      exact ⟨c, cs, rfl, beginsScalar_of_beginsNumber hc⟩

theorem readScalar_of_scalarText {text rest : List Char} {v : Value} (h : ScalarText text v)
    (hrest : extendsNumber rest = false) : readScalar (text ++ rest) = .ok (v, rest) := by
  cases h with
  | null | true | false => rfl
  | text hquoted =>
      obtain ⟨cs, hcs, hread⟩ := readText_of_quotedText hquoted rest
      rw [hcs, readScalar, hread]
      rfl
  | number hnumeral hv =>
      rw [← readNumber_of_numeralText hnumeral hv hrest]
      obtain ⟨c, cs, rfl, hc⟩ := exists_cons_of_numeralText hnumeral
      rw [List.cons_append, readScalar]
      · exact if_pos hc
      all_goals exact ne_of_beginsNumber hc rfl

theorem eq_append_of_readLetters {letters cs rest : List Char}
    (h : readLetters letters cs = .ok rest) : cs = letters ++ rest := by
  fun_induction readLetters letters cs with
  | case1 => exact Except.ok.inj h
  | case2 => cases h
  | case3 letter letters cs ih => rw [ih h, List.cons_append]
  | case4 => cases h

theorem scalarText_of_readScalar {cs rest : List Char} {v : Value}
    (h : readScalar cs = .ok (v, rest)) : ∃ text, ScalarText text v ∧ cs = text ++ rest := by
  rw [readScalar.eq_def] at h
  split at h
  case h_1 => cases h
  case h_5 =>
    obtain ⟨⟨s, behind⟩, hread, heq⟩ := exists_of_map_eq_ok h
    obtain ⟨rfl, rfl⟩ := Prod.mk.inj heq
    obtain ⟨text, hcs, htext⟩ := quotedText_of_readText hread
    exact ⟨text, .text htext, hcs⟩
  case h_6 =>
    split at h
    · exact scalarText_of_readNumber h
    · cases h
  all_goals
    obtain ⟨behind, hread, heq⟩ := exists_of_map_eq_ok h
    obtain ⟨rfl, rfl⟩ := Prod.mk.inj heq
    rw [eq_append_of_readLetters hread]
  case h_2 => exact ⟨_, .null, rfl⟩
  case h_3 => exact ⟨_, .true, rfl⟩
  case h_4 => exact ⟨_, .false, rfl⟩

end WorkflowParams.Json
