import Mathlib.Data.List.Forall2
import WorkflowParams.Proofs.JsonGrammar

/-!
Quoted text is read exactly as the grammar has it: every spelling of a text is read as that text,
with whatever follows it left, and what is read as a text is spelled so. The surrogate pairs are
where this needs care, since half a pair denotes nothing.
-/

namespace WorkflowParams.Json

/-! Hexadecimal digits. -/

theorem utf8Size_of_hexValue? {c : Char} {d : Nat} (h : hexValue? c = some d) :
    c.utf8Size = 1 := by
  have hbound : c.val ≤ 'f'.val := by
    rw [hexValue?] at h
    split at h
    · next hdigit =>
        simp only [Char.isDigit, Bool.and_eq_true, decide_eq_true_eq] at hdigit
        exact UInt32.le_trans hdigit.2 (by decide)
    · split at h
      · next hlower => exact hlower.2
      · split at h
        · next hupper => exact UInt32.le_trans hupper.2 (by decide)
        · cases h
  exact Char.utf8Size_eq_one_iff.mpr (UInt32.le_trans hbound (by decide))

theorem forall₂_of_mapM {cs : List Char} {values : List Nat}
    (h : cs.mapM hexValue? = some values) :
    List.Forall₂ (fun c d => hexValue? c = some d) cs values := by
  induction cs generalizing values with
  | nil =>
      obtain rfl := Option.some.inj h
      exact .nil
  | cons c cs ih =>
      simp only [List.mapM_cons, Option.bind_eq_bind, Option.bind_eq_some_iff] at h
      obtain ⟨d, hd, rest, hrest, heq⟩ := h
      obtain rfl := Option.some.inj heq
      exact .cons hd (ih hrest)

theorem byteLength_of_forall₂ {cs : List Char} {values : List Nat}
    (h : List.Forall₂ (fun c d => hexValue? c = some d) cs values) :
    byteLength cs = cs.length := by
  induction h with
  | nil => rfl
  | cons hd _ ih =>
      rw [byteLength] at ih ⊢
      rw [List.foldr_cons, ih, utf8Size_of_hexValue? hd, List.length_cons, Nat.add_comm]

/-- Digits that take up four bytes are four. -/
theorem hexDigits_of_mapM {digits : List Char} {values : List Nat}
    (h : digits.mapM hexValue? = some values) (hbytes : 4 ≤ byteLength digits)
    (hlength : digits.length ≤ 4) :
    HexDigits digits (values.foldl (fun n d => 16 * n + d) 0) := by
  have hdigits := forall₂_of_mapM h
  rw [byteLength_of_forall₂ hdigits] at hbytes
  match digits, values, hdigits, Nat.le_antisymm hlength hbytes with
  | _, _, .cons h₁ (.cons h₂ (.cons h₃ (.cons h₄ .nil))), _ =>
      rw [List.foldl_cons, Nat.mul_zero, Nat.zero_add]
      exact .mk h₁ h₂ h₃ h₄

theorem readHex_of_hexDigits {digits : List Char} {n : Nat} (h : HexDigits digits n)
    (cs : List Char) : readHex (digits ++ cs) = .ok n := by
  obtain ⟨h₁, h₂, h₃, h₄⟩ := h
  simp [readHex, byteLength, utf8Size_of_hexValue? h₁, utf8Size_of_hexValue? h₂,
    utf8Size_of_hexValue? h₃, utf8Size_of_hexValue? h₄, h₁, h₂, h₃, h₄]

theorem hexDigits_of_readHex {cs : List Char} {n : Nat} (h : readHex cs = .ok n) :
    HexDigits (cs.take 4) n := by
  rw [readHex] at h
  split at h
  · cases h
  · next hbytes =>
      split at h
      · next values hvalues =>
          obtain rfl := Except.ok.inj h
          exact hexDigits_of_mapM hvalues (Nat.not_lt.mp hbytes) (List.length_take_le 4 cs)
      · cases h

/-! Escapes. -/

theorem readEscape_letter {letter c : Char} (h : (letter, c) ∈ letterEscapes) (cs : List Char) :
    readEscape (letter :: cs) = .ok (c, 1) := by
  simp only [letterEscapes, List.mem_cons, List.not_mem_nil, or_false, Prod.mk.injEq] at h
  obtain ⟨rfl, rfl⟩ | ⟨rfl, rfl⟩ | ⟨rfl, rfl⟩ | ⟨rfl, rfl⟩ | ⟨rfl, rfl⟩ | ⟨rfl, rfl⟩ | ⟨rfl, rfl⟩ |
    ⟨rfl, rfl⟩ := h <;> rfl

/-- No character is a half of a pair. -/
theorem not_surrogate (c : Char) : isLeading c.toNat = false ∧ isTrailing c.toNat = false := by
  have hvalid : c.toNat < 0xD800 ∨ 0xDFFF < c.toNat ∧ c.toNat < 0x110000 := c.valid
  simp only [isLeading, isTrailing, Bool.and_eq_false_iff, decide_eq_false_iff_not]
  omega

theorem readEscape_unit {digits : List Char} {c : Char} (h : HexDigits digits c.toNat)
    (cs : List Char) : readEscape ('u' :: (digits ++ cs)) = .ok (c, 5) := by
  obtain ⟨hleading, htrailing⟩ := not_surrogate c
  simp [readEscape, readHex_of_hexDigits h, htrailing, hleading, Char.ofNat_toNat]

theorem HexDigits.length_eq {digits : List Char} {n : Nat} (h : HexDigits digits n) :
    digits.length = 4 := by
  obtain ⟨⟩ := h
  rfl

theorem readTrailing_pair {leading trailing : Nat} {low : List Char} {c : Char}
    (hlow : HexDigits low (0xDC00 + trailing)) (htrailing : trailing < 0x400)
    (hc : c.toNat = 0x10000 + 0x400 * leading + trailing) (cs : List Char) :
    readTrailing (0xD800 + leading) ('\\' :: 'u' :: (low ++ cs)) = .ok c := by
  have hlowHalf : isTrailing (0xDC00 + trailing) = true := by
    simp only [isTrailing, Bool.and_eq_true, decide_eq_true_eq]
    omega
  have hvalue : pairValue (0xD800 + leading) (0xDC00 + trailing) = c.toNat := by
    unfold pairValue
    omega
  simp [readTrailing, readHex_of_hexDigits hlow, hlowHalf, hvalue, Char.ofNat_toNat]

theorem readEscape_pair {leading trailing : Nat} {high low : List Char} {c : Char}
    (hhigh : HexDigits high (0xD800 + leading)) (hlow : HexDigits low (0xDC00 + trailing))
    (hleading : leading < 0x400) (htrailing : trailing < 0x400)
    (hc : c.toNat = 0x10000 + 0x400 * leading + trailing) (cs : List Char) :
    readEscape ('u' :: (high ++ '\\' :: 'u' :: (low ++ cs))) = .ok (c, 11) := by
  have hhighHalf : isLeading (0xD800 + leading) = true ∧ isTrailing (0xD800 + leading) = false := by
    simp only [isLeading, isTrailing, Bool.and_eq_true, Bool.and_eq_false_iff, decide_eq_true_eq,
      decide_eq_false_iff_not]
    omega
  have hdrop : (high ++ '\\' :: 'u' :: (low ++ cs)).drop 4 = '\\' :: 'u' :: (low ++ cs) :=
    List.drop_left' hhigh.length_eq
  rw [readEscape]
  simp only [readHex_of_hexDigits hhigh, hhighHalf, hdrop, readTrailing_pair hlow htrailing hc,
    if_true, if_false, Bool.false_eq_true]
  rfl

theorem readChars_escape {cs : List Char} {c : Char} {extent : Nat}
    (h : readEscape cs = .ok (c, extent)) :
    readChars ('\\' :: cs) =
      (readChars (cs.drop extent)).map fun (ds, rest) => (c :: ds, rest) := by
  rw [readChars]
  simp [h]

theorem readChars_of_spells {text : List Char} {c : Char} (h : Spells text c) (cs : List Char) :
    readChars (text ++ cs) = (readChars cs).map fun (ds, rest) => (c :: ds, rest) := by
  cases h with
  | itself hquote hbackslash hcontrol =>
      rw [List.singleton_append, readChars, if_neg hquote, if_neg hbackslash,
        if_neg (Nat.not_lt.mpr hcontrol)]
  | letter hletter => exact readChars_escape (readEscape_letter hletter cs)
  | @unit digits _ hdigits =>
      have hdrop : ('u' :: (digits ++ cs)).drop 5 = cs := List.drop_left' hdigits.length_eq
      have hread := readChars_escape (readEscape_unit hdigits cs)
      rw [hdrop] at hread
      exact hread
  | @pair high low _ _ _ hhigh hlow hleading htrailing hc =>
      have hdrop : ('u' :: (high ++ '\\' :: 'u' :: (low ++ cs))).drop 11 = cs := by
        have happend : ('u' :: (high ++ '\\' :: 'u' :: low) ++ cs).drop 11 = cs :=
          List.drop_left' (by simp [hhigh.length_eq, hlow.length_eq])
        simpa using happend
      have hread := readChars_escape (readEscape_pair hhigh hlow hleading htrailing hc cs)
      rw [hdrop] at hread
      simpa using hread

theorem readChars_of_spellsAll {text characters : List Char} (h : SpellsAll text characters)
    (rest : List Char) : readChars (text ++ '"' :: rest) = .ok (characters, rest) := by
  induction h with
  | nil =>
      rw [List.nil_append, readChars]
      rfl
  | cons hc _ ih =>
      rw [List.append_assoc, readChars_of_spells hc, ih]
      rfl

/-- A quoted text is read from behind its opening quote. -/
theorem readText_of_quotedText {text : List Char} {s : String} (h : QuotedText text s)
    (rest : List Char) : ∃ cs, text ++ rest = '"' :: cs ∧ readText cs = .ok (s, rest) := by
  obtain ⟨hinside⟩ := h
  refine ⟨_, by rw [List.cons_append, List.append_assoc, List.singleton_append], ?_⟩
  rw [readText, readChars_of_spellsAll hinside]
  simp [Except.map]

/-! What has been read as quoted text is spelled so. -/

theorem toNat_ofNat {n : Nat} (h : n < 0xD800 ∨ 0xDFFF < n ∧ n < 0x110000) :
    (Char.ofNat n).toNat = n := by
  rw [Char.ofNat, dif_pos h]
  rfl

theorem lt_of_hexValue? {c : Char} {d : Nat} (h : hexValue? c = some d) : d < 16 := by
  have hnine : '9'.toNat = 57 := rfl
  have hlast : 'f'.toNat = 102 := rfl
  rw [hexValue?] at h
  split at h
  · next hdigit =>
      obtain rfl := Option.some.inj h
      simp only [Char.isDigit, Bool.and_eq_true, decide_eq_true_eq] at hdigit
      have hle : c.toNat ≤ 57 := UInt32.le_iff_toNat_le.mp hdigit.2
      have hzero : '0'.toNat = 48 := rfl
      omega
  · split at h
    · next hlower =>
        obtain rfl := Option.some.inj h
        have hle : c.toNat ≤ 102 := UInt32.le_iff_toNat_le.mp hlower.2
        have ha : 'a'.toNat = 97 := rfl
        omega
    · split at h
      · next hupper =>
          obtain rfl := Option.some.inj h
          have hle : c.toNat ≤ 70 := UInt32.le_iff_toNat_le.mp hupper.2
          have ha : 'A'.toNat = 65 := rfl
          omega
      · cases h

theorem HexDigits.lt {digits : List Char} {n : Nat} (h : HexDigits digits n) : n < 0x10000 := by
  obtain ⟨h₁, h₂, h₃, h₄⟩ := h
  have := lt_of_hexValue? h₁
  have := lt_of_hexValue? h₂
  have := lt_of_hexValue? h₃
  have := lt_of_hexValue? h₄
  omega

theorem of_readTrailing {leading : Nat} {cs : List Char} {c : Char}
    (h : readTrailing leading cs = .ok c) :
    ∃ behind trailing, cs = '\\' :: 'u' :: behind ∧
      HexDigits (behind.take 4) (0xDC00 + trailing) ∧ trailing < 0x400 ∧
      c = Char.ofNat (pairValue leading (0xDC00 + trailing)) := by
  rw [readTrailing.eq_def] at h
  split at h
  case h_3 behind =>
    split at h
    · cases h
    · next unit hunit =>
        split at h
        · next htrailing =>
            simp only [isTrailing, Bool.and_eq_true, decide_eq_true_eq] at htrailing
            have hsum : 0xDC00 + (unit - 0xDC00) = unit := by omega
            refine ⟨behind, unit - 0xDC00, rfl, ?_, by omega, ?_⟩
            · rw [hsum]
              exact hexDigits_of_readHex hunit
            · rw [hsum]
              exact (Except.ok.inj h).symm
        · cases h
  all_goals cases h

theorem take_eleven {cs behind : List Char} (h : cs.drop 4 = '\\' :: 'u' :: behind) :
    ('u' :: cs).take 11 = 'u' :: (cs.take 4 ++ '\\' :: 'u' :: behind.take 4) := by
  have hsplit : cs.take 10 = cs.take 4 ++ (cs.drop 4).take 6 := List.take_add (i := 4) (j := 6)
  rw [List.take_succ_cons, hsplit, h]
  rfl

/-- Two numbers that are a pair are a character past the sixteenth bit. -/
theorem spells_pair {high low : List Char} {unit trailing : Nat} {c : Char}
    (hhigh : HexDigits high unit) (hlow : HexDigits low (0xDC00 + trailing))
    (hleading : isLeading unit = true) (htrailing : trailing < 0x400)
    (hc : c = Char.ofNat (pairValue unit (0xDC00 + trailing))) :
    Spells ('\\' :: 'u' :: (high ++ '\\' :: 'u' :: low)) c := by
  simp only [isLeading, Bool.and_eq_true, decide_eq_true_eq] at hleading
  have hsum : 0xD800 + (unit - 0xD800) = unit := by omega
  have hvalue : pairValue unit (0xDC00 + trailing) =
      0x10000 + 0x400 * (unit - 0xD800) + trailing := by
    unfold pairValue
    omega
  refine .pair (hsum.symm ▸ hhigh) hlow (by omega) htrailing ?_
  rw [hc, toNat_ofNat, hvalue]
  omega

theorem spells_of_readUnit {cs : List Char} {c : Char} {extent : Nat}
    (h : readEscape ('u' :: cs) = .ok (c, extent)) :
    Spells ('\\' :: ('u' :: cs).take extent) c := by
  simp only [readEscape] at h
  split at h
  · cases h
  · next unit hunit =>
      have hdigits := hexDigits_of_readHex hunit
      split at h
      · cases h
      · next htrailing =>
          split at h
          · next hleading =>
              obtain ⟨d, hread, heq⟩ := exists_of_map_eq_ok h
              obtain ⟨rfl, rfl⟩ := Prod.mk.inj heq
              obtain ⟨behind, trailing, hbehind, hlow, hlt, hd⟩ := of_readTrailing hread
              rw [take_eleven hbehind]
              exact spells_pair hdigits hlow hleading hlt hd
          · next hleading =>
              obtain ⟨hc, rfl⟩ := Prod.mk.inj (Except.ok.inj h)
              have hbound := hdigits.lt
              simp only [isLeading, isTrailing, Bool.and_eq_true, decide_eq_true_eq]
                at htrailing hleading
              refine .unit ?_
              rw [← hc, toNat_ofNat (by omega)]
              exact hdigits

theorem spells_of_readEscape {cs : List Char} {c : Char} {extent : Nat}
    (h : readEscape cs = .ok (c, extent)) : Spells ('\\' :: cs.take extent) c := by
  have h' := h
  rw [readEscape.eq_def] at h'
  split at h'
  case h_1 => cases h'
  case h_10 => exact spells_of_readUnit h
  case h_11 => cases h'
  all_goals
    obtain ⟨rfl, rfl⟩ := Prod.mk.inj (Except.ok.inj h')
    exact .letter (by decide)

theorem spellsAll_of_readChars {cs characters rest : List Char}
    (h : readChars cs = .ok (characters, rest)) :
    ∃ inside, cs = inside ++ '"' :: rest ∧ SpellsAll inside characters := by
  fun_induction readChars cs generalizing characters with
  | case1 => cases h
  | case2 cs =>
      obtain ⟨rfl, rfl⟩ := Prod.mk.inj (Except.ok.inj h)
      exact ⟨[], rfl, .nil⟩
  | case3 => cases h
  | case4 cs d extent hescape hquote ih =>
      obtain ⟨⟨ds, after⟩, hread, heq⟩ := exists_of_map_eq_ok h
      obtain ⟨rfl, rfl⟩ := Prod.mk.inj heq
      obtain ⟨inside, hinside, hspelled⟩ := ih hread
      refine ⟨'\\' :: cs.take extent ++ inside, ?_, .cons (spells_of_readEscape hescape) hspelled⟩
      rw [List.cons_append, List.cons_append, List.append_assoc, ← hinside, List.take_append_drop]
  | case5 => cases h
  | case6 c cs hquote hbackslash hcontrol ih =>
      obtain ⟨⟨ds, after⟩, hread, heq⟩ := exists_of_map_eq_ok h
      obtain ⟨rfl, rfl⟩ := Prod.mk.inj heq
      obtain ⟨inside, rfl, hspelled⟩ := ih hread
      have hc : Spells [c] c := .itself hquote hbackslash (Nat.not_lt.mp hcontrol)
      exact ⟨c :: inside, rfl, .cons hc hspelled⟩

theorem quotedText_of_readText {cs rest : List Char} {s : String}
    (h : readText cs = .ok (s, rest)) :
    ∃ text, '"' :: cs = text ++ rest ∧ QuotedText text s := by
  obtain ⟨⟨characters, after⟩, hread, heq⟩ := exists_of_map_eq_ok h
  obtain ⟨rfl, rfl⟩ := Prod.mk.inj heq
  obtain ⟨inside, rfl, hspelled⟩ := spellsAll_of_readChars hread
  refine ⟨'"' :: (inside ++ ['"']), by simp, .mk ?_⟩
  rw [String.toList_ofList]
  exact hspelled

end WorkflowParams.Json
