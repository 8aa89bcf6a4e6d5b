import WorkflowParams.Declaration.Lexer

/-!
How the lexer reads one mark and one word. No class of characters with which a word may begin
meets the blanks, the marks or the characters with which a number may begin, so the first
character alone decides.
-/

namespace WorkflowParams.Declaration

open WorkflowParams.Text

theorem isBlank_of_isAlphabetic {c : Char} (h : isAlphabetic c = true) : isBlank c = false :=
  have hapart : RangeTable.apart alphabeticRanges blankRanges = true := by decide +kernel
  RangeTable.contains_eq_false_of_apart hapart h

theorem isBlank_of_isNumeric {c : Char} (h : isNumeric c = true) : isBlank c = false :=
  have hapart : RangeTable.apart numericRanges blankRanges = true := by decide +kernel
  RangeTable.contains_eq_false_of_apart hapart h

/-- The letters begin at the letter `A`. -/
theorem le_toNat_of_isAlphabetic {c : Char} (h : isAlphabetic c = true) : 65 ≤ c.toNat := by
  rw [isAlphabetic, alphabeticRanges, RangeTable.contains, Bool.and_eq_true] at h
  exact of_decide_eq_true h.1

theorem isBlank_of_startsWord {c : Char} (h : startsWord c = true) : isBlank c = false := by
  cases Bool.or_eq_true_iff.mp h with
  | inl hletter => exact isBlank_of_isAlphabetic hletter
  | inr hunderscore =>
      rw [of_decide_eq_true hunderscore]
      rfl

theorem le_toNat_of_startsWord {c : Char} (h : startsWord c = true) : 65 ≤ c.toNat := by
  cases Bool.or_eq_true_iff.mp h with
  | inl hletter => exact le_toNat_of_isAlphabetic hletter
  | inr hunderscore =>
      rw [of_decide_eq_true hunderscore]
      decide

theorem startsNumber_of_startsWord {c : Char} (h : startsWord c = true) (following : List Char) :
    startsNumber c following = false := by
  have hc := le_toNat_of_startsWord h
  apply eq_false_of_ne_true
  intro hnumber
  cases Bool.or_eq_true_iff.mp hnumber with
  | inl hdigit =>
      simp only [Char.isDigit, Bool.and_eq_true, decide_eq_true_eq] at hdigit
      have : c.val.toNat ≤ 57 := hdigit.2
      change 65 ≤ c.val.toNat at hc
      omega
  | inr hminus =>
      rw [of_decide_eq_true (Bool.and_eq_true_iff.mp hminus).1] at hc
      exact absurd hc (by decide)

namespace Lexeme

/-- A character that is a mark is nothing else. -/
theorem of_mark?_eq_some {c : Char} {mark : Lexeme} (h : mark? c = some mark) :
    isBlank c = false ∧ startsWord c = false ∧ continuesWord c = false := by
  unfold mark? at h
  split at h
  case h_9 => exact absurd h (by simp)
  all_goals decide

theorem mark?_of_startsWord {c : Char} (h : startsWord c = true) : mark? c = none := by
  cases hmark : mark? c with
  | none => rfl
  | some mark => simp [(of_mark?_eq_some hmark).2.1] at h

theorem beginning_of_mark? {c : Char} {mark : Lexeme} (h : mark? c = some mark)
    (following : List Char) : beginning c following = (mark, 0) := by
  simp [beginning, h]

theorem beginning_of_startsWord {c : Char} (h : startsWord c = true) (following : List Char) :
    beginning c following =
      (.word (String.ofList (c :: following.takeWhile continuesWord)),
        (following.takeWhile continuesWord).length) := by
  have hquote : c ≠ '"' := by
    rintro rfl
    exact absurd (le_toNat_of_startsWord h) (by decide)
  simp [beginning, mark?_of_startsWord h, hquote, startsNumber_of_startsWord h, h]

end Lexeme

/-- A text that the lexer reads as one word if nothing behind it continues the word. -/
def isWord : List Char → Bool
  | [] => false
  | c :: cs => startsWord c && cs.all continuesWord

/-- Whether a word that stands before a text would go on in it. -/
def extendsWord (rest : List Char) : Bool := rest.head?.any continuesWord

theorem extendsWord_of_mark? {c : Char} {mark : Lexeme} (h : Lexeme.mark? c = some mark)
    (rest : List Char) : extendsWord (c :: rest) = false := (Lexeme.of_mark?_eq_some h).2.2

/-- A run of characters of one class ends where one of another class follows. -/
theorem takeWhile_append_of_head? {p : Char → Bool} {own behind : List Char}
    (hown : own.all p = true) (hbehind : behind.head?.any p = false) :
    (own ++ behind).takeWhile p = own := by
  rw [List.takeWhile_append_of_pos (List.all_eq_true.mp hown)]
  cases behind with
  | nil => simp
  | cons c cs =>
      have hc : p c = false := by simpa using hbehind
      simp [hc]

namespace Scanner

theorem tokensFrom_mark {c : Char} {mark : Lexeme} (h : Lexeme.mark? c = some mark)
    (column : Nat) (rest : List Char) :
    tokensFrom column (c :: rest) = ⟨mark, column, column⟩ :: tokensFrom (column + 1) rest := by
  rw [tokensFrom_cons_of_not_isBlank (Lexeme.of_mark?_eq_some h).1, Lexeme.beginning_of_mark? h]
  rfl

/-- A word is one token as long as nothing behind it continues it. -/
theorem tokensFrom_word {text : String} (h : isWord text.toList = true) {rest : List Char}
    (hrest : extendsWord rest = false) (column : Nat) :
    tokensFrom column (text.toList ++ rest) =
      ⟨.word text, column, column + text.length - 1⟩ ::
        tokensFrom (column + text.length) rest := by
  rw [← String.length_toList]
  cases htext : text.toList with
  | nil => simp [htext, isWord] at h
  | cons c letters =>
      rw [htext, isWord, Bool.and_eq_true] at h
      have hword : String.ofList (c :: letters) = text := by rw [← htext, String.ofList_toList]
      rw [List.cons_append, tokensFrom_cons_of_not_isBlank (isBlank_of_startsWord h.1),
        Lexeme.beginning_of_startsWord h.1, takeWhile_append_of_head? h.2 hrest, hword,
        List.drop_left]
      rfl

end Scanner

end WorkflowParams.Declaration
