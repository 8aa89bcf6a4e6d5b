import WorkflowParams.Proofs.Seams

/-!
Lexemes written out, with a space between any two of them, are read back as they are. Every lexeme
that the lexer finds in a text is one that can be written, so the lists that come out of the lexer
are the lists of such lexemes and no others.
-/

namespace WorkflowParams.Declaration

/-! String literals. -/

def escapeQuoted (c : Char) : List Char := if c = '"' ∨ c = '\\' then ['\\', c] else [c]

/-- The string literal with a given value. -/
def literal (value : String) : String :=
  "\"" ++ String.ofList (value.toList.flatMap escapeQuoted) ++ "\""

theorem toList_literal (value : String) :
    (literal value).toList = '"' :: (value.toList.flatMap escapeQuoted ++ ['"']) := by
  simp [literal]

theorem unescape_flatMap_escapeQuoted (value : List Char) :
    unescape (value.flatMap escapeQuoted) = value := by
  induction value with
  | nil => rfl
  | cons c cs ih =>
      rw [List.flatMap_cons]
      by_cases hc : c = '"' ∨ c = '\\'
      · rw [escapeQuoted, if_pos hc, List.cons_append, List.singleton_append, unescape, ih]
      · rw [not_or] at hc
        rw [escapeQuoted, if_neg (not_or.mpr hc), List.singleton_append, unescape_cons hc.2, ih]

theorem quotesEscaped_flatMap_escapeQuoted (value : List Char) :
    QuotesEscaped (value.flatMap escapeQuoted) := by
  induction value with
  | nil => exact quotesEscaped_nil
  | cons c cs ih =>
      rw [List.flatMap_cons]
      by_cases hc : c = '"' ∨ c = '\\'
      · rw [escapeQuoted, if_pos hc]
        exact quotesEscaped_pair c ih
      · rw [escapeQuoted, if_neg hc]
        rw [not_or] at hc
        exact quotesEscaped_cons hc.1 hc.2 ih

theorem escapesNext_escapeQuoted (c : Char) : escapesNext (escapeQuoted c) = false := by
  by_cases hc : c = '"' ∨ c = '\\'
  · rw [escapeQuoted, if_pos hc]
    exact escapesNext_pair c
  · rw [escapeQuoted, if_neg hc]
    exact escapesNext_singleton (not_or.mp hc).2

theorem escapesNext_flatMap_escapeQuoted (value : List Char) :
    escapesNext (value.flatMap escapeQuoted) = false := by
  induction value with
  | nil => rfl
  | cons c cs ih => rw [List.flatMap_cons, escapesNext_append (escapesNext_escapeQuoted c), ih]

namespace Lexeme

/-- How a lexeme stands in a declaration. -/
def source : Lexeme → String
  | .word text | .number text => text
  | .quoted value => literal value
  | .leftBracket => "["
  | .rightBracket => "]"
  | .plus => "+"
  | .question => "?"
  | .leftParen => "("
  | .rightParen => ")"
  | .comma => ","
  | .equal => "="
  | .symbol c => String.singleton c
  | .endMark => ""

/-- A lexeme that a declaration can hold. A word is a letter or an underscore with letters, numeric
characters and underscores behind it; a number is a digit, with a minus sign before it or not, and
ASCII letters, digits and points behind it; the value of a string literal may be any text. -/
def isWellFormed : Lexeme → Bool
  | .word text => isWord text.toList
  | .number text => isNumber text.toList
  | .symbol c => isSymbol c
  | .endMark => false
  | .quoted _ | .leftBracket | .rightBracket | .plus | .question | .leftParen | .rightParen
  | .comma | .equal => true

theorem Covers.isWellFormed {lexeme : Lexeme} {own behind : List Char}
    (h : lexeme.Covers own behind) : lexeme.isWellFormed = true := by
  cases lexeme with
  | word text =>
      obtain ⟨rfl, hword, -⟩ := h
      exact hword
  | number text =>
      obtain ⟨rfl, hnumber, -⟩ := h
      exact hnumber
  | symbol c => exact h.2.1
  | endMark => exact h.elim
  | quoted _ | leftBracket | rightBracket | plus | question | leftParen | rightParen | comma
  | equal => rfl

theorem covers_literal (value : String) (behind : List Char) :
    (quoted value).Covers (literal value).toList behind := by
  refine ⟨value.toList.flatMap escapeQuoted, ?_, quotesEscaped_flatMap_escapeQuoted _,
    .inl ⟨toList_literal value, escapesNext_flatMap_escapeQuoted _⟩⟩
  rw [unescape_flatMap_escapeQuoted, String.ofList_toList]

theorem not_unclosed_literal (value : String) : ¬ Unclosed (literal value).toList := by
  rintro ⟨inside, hsplit, hinside⟩
  rw [toList_literal] at hsplit
  obtain ⟨-, rfl⟩ := List.cons.inj hsplit
  exact not_quotesEscaped_append (escapesNext_flatMap_escapeQuoted value.toList) [] hinside

/-- A lexeme that is written out covers its characters in front of any separator. -/
theorem covers_source {lexeme : Lexeme} (h : lexeme.isWellFormed = true) {behind : List Char}
    (hbehind : ∀ c, behind.head? = some c → isSeparator c = true) :
    lexeme.Covers lexeme.source.toList behind := by
  have halone : lexeme.Covers lexeme.source.toList [] := by
    cases lexeme with
    | word text => exact ⟨rfl, h, rfl⟩
    | number text => exact ⟨rfl, h, rfl⟩
    | quoted value => exact covers_literal value []
    | symbol c => exact ⟨String.toList_singleton c, h, fun _ => rfl⟩
    | endMark => exact absurd h Bool.false_ne_true
    | leftBracket | rightBracket | plus | question | leftParen | rightParen | comma | equal => rfl
  refine halone.of_behind (fun c hc => .inr (hbehind c hc)) ?_
  intro hopen
  obtain ⟨value, rfl⟩ := halone.eq_quoted_of_unclosed hopen
  exact absurd hopen (not_unclosed_literal value)

end Lexeme

/-- The lexemes with a space between any two of them. -/
def written (lexemes : List Lexeme) : String := " ".intercalate (lexemes.map Lexeme.source)

/-- The lexemes of a declaration, the last of which is the end mark. -/
def lexemesOf (declaration : String) : List Lexeme := (tokenize declaration).map Token.lexeme

theorem toList_written_cons (lexeme : Lexeme) (lexemes : List Lexeme) :
    (written (lexeme :: lexemes)).toList =
      lexeme.source.toList ++ if lexemes = [] then [] else ' ' :: (written lexemes).toList := by
  cases lexemes with
  | nil => simp [written]
  | cons next lexemes => simp [written]

theorem exists_tiles_written {lexemes : List Lexeme}
    (h : ∀ lexeme ∈ lexemes, lexeme.isWellFormed = true) (column : Nat) :
    ∃ tokens, tokens.map Token.lexeme = lexemes ∧
      Tiles column (written lexemes).toList tokens := by
  induction lexemes generalizing column with
  | nil => exact ⟨[], rfl, .done column⟩
  | cons lexeme lexemes ih =>
      rw [List.forall_mem_cons] at h
      rw [toList_written_cons]
      by_cases hlast : lexemes = []
      · subst hlast
        exact ⟨_, rfl, .token (Lexeme.covers_source h.1 (by simp)) (.done _)⟩
      · obtain ⟨tokens, rfl, htiles⟩ := ih h.2 (column + lexeme.source.toList.length + 1)
        rw [if_neg hlast]
        refine ⟨_ :: tokens, rfl, .token (Lexeme.covers_source h.1 ?_) (.blank (by decide) htiles)⟩
        intro c hc
        obtain rfl : ' ' = c := Option.some.inj hc
        decide

theorem lexemesOf_written {lexemes : List Lexeme}
    (h : ∀ lexeme ∈ lexemes, lexeme.isWellFormed = true) :
    lexemesOf (written lexemes) = lexemes ++ [.endMark] := by
  obtain ⟨tokens, rfl, htiles⟩ := exists_tiles_written h 1
  rw [lexemesOf, htiles.tokenize_eq, List.map_append]
  rfl

theorem exists_wellFormed_lexemesOf (declaration : String) :
    ∃ lexemes, lexemesOf declaration = lexemes ++ [.endMark] ∧
      ∀ lexeme ∈ lexemes, lexeme.isWellFormed = true := by
  obtain ⟨tokens, htokens, htiles⟩ := exists_tiles_tokenize declaration
  refine ⟨tokens.map Token.lexeme, by simp [lexemesOf, htokens, Token.endAt], ?_⟩
  rw [List.forall_mem_map]
  intro t ht
  obtain ⟨-, -, -, hcovers⟩ := htiles.covers_slice ht
  exact hcovers.isWellFormed

/-- Lexemes that are written out are what the lexer finds there exactly if each of them is well
formed, and whatever the lexer finds in a declaration is written out and found again. -/
theorem lexemesOf_written_iff (lexemes : List Lexeme) (declaration : String) :
    (lexemesOf (written lexemes) = lexemes ++ [.endMark] ↔
      ∀ lexeme ∈ lexemes, lexeme.isWellFormed = true) ∧
    ∃ found, lexemesOf declaration = found ++ [.endMark] ∧
      (∀ lexeme ∈ found, lexeme.isWellFormed = true) ∧
      lexemesOf (written found) = lexemesOf declaration := by
  obtain ⟨found, hfound, hwellFormed⟩ := exists_wellFormed_lexemesOf declaration
  refine ⟨⟨?_, lexemesOf_written⟩, found, hfound, hwellFormed, ?_⟩
  · intro h
    obtain ⟨found', hfound', hwellFormed'⟩ := exists_wellFormed_lexemesOf (written lexemes)
    rw [h, List.append_left_inj] at hfound'
    rw [hfound']
    exact hwellFormed'
  · rw [hfound, lexemesOf_written hwellFormed]

end WorkflowParams.Declaration
