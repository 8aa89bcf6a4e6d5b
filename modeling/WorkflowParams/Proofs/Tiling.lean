import Mathlib.Logic.Function.Iterate
import WorkflowParams.Proofs.Lexing

/-!
The tokens of a declaration tile it. A derivation goes over the text from left to right and says of
each token which characters it covers and what may not stand behind them, so what holds of columns,
values and gaps is read off one derivation.
-/

namespace WorkflowParams.Declaration

open WorkflowParams.Text

/-! String literals. -/

/-- Whether the character behind a text is escaped in it: an odd number of backslashes stands
directly before it. -/
def escapesNext (before : List Char) : Bool :=
  (before.reverse.takeWhile (· = '\\')).length % 2 = 1

/-- No quote in the text ends a string literal. -/
def QuotesEscaped (inside : List Char) : Prop :=
  ∀ before, before ++ ['"'] <+: inside → escapesNext before = true

/-- The text with each backslash dropped and the character behind it taken as it is. -/
def unescape : List Char → List Char
  | [] => []
  | ['\\'] => []
  | '\\' :: c :: cs => c :: unescape cs
  | c :: cs => c :: unescape cs

/-- Escapes are counted anew behind a text that leaves none open. -/
theorem escapesNext_append {front : List Char} (h : escapesNext front = false)
    (before : List Char) : escapesNext (front ++ before) = escapesNext before := by
  simp only [escapesNext, decide_eq_false_iff_not] at h
  simp only [escapesNext, List.reverse_append, List.takeWhile_append, decide_eq_decide]
  split
  · next hall =>
      rw [List.length_append, hall]
      omega
  · rfl

theorem escapesNext_singleton {c : Char} (h : c ≠ '\\') : escapesNext [c] = false := by
  simp [escapesNext, h]

theorem escapesNext_pair (c : Char) : escapesNext ['\\', c] = false := by
  by_cases h : c = '\\' <;> simp [escapesNext, h]

theorem quotesEscaped_nil : QuotesEscaped [] := by
  intro before h
  simp at h

theorem quotesEscaped_cons {c : Char} (hquote : c ≠ '"') (hescape : c ≠ '\\') {inside : List Char}
    (h : QuotesEscaped inside) : QuotesEscaped (c :: inside) := by
  intro before hbefore
  cases before with
  | nil => simp [Ne.symm hquote] at hbefore
  | cons c' before =>
      obtain ⟨rfl, htail⟩ := List.cons_prefix_cons.mp hbefore
      exact (escapesNext_append (escapesNext_singleton hescape) before).trans (h before htail)

theorem quotesEscaped_pair (c : Char) {inside : List Char} (h : QuotesEscaped inside) :
    QuotesEscaped ('\\' :: c :: inside) := by
  intro before hbefore
  match before with
  | [] => simp at hbefore
  | ['\\'] => rfl
  | c' :: c'' :: before =>
      obtain ⟨hescape, htail⟩ := List.cons_prefix_cons.mp hbefore
      obtain ⟨rfl, hinside⟩ := List.cons_prefix_cons.mp htail
      rw [hescape]
      exact (escapesNext_append (escapesNext_pair c'') before).trans (h before hinside)

theorem quotesEscaped_backslash : QuotesEscaped ['\\'] := by
  intro before hbefore
  cases before with
  | nil => simp at hbefore
  | cons c before => simp at hbefore

theorem unescape_cons {c : Char} (h : c ≠ '\\') (cs : List Char) :
    unescape (c :: cs) = c :: unescape cs := by
  cases cs <;> simp [unescape, h]

theorem quotedExtent_cons {c : Char} (hquote : c ≠ '"') (hescape : c ≠ '\\') (cs : List Char) :
    quotedExtent (c :: cs) = quotedExtent cs + 1 := by
  cases cs <;> simp [quotedExtent, hescape]

/-- What is inside a string literal, the opening quote of which has been passed, and what is behind
it. A closing quote ends it, or the end of the text. -/
theorem exists_quoted (following : List Char) :
    ∃ inside behind, quotedValue following = unescape inside ∧ QuotesEscaped inside ∧
      (following = inside ++ '"' :: behind ∧ escapesNext inside = false ∧
          quotedExtent following = inside.length + 1 ∨
        following = inside ∧ quotedExtent following = inside.length) := by
  fun_induction quotedValue following with
  | case1 => exact ⟨[], [], rfl, quotesEscaped_nil, .inr ⟨rfl, rfl⟩⟩
  | case2 behind => exact ⟨[], behind, rfl, quotesEscaped_nil, .inl ⟨rfl, rfl, rfl⟩⟩
  | case3 => exact ⟨['\\'], [], rfl, quotesEscaped_backslash, .inr ⟨rfl, rfl⟩⟩
  | case4 c cs ih =>
      obtain ⟨inside, behind, hvalue, hescaped, hend⟩ := ih
      refine ⟨'\\' :: c :: inside, behind, by rw [hvalue, unescape],
        quotesEscaped_pair c hescaped, ?_⟩
      rcases hend with ⟨rfl, hopen, hextent⟩ | ⟨rfl, hextent⟩
      · refine .inl ⟨rfl, ?_, by rw [quotedExtent, hextent]; rfl⟩
        exact (escapesNext_append (escapesNext_pair c) inside).trans hopen
      · exact .inr ⟨rfl, by rw [quotedExtent, hextent]; rfl⟩
  | case5 c cs hquote hlast hescaped ih =>
      have hescape : c ≠ '\\' := by
        rintro rfl
        cases cs with
        | nil => exact hlast rfl rfl
        | cons c' cs' => exact hescaped c' cs' rfl rfl
      obtain ⟨inside, behind, hvalue, hquotes, hend⟩ := ih
      refine ⟨c :: inside, behind, by rw [hvalue, unescape_cons hescape],
        quotesEscaped_cons hquote hescape hquotes, ?_⟩
      rw [quotedExtent_cons hquote hescape]
      rcases hend with ⟨rfl, hopen, hextent⟩ | ⟨rfl, hextent⟩
      · refine .inl ⟨rfl, ?_, by rw [hextent]; rfl⟩
        exact (escapesNext_append (escapesNext_singleton hescape) inside).trans hopen
      · exact .inr ⟨rfl, by rw [hextent]; rfl⟩

/-! The characters of one token. -/

def isNumber : List Char → Bool
  | [] => false
  | c :: cs => startsNumber c cs && cs.all continuesNumber

/-- A character without a meaning of its own. The minus sign is one of them, though a number may
begin with it. -/
def isSymbol (c : Char) : Bool :=
  !isBlank c && !startsWord c && !c.isDigit && c ≠ '"' && (Lexeme.mark? c).isNone

/-- The text `own` is the lexeme where `behind` follows, and nothing of what follows belongs to it
too. -/
def Lexeme.Covers (own behind : List Char) : Lexeme → Prop
  | .word text => own = text.toList ∧ isWord own = true ∧ extendsWord behind = false
  | .number text =>
    own = text.toList ∧ isNumber own = true ∧ behind.head?.any continuesNumber = false
  | .quoted value => ∃ inside, value = String.ofList (unescape inside) ∧ QuotesEscaped inside ∧
    (own = '"' :: (inside ++ ['"']) ∧ escapesNext inside = false ∨
      own = '"' :: inside ∧ behind = [])
  | .leftBracket => own = ['[']
  | .rightBracket => own = [']']
  | .plus => own = ['+']
  | .question => own = ['?']
  | .leftParen => own = ['(']
  | .rightParen => own = [')']
  | .comma => own = [',']
  | .equal => own = ['=']
  | .symbol c => own = [c] ∧ isSymbol c = true ∧ (c = '-' → behind.head?.any Char.isDigit = false)
  | .endMark => False

namespace Lexeme

theorem Covers.ne_nil {lexeme : Lexeme} {own behind : List Char} (h : lexeme.Covers own behind) :
    own ≠ [] := by
  rintro rfl
  cases lexeme <;> simp [Covers, isWord, isNumber] at h

theorem covers_mark {c : Char} {mark : Lexeme} (h : mark? c = some mark) (behind : List Char) :
    mark.Covers [c] behind := by
  unfold mark? at h
  split at h
  case h_9 => exact absurd h (by simp)
  all_goals
    cases h
    rfl

end Lexeme

theorem head?_dropWhile_any (p : Char → Bool) (cs : List Char) :
    (cs.dropWhile p).head?.any p = false := by
  have h := List.head?_dropWhile_not p cs
  cases hhead : (cs.dropWhile p).head? with
  | none => rfl
  | some c => simpa [hhead] using h

theorem startsNumber_takeWhile {c : Char} {following : List Char}
    (h : startsNumber c following = true) :
    startsNumber c (following.takeWhile continuesNumber) = true := by
  cases Bool.or_eq_true_iff.mp h with
  | inl hdigit => simp [startsNumber, hdigit]
  | inr hminus =>
      obtain ⟨hc, hnext⟩ := Bool.and_eq_true_iff.mp hminus
      cases following with
      | nil => simp at hnext
      | cons d cs =>
          have hd : d.isDigit = true := by simpa using hnext
          simp [startsNumber, hc, continuesNumber, Char.isAlphanum, hd]

namespace Lexeme

theorem covers_quoted (following : List Char) :
    ∃ own behind, following = own ++ behind ∧ own.length = quotedExtent following ∧
      (quoted (String.ofList (quotedValue following))).Covers ('"' :: own) behind := by
  obtain ⟨inside, behind, hvalue, hquotes, hend⟩ := exists_quoted following
  rw [hvalue]
  rcases hend with ⟨hsplit, hopen, hextent⟩ | ⟨hsplit, hextent⟩
  · exact ⟨inside ++ ['"'], behind, by simp [hsplit], by simp [hextent],
      inside, rfl, hquotes, .inl ⟨rfl, hopen⟩⟩
  · exact ⟨inside, [], by simp [hsplit], hextent.symm, inside, rfl, hquotes, .inr ⟨rfl, rfl⟩⟩

theorem covers_number {c : Char} {following : List Char} (h : startsNumber c following = true) :
    (number (String.ofList (c :: following.takeWhile continuesNumber))).Covers
      (c :: following.takeWhile continuesNumber) (following.dropWhile continuesNumber) := by
  refine ⟨by simp, ?_, head?_dropWhile_any _ _⟩
  rw [isNumber, startsNumber_takeWhile h, Bool.true_and]
  exact List.all_takeWhile

theorem covers_word {c : Char} (h : startsWord c = true) (following : List Char) :
    (word (String.ofList (c :: following.takeWhile continuesWord))).Covers
      (c :: following.takeWhile continuesWord) (following.dropWhile continuesWord) := by
  refine ⟨by simp, ?_, head?_dropWhile_any _ _⟩
  rw [isWord, h, Bool.true_and]
  exact List.all_takeWhile

theorem covers_symbol {c : Char} {following : List Char} (hblank : isBlank c = false)
    (hmark : mark? c = none) (hquote : c ≠ '"') (hnumber : startsNumber c following = false)
    (hword : startsWord c = false) : (symbol c).Covers [c] following := by
  obtain ⟨hdigit, hminus⟩ := Bool.or_eq_false_iff.mp hnumber
  refine ⟨rfl, by simp [isSymbol, hblank, hword, hdigit, hquote, hmark], ?_⟩
  intro hc
  simpa [hc] using hminus

/-- A character that is not blank begins a lexeme that covers it together with as many of the
characters behind it as are said to belong to the lexeme. -/
theorem covers_beginning {c : Char} (hblank : isBlank c = false) (following : List Char) :
    ∃ own behind, following = own ++ behind ∧ own.length = (beginning c following).2 ∧
      (beginning c following).1.Covers (c :: own) behind := by
  cases hmark : mark? c with
  | some mark =>
      rw [beginning_of_mark? hmark]
      exact ⟨[], following, rfl, rfl, covers_mark hmark following⟩
  | none =>
      simp only [beginning, hmark]
      split
      · next hquote =>
          rw [hquote]
          exact covers_quoted following
      · next hquote =>
          split
          · next hnumber =>
              exact ⟨_, _, List.takeWhile_append_dropWhile.symm, rfl, covers_number hnumber⟩
          · next hnumber =>
              split
              · next hword =>
                  exact ⟨_, _, List.takeWhile_append_dropWhile.symm, rfl, covers_word hword _⟩
              · next hword =>
                  exact ⟨[], following, rfl, rfl, covers_symbol hblank hmark hquote
                    (eq_false_of_ne_true hnumber) (eq_false_of_ne_true hword)⟩

end Lexeme

/-! The derivation over the whole text. -/

/-- The tokens cover the text, the first character of which stands on `column`, up to blanks. -/
inductive Tiles : Nat → List Char → List Token → Prop
  | done (column : Nat) : Tiles column [] []
  | blank {column : Nat} {c : Char} {rest : List Char} {tokens : List Token}
      (h : isBlank c = true) (hrest : Tiles (column + 1) rest tokens) :
      Tiles column (c :: rest) tokens
  | token {column : Nat} {own behind : List Char} {lexeme : Lexeme} {tokens : List Token}
      (h : lexeme.Covers own behind) (hrest : Tiles (column + own.length) behind tokens) :
      Tiles column (own ++ behind) (⟨lexeme, column, column + own.length - 1⟩ :: tokens)

theorem tiles_tokensFrom (column : Nat) (text : List Char) :
    ∃ tokens, Scanner.tokensFrom column text = tokens ++ [Token.endAt (column + text.length)] ∧
      Tiles column text tokens := by
  fun_induction Scanner.tokensFrom column text with
  | case1 column => exact ⟨[], by simp, .done column⟩
  | case2 column c cs hblank ih =>
      obtain ⟨tokens, htokens, htiles⟩ := ih
      refine ⟨tokens, ?_, .blank hblank htiles⟩
      rw [htokens, List.length_cons, Nat.add_right_comm, Nat.add_assoc]
  | case3 column c cs hblank lexeme extent hbeginning ih =>
      obtain ⟨own, behind, hsplit, hlength, hcovers⟩ :=
        Lexeme.covers_beginning (eq_false_of_ne_true hblank) cs
      rw [hbeginning] at hlength hcovers
      obtain rfl : own.length = extent := hlength
      obtain rfl : cs = own ++ behind := hsplit
      rw [List.drop_left] at ih ⊢
      obtain ⟨tokens, htokens, htiles⟩ := ih
      have hend : column + own.length + 1 + behind.length =
          column + (c :: (own ++ behind)).length := by
        simp only [List.length_cons, List.length_append]
        omega
      exact ⟨_ :: tokens, by rw [htokens, hend]; rfl, .token hcovers htiles⟩

namespace Tiles

/-- The first token stands behind blanks, and the rest of the tokens tile what is behind it. -/
theorem uncons {column : Nat} {text : List Char} {token : Token} {tokens : List Token}
    (h : Tiles column text (token :: tokens)) :
    ∃ blanks own behind, text = blanks ++ (own ++ behind) ∧ blanks.all isBlank = true ∧
      token.column = column + blanks.length ∧ token.endColumn + 1 = token.column + own.length ∧
      token.lexeme.Covers own behind ∧ Tiles (token.endColumn + 1) behind tokens := by
  generalize htokens : token :: tokens = all at h
  induction h with
  | done column => simp at htokens
  | @blank column c rest all hblank _ ih =>
      obtain ⟨blanks, own, behind, rfl, hblanks, hcolumn, hend, hcovers, htiles⟩ := ih htokens
      refine ⟨c :: blanks, own, behind, rfl, ?_, ?_, hend, hcovers, htiles⟩
      · rw [List.all_cons, hblank, hblanks]
        rfl
      · rw [hcolumn, List.length_cons]
        omega
  | @token column own behind lexeme all hcovers hrest _ =>
      obtain ⟨rfl, rfl⟩ := List.cons.inj htokens
      have hlength := List.length_pos_iff.mpr hcovers.ne_nil
      have hend : column + own.length - 1 + 1 = column + own.length := by omega
      exact ⟨[], own, behind, rfl, rfl, rfl, hend, hcovers, by rw [hend]; exact hrest⟩

/-- Behind some of the tokens the rest of them tile the rest of the text. -/
theorem drop {column : Nat} {text : List Char} {before tokens : List Token}
    (h : Tiles column text (before ++ tokens)) :
    ∃ skipped rest, text = skipped ++ rest ∧ Tiles (column + skipped.length) rest tokens := by
  induction before generalizing column text with
  | nil => exact ⟨[], text, rfl, h⟩
  | cons token before ih =>
      obtain ⟨blanks, own, behind, rfl, -, hcolumn, hend, -, htiles⟩ := h.uncons
      obtain ⟨skipped, rest, rfl, hrest⟩ := ih htiles
      refine ⟨blanks ++ (own ++ skipped), rest, by simp, ?_⟩
      have hstart : token.endColumn + 1 + skipped.length =
          column + (blanks ++ (own ++ skipped)).length := by
        simp only [List.length_append]
        omega
      rwa [hstart] at hrest

/-- Where a token stands and what it covers. -/
theorem exists_split {column : Nat} {text : List Char} {tokens : List Token} {token : Token}
    (h : Tiles column text tokens) (hmem : token ∈ tokens) :
    ∃ before own behind, text = before ++ (own ++ behind) ∧
      token.column = column + before.length ∧ token.endColumn + 1 = token.column + own.length ∧
      token.lexeme.Covers own behind := by
  obtain ⟨front, back, rfl⟩ := List.append_of_mem hmem
  obtain ⟨skipped, rest, rfl, hrest⟩ := h.drop
  obtain ⟨blanks, own, behind, rfl, -, hcolumn, hend, hcovers, -⟩ := hrest.uncons
  refine ⟨skipped ++ blanks, own, behind, by simp, ?_, hend, hcovers⟩
  rw [hcolumn, List.length_append, Nat.add_assoc]

theorem pairwise {column : Nat} {text : List Char} {tokens : List Token}
    (h : Tiles column text tokens) : tokens.Pairwise (·.endColumn < ·.column) := by
  induction h with
  | done column => exact .nil
  | blank _ _ ih => exact ih
  | @token column own behind lexeme tokens hcovers hrest ih =>
      refine .cons ?_ ih
      intro later hlater
      obtain ⟨before, _, _, -, hcolumn, -⟩ := hrest.exists_split hlater
      have hlength := List.length_pos_iff.mpr hcovers.ne_nil
      change column + own.length - 1 < later.column
      omega

/-- A character that no token covers is a blank. -/
theorem isBlank_of_uncovered {column : Nat} {text : List Char} {tokens : List Token}
    (h : Tiles column text tokens) {i : Nat} (hi : i < text.length)
    (huncovered : ∀ t ∈ tokens, ¬ (t.column ≤ column + i ∧ column + i ≤ t.endColumn)) :
    isBlank text[i] = true := by
  induction h generalizing i with
  | done column => simp at hi
  | blank hblank _ ih =>
      cases i with
      | zero => exact hblank
      | succ i =>
          refine ih (by simpa using hi) ?_
          intro t ht
          have hnot := huncovered t ht
          omega
  | @token column own behind lexeme tokens hcovers hrest ih =>
      have hbehind : own.length ≤ i := by
        have hnot := huncovered _ List.mem_cons_self
        simp only at hnot
        omega
      rw [List.getElem_append_right hbehind]
      refine ih _ ?_
      intro t ht
      have hnot := huncovered t (List.mem_cons_of_mem _ ht)
      omega

end Tiles

/-! Columns of the whole text. -/

/-- The characters of a text from one column to another, both included. -/
def slice (text : List Char) (first last : Nat) : List Char := (text.take last).drop (first - 1)

theorem slice_append (before own behind : List Char) :
    slice (before ++ (own ++ behind)) (1 + before.length) (before.length + own.length) = own := by
  rw [slice, ← List.append_assoc, ← List.length_append, List.take_left, Nat.add_sub_cancel_left,
    List.drop_left]

theorem Tiles.covers_slice {text : List Char} {tokens : List Token} (h : Tiles 1 text tokens)
    {t : Token} (ht : t ∈ tokens) :
    1 ≤ t.column ∧ t.column ≤ t.endColumn ∧ t.endColumn ≤ text.length ∧
      t.lexeme.Covers (slice text t.column t.endColumn) (text.drop t.endColumn) := by
  obtain ⟨before, own, behind, rfl, hcolumn, hend, hcovers⟩ := h.exists_split ht
  have hlength := List.length_pos_iff.mpr hcovers.ne_nil
  have hlast : t.endColumn = before.length + own.length := by omega
  refine ⟨by omega, by omega, ?_, ?_⟩
  · simp only [List.length_append]
    omega
  · rw [hcolumn, hlast, slice_append, ← List.length_append, ← List.append_assoc, List.drop_left]
    exact hcovers

theorem exists_tiles_tokenize (declaration : String) :
    ∃ tokens, tokenize declaration = tokens ++ [Token.endAt (declaration.length + 1)] ∧
      Tiles 1 declaration.toList tokens := by
  obtain ⟨tokens, htokens, htiles⟩ := tiles_tokensFrom 1 declaration.toList
  rw [String.length_toList, Nat.add_comm] at htokens
  exact ⟨tokens, htokens, htiles⟩

namespace Scanner

/-- However often a text has been split into tokens, nothing but its end is left of it. -/
theorem iterate_run (s : Scanner) (k : Nat) :
    (fun s => (run s).2)^[k + 1] s = ⟨[], s.column + s.rest.length⟩ := by
  induction k with
  | zero => rfl
  | succ k ih =>
      rw [Function.iterate_succ_apply', ih]
      rfl

/-- The tokens of a declaration stand in order and apart from each other, each on the characters
that it is made of, and only blanks are left between them. The end mark stands behind the last
character, and is all that is found when the text is split again. -/
theorem run_ofString_tiling (declaration : String) :
    ∃ tokens, (ofString declaration).run.1 = tokens ++ [Token.endAt (declaration.length + 1)] ∧
      (∀ t ∈ tokens, t.lexeme ≠ .endMark ∧
        1 ≤ t.column ∧ t.column ≤ t.endColumn ∧ t.endColumn ≤ declaration.length ∧
        t.lexeme.Covers (slice declaration.toList t.column t.endColumn)
          (declaration.toList.drop t.endColumn)) ∧
      tokens.Pairwise (·.endColumn < ·.column) ∧
      (∀ (i : Nat) (hi : i < declaration.toList.length),
        (∀ t ∈ tokens, ¬ (t.column ≤ i + 1 ∧ i + 1 ≤ t.endColumn)) →
        isBlank declaration.toList[i] = true) ∧
      ∀ k, ((fun s => (run s).2)^[k + 1] (ofString declaration)).run.1 =
        [Token.endAt (declaration.length + 1)] := by
  obtain ⟨tokens, htokens, htiles⟩ := exists_tiles_tokenize declaration
  refine ⟨tokens, htokens, ?_, htiles.pairwise, ?_, ?_⟩
  · intro t ht
    obtain ⟨hfirst, horder, hlast, hcovers⟩ := htiles.covers_slice ht
    rw [String.length_toList] at hlast
    refine ⟨?_, hfirst, horder, hlast, hcovers⟩
    intro hmark
    rw [hmark] at hcovers
    exact hcovers
  · intro i hi huncovered
    refine htiles.isBlank_of_uncovered hi ?_
    simpa only [Nat.add_comm] using huncovered
  · intro k
    rw [iterate_run, run, ofString, tokensFrom_nil, String.length_toList, Nat.add_comm]

end Scanner

end WorkflowParams.Declaration
