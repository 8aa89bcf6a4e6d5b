import WorkflowParams.Proofs.Tiling

/-!
A tiling is what the lexer finds: which token comes next is decided by what the tokens may cover.
So texts can be cut and put together without looking at how the lexer goes over them. A text may be
cut wherever no token is, and another may be put behind it that begins with a character that goes on
with no token, unless a string literal is left open.
-/

namespace WorkflowParams.Declaration

open WorkflowParams.Text

/-! String literals are read back from what is inside them. -/

theorem not_quotesEscaped_append {inside : List Char} (h : escapesNext inside = false)
    (behind : List Char) : ¬ QuotesEscaped (inside ++ '"' :: behind) := by
  intro hescaped
  have hbegins : inside ++ ['"'] <+: inside ++ '"' :: behind := ⟨behind, by simp⟩
  rw [hescaped inside hbegins] at h
  exact Bool.true_eq_false.mp h

/-- The first quote that is not escaped has its place. -/
theorem eq_of_append_quote {inside inside' behind behind' : List Char} (h : QuotesEscaped inside)
    (hopen : escapesNext inside = false) (h' : QuotesEscaped inside')
    (hopen' : escapesNext inside' = false)
    (heq : inside ++ '"' :: behind = inside' ++ '"' :: behind') : inside = inside' := by
  rcases List.append_eq_append_iff.mp heq with ⟨more, rfl, hmore⟩ | ⟨more, rfl, hmore⟩
  · cases more with
    | nil => simp
    | cons c more =>
        obtain ⟨rfl, -⟩ := List.cons.inj hmore
        exact absurd h' (not_quotesEscaped_append hopen more)
  · cases more with
    | nil => simp
    | cons c more =>
        obtain ⟨rfl, -⟩ := List.cons.inj hmore
        exact absurd h (not_quotesEscaped_append hopen' more)

theorem quoted_of_closed {inside : List Char} (h : QuotesEscaped inside)
    (hopen : escapesNext inside = false) (behind : List Char) :
    quotedValue (inside ++ '"' :: behind) = unescape inside ∧
      quotedExtent (inside ++ '"' :: behind) = inside.length + 1 := by
  obtain ⟨inside', behind', hvalue, h', hend⟩ := exists_quoted (inside ++ '"' :: behind)
  rcases hend with ⟨heq, hopen', hextent⟩ | ⟨rfl, -⟩
  · obtain rfl := eq_of_append_quote h hopen h' hopen' heq
    exact ⟨hvalue, hextent⟩
  · exact absurd h' (not_quotesEscaped_append hopen behind)

theorem quoted_of_unclosed {inside : List Char} (h : QuotesEscaped inside) :
    quotedValue inside = unescape inside ∧ quotedExtent inside = inside.length := by
  obtain ⟨inside', behind, hvalue, -, hend⟩ := exists_quoted inside
  rcases hend with ⟨rfl, hopen, -⟩ | ⟨rfl, hextent⟩
  · exact absurd h (not_quotesEscaped_append hopen behind)
  · exact ⟨hvalue, hextent⟩

/-! Characters that may stand behind a token. -/

theorem toNat_of_continuesNumber {c : Char} (h : continuesNumber c = true) :
    46 ≤ c.toNat ∧ c.toNat ≤ 122 := by
  change 46 ≤ c.val.toNat ∧ c.val.toNat ≤ 122
  delta continuesNumber Char.isAlphanum Char.isAlpha Char.isUpper Char.isLower Char.isDigit at h
  simp only [Bool.or_eq_true, Bool.and_eq_true, decide_eq_true_eq, ge_iff_le,
    UInt32.le_iff_toNat_le] at h
  rcases h with ((h | h) | h) | rfl
  · exact ⟨Nat.le_trans (by decide) h.1, Nat.le_trans h.2 (by decide)⟩
  · exact ⟨Nat.le_trans (by decide) h.1, Nat.le_trans h.2 (by decide)⟩
  · exact ⟨Nat.le_trans (by decide) h.1, Nat.le_trans h.2 (by decide)⟩
  · decide

theorem continuesNumber_of_isDigit {c : Char} (h : c.isDigit = true) :
    continuesNumber c = true := by
  simp [continuesNumber, Char.isAlphanum, h]

theorem isBlank_of_continuesNumber {c : Char} (h : continuesNumber c = true) :
    isBlank c = false := by
  apply eq_false_of_ne_true
  intro hblank
  have hbounds := toNat_of_continuesNumber h
  have hgap := toNat_of_isBlank hblank
  omega

theorem isBlank_of_continuesWord {c : Char} (h : continuesWord c = true) : isBlank c = false := by
  simp only [continuesWord, isAlphanumeric, Bool.or_eq_true, decide_eq_true_eq] at h
  rcases h with (hletter | hnumeric) | rfl
  · exact isBlank_of_isAlphabetic hletter
  · exact isBlank_of_isNumeric hnumeric
  · decide

/-- A character that no word and no number goes on over. -/
def isSeparator (c : Char) : Bool := !continuesWord c && !continuesNumber c

theorem isSeparator_of_isBlank {c : Char} (h : isBlank c = true) : isSeparator c = true := by
  have hword : continuesWord c = false := by
    apply eq_false_of_ne_true
    intro hcontinues
    simp [isBlank_of_continuesWord hcontinues] at h
  have hnumber : continuesNumber c = false := by
    apply eq_false_of_ne_true
    intro hcontinues
    simp [isBlank_of_continuesNumber hcontinues] at h
  simp [isSeparator, hword, hnumber]

/-! What a lexeme covers is read as that lexeme. -/

/-- A string literal without its closing quote. -/
def Unclosed (own : List Char) : Prop := ∃ inside, own = '"' :: inside ∧ QuotesEscaped inside

namespace Lexeme

theorem startsNumber_of_mark? {c : Char} {mark : Lexeme} (h : mark? c = some mark)
    (following : List Char) : startsNumber c following = false := by
  unfold mark? at h
  split at h
  case h_9 => exact absurd h (by simp)
  all_goals rfl

theorem mark?_of_startsNumber {c : Char} {following : List Char}
    (h : startsNumber c following = true) : mark? c = none := by
  cases hmark : mark? c with
  | none => rfl
  | some mark => simp [startsNumber_of_mark? hmark] at h

theorem isBlank_of_startsNumber {c : Char} {following : List Char}
    (h : startsNumber c following = true) : isBlank c = false := by
  cases Bool.or_eq_true_iff.mp h with
  | inl hdigit => exact isBlank_of_continuesNumber (continuesNumber_of_isDigit hdigit)
  | inr hminus =>
      rw [of_decide_eq_true (Bool.and_eq_true_iff.mp hminus).1]
      decide

theorem startsNumber_append {c : Char} {following : List Char}
    (h : startsNumber c following = true) (behind : List Char) :
    startsNumber c (following ++ behind) = true := by
  cases following with
  | nil => simp_all [startsNumber]
  | cons d following => exact h

theorem beginning_of_startsNumber {c : Char} {following : List Char}
    (h : startsNumber c following = true) :
    beginning c following =
      (.number (String.ofList (c :: following.takeWhile continuesNumber)),
        (following.takeWhile continuesNumber).length) := by
  have hquote : c ≠ '"' := by
    rintro rfl
    simp [startsNumber] at h
  simp [beginning, mark?_of_startsNumber h, hquote, h]

theorem beginning_quote (following : List Char) :
    beginning '"' following =
      (.quoted (String.ofList (quotedValue following)), quotedExtent following) := rfl

theorem exists_beginning_of_mark? {c : Char} {mark : Lexeme} {own : List Char} (hown : own = [c])
    (hmark : mark? c = some mark) (behind : List Char) :
    ∃ c following, own = c :: following ∧ isBlank c = false ∧
      beginning c (following ++ behind) = (mark, following.length) :=
  ⟨c, [], hown, (of_mark?_eq_some hmark).1, beginning_of_mark? hmark behind⟩

/-- A text that a lexeme covers begins with a character that the lexeme begins with, and extends
over the rest of it. -/
theorem Covers.beginning {lexeme : Lexeme} {own behind : List Char}
    (h : lexeme.Covers own behind) :
    ∃ c following, own = c :: following ∧ isBlank c = false ∧
      Lexeme.beginning c (following ++ behind) = (lexeme, following.length) := by
  cases lexeme with
  | word text =>
      obtain ⟨rfl, hword, hbehind⟩ := h
      cases htext : text.toList with
      | nil => simp [htext, isWord] at hword
      | cons c letters =>
          rw [htext, isWord, Bool.and_eq_true] at hword
          refine ⟨c, letters, rfl, isBlank_of_startsWord hword.1, ?_⟩
          rw [beginning_of_startsWord hword.1, takeWhile_append_of_head? hword.2 hbehind, ← htext,
            String.ofList_toList]
  | number text =>
      obtain ⟨rfl, hnumber, hbehind⟩ := h
      cases htext : text.toList with
      | nil => simp [htext, isNumber] at hnumber
      | cons c digits =>
          rw [htext, isNumber, Bool.and_eq_true] at hnumber
          refine ⟨c, digits, rfl, isBlank_of_startsNumber hnumber.1, ?_⟩
          rw [beginning_of_startsNumber (startsNumber_append hnumber.1 behind),
            takeWhile_append_of_head? hnumber.2 hbehind, ← htext, String.ofList_toList]
  | quoted value =>
      obtain ⟨inside, rfl, hinside, ⟨rfl, hopen⟩ | ⟨rfl, rfl⟩⟩ := h
      · obtain ⟨hvalue, hextent⟩ := quoted_of_closed hinside hopen behind
        refine ⟨'"', inside ++ ['"'], rfl, by decide, ?_⟩
        rw [List.append_assoc, List.singleton_append, beginning_quote, hvalue, hextent]
        simp
      · obtain ⟨hvalue, hextent⟩ := quoted_of_unclosed hinside
        refine ⟨'"', inside, rfl, by decide, ?_⟩
        rw [List.append_nil, beginning_quote, hvalue, hextent]
  | symbol c =>
      obtain ⟨rfl, hsymbol, hminus⟩ := h
      simp only [isSymbol, Bool.and_eq_true, Bool.not_eq_true', decide_eq_true_eq,
        Option.isNone_iff_eq_none] at hsymbol
      obtain ⟨⟨⟨⟨hblank, hword⟩, hdigit⟩, hquote⟩, hmark⟩ := hsymbol
      have hnumber : startsNumber c behind = false := by
        by_cases hc : c = '-'
        · simp [startsNumber, hdigit, hminus hc]
        · simp [startsNumber, hdigit, hc]
      refine ⟨c, [], rfl, hblank, ?_⟩
      simp [Lexeme.beginning, hmark, hquote, hnumber, hword]
  | leftBracket => exact exists_beginning_of_mark? h rfl behind
  | rightBracket => exact exists_beginning_of_mark? h rfl behind
  | plus => exact exists_beginning_of_mark? h rfl behind
  | question => exact exists_beginning_of_mark? h rfl behind
  | leftParen => exact exists_beginning_of_mark? h rfl behind
  | rightParen => exact exists_beginning_of_mark? h rfl behind
  | comma => exact exists_beginning_of_mark? h rfl behind
  | equal => exact exists_beginning_of_mark? h rfl behind
  | endMark => exact h.elim

theorem Covers.eq_quoted_of_unclosed {lexeme : Lexeme} {own behind : List Char}
    (h : lexeme.Covers own behind) (hopen : Unclosed own) : ∃ value, lexeme = .quoted value := by
  obtain ⟨c, following, rfl, -, hbeginning⟩ := h.beginning
  obtain ⟨inside, hown, -⟩ := hopen
  obtain ⟨rfl, rfl⟩ := List.cons.inj hown
  rw [beginning_quote] at hbeginning
  exact ⟨_, (congrArg Prod.fst hbeginning).symm⟩

/-- Whether a lexeme covers a text depends on the first character behind it, and for a string
literal that is not closed on whether there is any. -/
theorem Covers.of_behind {lexeme : Lexeme} {own behind behind' : List Char}
    (h : lexeme.Covers own behind)
    (hhead : ∀ c, behind'.head? = some c → behind.head? = some c ∨ isSeparator c = true)
    (hopen : Unclosed own → behind = [] → behind' = []) : lexeme.Covers own behind' := by
  have hclass {p : Char → Bool} (hseparator : ∀ c, isSeparator c = true → p c = false)
      (hbehind : behind.head?.any p = false) : behind'.head?.any p = false := by
    cases hc : behind'.head? with
    | none => rfl
    | some c =>
        rcases hhead c hc with hsame | hc
        · rw [hsame] at hbehind
          exact hbehind
        · exact hseparator c hc
  have hdigit (c : Char) (hc : isSeparator c = true) : c.isDigit = false := by
    apply eq_false_of_ne_true
    intro hdigit
    simp [isSeparator, continuesNumber_of_isDigit hdigit] at hc
  cases lexeme with
  | word text =>
      obtain ⟨rfl, hword, hbehind⟩ := h
      exact ⟨rfl, hword, hclass (fun c hc => by simp_all [isSeparator]) hbehind⟩
  | number text =>
      obtain ⟨rfl, hnumber, hbehind⟩ := h
      exact ⟨rfl, hnumber, hclass (fun c hc => by simp_all [isSeparator]) hbehind⟩
  | quoted value =>
      obtain ⟨inside, hvalue, hinside, hend⟩ := h
      refine ⟨inside, hvalue, hinside, ?_⟩
      rcases hend with hclosed | ⟨hown, hbehind⟩
      · exact .inl hclosed
      · exact .inr ⟨hown, hopen ⟨inside, hown, hinside⟩ hbehind⟩
  | symbol c =>
      obtain ⟨rfl, hsymbol, hminus⟩ := h
      exact ⟨rfl, hsymbol, fun hc => hclass hdigit (hminus hc)⟩
  | leftBracket | rightBracket | plus | question | leftParen | rightParen | comma | equal
  | endMark => exact h

end Lexeme

/-- The token on columns that are `n` higher. -/
def Token.shift (n : Nat) (t : Token) : Token := ⟨t.lexeme, t.column + n, t.endColumn + n⟩

theorem Token.shift_endAt (n column : Nat) : (endAt column).shift n = endAt (column + n) := rfl

namespace Tiles

variable {column : Nat} {text front back : List Char} {tokens before after : List Token}

/-- Only the tokens that the lexer finds tile a text. -/
theorem tokensFrom_eq (h : Tiles column text tokens) :
    Scanner.tokensFrom column text = tokens ++ [Token.endAt (column + text.length)] := by
  induction h with
  | done column => simp
  | @blank column c rest tokens hblank _ ih =>
      rw [Scanner.tokensFrom_cons_of_isBlank hblank, ih, List.length_cons, Nat.add_right_comm,
        Nat.add_assoc]
  | @token column own behind lexeme tokens hcovers _ ih =>
      obtain ⟨c, following, rfl, hblank, hbeginning⟩ := hcovers.beginning
      rw [List.cons_append, Scanner.tokensFrom_cons_of_not_isBlank hblank, hbeginning,
        List.drop_left]
      have hlength : column + (c :: following).length = column + following.length + 1 := rfl
      have hend : column + following.length + 1 + behind.length =
          column + (c :: (following ++ behind)).length := by
        simp only [List.length_cons, List.length_append]
        omega
      rw [hlength, hend] at ih
      rw [ih, hlength]
      rfl

theorem tokenize_eq {declaration : String} (h : Tiles 1 declaration.toList tokens) :
    tokenize declaration = tokens ++ [Token.endAt (declaration.length + 1)] := by
  have htokens := h.tokensFrom_eq
  rwa [String.length_toList, Nat.add_comm 1] at htokens

theorem shift (h : Tiles column text tokens) (n : Nat) :
    Tiles (column + n) text (tokens.map (Token.shift n)) := by
  induction h with
  | done column => exact .done _
  | blank hblank _ ih =>
      rw [Nat.add_right_comm] at ih
      exact .blank hblank ih
  | @token column own behind lexeme tokens hcovers _ ih =>
      rw [Nat.add_right_comm] at ih
      have hlength := List.length_pos_iff.mpr hcovers.ne_nil
      have hend : column + own.length - 1 + n = column + n + own.length - 1 := by omega
      rw [List.map_cons, Token.shift, hend]
      exact .token hcovers ih

theorem bounds (h : Tiles column text tokens) {t : Token} (ht : t ∈ tokens) :
    column ≤ t.column ∧ t.column ≤ t.endColumn ∧ t.endColumn < column + text.length := by
  obtain ⟨before, own, behind, rfl, hcolumn, hend, hcovers⟩ := h.exists_split ht
  have hlength := List.length_pos_iff.mpr hcovers.ne_nil
  simp only [List.length_append]
  omega

/-- Blanks in front of a text move its tokens. -/
theorem blanks_append {blanks : List Char} (hblanks : blanks.all isBlank = true)
    (h : Tiles (column + blanks.length) text tokens) : Tiles column (blanks ++ text) tokens := by
  induction blanks generalizing column with
  | nil => exact h
  | cons c blanks ih =>
      rw [List.all_cons, Bool.and_eq_true] at hblanks
      refine .blank hblanks.1 (ih hblanks.2 ?_)
      rwa [List.length_cons, Nat.add_comm blanks.length, ← Nat.add_assoc] at h

/-- A text can be cut where no token is. -/
theorem cut (h : Tiles column (front ++ back) tokens)
    (hcut : ∀ t ∈ tokens, column + front.length ≤ t.column ∨
      t.endColumn < column + front.length) :
    ∃ before after, tokens = before ++ after ∧ Tiles column front before ∧
      Tiles (column + front.length) back after := by
  generalize htext : front ++ back = text at h
  induction h generalizing front with
  | done column =>
      obtain ⟨rfl, rfl⟩ := List.append_eq_nil_iff.mp htext
      exact ⟨[], [], rfl, .done column, .done column⟩
  | @blank column c rest tokens hblank hrest ih =>
      cases front with
      | nil =>
          obtain rfl : back = c :: rest := htext
          exact ⟨[], tokens, rfl, .done column, .blank hblank hrest⟩
      | cons c' front =>
          obtain ⟨rfl, hsplit⟩ := List.cons.inj htext
          have hlength : column + 1 + front.length = column + (c' :: front).length := by
            rw [List.length_cons, Nat.add_comm front.length, Nat.add_assoc]
          rw [← hlength] at hcut ⊢
          obtain ⟨before, after, rfl, hbefore, hafter⟩ := ih hcut hsplit
          exact ⟨before, after, rfl, .blank hblank hbefore, hafter⟩
  | @token column own behind lexeme tokens hcovers hrest ih =>
      have hpos := List.length_pos_iff.mpr hcovers.ne_nil
      -- The tiling begins with a token, so the cut is in front of everything or behind this token.
      rcases hcut _ List.mem_cons_self with hbehind | hfront
      · obtain rfl : front = [] := List.length_eq_zero_iff.mp (by simp only at hbehind; omega)
        obtain rfl : back = own ++ behind := htext
        exact ⟨[], _, rfl, .done column, .token hcovers hrest⟩
      · have hle : own.length ≤ front.length := by simp only at hfront; omega
        obtain ⟨front, rfl⟩ : own <+: front :=
          List.prefix_of_prefix_length_le (List.prefix_append own behind) ⟨back, htext⟩ hle
        rw [List.append_assoc, List.append_right_inj] at htext
        subst htext
        rw [List.length_append, ← Nat.add_assoc] at hcut ⊢
        obtain ⟨before, after, rfl, hbefore, hafter⟩ :=
          ih (fun t ht => hcut t (List.mem_cons_of_mem _ ht)) rfl
        refine ⟨_ :: before, after, rfl, .token (hcovers.of_behind ?_ ?_) hbefore, hafter⟩
        · intro c hc
          rw [List.head?_append, hc]
          exact .inl rfl
        · intro _ hnil
          exact (List.append_eq_nil_iff.mp hnil).1

/-- Texts can be put together if no token goes on from one to the other. -/
theorem append (hfront : Tiles column front before)
    (hback : Tiles (column + front.length) back after)
    (hseparator : ∀ c, back.head? = some c → isSeparator c = true)
    (hclosed : ∀ t ∈ before, ¬ Unclosed (front.drop (t.column - column))) :
    Tiles column (front ++ back) (before ++ after) := by
  induction hfront with
  | done column => exact hback
  | @blank column c rest tokens hblank hrest ih =>
      have hlength : column + 1 + rest.length = column + (c :: rest).length := by
        rw [List.length_cons, Nat.add_comm rest.length, Nat.add_assoc]
      refine .blank hblank (ih (hlength ▸ hback) ?_)
      intro t ht
      have hcolumn := (hrest.bounds ht).1
      have hopen := hclosed t ht
      rwa [show t.column - column = t.column - (column + 1) + 1 by omega, List.drop_succ_cons]
        at hopen
  | @token column own behind lexeme tokens hcovers hrest ih =>
      rw [List.length_append, ← Nat.add_assoc] at hback
      rw [List.append_assoc]
      refine .token (hcovers.of_behind ?_ ?_) (ih hback ?_)
      -- Only a token that reaches the end of the front meets what is put behind it.
      · intro c hc
        cases behind with
        | nil => exact .inr (hseparator c hc)
        | cons d behind => exact .inl hc
      · rintro hopen rfl
        refine absurd hopen ?_
        simpa using hclosed _ List.mem_cons_self
      · intro t ht
        have hcolumn := (hrest.bounds ht).1
        have hopen := hclosed t (List.mem_cons_of_mem _ ht)
        rwa [show t.column - column = own.length + (t.column - (column + own.length)) by omega,
          List.drop_length_add_append] at hopen

end Tiles

/-! String literals that are left open. -/

theorem QuotesEscaped.of_append {inside behind : List Char} (h : QuotesEscaped (inside ++ behind)) :
    QuotesEscaped inside :=
  fun before hbefore => h before (hbefore.trans (List.prefix_append inside behind))

/-- A string literal is left open only at the end of the text. -/
theorem Lexeme.Covers.unclosed_append {lexeme : Lexeme} {own behind : List Char}
    (h : lexeme.Covers own behind) (hopen : Unclosed (own ++ behind)) :
    Unclosed own ∧ behind = [] := by
  obtain ⟨inside, hsplit, hinside⟩ := hopen
  obtain ⟨c, following, rfl, -, hbeginning⟩ := h.beginning
  rw [List.cons_append, List.cons.injEq] at hsplit
  obtain ⟨rfl, rfl⟩ := hsplit
  have hown : Unclosed ('"' :: following) := ⟨following, rfl, hinside.of_append⟩
  obtain ⟨value, rfl⟩ := h.eq_quoted_of_unclosed hown
  obtain ⟨inside', -, -, ⟨hclosed, hescape⟩ | ⟨-, hbehind⟩⟩ := h
  · obtain rfl := (List.cons.inj hclosed).2
    rw [List.append_assoc, List.singleton_append] at hinside
    exact absurd hinside (not_quotesEscaped_append hescape behind)
  · exact ⟨hown, hbehind⟩

theorem Tiles.unclosed_drop {text : List Char} {tokens : List Token} (h : Tiles 1 text tokens)
    {t : Token} (ht : t ∈ tokens) (hopen : Unclosed (text.drop (t.column - 1))) :
    Unclosed (slice text t.column t.endColumn) ∧ t.endColumn = text.length := by
  obtain ⟨before, own, behind, rfl, hcolumn, hend, hcovers⟩ := h.exists_split ht
  rw [hcolumn, Nat.add_sub_cancel_left, List.drop_left] at hopen
  obtain ⟨hown, rfl⟩ := hcovers.unclosed_append hopen
  have hlast : t.endColumn = before.length + own.length := by omega
  rw [hcolumn, hlast, slice_append]
  exact ⟨hown, by simp⟩

end WorkflowParams.Declaration
