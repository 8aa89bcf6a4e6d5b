import WorkflowParams.Proofs.Pointing

/-!
What the reader of types does not look at. Columns only go into complaints, and values of string
literals only into what a complaint says it has found. So a change of these, if it keeps the order
of columns, can be made before a reading or after it.
-/

namespace WorkflowParams.Declaration

/-- A change of columns and of the values of string literals. -/
structure Relabeling where
  column : Nat → Nat
  column_le : ∀ {i j : Nat}, i ≤ j → column i ≤ column j
  value : String → String

namespace Relabeling

variable (ρ : Relabeling)

def span (s : Span) : Span := ⟨ρ.column s.start, ρ.column s.stop, ρ.column_le s.start_le_stop⟩

def lexeme : Lexeme → Lexeme
  | .quoted value => .quoted (ρ.value value)
  | other => other

def token (t : Token) : Token := ⟨ρ.lexeme t.lexeme, ρ.column t.column, ρ.column t.endColumn⟩

def complaint : Complaint → Complaint
  | .noType => .noType
  | .bareArray name => .bareArray (ρ.span name)
  | .emptyBrackets brackets => .emptyBrackets (ρ.span brackets)
  | .innerType p bracket => .innerType p (ρ.span bracket)
  | .unexpected wanted found place => .unexpected wanted (ρ.lexeme found) (ρ.span place)
  | .ended wanted place => .ended wanted (ρ.span place)
  | .tooDeep name => .tooDeep (ρ.span name)
  | .unsupported name place => .unsupported name (ρ.span place)

def reading (r : Reading) : Reading := (r.1.mapError ρ.complaint, r.2.map ρ.token)

theorem span_ofColumns (start stop : Nat) :
    ρ.span (Span.ofColumns start stop) = Span.ofColumns (ρ.column start) (ρ.column stop) := by
  rcases Nat.le_total start stop with h | h
  · simp [span, Span.ofColumns, Nat.max_eq_left h, Nat.max_eq_left (ρ.column_le h)]
  · simp [span, Span.ofColumns, Nat.max_eq_right h, Nat.max_eq_right (ρ.column_le h)]

theorem span_token (t : Token) : (ρ.token t).span = ρ.span t.span :=
  (ρ.span_ofColumns t.column t.endColumn).symm

theorem kind_complaint (c : Complaint) : (ρ.complaint c).kind = c.kind := by
  cases c <;> rfl

/-- If lexemes stay as they are, so do all words of a diagnostic. -/
theorem toDiagnostic_complaint (h : ∀ l, ρ.lexeme l = l) (c : Complaint) :
    (ρ.complaint c).toDiagnostic =
      { c.toDiagnostic with span := c.toDiagnostic.span.map ρ.span } := by
  cases c with
  | unexpected wanted found place =>
      rw [complaint, h]
      rfl
  | noType | bareArray _ | emptyBrackets _ | innerType _ _ | ended _ _ | tooDeep _
  | unsupported _ _ => rfl

/-- Only string literals are changed, and they stay string literals. -/
theorem lexeme_eq_iff {found mark : Lexeme} (h : ∀ value, mark ≠ .quoted value) :
    ρ.lexeme found = mark ↔ found = mark := by
  cases found with
  | quoted value => exact ⟨fun heq => absurd heq.symm (h _), fun heq => absurd heq.symm (h _)⟩
  | _ => rfl

theorem startsWith_map {mark : Lexeme} (h : ∀ value, mark ≠ .quoted value) (tokens : List Token) :
    startsWith mark (tokens.map ρ.token) = startsWith mark tokens := by
  cases tokens with
  | nil => rfl
  | cons t rest => simp [startsWith, token, ρ.lexeme_eq_iff h]

theorem skip_map {mark : Lexeme} (h : ∀ value, mark ≠ .quoted value) (tokens : List Token) :
    skip mark (tokens.map ρ.token) = (skip mark tokens).map ρ.token := by
  rw [skip, skip, ρ.startsWith_map h]
  split
  · exact List.map_tail.symm
  · rfl

/-! Readings. -/

theorem settle_map (tree : TypeTree) (tokens : List Token) :
    settle tree (tokens.map ρ.token) = ρ.reading (settle tree tokens) := by
  rw [settle, ρ.skip_map (by simp)]
  rfl

theorem readPrimitive_map (p : Primitive) (tokens : List Token) :
    readPrimitive p (tokens.map ρ.token) = ρ.reading (readPrimitive p tokens) := by
  cases tokens with
  | nil => rfl
  | cons t rest =>
      have hbracket : (ρ.token t).lexeme = .leftBracket ↔ t.lexeme = .leftBracket :=
        ρ.lexeme_eq_iff (by simp)
      rw [List.map_cons, readPrimitive, readPrimitive]
      by_cases h : t.lexeme = .leftBracket
      · rw [if_pos h, if_pos (hbracket.mpr h), span_token]
        rfl
      · rw [if_neg h, if_neg (mt hbracket.mp h), ← List.map_cons, settle_map]

theorem closeArray_map (stop : Span) (element : TypeTree) (tokens : List Token) :
    closeArray (ρ.span stop) element (tokens.map ρ.token) =
      ρ.reading (closeArray stop element tokens) := by
  cases tokens with
  | nil => rfl
  | cons t rest =>
      have hbracket : (ρ.token t).lexeme = .rightBracket ↔ t.lexeme = .rightBracket :=
        ρ.lexeme_eq_iff (by simp)
      rw [List.map_cons, closeArray, closeArray]
      by_cases h : t.lexeme = .rightBracket
      · rw [if_pos h, if_pos (hbracket.mpr h), ρ.startsWith_map (by simp), ρ.skip_map (by simp),
          settle_map]
      · rw [if_neg h, if_neg (mt hbracket.mp h), span_token]
        rfl

theorem readType_map (stop : Span) (opened : Nat) (tokens : List Token) :
    readType (ρ.span stop) opened (tokens.map ρ.token) =
      ρ.reading (readType stop opened tokens) := by
  have hmark {t : Token} {mark : Lexeme} (ht : t.lexeme = mark)
      (h : ∀ value, mark ≠ .quoted value) : (ρ.token t).lexeme = mark :=
    (ρ.lexeme_eq_iff h).mpr ht
  have hinner {bracket : Token} {inner : List Token} (h : emptyBrackets? bracket inner = none) :
      startsWith .rightBracket (inner.map ρ.token) = false :=
    (ρ.startsWith_map (by simp) inner).trans (emptyBrackets?_eq_none_iff.mp h)
  fun_induction readType stop opened tokens with
  | case1 opened => rfl
  | case2 opened name hname =>
      rw [List.map_cons, readType_of_bareArray _ opened (hmark hname (by simp)) rfl, span_token]
      rfl
  | case3 opened name opening inner hopening brackets hbrackets hname =>
      obtain ⟨closing, rest, rfl, hclosing, rfl⟩ := emptyBrackets?_eq_some hbrackets
      refine (readType_of_arises (.emptyBrackets (hmark hname (by simp)) (hmark hopening (by simp))
        (hmark hclosing (by simp)))).trans ?_
      simp [reading, Except.mapError, complaint, span_ofColumns, token]
  | case4 opened name opening inner hopening hbrackets hroom element after hread hname ih =>
      rw [List.map_cons, List.map_cons, readType_array _ hroom (hmark hname (by simp))
        (hmark hopening (by simp)) (hinner hbrackets), ih, hread]
      exact ρ.closeArray_map stop element after
  | case5 opened name opening inner hopening hbrackets hroom complaint after hread hname ih =>
      rw [List.map_cons, List.map_cons, readType_array _ hroom (hmark hname (by simp))
        (hmark hopening (by simp)) (hinner hbrackets), ih, hread]
      rfl
  | case6 opened name opening inner hopening hbrackets hfull hname =>
      rw [List.map_cons, List.map_cons, readType_tooDeep _ (Nat.le_of_not_lt hfull)
        (hmark hname (by simp)) (hmark hopening (by simp)) (hinner hbrackets), span_token]
      rfl
  | case7 opened name t rest ht hname =>
      have hopening : startsWith .leftBracket ((t :: rest).map ρ.token) = false := by
        rw [ρ.startsWith_map (by simp)]
        simp [startsWith, ht]
      rw [List.map_cons, readType_of_bareArray _ opened (hmark hname (by simp)) hopening,
        span_token]
      rfl
  | case8 opened name rest text hname harray p hp =>
      rw [Primitive.ofName?_eq_some_iff.mp hp] at hname
      rw [List.map_cons, readType_primitive _ opened (hmark hname (by simp)), readPrimitive_map]
  | case9 opened t rest text hname harray hprimitive =>
      have hword := hmark hname (by simp)
      rw [List.map_cons, readType_of_arises (.unsupported hword harray hprimitive), span_token]
      rfl
  | case10 opened t rest hname =>
      have hnotName (text : String) :
          startsWith (.word text) ((t :: rest).map ρ.token) = false := by
        rw [ρ.startsWith_map (by simp)]
        simpa [startsWith] using hname text
      rw [readType_of_notName _ opened hnotName, List.map_cons, Complaint.instead, span_token]
      rfl

theorem fromFirstWord_map (depth : Nat) (tokens : List Token) :
    fromFirstWord depth (tokens.map ρ.token) = (fromFirstWord depth tokens).map ρ.token := by
  induction tokens generalizing depth with
  | nil => rfl
  | cons t tokens ih =>
      rw [List.map_cons, fromFirstWord, fromFirstWord]
      cases hlexeme : t.lexeme with
      | word text =>
          by_cases hdepth : depth = 0
          · simp [token, hlexeme, lexeme, hdepth]
          · simp [token, hlexeme, lexeme, hdepth, ih]
      | _ => simp only [token, hlexeme, lexeme, ih]

theorem readFirstType_map (stop : Span) (tokens : List Token) :
    readFirstType (ρ.span stop) (tokens.map ρ.token) = ρ.reading (readFirstType stop tokens) := by
  rw [readFirstType, fromFirstWord_map, readFirstType]
  cases fromFirstWord 0 tokens with
  | nil => rfl
  | cons t rest => exact ρ.readType_map stop 0 (t :: rest)

/-- A first reading of the relabeled tokens of a declaration has the relabeled outcome. -/
theorem next_map_tokenize (declaration : String) :
    (Session.ofTokens ((tokenize declaration).map ρ.token)).next.1 =
      (readStructure declaration).mapError ρ.complaint := by
  obtain ⟨tokens, htokens, htiles, hread⟩ := exists_tiles_readStructure declaration
  have hend : ∀ t ∈ tokens.map ρ.token, t.isEnd = false := by
    rw [List.forall_mem_map]
    intro t ht
    simpa [Token.isEnd, token, ρ.lexeme_eq_iff] using htiles.isEnd_of_mem ht
  have hmap : (tokenize declaration).map ρ.token =
      tokens.map ρ.token ++ [.endAt (ρ.column (declaration.length + 1))] := by
    rw [htokens, List.map_append]
    rfl
  rw [hmap, (Session.next_ofTokens _).1, Session.stop_ofTokens_endAt hend,
    beforeEnd_append_endAt hend, hread]
  exact congrArg Prod.fst (ρ.readFirstType_map (.single (declaration.length + 1)) tokens)

theorem marksOptional_map (depth : Nat) (tokens : List Token) :
    marksOptional depth (tokens.map ρ.token) = marksOptional depth tokens := by
  induction tokens generalizing depth with
  | nil => rfl
  | cons t tokens ih =>
      cases hlexeme : t.lexeme <;> simp [marksOptional, token, hlexeme, lexeme, ih]

end Relabeling

end WorkflowParams.Declaration
