import WorkflowParams.Declaration.Interpretation
import WorkflowParams.Proofs.Refusal
import WorkflowParams.Proofs.Tiling

/-!
Where diagnostics point. A complaint takes its columns from tokens that the reader has looked at, or
from the end mark; as the tokens tile the declaration, these columns hold the text that the message
is about.
-/

namespace WorkflowParams.Declaration

open WorkflowParams.Text

/-! The tokens of a declaration. -/

theorem Tiles.isEnd_of_mem {text : List Char} {tokens : List Token} (h : Tiles 1 text tokens)
    {t : Token} (ht : t ∈ tokens) : t.isEnd = false := by
  obtain ⟨-, -, -, hcovers⟩ := h.covers_slice ht
  apply eq_false_of_ne_true
  intro hend
  rw [of_decide_eq_true hend] at hcovers
  exact hcovers

theorem Session.stop_ofTokens_endAt {tokens : List Token} (h : ∀ t ∈ tokens, t.isEnd = false)
    (column : Nat) : (ofTokens (tokens ++ [.endAt column])).stop = .single column := by
  have hfind : tokens.find? Token.isEnd = none := List.find?_eq_none.mpr (by simpa using h)
  simp [stop, ofTokens, closed, List.find?_append, hfind, Token.endAt, Token.isEnd, Token.span]

theorem beforeEnd_append_endAt {tokens : List Token} (h : ∀ t ∈ tokens, t.isEnd = false)
    (column : Nat) : beforeEnd (tokens ++ [.endAt column]) = tokens := by
  rw [beforeEnd, List.takeWhile_append_of_pos (by simpa using h)]
  simp [Token.endAt, Token.isEnd]

/-- The structure of a declaration is read from tokens that tile it. -/
theorem exists_tiles_readStructure (declaration : String) :
    ∃ tokens, tokenize declaration = tokens ++ [.endAt (declaration.length + 1)] ∧
      Tiles 1 declaration.toList tokens ∧
      readStructure declaration =
        (readFirstType (.single (declaration.length + 1)) tokens).1 := by
  obtain ⟨tokens, htokens, htiles⟩ := exists_tiles_tokenize declaration
  have hend : ∀ t ∈ tokens, t.isEnd = false := fun t ht => htiles.isEnd_of_mem ht
  refine ⟨tokens, htokens, htiles, ?_⟩
  rw [readStructure, htokens, (Session.next_ofTokens _).1, Session.stop_ofTokens_endAt hend,
    beforeEnd_append_endAt hend]

/-! What stands on the columns. -/

theorem Token.span_eq {t : Token} (h : t.column ≤ t.endColumn) :
    t.span = ⟨t.column, t.endColumn, h⟩ := by
  simp [Token.span, Span.ofColumns, h]

/-- The columns from a bracket to the next token, if that closes it, hold blanks between the two. -/
theorem Tiles.slice_brackets {text : List Char} {tokens : List Token} (h : Tiles 1 text tokens)
    {opening closing : Token} (hpair : [opening, closing] <:+: tokens)
    (hopening : opening.lexeme = .leftBracket) (hclosing : closing.lexeme = .rightBracket) :
    opening.column ≤ closing.column ∧ ∃ blanks, blanks.all isBlank = true ∧
      slice text opening.column closing.column = '[' :: (blanks ++ [']']) := by
  obtain ⟨front, back, rfl⟩ := hpair
  rw [List.append_assoc] at h
  obtain ⟨skipped, _, rfl, hrest⟩ := h.drop
  obtain ⟨gap, own, _, rfl, -, hcolumn, hend, hcovers, hrest⟩ := hrest.uncons
  obtain ⟨blanks, own', behind, rfl, hblanks, hcolumn', -, hcovers', -⟩ := hrest.uncons
  rw [hopening] at hcovers
  rw [hclosing] at hcovers'
  obtain rfl : own = ['['] := hcovers
  obtain rfl : own' = [']'] := hcovers'
  have hfirst : opening.column = 1 + (skipped ++ gap).length := by
    rw [hcolumn, List.length_append, Nat.add_assoc]
  have hlast : closing.column = (skipped ++ gap).length + ('[' :: (blanks ++ [']'])).length := by
    simp only [List.length_append, List.length_cons, List.length_nil] at hend hcolumn ⊢
    omega
  have hsplit : skipped ++ (gap ++ (['['] ++ (blanks ++ ([']'] ++ behind)))) =
      (skipped ++ gap) ++ ('[' :: (blanks ++ [']']) ++ behind) := by simp
  refine ⟨?_, blanks, hblanks, ?_⟩
  · simp only [List.length_cons] at hlast
    omega
  · rw [hsplit, hfirst, hlast, slice_append]

/-- What a diagnostic about a declaration points at: the text on the columns, or the column behind
the last character. -/
def PointsAt (declaration : String) (d : Diagnostic) (span : Span) : Prop :=
  let text := slice declaration.toList span.start span.stop
  match d.kind with
  | .unsupportedType => ∃ name, text = name.toList ∧ isWord text = true ∧
    d.message = "'" ++ name ++ "' is not a supported type" ∧ name ≠ arrayName ∧
    ∀ p : Primitive, name ≠ p.name
  | .nestingTooDeep => text = arrayName.toList
  | .unexpectedInnerType => text = ['[']
  | .missingInnerType => text = arrayName.toList ∨
    ∃ blanks, blanks.all isBlank = true ∧ text = '[' :: (blanks ++ [']'])
  | .unexpectedToken => ∃ t ∈ tokenize declaration, ∃ wanted : Expectation,
    t.lexeme ≠ .endMark ∧ span.start = t.column ∧ span.stop = t.endColumn ∧
    d.message = "expected " ++ wanted.describe ++ ", found " ++ t.lexeme.describe
  | .unexpectedEnd => span = .single (declaration.length + 1)
  | .noTypeFound | .fileAccess | .json => False

theorem pointsAt_of_complaint_at {declaration : String} {front behind left : List Token}
    {complaint : Complaint}
    (htokens : tokenize declaration = front ++ behind ++ [.endAt (declaration.length + 1)])
    (htiles : Tiles 1 declaration.toList (front ++ behind))
    (h : complaint.At (.single (declaration.length + 1)) behind left) {span : Span}
    (hspan : complaint.span? = some span) :
    1 ≤ span.start ∧ span.stop ≤ declaration.length + 1 ∧
      PointsAt declaration (complaint.toDiagnostic.withDeclaration declaration) span := by
  have hcovered {t : Token} (ht : t ∈ behind) :
      ∃ horder : t.column ≤ t.endColumn, t.span = ⟨t.column, t.endColumn, horder⟩ ∧
        1 ≤ t.column ∧ t.endColumn ≤ declaration.length + 1 ∧
        t.lexeme.Covers (slice declaration.toList t.column t.endColumn)
          (declaration.toList.drop t.endColumn) := by
    obtain ⟨hfirst, horder, hlast, hcovers⟩ := htiles.covers_slice (List.mem_append_right front ht)
    rw [String.length_toList] at hlast
    exact ⟨horder, Token.span_eq horder, hfirst, Nat.le_succ_of_le hlast, hcovers⟩
  cases complaint with
  | noType => exact h.elim
  | bareArray place =>
      cases hspan
      obtain ⟨name, rfl, hname, rfl⟩ := h
      obtain ⟨horder, hplace, hfirst, hlast, hcovers⟩ := hcovered List.mem_cons_self
      rw [hname] at hcovers
      rw [hplace]
      exact ⟨hfirst, hlast, .inl hcovers.1⟩
  | tooDeep place =>
      cases hspan
      obtain ⟨name, opening, rfl, hname, rfl⟩ := h
      obtain ⟨horder, hplace, hfirst, hlast, hcovers⟩ := hcovered List.mem_cons_self
      rw [hname] at hcovers
      rw [hplace]
      exact ⟨hfirst, hlast, hcovers.1⟩
  | emptyBrackets place =>
      cases hspan
      obtain ⟨name, opening, closing, rest, rfl, rfl, hopening, hclosing, rfl⟩ := h
      have hpair : [opening, closing] <:+: front ++ name :: opening :: closing :: rest :=
        ⟨front ++ [name], rest, by simp⟩
      obtain ⟨horder, blanks, hblanks, hslice⟩ := htiles.slice_brackets hpair hopening hclosing
      obtain ⟨-, -, hfirst, -, -⟩ := hcovered (show opening ∈ _ by simp)
      obtain ⟨horder', -, -, hlast, -⟩ := hcovered (show closing ∈ _ by simp)
      have hstop : (Span.ofColumns opening.column closing.column).stop = closing.column :=
        Nat.max_eq_left horder
      refine ⟨hfirst, by omega, .inr ⟨blanks, hblanks, ?_⟩⟩
      rw [hstop]
      exact hslice
  | innerType p place =>
      cases hspan
      obtain ⟨bracket, rest, rfl, -, hbracket, rfl⟩ := h
      obtain ⟨horder, hplace, hfirst, hlast, hcovers⟩ := hcovered List.mem_cons_self
      rw [hbracket] at hcovers
      rw [hplace]
      exact ⟨hfirst, hlast, hcovers⟩
  | unexpected wanted found place =>
      cases hspan
      obtain ⟨token, rest, rfl, -, rfl, rfl⟩ := h
      obtain ⟨horder, hplace, hfirst, hlast, hcovers⟩ := hcovered List.mem_cons_self
      rw [hplace]
      refine ⟨hfirst, hlast, token, by simp [htokens], wanted, ?_, rfl, rfl, rfl⟩
      intro hend
      rw [hend] at hcovers
      exact hcovers
  | ended wanted place =>
      cases hspan
      obtain ⟨-, -, rfl⟩ := h
      exact ⟨Nat.succ_pos _, Nat.le_refl _, rfl⟩
  | unsupported text place =>
      cases hspan
      obtain ⟨token, rfl, hname, harray, hprimitive, rfl⟩ := h
      obtain ⟨horder, hplace, hfirst, hlast, hcovers⟩ := hcovered List.mem_cons_self
      rw [hname] at hcovers
      rw [hplace]
      refine ⟨hfirst, hlast, text, hcovers.1, hcovers.2.1, rfl, harray, ?_⟩
      intro p hp
      simp [hp] at hprimitive

theorem Complaint.concernsDeclaration_kind (complaint : Complaint) :
    complaint.kind.concernsDeclaration = true := by
  cases complaint <;> rfl

theorem Complaint.span?_eq_none_iff {complaint : Complaint} :
    complaint.span? = none ↔ complaint.kind = .noTypeFound := by
  cases complaint <;> simp [Complaint.span?, Complaint.kind]

/-- Every diagnostic about a declaration quotes it as it is and points at the text in it that the
message is about. Only where there is no type name at all there is nothing to point at. -/
theorem interpret_error_pointsAt {settings : Settings} {declaration : String} {d : Diagnostic}
    (h : interpret settings declaration = .error d) :
    d.concernsDeclaration = true ∧ d.declaration = some declaration ∧ d.note = none ∧
      (d.span = none ↔ d.kind = .noTypeFound) ∧
      ∀ span, d.span = some span →
        1 ≤ span.start ∧ span.start ≤ span.stop ∧ span.stop ≤ declaration.length + 1 ∧
        PointsAt declaration d span := by
  obtain ⟨tokens, htokens, htiles, hread⟩ := exists_tiles_readStructure declaration
  cases hstructure : readStructure declaration with
  | ok tree => simp [interpret, hstructure] at h
  | error complaint =>
      simp only [interpret, hstructure, Except.error.injEq] at h
      subst h
      refine ⟨complaint.concernsDeclaration_kind, rfl, rfl, Complaint.span?_eq_none_iff, ?_⟩
      intro span hspan
      rcases refuses_of_readFirstType (Prod.ext (hread.symm.trans hstructure) rfl) with
        rfl | ⟨noise, before, behind, _, rfl, -, -, hrefuses⟩
      · simp [Complaint.toDiagnostic, Diagnostic.withDeclaration, Complaint.span?] at hspan
      · rw [← List.append_assoc] at htokens htiles
        obtain ⟨hfirst, hlast, hpoints⟩ :=
          pointsAt_of_complaint_at htokens htiles hrefuses.complaint_at hspan
        exact ⟨hfirst, span.start_le_stop, hlast, hpoints⟩

theorem interpret_error_pointsAt_blank_brackets :
    ∃ d, interpret {} "\"[\" Array[\t ]" = .error d ∧ d.span = some ⟨10, 13, by decide⟩ ∧
      d.concernsDeclaration = true ∧ d.declaration = some "\"[\" Array[\t ]" ∧ d.note = none ∧
      (d.span = none ↔ d.kind = .noTypeFound) ∧
      ∀ span, d.span = some span →
        1 ≤ span.start ∧ span.start ≤ span.stop ∧ span.stop ≤ 13 + 1 ∧
        PointsAt "\"[\" Array[\t ]" d span := by
  have h : interpret {} "\"[\" Array[\t ]" = .error
      { kind := .missingInnerType
        message := "Array is missing an inner type"
        span := some ⟨10, 13, by decide⟩
        declaration := some "\"[\" Array[\t ]" } := by
    decide +kernel
  exact ⟨_, h, rfl, interpret_error_pointsAt h⟩

end WorkflowParams.Declaration
