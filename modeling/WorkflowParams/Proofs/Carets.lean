import WorkflowParams.Diagnostic.Layout
import WorkflowParams.Proofs.Batch
import WorkflowParams.Proofs.Pointing

/-!
Where the carets stand. The layout of a diagnostic about a one-line declaration goes line by line:
the message, which quotes no more than a token and so stays on its line, the declaration, the carets
and the remarks. The line of carets is as long as the columns reach, with the same margin as that of
the declaration, so the carets stand under the characters on these columns.
-/

namespace WorkflowParams

open Declaration

/-! Lines. -/

def linesOf (text : String) : List String := (text.toList.splitOn '\n').map String.ofList

theorem linesOf_of_not_mem {text : String} (h : '\n' ∉ text.toList) : linesOf text = [text] := by
  simp [linesOf, List.splitOn_eq_singleton h]

theorem linesOf_append (text row : String) :
    linesOf (text ++ ("\n" ++ row)) = linesOf text ++ linesOf row := by
  have hsplit : (text ++ ("\n" ++ row)).toList = text.toList ++ '\n' :: row.toList := by simp
  rw [linesOf, hsplit, List.splitOn_eq_splitOnP, List.splitOnP_append_cons _ _ (by simp),
    List.map_append]
  rfl

theorem linesOf_append_join (text : String) (rows : List String) :
    linesOf (text ++ String.join (rows.map ("\n" ++ ·))) = linesOf text ++ rows.flatMap linesOf := by
  induction rows generalizing text with
  | nil => simp
  | cons row rows ih =>
      have hfirst : text ++ String.join ((row :: rows).map ("\n" ++ ·)) =
          text ++ ("\n" ++ row) ++ String.join (rows.map ("\n" ++ ·)) := by
        simp [← String.toList_inj]
      rw [hfirst, ih, linesOf_append, List.flatMap_cons, List.append_assoc]

/-! Carets. -/

/-- Blanks up to the span, and a caret on each of its columns. -/
def Span.carets (s : Span) : String :=
  String.ofList (List.replicate (s.start - 1) ' ' ++ List.replicate s.width '^')

theorem Span.length_carets {s : Span} (h : 1 ≤ s.start) : s.carets.length = s.stop := by
  have horder := s.start_le_stop
  rw [carets, String.length_ofList, List.length_append, List.length_replicate,
    List.length_replicate, width]
  omega

theorem Span.getElem?_carets {s : Span} {i : Nat} (hi : 1 ≤ i) (hstop : i ≤ s.stop) :
    s.carets.toList[i - 1]? = some (if s.start ≤ i then '^' else ' ') := by
  rw [carets, String.toList_ofList, List.getElem?_append, List.length_replicate]
  split
  · next hbefore =>
      rw [List.getElem?_replicate_of_lt hbefore, if_neg (by omega)]
  · next hbehind =>
      have hwithin : i - 1 - (s.start - 1) < s.width := by
        rw [width]
        omega
      rw [List.getElem?_replicate_of_lt hwithin, if_pos (by omega)]

namespace Diagnostic

def heading (d : Diagnostic) : String := d.kind.title ++ ": " ++ d.message

/-- The part of a layout below its heading, row by row. -/
def rows (d : Diagnostic) (declaration : String) : List String :=
  ("  | " ++ declaration) :: (d.span.elim [] (fun s => ["  | " ++ s.carets]) ++
    d.note.elim [] (fun note => ["note: " ++ note]) ++
    d.help.elim [] (fun help => ["help: " ++ help]))

theorem layout_eq {d : Diagnostic} {declaration : String} (h : d.declaration = some declaration) :
    d.layout none false = d.heading ++ String.join ((d.rows declaration).map ("\n" ++ ·)) := by
  rw [layout, pieces, rows, heading, h]
  cases d.span <;> cases d.note <;> cases d.help <;>
    simp [← String.toList_inj, Piece.render, plain, snippet, caretLine, remark, Span.carets]

/-- A layout has the lines of its rows, where the message and the declaration have one each. -/
theorem linesOf_layout {d : Diagnostic} {declaration : String}
    (h : d.declaration = some declaration) (hmessage : '\n' ∉ d.message.toList)
    (hdeclaration : '\n' ∉ declaration.toList) :
    linesOf (d.layout none false) = d.heading :: ("  | " ++ declaration) ::
      (d.span.elim [] (fun s => ["  | " ++ s.carets]) ++
        (d.note.elim [] (fun note => linesOf ("note: " ++ note)) ++
          d.help.elim [] (fun help => linesOf ("help: " ++ help)))) := by
  have hheading : linesOf d.heading = [d.heading] := by
    have htitle : '\n' ∉ d.kind.title.toList := by cases d.kind <;> simp [Kind.title]
    exact linesOf_of_not_mem (by simp [heading, htitle, hmessage])
  have hquoted : linesOf ("  | " ++ declaration) = ["  | " ++ declaration] :=
    linesOf_of_not_mem (by simp [hdeclaration])
  have hcarets (s : Span) : linesOf ("  | " ++ s.carets) = ["  | " ++ s.carets] :=
    linesOf_of_not_mem (by simp [Span.carets])
  rw [layout_eq h, linesOf_append_join, hheading, rows, List.flatMap_cons, hquoted]
  cases d.span <;> cases d.note <;> cases d.help <;> simp [hcarets]

end Diagnostic

namespace Declaration

/-! Messages. -/

theorem mem_of_mem_unescape {c : Char} {text : List Char} (h : c ∈ unescape text) : c ∈ text := by
  fun_induction unescape text with
  | case1 => exact h
  | case2 => cases h
  | case3 c' cs ih => grind
  | case4 c' cs _ _ ih => grind

/-- A token is named by its own characters. -/
theorem Lexeme.Covers.newline_not_mem_describe {lexeme : Lexeme} {own behind : List Char}
    (h : lexeme.Covers own behind) (hown : '\n' ∉ own) : '\n' ∉ lexeme.describe.toList := by
  cases lexeme with
  | word text | number text =>
      obtain ⟨rfl, -⟩ := h
      simp [describe, hown]
  | quoted value =>
      obtain ⟨inside, rfl, -, hends⟩ := h
      have hinside : '\n' ∉ unescape inside := by
        intro hmem
        refine hown ?_
        rcases hends with ⟨rfl, -⟩ | ⟨rfl, -⟩ <;> simp [mem_of_mem_unescape hmem]
      simp [describe, hinside]
  | symbol c =>
      obtain ⟨rfl, -⟩ := h
      simpa [describe] using hown
  | leftBracket | rightBracket | plus | question | leftParen | rightParen | comma | equal =>
      decide
  | endMark => exact h.elim

theorem Tiles.newline_not_mem_describe {text : List Char} {tokens : List Token}
    (h : Tiles 1 text tokens) (htext : '\n' ∉ text) {t : Token} (ht : t ∈ tokens) :
    '\n' ∉ t.lexeme.describe.toList := by
  obtain ⟨before, own, behind, rfl, -, -, hcovers⟩ := h.exists_split ht
  refine hcovers.newline_not_mem_describe ?_
  intro hmem
  exact htext (by simp [hmem])

theorem Expectation.newline_not_mem_describe (wanted : Expectation) :
    '\n' ∉ wanted.describe.toList := by
  cases wanted <;> simp [describe]

namespace Complaint

variable {stop : Span} {behind left : List Token} {complaint : Complaint}

theorem At.newline_not_mem_message (h : complaint.At stop behind left)
    (hbehind : ∀ t ∈ behind, '\n' ∉ t.lexeme.describe.toList) :
    '\n' ∉ complaint.message.toList := by
  cases complaint with
  | noType => exact h.elim
  | bareArray _ | emptyBrackets _ =>
      change '\n' ∉ "Array is missing an inner type".toList
      simp
  | innerType p _ =>
      have hname : '\n' ∉ p.name.toList := by cases p <;> simp [Primitive.name]
      change '\n' ∉ ("primitive type '" ++ p.name ++ "' does not take an inner type").toList
      simp [hname]
  | unexpected wanted found _ =>
      obtain ⟨token, rest, rfl, -, rfl, -⟩ := h
      have hfound := hbehind token List.mem_cons_self
      change '\n' ∉ ("expected " ++ wanted.describe ++ ", found " ++ token.lexeme.describe).toList
      simp [wanted.newline_not_mem_describe, hfound]
  | ended wanted _ =>
      change '\n' ∉ ("expected " ++ wanted.describe ++ ", found end of declaration").toList
      simp [wanted.newline_not_mem_describe]
  | tooDeep _ =>
      change '\n' ∉ "arrays are nested more than 128 levels deep".toList
      simp
  | unsupported text _ =>
      obtain ⟨token, rfl, hname, -⟩ := h
      have hquoted := hbehind token List.mem_cons_self
      rw [hname] at hquoted
      simp only [Lexeme.describe, String.toList_append, List.mem_append, not_or] at hquoted
      change '\n' ∉ ("'" ++ text ++ "' is not a supported type").toList
      simp [hquoted.1.2]

/-- The columns of a complaint are those of the end of the declaration, or lie on its characters. -/
theorem At.span_cases (h : complaint.At stop behind left) {n : Nat}
    (hbehind : ∀ t ∈ behind, 1 ≤ t.column ∧ t.column ≤ t.endColumn ∧ t.endColumn ≤ n) {span : Span}
    (hspan : complaint.span? = some span) :
    complaint.kind = .unexpectedEnd ∧ span = stop ∨
      complaint.kind ≠ .unexpectedEnd ∧ 1 ≤ span.start ∧ span.stop ≤ n := by
  have htoken {t : Token} (ht : t ∈ behind) : 1 ≤ t.span.start ∧ t.span.stop ≤ n := by
    obtain ⟨hfirst, horder, hlast⟩ := hbehind t ht
    rw [Token.span_eq horder]
    exact ⟨hfirst, hlast⟩
  cases complaint with
  | noType => exact h.elim
  | ended _ _ =>
      cases hspan
      exact .inl ⟨rfl, h.2.2⟩
  | emptyBrackets _ =>
      cases hspan
      obtain ⟨name, opening, closing, rest, rfl, rfl, -, -, rfl⟩ := h
      have hopening := hbehind opening (by simp)
      have hclosing := hbehind closing (by simp)
      refine .inr ⟨by simp [kind], hopening.1, ?_⟩
      simp only [Span.ofColumns]
      omega
  | bareArray _ =>
      cases hspan
      obtain ⟨name, rfl, -, rfl⟩ := h
      exact .inr ⟨by simp [kind], htoken List.mem_cons_self⟩
  | tooDeep _ =>
      cases hspan
      obtain ⟨name, opening, rfl, -, rfl⟩ := h
      exact .inr ⟨by simp [kind], htoken List.mem_cons_self⟩
  | innerType _ _ =>
      cases hspan
      obtain ⟨bracket, rest, rfl, -, -, rfl⟩ := h
      exact .inr ⟨by simp [kind], htoken List.mem_cons_self⟩
  | unexpected _ _ _ =>
      cases hspan
      obtain ⟨token, rest, rfl, -, -, rfl⟩ := h
      exact .inr ⟨by simp [kind], htoken List.mem_cons_self⟩
  | unsupported _ _ =>
      cases hspan
      obtain ⟨token, rfl, -, -, -, rfl⟩ := h
      exact .inr ⟨by simp [kind], htoken List.mem_cons_self⟩

end Complaint

/-- A complaint about a declaration arises at tokens that lie in it. -/
theorem exists_complaint_at {settings : Settings} {declaration : String} {d : Diagnostic}
    (h : interpret settings declaration = .error d) :
    ∃ complaint : Complaint, d = complaint.toDiagnostic.withDeclaration declaration ∧
      (complaint = .noType ∨ ∃ front behind left, Tiles 1 declaration.toList (front ++ behind) ∧
        complaint.At (.single (declaration.length + 1)) behind left) := by
  obtain ⟨tokens, -, htiles, hread⟩ := exists_tiles_readStructure declaration
  cases hstructure : readStructure declaration with
  | ok tree => simp [interpret, hstructure] at h
  | error complaint =>
      simp only [interpret, hstructure, Except.error.injEq] at h
      refine ⟨complaint, h.symm, ?_⟩
      rcases refuses_of_readFirstType (Prod.ext (hread.symm.trans hstructure) rfl) with
        hnone | ⟨noise, before, behind, _, rfl, -, -, hrefuses⟩
      · exact .inl hnone
      · rw [← List.append_assoc] at htiles
        exact .inr ⟨_, behind, _, htiles, hrefuses.complaint_at⟩

theorem newline_not_mem_message {settings : Settings} {declaration : String} {d : Diagnostic}
    (hline : '\n' ∉ declaration.toList) (h : interpret settings declaration = .error d) :
    '\n' ∉ d.message.toList := by
  obtain ⟨complaint, rfl, rfl | ⟨front, behind, left, htiles, hat⟩⟩ := exists_complaint_at h
  · change '\n' ∉ "could not be parsed into a type specification".toList
    simp
  · refine hat.newline_not_mem_message ?_
    intro t ht
    exact htiles.newline_not_mem_describe hline (List.mem_append_right front ht)

/-- A caret stands behind the last character only where the declaration ends too early. -/
theorem span_cases_of_interpret {settings : Settings} {declaration : String} {d : Diagnostic}
    (h : interpret settings declaration = .error d) {span : Span} (hspan : d.span = some span) :
    d.kind = .unexpectedEnd ∧ span = .single (declaration.length + 1) ∨
      d.kind ≠ .unexpectedEnd ∧ 1 ≤ span.start ∧ span.stop ≤ declaration.length := by
  obtain ⟨complaint, rfl, rfl | ⟨front, behind, left, htiles, hat⟩⟩ := exists_complaint_at h
  · cases hspan
  · refine hat.span_cases ?_ hspan
    intro t ht
    obtain ⟨hfirst, horder, hlast, -⟩ := htiles.covers_slice (List.mem_append_right front ht)
    exact ⟨hfirst, horder, hlast⟩

theorem of_interpret_eq_error {settings : Settings} {declaration : String} {d : Diagnostic}
    (h : interpret settings declaration = .error d) :
    d.declaration = some declaration ∧
      (d.span = none → d.kind = .noTypeFound ∧ d.help = none) := by
  obtain ⟨complaint, rfl, -⟩ := exists_complaint_at h
  refine ⟨rfl, fun hspan => ?_⟩
  cases complaint with
  | noType => exact ⟨rfl, rfl⟩
  | _ => cases hspan

end Declaration

namespace Definition

variable {settings : Settings} {direction : Direction} {name declaration : String}

/-- The layout of a failed definition with a one-line declaration: the message and the declaration
on a line each, then a caret under each of the columns at fault, and then the remarks. The columns
lie on the declaration, unless it ends too early; then they are the one behind it. If there is no
type name there are no columns, and the note follows the declaration. -/
theorem build_error_layout (hline : '\n' ∉ declaration.toList) {e : Diagnostic}
    (h : build settings direction name declaration = .error e) :
    let heading := e.kind.title ++ ": " ++ e.message
    let note := linesOf ("note: while converting parameter '" ++ name ++ "'")
    let help := e.help.elim [] fun help => linesOf ("help: " ++ help)
    (e.span = none → e.kind = .noTypeFound ∧
      linesOf (e.layout none false) = heading :: ("  | " ++ declaration) :: note) ∧
    ∀ span, e.span = some span →
      1 ≤ span.start ∧ span.start ≤ span.stop ∧
      (e.kind ≠ .unexpectedEnd ∧ span.stop ≤ declaration.length ∨
        e.kind = .unexpectedEnd ∧ span = .single (declaration.length + 1)) ∧
      ∃ carets : String,
        linesOf (e.layout none false) =
          heading :: ("  | " ++ declaration) :: ("  | " ++ carets) :: (note ++ help) ∧
        carets.length = span.stop ∧
        ∀ i, 1 ≤ i → i ≤ span.stop →
          carets.toList[i - 1]? = some (if span.start ≤ i ∧ i ≤ span.stop then '^' else ' ') := by
  intro heading note help
  obtain ⟨d, hread, rfl⟩ := build_eq_error_iff.mp h
  obtain ⟨hdeclaration, hnone⟩ := of_interpret_eq_error hread
  have hmessage : '\n' ∉ d.message.toList := newline_not_mem_message hline hread
  have hlines := Diagnostic.linesOf_layout
    (d := { d with note := some ("while converting parameter '" ++ name ++ "'") })
    hdeclaration hmessage hline
  have hnote : linesOf ("note: " ++ ("while converting parameter '" ++ name ++ "'")) = note := by
    simp only [note, ← String.append_assoc]
    rfl
  simp only [Option.elim_some, hnote] at hlines
  constructor
  · intro (hspan : d.span = none)
    obtain ⟨hkind, hhelp⟩ := hnone hspan
    refine ⟨hkind, hlines.trans ?_⟩
    simp only [hspan, hhelp, Option.elim_none, List.nil_append, List.append_nil]
    rfl
  · intro span (hspan : d.span = some span)
    have hcases := span_cases_of_interpret hread hspan
    have hstart : 1 ≤ span.start := by
      rcases hcases with ⟨-, rfl⟩ | ⟨-, hfirst, -⟩
      · exact Nat.succ_pos _
      · exact hfirst
    refine ⟨hstart, span.start_le_stop, ?_, span.carets, hlines.trans ?_,
      Span.length_carets hstart, ?_⟩
    · exact hcases.symm.imp_left fun hwithin => ⟨hwithin.1, hwithin.2.2⟩
    · simp only [hspan, Option.elim_some]
      rfl
    · intro i hi hstop
      rw [Span.getElem?_carets hi hstop]
      simp only [hstop, and_true]

/-- A declaration that ends too early, of a parameter whose name goes over two lines. -/
theorem build_error_layout_of_unclosed :
    ∃ e carets, build {} .input "a\nb" "Array[Int" = .error e ∧
      linesOf (e.layout none false) =
        ["unexpected end of declaration: expected ']' after the inner type, " ++
            "found end of declaration",
          "  | Array[Int", "  | " ++ carets, "note: while converting parameter 'a", "b'"] ∧
      carets.length = 10 ∧ carets.toList[8]? = some ' ' ∧ carets.toList[9]? = some '^' := by
  have hread : interpret {} "Array[Int" = .error
      { kind := .unexpectedEnd
        message := "expected ']' after the inner type, found end of declaration"
        span := some (.single 10), declaration := some "Array[Int" } := by decide +kernel
  have hbuild : build {} .input "a\nb" "Array[Int" = _ := build_eq_error_iff.mpr ⟨_, hread, rfl⟩
  obtain ⟨-, hspan⟩ := build_error_layout (by decide) hbuild
  obtain ⟨-, -, -, carets, hlines, hlength, hcarets⟩ := hspan _ rfl
  have hnote : linesOf ("note: while converting parameter '" ++ "a\nb" ++ "'") =
      ["note: while converting parameter 'a", "b'"] := by decide
  refine ⟨_, carets, hbuild, hlines.trans ?_, hlength, ?_, ?_⟩
  · rw [hnote]
    rfl
  · exact hcarets 9 (by decide) (by decide)
  · exact hcarets 10 (by decide) (by decide)

end Definition

end WorkflowParams
