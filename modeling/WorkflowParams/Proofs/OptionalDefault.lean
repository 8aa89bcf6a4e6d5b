import WorkflowParams.Definition
import WorkflowParams.Proofs.BracketGroups
import WorkflowParams.Proofs.DefaultText
import WorkflowParams.Proofs.JsonValues
import WorkflowParams.Proofs.Seams

/-!
Definitions with a default are optional. The text that opens a default holds the word that marks a
parameter as optional, so the scan of the whole text finds it there. The scan of the tokens finds it
too, unless the opening is no annotation to it: it does not look into string literals and bracket
groups, where a default is still taken from.
-/

namespace WorkflowParams

open Json Declaration

namespace Declaration

open Scanner

/-- The `n`th character of a declaration belongs to a string literal. -/
def InLiteral (declaration : String) (n : Nat) : Prop :=
  ∃ t ∈ tokenize declaration, (∃ value, t.lexeme = .quoted value) ∧
    t.column ≤ n + 1 ∧ n + 1 ≤ t.endColumn

/-- The number of brackets that are open in front of the `n`th character. -/
def openBrackets (declaration : String) (n : Nat) : Nat :=
  ((tokenize declaration).takeWhile (·.column ≤ n)).foldl bracketsBehind 0

/-- A word or a number, in which a parenthesis can neither come first nor go on, holds none. -/
theorem paren_not_mem {c : Char} {cs : List Char} {continues : Char → Bool} (hfirst : c ≠ '(')
    (hrest : cs.all continues = true) (hparen : continues '(' = false) : '(' ∉ c :: cs := by
  rw [List.mem_cons, not_or]
  refine ⟨hfirst.symm, fun hmem => ?_⟩
  rw [List.all_eq_true.mp hrest _ hmem] at hparen
  cases hparen

/-- Outside string literals a parenthesis is a token of its own. -/
theorem Lexeme.Covers.of_paren_mem {lexeme : Lexeme} {own behind : List Char}
    (h : lexeme.Covers own behind) (hparen : '(' ∈ own) :
    (∃ value, lexeme = .quoted value) ∨ own = ['('] := by
  have hmark : mark? '(' = some .leftParen := rfl
  cases lexeme with
  | quoted value => exact .inl ⟨value, rfl⟩
  | word text =>
      cases own with
      | nil => cases hparen
      | cons c cs =>
          obtain ⟨hfirst, hrest⟩ := Bool.and_eq_true_iff.mp h.2.1
          refine absurd hparen (paren_not_mem ?_ hrest (by decide))
          rintro rfl
          simp [(of_mark?_eq_some hmark).2.1] at hfirst
  | number text =>
      cases own with
      | nil => cases hparen
      | cons c cs =>
          obtain ⟨hfirst, hrest⟩ := Bool.and_eq_true_iff.mp h.2.1
          refine absurd hparen (paren_not_mem ?_ hrest (by decide))
          rintro rfl
          simp [startsNumber_of_mark? hmark] at hfirst
  | symbol c =>
      obtain rfl := h.1
      exact .inr (by rw [List.mem_singleton.mp hparen])
  | leftBracket | rightBracket | plus | question | leftParen | rightParen | comma | equal =>
      rw [h] at hparen ⊢
      rw [List.mem_singleton.mp hparen]
      exact .inr rfl
  | endMark => exact h.elim

/-- What an opening outside string literals is read as. -/
theorem tokensFrom_defaultOpening (column : Nat) (rest : List Char) :
    ∃ paren word behind,
      tokensFrom column (defaultOpening.toList ++ rest) = paren :: word :: behind ∧
        paren.lexeme = .leftParen ∧ paren.column = column ∧
        word.lexeme = .word optionalWord := by
  have hword : isWord optionalWord.toList = true := by decide
  have hsplit : defaultOpening.toList ++ rest =
      '(' :: (optionalWord.toList ++ (", default = ".toList ++ rest)) := rfl
  have hparen : Lexeme.mark? '(' = some .leftParen := rfl
  rw [hsplit, tokensFrom_mark hparen, tokensFrom_word hword rfl]
  exact ⟨_, _, _, rfl, rfl, rfl, rfl⟩

/-- A text can be cut in front of a parenthesis that is in no string literal. -/
theorem Tiles.cut_paren {front back : List Char} {tokens : List Token}
    (h : Tiles 1 (front ++ back) tokens) (hback : back.head? = some '(')
    (hliteral : ∀ t ∈ tokens, (∃ value, t.lexeme = .quoted value) →
      ¬ (t.column ≤ front.length + 1 ∧ front.length + 1 ≤ t.endColumn)) :
    ∃ before after, tokens = before ++ after ∧ Tiles 1 front before ∧
      Tiles (1 + front.length) back after := by
  refine h.cut ?_
  intro t ht
  by_contra hnot
  obtain ⟨skipped, own, behind, hsplit, hcolumn, hend, hcovers⟩ := h.exists_split ht
  have hmem : '(' ∈ own := by
    have hchar : (front ++ back)[front.length]? = some '(' := by
      rw [List.getElem?_append_right (Nat.le_refl _), Nat.sub_self, ← List.head?_eq_getElem?, hback]
    rw [hsplit, List.getElem?_append_right (by omega),
      List.getElem?_append_left (by omega)] at hchar
    exact List.mem_of_getElem? hchar
  rcases hcovers.of_paren_mem hmem with hquoted | rfl
  · exact hliteral t ht hquoted (by omega)
  · simp only [List.length_singleton] at hend
    omega

/-- An opening outside string literals is two tokens, the second of which is the word. -/
theorem exists_opening {declaration : String} {front rest : List Char}
    (htext : declaration.toList = front ++ (defaultOpening.toList ++ rest))
    (hliteral : ¬ InLiteral declaration front.length) :
    ∃ before paren word behind, tokenize declaration = before ++ paren :: word :: behind ∧
      (∀ t ∈ before, t.column ≤ front.length) ∧ front.length < paren.column ∧
      paren.lexeme = .leftParen ∧ word.lexeme = .word optionalWord := by
  obtain ⟨tokens, htokens, htiles⟩ := exists_tiles_tokenize declaration
  rw [htext] at htiles
  have hapart : ∀ t ∈ tokens, (∃ value, t.lexeme = .quoted value) →
      ¬ (t.column ≤ front.length + 1 ∧ front.length + 1 ≤ t.endColumn) := by
    intro t ht hquoted hcolumns
    exact hliteral ⟨t, by simp [htokens, ht], hquoted, hcolumns⟩
  obtain ⟨before, after, rfl, hbefore, hafter⟩ := htiles.cut_paren rfl hapart
  obtain ⟨paren, word, behind, hbehind, hparen, hcolumn, hword⟩ :=
    tokensFrom_defaultOpening (1 + front.length) rest
  have hlength : declaration.length + 1 =
      1 + front.length + (defaultOpening.toList ++ rest).length := by
    rw [← String.length_toList, htext, List.length_append]
    omega
  refine ⟨before, paren, word, behind, ?_, ?_, by omega, hparen, hword⟩
  · rw [htokens, List.append_assoc, hlength, ← hbehind]
    exact congrArg (before ++ ·) hafter.tokensFrom_eq.symm
  · intro t ht
    have hbounds := hbefore.bounds ht
    omega

/-- The scan of the tokens finds an opening outside string literals and brackets. -/
theorem marksOptional_of_opening {declaration : String} {front rest : List Char}
    (htext : declaration.toList = front ++ (defaultOpening.toList ++ rest))
    (hliteral : ¬ InLiteral declaration front.length)
    (hbrackets : openBrackets declaration front.length = 0) :
    marksOptional 0 (tokenize declaration) = true := by
  obtain ⟨before, paren, word, behind, htokens, hbefore, hcolumn, hparen, hword⟩ :=
    exists_opening htext hliteral
  have htake : (tokenize declaration).takeWhile (·.column ≤ front.length) = before := by
    rw [htokens, List.takeWhile_append_of_pos (by simpa using hbefore),
      List.takeWhile_cons_of_neg (by simpa using hcolumn), List.append_nil]
  rw [openBrackets, htake] at hbrackets
  rw [htokens, marksOptional_append, hbrackets]
  simp [marksOptional, hparen, hword]

theorem mentionsOptional_of_opening {declaration : String} {front rest : List Char}
    (htext : declaration.toList = front ++ (defaultOpening.toList ++ rest)) :
    mentionsOptional declaration = true := by
  refine occursIn_iff.mpr ⟨front ++ ['('], ", default = ".toList ++ rest, ?_⟩
  rw [htext, List.append_assoc, List.append_assoc]
  rfl

theorem isOptional_of_interpret {settings : Settings} {declaration : String} {tree : TypeTree}
    (h : interpret settings declaration = .ok tree)
    (hmark : isOptional settings.optionalScan declaration = true) : tree.isOptional = true := by
  rw [interpret] at h
  split at h
  · cases h
  · rw [if_pos hmark] at h
    obtain rfl := Except.ok.inj h
    rfl

theorem OpensDefault.exists_front {cs : List Char} {n : Nat} (h : OpensDefault cs n) :
    ∃ front rest, cs = front ++ (defaultOpening.toList ++ rest) ∧ front.length = n := by
  obtain ⟨⟨rest, hrest⟩, -⟩ := h
  refine ⟨cs.take n, rest, by rw [hrest, List.take_append_drop], List.length_take_of_le ?_⟩
  by_contra hlength
  rw [List.drop_of_length_le (Nat.le_of_not_le hlength)] at hrest
  cases hrest

theorem exists_opensDefault {declaration : String} {v : Value} (h : default? declaration = some v) :
    ∃ n, OpensDefault declaration.toList n := by
  obtain ⟨text, htext, -⟩ := Option.map_eq_some_iff.mp h
  obtain ⟨n, hleast, -⟩ := exists_isLeast_of_defaultText? htext
  exact ⟨n, hleast.1⟩

end Declaration

namespace Definition

variable {settings : Settings} {direction : Direction} {name declaration : String}

theorem of_build_eq_ok {d : Definition} (h : build settings direction name declaration = .ok d) :
    interpret settings declaration = .ok d.type ∧
      ∀ v, d.default = some v → default? declaration = some v := by
  rw [build] at h
  split at h
  · cases h
  · next tree hread =>
      obtain rfl := Except.ok.inj h
      refine ⟨hread, fun v hv => ?_⟩
      by_cases hincluded : settings.includeDefaults = true
      · simpa [hincluded] using hv
      · simp [hincluded] at hv

/-- A definition with a default is optional, unless the marks are looked for among the tokens and
each opening of a default is hidden from that scan, in a string literal or between brackets. -/
theorem isOptional_of_default {d : Definition} {v : Value}
    (h : build settings direction name declaration = .ok d) (hdefault : d.default = some v) :
    d.type.isOptional = true ∨
      settings.optionalScan = .bareWord ∧ ∀ n, OpensDefault declaration.toList n →
        InLiteral declaration n ∨ 0 < openBrackets declaration n := by
  obtain ⟨hread, hstated⟩ := of_build_eq_ok h
  by_cases hmark : isOptional settings.optionalScan declaration = true
  · exact .inl (isOptional_of_interpret hread hmark)
  · right
    cases hscan : settings.optionalScan with
    | wholeString =>
        obtain ⟨n, hopens⟩ := exists_opensDefault (hstated v hdefault)
        obtain ⟨front, rest, htext, -⟩ := hopens.exists_front
        rw [hscan] at hmark
        exact absurd (mentionsOptional_of_opening htext) hmark
    | bareWord =>
        refine ⟨rfl, fun n hopens => ?_⟩
        obtain ⟨front, rest, htext, rfl⟩ := hopens.exists_front
        rw [hscan] at hmark
        by_contra hclear
        rw [not_or, Nat.not_lt, Nat.le_zero] at hclear
        exact hmark (marksOptional_of_opening htext hclear.1 hclear.2)

theorem exists_build_of_default (direction : Direction) (name : String) {tree : TypeTree}
    {v : Value} (hincluded : settings.includeDefaults = true)
    (hread : interpret settings declaration = .ok tree) (hdefault : default? declaration = some v) :
    ∃ d, build settings direction name declaration = .ok d ∧ d.default = some v ∧
      d.type = tree := by
  rw [build, hread]
  exact ⟨_, rfl, by rw [if_pos hincluded, hdefault], rfl⟩

theorem default?_five (h : defaultText? declaration.toList = some ['5']) :
    default? declaration = some (.integer 5) := by
  have hfive : Value.read? ['5'] = some (.integer 5) :=
    Value.read?_write (v := .integer 5) ⟨by decide, by decide⟩ (by decide) .compact
  rw [default?, h, Option.map_some, defaultOfText_eq_of_read hfive]

/-- The mark behind a stray bracket and a literal that holds another bracket. -/
theorem isOptional_of_default_behind_literal :
    ∃ d, build { optionalScan := .bareWord, includeDefaults := true } .input "p"
        "Array[Int] ] \"[(\" (optional, default = 5)" = .ok d ∧
      d.default = some (.integer 5) ∧ d.type.isOptional = true := by
  have hread : interpret { optionalScan := .bareWord, includeDefaults := true }
      "Array[Int] ] \"[(\" (optional, default = 5)" =
        .ok (.optional (.array (.primitive .int) false)) := by decide +kernel
  obtain ⟨d, hbuild, hdefault, -⟩ :=
    exists_build_of_default .input "p" rfl hread (default?_five (by decide))
  refine ⟨d, hbuild, hdefault, (isOptional_of_default hbuild hdefault).resolve_right ?_⟩
  rintro ⟨-, hhidden⟩
  have hparen : ∀ t ∈ tokenize "Array[Int] ] \"[(\" (optional, default = 5)",
      t.column ≤ 19 ∧ 19 ≤ t.endColumn → t.lexeme = .leftParen := by decide +kernel
  rcases hhidden 18 (by decide) with ⟨t, ht, ⟨value, hvalue⟩, hcolumns⟩ | hbrackets
  · rw [hparen t ht hcolumns] at hvalue
    cases hvalue
  · exact absurd hbrackets (by decide +kernel)

/-- A default in a string literal is taken, but the literal marks nothing as optional. -/
theorem exists_default_of_required :
    ∃ d, build { optionalScan := .bareWord, includeDefaults := true } .input "p"
        "Int \"(optional, default = 5)\"" = .ok d ∧
      d.default = some (.integer 5) ∧ d.type.isOptional = false := by
  have hread : interpret { optionalScan := .bareWord, includeDefaults := true }
      "Int \"(optional, default = 5)\"" = .ok (.primitive .int) := by decide +kernel
  obtain ⟨d, hbuild, hdefault, htype⟩ :=
    exists_build_of_default .input "p" rfl hread (default?_five (by decide))
  exact ⟨d, hbuild, hdefault, by rw [htype]; rfl⟩

end Definition

end WorkflowParams
