import WorkflowParams.Definition
import WorkflowParams.Proofs.NormalForm
import WorkflowParams.Proofs.Tiling

/-!
How far the settings matter. Whether a declaration can be read, and what is complained about if it
cannot, depends on the declaration alone; of its type the settings only decide whether it is marked
as optional. A bare word that marks it is also part of the text, so the scan of the whole text finds
every mark that the scan of the tokens finds.
-/

namespace WorkflowParams

open Declaration

namespace Declaration

theorem exists_word_of_marksOptional {depth : Nat} {tokens : List Token}
    (h : marksOptional depth tokens = true) :
    ∃ t ∈ tokens, t.lexeme = .word optionalWord := by
  induction tokens generalizing depth with
  | nil => simp [marksOptional] at h
  | cons token tokens ih =>
      have hrest {depth : Nat} (h : marksOptional depth tokens = true) :
          ∃ t ∈ token :: tokens, t.lexeme = .word optionalWord := by
        obtain ⟨t, ht, hword⟩ := ih h
        exact ⟨t, List.mem_cons_of_mem token ht, hword⟩
      cases hlexeme : token.lexeme with
      | word text =>
          simp only [marksOptional, hlexeme, Bool.or_eq_true, Bool.and_eq_true,
            decide_eq_true_eq] at h
          rcases h with ⟨-, rfl⟩ | h
          · exact ⟨token, List.mem_cons_self, hlexeme⟩
          · exact hrest h
      | leftBracket | rightBracket | quoted _ | number _ | symbol _ | plus | question | leftParen
      | rightParen | comma | equal | endMark =>
          rw [marksOptional, hlexeme] at h
          exact hrest h

/-- The text of a declaration holds every word among its tokens. -/
theorem infix_of_mem_tokenize {declaration : String} {t : Token} (ht : t ∈ tokenize declaration)
    {text : String} (hword : t.lexeme = .word text) : text.toList <:+: declaration.toList := by
  obtain ⟨tokens, htokens, htiles⟩ := exists_tiles_tokenize declaration
  rw [htokens, List.mem_append, List.mem_singleton] at ht
  cases ht with
  | inl hmem =>
      obtain ⟨before, own, behind, hsplit, -, -, hcovers⟩ := htiles.exists_split hmem
      rw [hword] at hcovers
      exact ⟨before, behind, by rw [hsplit, ← hcovers.1, List.append_assoc]⟩
  | inr hend => simp [hend, Token.endAt] at hword

theorem mentionsOptional_of_marksOptional {declaration : String}
    (h : marksOptional 0 (tokenize declaration) = true) : mentionsOptional declaration = true := by
  obtain ⟨t, ht, hword⟩ := exists_word_of_marksOptional h
  exact occursIn_iff.mpr (infix_of_mem_tokenize ht hword)

theorem isOptional_wholeString_of_bareWord {declaration : String}
    (h : isOptional .bareWord declaration = true) : isOptional .wholeString declaration = true :=
  mentionsOptional_of_marksOptional h

/-- The reading of a declaration fails whatever the settings are, with one diagnostic, or finds one
structure whatever they are. -/
theorem interpret_cases (declaration : String) :
    (∃ e, ∀ settings, interpret settings declaration = .error e) ∨
      ∃ tree, tree.isPlain = true ∧ ∀ settings, interpret settings declaration =
        .ok (if isOptional settings.optionalScan declaration then .optional tree else tree) := by
  cases hread : readStructure declaration with
  | error complaint => exact .inl ⟨_, fun settings => by rw [interpret, hread]⟩
  | ok tree =>
      exact .inr ⟨tree, (isPlain_of_readStructure hread).1,
        fun settings => by rw [interpret, hread]⟩

end Declaration

namespace Definition

/-- Two definitions of one declaration, under any names, directions and settings, fail together or
succeed together. Where they fail, the diagnostics differ in the note only, which names the
parameter. Where they succeed, the types have the same structure; they differ only if the scans
do, and then it is the scan of the whole text that marks the type as optional. -/
theorem build_agree (declaration name name' : String) (direction direction' : Direction)
    (settings settings' : Settings) :
    (∃ e e', build settings direction name declaration = .error e ∧
        build settings' direction' name' declaration = .error e' ∧
        e.kind = e'.kind ∧ e.message = e'.message ∧ e.span = e'.span ∧
        e.declaration = e'.declaration ∧ e.help = e'.help ∧
        e.note = some ("while converting parameter '" ++ name ++ "'") ∧
        e'.note = some ("while converting parameter '" ++ name' ++ "'")) ∨
      ∃ d d' tree, build settings direction name declaration = .ok d ∧
        build settings' direction' name' declaration = .ok d' ∧
        tree.isPlain = true ∧ (d.type = tree ∨ d.type = .optional tree) ∧
        (d'.type = tree ∨ d'.type = .optional tree) ∧
        (settings.optionalScan = settings'.optionalScan → d.type = d'.type) ∧
        (settings.optionalScan = .bareWord → settings'.optionalScan = .wholeString →
          d.type.isOptional = true → d'.type.isOptional = true) := by
  rcases interpret_cases declaration with ⟨e, herror⟩ | ⟨tree, hplain, hok⟩
  · refine .inl ⟨_, _, by rw [build, herror settings], by rw [build, herror settings'], ?_⟩
    exact ⟨rfl, rfl, rfl, rfl, rfl, rfl, rfl⟩
  · refine .inr ⟨_, _, tree, by rw [build, hok settings], by rw [build, hok settings'], hplain, ?_⟩
    refine ⟨by simp only; split <;> simp, by simp only; split <;> simp, ?_, ?_⟩
    · intro hscan
      simp only [hscan]
    · intro hbare hwhole hoptional
      simp only [hbare, hwhole] at hoptional ⊢
      have hmarked : isOptional .bareWord declaration = true := by
        by_contra hunmarked
        rw [if_neg hunmarked, TypeTree.isOptional_of_isPlain hplain] at hoptional
        exact Bool.false_ne_true hoptional
      rw [if_pos (isOptional_wholeString_of_bareWord hmarked)]
      rfl

end Definition

end WorkflowParams
