import WorkflowParams.Proofs.Spelling

/-!
The types that declarations denote. Whatever else a declaration holds, what it denotes is optional
at its root or nowhere, within the nesting limit, and denoted by a canonical declaration as well:
its spelling, with an annotation behind it if the parameter is optional.
-/

namespace WorkflowParams

open Declaration

namespace TypeTree

/-- Nothing below the root is optional. -/
def isNormal : TypeTree → Bool
  | .optional inner => inner.isPlain
  | tree => tree.isPlain

/-- The shortest declaration that denotes the type. -/
def canonical : TypeTree → String
  | .optional inner => inner.spelling ++ " (optional)"
  | tree => tree.spelling

theorem isNormal_of_isPlain {tree : TypeTree} (h : tree.isPlain = true) :
    tree.isNormal = true := by
  cases tree with
  | primitive _ | array _ _ => exact h
  | optional _ => simp [isPlain] at h

theorem canonical_of_isPlain {tree : TypeTree} (h : tree.isPlain = true) :
    tree.canonical = tree.spelling := by
  cases tree with
  | primitive _ | array _ _ => rfl
  | optional _ => simp [isPlain] at h

end TypeTree

namespace Declaration

theorem Derives.isPlain {segment following : List Lexeme} {tree : TypeTree}
    (h : Derives segment tree following) : tree.isPlain = true := by
  induction h with
  | primitive p _ _ => rfl
  | array _ _ _ ih => exact ih

/-- The structure of a declaration has no optional node and is within the limit. -/
theorem isPlain_of_readStructure {declaration : String} {tree : TypeTree}
    (h : readStructure declaration = .ok tree) :
    tree.isPlain = true ∧ tree.arrayDepth ≤ maxNesting := by
  have hread := (Session.next_ofTokens (tokenize declaration)).1
  rw [← readStructure, h] at hread
  obtain ⟨first, k, -, hspelled, hdepth, -⟩ :=
    readFirstType_eq_ok_iff.mp (Prod.ext hread.symm rfl)
  exact ⟨hspelled.derives.isPlain, hdepth⟩

theorem interpret_canonical_of_isPlain (settings : Settings) {tree : TypeTree}
    (hplain : tree.isPlain = true) (hdepth : tree.arrayDepth ≤ maxNesting) :
    interpret settings tree.canonical = .ok tree := by
  rw [TypeTree.canonical_of_isPlain hplain]
  exact TypeTree.interpret_spelling_of_isPlain settings hdepth hplain

theorem interpret_canonical_optional (settings : Settings) {tree : TypeTree}
    (hplain : tree.isPlain = true) (hdepth : tree.arrayDepth ≤ maxNesting) :
    interpret settings (TypeTree.optional tree).canonical = .ok (.optional tree) :=
  TypeTree.interpret_spelling_append_of_isPlain settings hdepth hplain
    (show " (optional)".toList = ' ' :: '(' :: (optionalWord.toList ++ [')']) from rfl) rfl

/-- Every type that a declaration denotes is in normal form, and its canonical declaration denotes
it whatever the settings are. -/
theorem interpret_normalForm {settings : Settings} {declaration : String} {tree : TypeTree}
    (h : interpret settings declaration = .ok tree) :
    tree.isNormal = true ∧ tree.arrayDepth ≤ maxNesting ∧
      ∀ settings', interpret settings' tree.canonical = .ok tree := by
  cases hread : readStructure declaration with
  | error complaint => simp [interpret, hread] at h
  | ok structural =>
      obtain ⟨hplain, hdepth⟩ := isPlain_of_readStructure hread
      simp only [interpret, hread, Except.ok.injEq] at h
      by_cases hoptional : isOptional settings.optionalScan declaration = true
      · rw [if_pos hoptional] at h
        subst h
        exact ⟨hplain, hdepth, fun _ => interpret_canonical_optional _ hplain hdepth⟩
      · rw [if_neg hoptional] at h
        subst h
        exact ⟨TypeTree.isNormal_of_isPlain hplain, hdepth,
          fun _ => interpret_canonical_of_isPlain _ hplain hdepth⟩

theorem interpret_normalForm_of_marks :
    interpret {} ((TypeTree.optional (.array (.optional (.primitive .int)) true)).spelling ++
      " (optional, default = [1])") = .ok (.optional (.array (.primitive .int) true)) ∧
    (TypeTree.optional (.array (.primitive .int) true)).isNormal = true ∧
    (TypeTree.optional (.array (.primitive .int) true)).arrayDepth ≤ maxNesting ∧
    ∀ settings', interpret settings' (TypeTree.optional (.array (.primitive .int) true)).canonical =
      .ok (.optional (.array (.primitive .int) true)) := by
  have h : interpret {} ((TypeTree.optional (.array (.optional (.primitive .int)) true)).spelling ++
      " (optional, default = [1])") = .ok (.optional (.array (.primitive .int) true)) :=
    TypeTree.interpret_spelling_append {} (by decide) (by decide)
      (show " (optional, default = [1])".toList =
        ' ' :: '(' :: (optionalWord.toList ++ ", default = [1])".toList) from rfl) rfl
  exact ⟨h, interpret_normalForm h⟩

end Declaration

end WorkflowParams
