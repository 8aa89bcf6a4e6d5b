import WorkflowParams.Definition
import WorkflowParams.Proofs.DefaultText
import WorkflowParams.Proofs.JsonValues
import WorkflowParams.Proofs.Spelling

/-!
A default in compact JSON survives the conversion of its declaration. The texts in it may hold
anything, the closing parenthesis and the word for optional parameters among it: it is enough that
the default stays on one line, and that the parenthesis behind it is the last one there.
-/

namespace WorkflowParams

open Json Declaration

namespace Declaration

theorem beforeLastParen?_append {text rest : List Char} (hline : '\n' ∉ text)
    (hrest : beforeLastParen? rest = none) :
    beforeLastParen? (text ++ ')' :: rest) = some text := by
  induction text with
  | nil => simp [beforeLastParen?, hrest]
  | cons c cs ih =>
      rw [List.mem_cons, not_or] at hline
      rw [List.cons_append, beforeLastParen?, if_neg (Ne.symm hline.1), ih hline.2]

/-- No default begins before the first parenthesis. -/
theorem defaultText?_append {before : List Char} (h : '(' ∉ before) (cs : List Char) :
    defaultText? (before ++ cs) = defaultText? cs := by
  induction before with
  | nil => rfl
  | cons c before ih =>
      rw [List.mem_cons, not_or] at h
      have hprefix : defaultOpening.toList.isPrefixOf? (c :: (before ++ cs)) = none := by
        have hne : ('(' == c) = false := by simpa using h.1
        rw [show defaultOpening.toList = '(' :: "optional, default = ".toList from rfl,
          List.isPrefixOf?, hne, if_neg Bool.false_ne_true]
      rw [List.cons_append, defaultText?, hprefix]
      exact ih h.2

theorem defaultText?_opening {cs text : List Char} (h : beforeLastParen? cs = some text) :
    defaultText? (defaultOpening.toList ++ cs) = some text := by
  have hprefix : defaultOpening.toList.isPrefixOf? (defaultOpening.toList ++ cs) = some cs :=
    List.isPrefixOf?_eq_some_iff_append_eq.mpr rfl
  rw [show defaultOpening.toList ++ cs = '(' :: ("optional, default = ".toList ++ cs) from rfl]
    at hprefix ⊢
  rw [defaultText?, hprefix, Option.bind_some, h]

/-- The default is the value that an annotation behind a type gives in compact JSON. -/
theorem default?_spelling_append (t : TypeTree) {v : Value} (hexact : v.Exact)
    (hopen : v.depth ≤ maxOpen) {after : String}
    (hafter : ')' ∉ after.toList.takeWhile (· ≠ '\n')) :
    default? (t.spelling ++ " (optional, default = " ++ v.compact ++ ")" ++ after) = some v := by
  have hparen : '(' ∉ t.spelling.toList ++ [' '] := by
    intro hmem
    cases List.mem_append.mp hmem with
    | inl hspelling => exact absurd (TypeTree.spelling_subset_alphabet t hspelling) (by decide)
    | inr hspace => exact absurd hspace (by decide)
  have htext := beforeLastParen?_append (Value.newline_not_mem_write v 0 hexact)
    (beforeLastParen?_eq_none_iff.mpr hafter)
  have hlist : (t.spelling ++ " (optional, default = " ++ v.compact ++ ")" ++ after).toList =
      (t.spelling.toList ++ [' ']) ++
        (defaultOpening.toList ++ (v.write .compact 0 ++ ')' :: after.toList)) := by
    simp [Value.compact, defaultOpening]
  rw [default?, hlist, defaultText?_append hparen, defaultText?_opening htext, Option.map_some,
    defaultOfText_eq_of_read (Value.read?_write hexact hopen .compact)]

theorem interpret_spelling_default (settings : Settings) {t : TypeTree}
    (hplain : t.isPlain = true) (hdepth : t.arrayDepth ≤ maxNesting) (v : Value) (after : String) :
    interpret settings
      (t.spelling ++ " (optional, default = " ++ v.compact ++ ")" ++ after) =
      .ok (.optional t) := by
  have hmarking : (" (optional, default = " ++ v.compact ++ ")" ++ after).toList =
      ' ' :: '(' :: (optionalWord.toList ++
        (", default = ".toList ++ (v.write .compact 0 ++ ')' :: after.toList))) := by
    simp [Value.compact, optionalWord]
  have h := TypeTree.interpret_spelling_append_of_isPlain settings hdepth hplain hmarking rfl
  simpa only [String.append_assoc] using h

end Declaration

namespace Definition

/-- A type without marks and a value without doubles come out of a declaration as they were
written into it, whatever the settings are otherwise. -/
theorem build_spelling_default {settings : Settings} (hincluded : settings.includeDefaults = true)
    (direction : Direction) (name : String) {t : TypeTree} (hplain : t.isPlain = true)
    (hdepth : t.arrayDepth ≤ maxNesting) {v : Value} (hexact : v.Exact) (hopen : v.depth ≤ maxOpen)
    {after : String} (hafter : ')' ∉ after.toList.takeWhile (· ≠ '\n')) :
    build settings direction name
      (t.spelling ++ " (optional, default = " ++ v.compact ++ ")" ++ after) =
      .ok
        { name
          type := .optional t
          binding := .ofName name direction settings.outputBinding
          direction
          default := some v } := by
  rw [build, interpret_spelling_default settings hplain hdepth v after]
  simp only [hincluded, if_true]
  rw [default?_spelling_append t hexact hopen hafter]

theorem build_spelling_default_of_brackets :
    build { includeDefaults := true } .output "task.limits"
      ((TypeTree.array (.primitive .string) true).spelling ++ " (optional, default = " ++
        (Value.object [("(optional)", .array [.integer (-2 ^ 63), .text "a\")\n"]),
          ("[", .null)]).compact ++ ")" ++ "?\n)") =
      .ok
        { name := "task.limits"
          type := .optional (.array (.primitive .string) true)
          binding := .recordUpdate "task_limits"
          direction := .output
          default := some (.object [("(optional)", .array [.integer (-2 ^ 63), .text "a\")\n"]),
            ("[", .null)]) } := by
  refine build_spelling_default rfl .output "task.limits" rfl ?_ ?_ ?_ ?_
  · decide
  · exact ⟨by decide, ⟨⟨by decide, by decide⟩, trivial, trivial⟩, trivial, trivial⟩
  · decide
  · decide

end Definition

end WorkflowParams
