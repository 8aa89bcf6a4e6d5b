import Mathlib.Order.Bounds.Basic
import WorkflowParams.Declaration.Annotation
import WorkflowParams.Proofs.ValueReading

/-!
Which default a declaration states, without a search. It is stated behind the leftmost opening that
has a closing parenthesis on its line, and reaches to the last such parenthesis: openings without
one are passed over, and those further along the line belong to the text of the default.
-/

namespace WorkflowParams.Declaration

open Json

/-- What is left of the line on which the `n`th character stands. -/
def lineFrom (n : Nat) (cs : List Char) : List Char := (cs.drop n).takeWhile (· ≠ '\n')

/-- That a default opens at the `n`th character. -/
def OpensDefault (cs : List Char) (n : Nat) : Prop :=
  defaultOpening.toList <+: cs.drop n ∧ ')' ∈ lineFrom (n + defaultOpening.toList.length) cs

instance (cs : List Char) (n : Nat) : Decidable (OpensDefault cs n) :=
  inferInstanceAs (Decidable (_ ∧ _))

/-- A text in front of the last closing parenthesis of a line. -/
def EndsBefore (line text : List Char) : Prop :=
  ∃ after, line = text ++ ')' :: after ∧ ')' ∉ after

/-- The value of a text that need not be JSON. -/
inductive StandsFor (text : List Char) : Value → Prop
  | value {v : Value} (h : Denotes maxOpen (.value v) text) : StandsFor text v
  | text (h : ∀ v, ¬ Denotes maxOpen (.value v) text) :
      StandsFor text (.text (String.ofList text))

theorem standsFor_defaultOfText (text : List Char) : StandsFor text (defaultOfText text) := by
  cases hread : Value.read? text with
  | some v =>
      rw [defaultOfText_eq_of_read hread]
      exact .value (Value.read?_eq_some_iff.mp hread)
  | none =>
      rw [defaultOfText, hread]
      refine .text fun v hv => ?_
      rw [Value.read?_eq_some_iff.mpr hv] at hread
      cases hread

/-! One opening. -/

theorem beforeLastParen?_eq_none_iff {cs : List Char} :
    beforeLastParen? cs = none ↔ ')' ∉ cs.takeWhile (· ≠ '\n') := by
  induction cs with
  | nil => simp [beforeLastParen?]
  | cons c cs ih =>
      by_cases hnewline : c = '\n'
      · simp [beforeLastParen?, hnewline]
      · rw [beforeLastParen?, if_neg hnewline, List.takeWhile_cons_of_pos (by simpa using hnewline),
          List.mem_cons, not_or, ← ih]
        cases beforeLastParen? cs with
        | none => simp [eq_comm]
        | some text => simp

theorem endsBefore_of_beforeLastParen? {cs text : List Char}
    (h : beforeLastParen? cs = some text) : EndsBefore (cs.takeWhile (· ≠ '\n')) text := by
  induction cs generalizing text with
  | nil => cases h
  | cons c cs ih =>
      rw [beforeLastParen?] at h
      split at h
      · cases h
      · next hnewline =>
          rw [List.takeWhile_cons_of_pos (by simpa using hnewline)]
          split at h
          · next inner hinner =>
              obtain rfl := Option.some.inj h
              obtain ⟨after, hline, hafter⟩ := ih hinner
              exact ⟨after, by rw [hline, List.cons_append], hafter⟩
          · next hnone =>
              split at h
              · next hparen =>
                  obtain rfl := Option.some.inj h
                  exact ⟨_, by rw [hparen, List.nil_append], beforeLastParen?_eq_none_iff.mp hnone⟩
              · cases h

/-- The text of a default that opens where a text begins. -/
def textAt? (cs : List Char) : Option (List Char) :=
  (defaultOpening.toList.isPrefixOf? cs).bind beforeLastParen?

theorem of_textAt?_eq_some {cs text : List Char} (h : textAt? cs = some text) :
    OpensDefault cs 0 ∧ EndsBefore (lineFrom (0 + defaultOpening.toList.length) cs) text := by
  obtain ⟨rest, hprefix, hrest⟩ := Option.bind_eq_some_iff.mp h
  obtain rfl := List.isPrefixOf?_eq_some_iff_append_eq.mp hprefix
  have hends := endsBefore_of_beforeLastParen? hrest
  have hline : lineFrom (0 + defaultOpening.toList.length) (defaultOpening.toList ++ rest) =
      rest.takeWhile (· ≠ '\n') := by
    rw [lineFrom, Nat.zero_add, List.drop_left]
  refine ⟨⟨List.prefix_append _ _, ?_⟩, hline ▸ hends⟩
  obtain ⟨after, hafter, -⟩ := hends
  rw [hline, hafter]
  simp

theorem not_opensDefault_of_textAt? {cs : List Char} (h : textAt? cs = none) :
    ¬ OpensDefault cs 0 := by
  rintro ⟨⟨rest, hrest⟩, hparen⟩
  rw [List.drop_zero] at hrest
  subst hrest
  have hprefix : defaultOpening.toList.isPrefixOf? (defaultOpening.toList ++ rest) = some rest :=
    List.isPrefixOf?_eq_some_iff_append_eq.mpr rfl
  rw [textAt?, hprefix, Option.bind_some, beforeLastParen?_eq_none_iff] at h
  rw [lineFrom, Nat.zero_add, List.drop_left] at hparen
  exact h hparen

/-! All of them. -/

theorem not_opensDefault_nil (n : Nat) : ¬ OpensDefault [] n := by
  rintro ⟨⟨rest, hrest⟩, -⟩
  rw [List.drop_nil] at hrest
  cases hrest

theorem lineFrom_cons (c : Char) (cs : List Char) (n : Nat) :
    lineFrom (n + 1) (c :: cs) = lineFrom n cs := rfl

theorem opensDefault_cons_iff {c : Char} {cs : List Char} {n : Nat} :
    OpensDefault (c :: cs) (n + 1) ↔ OpensDefault cs n := by
  rw [OpensDefault, Nat.add_right_comm, lineFrom_cons, List.drop_succ_cons]
  rfl

theorem defaultText?_cons (c : Char) (cs : List Char) :
    defaultText? (c :: cs) = (textAt? (c :: cs)).or (defaultText? cs) := by
  rw [defaultText?, ← textAt?]
  cases textAt? (c :: cs) <;> rfl

theorem not_opensDefault_of_defaultText? {cs : List Char} (h : defaultText? cs = none) (n : Nat) :
    ¬ OpensDefault cs n := by
  induction cs generalizing n with
  | nil => exact not_opensDefault_nil n
  | cons c cs ih =>
      rw [defaultText?_cons, Option.or_eq_none_iff] at h
      cases n with
      | zero => exact not_opensDefault_of_textAt? h.1
      | succ n => exact mt opensDefault_cons_iff.mp (ih h.2 n)

theorem exists_isLeast_of_defaultText? {cs text : List Char} (h : defaultText? cs = some text) :
    ∃ n, IsLeast {n | OpensDefault cs n} n ∧
      EndsBefore (lineFrom (n + defaultOpening.toList.length) cs) text := by
  induction cs with
  | nil => cases h
  | cons c cs ih =>
      rw [defaultText?_cons] at h
      cases hhere : textAt? (c :: cs) with
      | some found =>
          obtain rfl : found = text := by simpa [hhere] using h
          obtain ⟨hopens, hends⟩ := of_textAt?_eq_some hhere
          exact ⟨0, ⟨hopens, fun _ _ => Nat.zero_le _⟩, hends⟩
      | none =>
          obtain ⟨n, ⟨hopens, hleast⟩, hends⟩ := ih (by simpa [hhere] using h)
          refine ⟨n + 1, ⟨opensDefault_cons_iff.mpr hopens, ?_⟩, ?_⟩
          · intro m hm
            cases m with
            | zero => exact absurd hm (not_opensDefault_of_textAt? hhere)
            | succ m => exact Nat.succ_le_succ (hleast (opensDefault_cons_iff.mp hm))
          · rwa [Nat.add_right_comm, lineFrom_cons]

/-- A declaration without an opening states no default; otherwise the leftmost opening decides. -/
theorem default?_leftmost (declaration : String) :
    (default? declaration = none ↔ ∀ n, ¬ OpensDefault declaration.toList n) ∧
    ∀ n, IsLeast {n | OpensDefault declaration.toList n} n → ∃ text v,
      EndsBefore (lineFrom (n + defaultOpening.toList.length) declaration.toList) text ∧
      StandsFor text v ∧ default? declaration = some v := by
  rw [default?]
  cases htext : defaultText? declaration.toList with
  | none =>
      have hnone := not_opensDefault_of_defaultText? htext
      exact ⟨by simp [hnone], fun n hn => absurd hn.1 (hnone n)⟩
  | some text =>
      obtain ⟨n, hleast, hends⟩ := exists_isLeast_of_defaultText? htext
      refine ⟨by simpa using ⟨n, hleast.1⟩, ?_⟩
      intro m hm
      obtain rfl := hm.unique hleast
      exact ⟨text, _, hends, standsFor_defaultOfText text, rfl⟩

theorem default?_leftmost_of_three_openings :
    IsLeast {n | OpensDefault
      "Int (optional, default = 1\n(optional, default = [\"(\", 2]) (optional, default = 3)".toList
      n} 27 ∧
    ∃ text v,
      EndsBefore (lineFrom (27 + defaultOpening.toList.length)
        "Int (optional, default = 1\n(optional, default = [\"(\", 2]) (optional, default = 3)".toList)
        text ∧
      StandsFor text v ∧
      default?
        "Int (optional, default = 1\n(optional, default = [\"(\", 2]) (optional, default = 3)" =
        some v := by
  have hnone : ∀ n < 27, ¬ OpensDefault
      "Int (optional, default = 1\n(optional, default = [\"(\", 2]) (optional, default = 3)".toList
      n := by decide
  have hleast : IsLeast {n | OpensDefault
      "Int (optional, default = 1\n(optional, default = [\"(\", 2]) (optional, default = 3)".toList
      n} 27 := ⟨by decide, fun n hn => Nat.not_lt.mp fun hlt => hnone n hlt hn⟩
  exact ⟨hleast, (default?_leftmost _).2 27 hleast⟩

end WorkflowParams.Declaration
