import WorkflowParams.Proofs.Relabeling
import WorkflowParams.Proofs.SourceForm

/-!
What stands inside a string literal has no influence on the type, as long as the mark of an optional
parameter is looked for among the tokens. Two declarations that differ in the value of one literal
have the same tokens, up to columns and that value; so after the same relabeling their readings are
the same.
-/

namespace WorkflowParams.Declaration

/-- All columns and all values of string literals made alike. -/
def effacing : Relabeling where
  column := fun _ => 0
  column_le := fun _ => Nat.le_refl 0
  value := fun _ => ""

theorem isSeparator_quote : isSeparator '"' = true := by decide +kernel

/-- Every string literal in a declaration has its closing quote. -/
def LiteralsClosed (declaration : String) : Prop :=
  ∀ t ∈ tokenize declaration, ¬ Unclosed (slice declaration.toList t.column t.endColumn)

theorem tiles_literal {front back : List Char} {before after : List Token}
    (hfront : Tiles 1 front before)
    (hclosed : ∀ t ∈ before, ¬ Unclosed (front.drop (t.column - 1)))
    (hback : Tiles 1 back after) (value : String) :
    let last := front.length + (literal value).toList.length
    Tiles 1 (front ++ ((literal value).toList ++ back))
      (before ++ ⟨.quoted value, front.length + 1, last⟩ :: after.map (Token.shift last)) := by
  intro last
  have hbehind := hback.shift last
  rw [Nat.add_comm 1, Nat.add_right_comm] at hbehind
  have hliteral := Tiles.token (Lexeme.covers_literal value back) hbehind
  rw [Nat.add_right_comm, Nat.add_sub_cancel] at hliteral
  have hseparator : ∀ c, ((literal value).toList ++ back).head? = some c →
      isSeparator c = true := by
    intro c hc
    rw [toList_literal] at hc
    obtain rfl := Option.some.inj hc
    exact isSeparator_quote
  refine hfront.append ?_ hseparator hclosed
  rw [Nat.add_comm 1 front.length]
  exact hliteral

variable {front : String}

/-- The tokens of a declaration with a literal in it are those in front of the literal, the literal
itself, and those behind it; of these, only the columns tell where the literal ends. -/
theorem exists_tokenize_literal (h : LiteralsClosed front) (back : String) :
    ∃ before after : List Token, ∀ value, ∃ last,
      tokenize (front ++ literal value ++ back) =
        before ++ ⟨.quoted value, front.length + 1, last⟩ :: after.map (Token.shift last) := by
  obtain ⟨before, hbefore, hfront⟩ := exists_tiles_tokenize front
  obtain ⟨after, -, hback⟩ := exists_tiles_tokenize back
  refine ⟨before, after ++ [.endAt (back.length + 1)], ?_⟩
  intro value
  have hclosed : ∀ t ∈ before, ¬ Unclosed (front.toList.drop (t.column - 1)) := by
    intro t ht hopen
    refine h t ?_ (hfront.unclosed_drop ht hopen).1
    rw [hbefore]
    exact List.mem_append_left _ ht
  have htiles := tiles_literal hfront hclosed hback value
  rw [← String.toList_append, ← String.toList_append, ← String.append_assoc, String.length_toList,
    String.length_toList] at htiles
  have hend : back.length + 1 + (front.length + (literal value).length) =
      (front ++ literal value ++ back).length + 1 := by
    rw [String.length_append, String.length_append]
    omega
  refine ⟨front.length + (literal value).length, ?_⟩
  rw [htiles.tokenize_eq, List.map_append, List.map_singleton, Token.shift_endAt, hend,
    List.append_assoc, List.cons_append]

/-- Declarations that differ in the value of a literal are read alike once columns and values are
effaced. -/
theorem effaced_tokenize_literal (h : LiteralsClosed front) (back value value' : String) :
    (tokenize (front ++ literal value ++ back)).map effacing.token =
      (tokenize (front ++ literal value' ++ back)).map effacing.token := by
  obtain ⟨before, after, htokens⟩ := exists_tokenize_literal h back
  obtain ⟨last, hvalue⟩ := htokens value
  obtain ⟨last', hvalue'⟩ := htokens value'
  rw [hvalue, hvalue', List.map_append, List.map_append, List.map_cons, List.map_cons,
    List.map_map, List.map_map]
  rfl

/-- Under the scan of the tokens, the value of a string literal decides neither whether a
declaration is read nor what type it denotes nor what kind of complaint there is about it. -/
theorem interpret_literal_agree {settings : Settings} (hscan : settings.optionalScan = .bareWord)
    (h : LiteralsClosed front) (back value value' : String) :
    (∃ tree, interpret settings (front ++ literal value ++ back) = .ok tree ∧
        interpret settings (front ++ literal value' ++ back) = .ok tree) ∨
      ∃ d d', interpret settings (front ++ literal value ++ back) = .error d ∧
        interpret settings (front ++ literal value' ++ back) = .error d' ∧ d.kind = d'.kind := by
  have htokens := effaced_tokenize_literal h back value value'
  -- Effaced, the two readings have the same outcome: the tree is untouched, a complaint keeps its
  -- kind.
  have hread := effacing.next_map_tokenize (front ++ literal value ++ back)
  rw [htokens, effacing.next_map_tokenize] at hread
  have hoptional : isOptional settings.optionalScan (front ++ literal value ++ back) =
      isOptional settings.optionalScan (front ++ literal value' ++ back) := by
    rw [hscan, isOptional, isOptional, ← effacing.marksOptional_map, htokens,
      effacing.marksOptional_map]
  cases hvalue : readStructure (front ++ literal value ++ back) with
  | ok tree =>
      cases hvalue' : readStructure (front ++ literal value' ++ back) with
      | ok tree' =>
          rw [hvalue, hvalue'] at hread
          obtain rfl := Except.ok.inj hread
          refine .inl ⟨_, by rw [interpret, hvalue], ?_⟩
          rw [interpret, hvalue', hoptional]
      | error complaint' => simp [hvalue, hvalue', Except.mapError] at hread
  | error complaint =>
      cases hvalue' : readStructure (front ++ literal value' ++ back) with
      | ok tree' => simp [hvalue, hvalue', Except.mapError] at hread
      | error complaint' =>
          rw [hvalue, hvalue'] at hread
          have hkind := congrArg Complaint.kind (Except.error.inj hread)
          rw [Relabeling.kind_complaint, Relabeling.kind_complaint] at hkind
          exact .inr ⟨_, _, by rw [interpret, hvalue], by rw [interpret, hvalue'], hkind.symm⟩

/-- `("]") Int ("", optional)` denotes the same type whatever the second literal holds. -/
theorem interpret_literal_agree_of_brackets :
    let settings : Settings := { optionalScan := .bareWord }
    LiteralsClosed "(\"]\") Int (" ∧
      interpret settings ("(\"]\") Int (" ++ literal "" ++ ", optional)") =
        .ok (.optional (.primitive .int)) ∧
      interpret settings ("(\"]\") Int (" ++ literal "\"[) optional\\" ++ ", optional)") =
        .ok (.optional (.primitive .int)) := by
  intro settings
  have hclosed : LiteralsClosed "(\"]\") Int (" := by
    have hliteral : ∀ t ∈ tokenize "(\"]\") Int (",
        (slice "(\"]\") Int (".toList t.column t.endColumn).head? = some '"' →
          slice "(\"]\") Int (".toList t.column t.endColumn = '"' :: [']', '"'] := by
      decide +kernel
    rintro t ht ⟨inside, hinside, hescaped⟩
    rw [hliteral t ht (by rw [hinside]; rfl)] at hinside
    obtain ⟨-, rfl⟩ := List.cons.inj hinside
    have hbracket : escapesNext [']'] = false := by decide
    exact not_quotesEscaped_append hbracket [] hescaped
  have hempty : interpret settings ("(\"]\") Int (" ++ literal "" ++ ", optional)") =
      .ok (.optional (.primitive .int)) := by
    decide +kernel
  have hscan : settings.optionalScan = .bareWord := rfl
  refine ⟨hclosed, hempty, ?_⟩
  rcases interpret_literal_agree hscan hclosed ", optional)" "" "\"[) optional\\" with
    ⟨tree, htree, hsame⟩ | ⟨d, -, herror, -⟩
  · rw [hempty] at htree
    rw [hsame, htree]
  · rw [hempty] at herror
    cases herror

end WorkflowParams.Declaration
