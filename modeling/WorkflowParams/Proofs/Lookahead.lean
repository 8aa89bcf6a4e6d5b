import WorkflowParams.Proofs.Completion

/-!
How far a reading looks. It passes some tokens and looks at the next one, or sees that the
declaration ends there; whatever stands behind that one, the outcome is the same and the same tokens
are passed. If it begins at a word, that word is among them.
-/

namespace WorkflowParams.Declaration

variable {stop stop' : Span} {opened : Nat} {tokens before behind left left' : List Token}
  {complaint : Complaint}

/-! Refusals. -/

theorem Complaint.instead_of_head? (wanted : Expectation) (hhead : left'.head? = left.head?)
    (hstop : left = [] → stop' = stop) : instead stop' wanted left' = instead stop wanted left := by
  cases left with
  | nil => rw [List.head?_eq_none_iff.mp hhead, hstop rfl]
  | cons token rest =>
      obtain ⟨rest', rfl⟩ := List.head?_eq_some_iff.mp hhead
      rfl

theorem Arises.of_head? (h : Arises stop opened behind complaint left)
    (hhead : left'.head? = left.head?) (hstop : left = [] → stop' = stop) :
    ∃ passed, behind = passed ++ left ∧ Arises stop' opened (passed ++ left') complaint left' := by
  have hstarts := startsWith_of_head? hhead
  cases h with
  | notName hname =>
      refine ⟨[], rfl, ?_⟩
      rw [← Complaint.instead_of_head? .typeName hhead hstop]
      exact .notName fun text => (hstarts _).trans (hname text)
  | @unsupported token _ _ hname harray hprimitive =>
      exact ⟨[token], rfl, .unsupported hname harray hprimitive⟩
  | @bareArray name _ hname hopening =>
      exact ⟨[name], rfl, .bareArray hname ((hstarts _).trans hopening)⟩
  | @emptyBrackets name opening closing rest hname hopening hclosing =>
      obtain ⟨rest', rfl⟩ := List.head?_eq_some_iff.mp hhead
      exact ⟨[name, opening], rfl, .emptyBrackets hname hopening hclosing⟩
  | @tooDeep name opening _ hfull hname hopening hinner =>
      exact ⟨[name, opening], rfl, .tooDeep hfull hname hopening ((hstarts _).trans hinner)⟩

theorem Refuses.of_head? (h : Refuses stop opened before behind complaint left)
    (hhead : left'.head? = left.head?) (hstop : left = [] → stop' = stop) :
    ∃ passed, behind = passed ++ left ∧
      Refuses stop' opened before (passed ++ left') complaint left' := by
  induction h with
  | here h =>
      obtain ⟨passed, hsplit, h'⟩ := h.of_head? hhead hstop
      exact ⟨passed, hsplit, .here h'⟩
  | innerType hname hbracket =>
      obtain ⟨rest', rfl⟩ := List.head?_eq_some_iff.mp hhead
      exact ⟨[], rfl, .innerType hname hbracket⟩
  | @element opened name opening before behind left complaint hroom hname hopening hinner _ ih =>
      obtain ⟨passed, rfl, h'⟩ := ih hhead hstop
      refine ⟨passed, rfl, .element hroom hname hopening ?_ h'⟩
      have hhead' := head?_append_congr (head?_append_congr hhead passed) before
      rw [startsWith_of_head? hhead', hinner]
  | @unclosed opened name opening segment left element hroom hname hopening helement hclosing =>
      refine ⟨[], rfl, ?_⟩
      rw [← Complaint.instead_of_head? .closingBracket hhead hstop]
      refine .unclosed hroom hname hopening (helement.of_head? ?_)
        ((startsWith_of_head? hhead _).trans hclosing)
      intro mark _
      rw [List.nil_append, List.head?_map, List.head?_map, hhead]
      exact id

/-! Readings. -/

/-- A reading depends on the tokens that it passes and on the one in front of which it stops. Only
if there is none, it depends on where the declaration ends. -/
theorem exists_passed_of_readType {outcome : Except Complaint TypeTree}
    (h : readType stop opened tokens = (outcome, left)) :
    ∃ passed, tokens = passed ++ left ∧ ∀ stop' left', left'.head? = left.head? →
      (left = [] → stop' = stop) → readType stop' opened (passed ++ left') = (outcome, left') := by
  cases outcome with
  | ok tree =>
      obtain ⟨segment, rfl, hderives, hdepth⟩ := readType_eq_ok_iff.mp h
      refine ⟨segment, rfl, ?_⟩
      intro stop' left' hhead _
      refine readType_eq_ok_iff.mpr ⟨segment, rfl, hderives.of_head? ?_, hdepth⟩
      intro mark _
      rw [List.head?_map, List.head?_map, hhead]
      exact id
  | error complaint =>
      obtain ⟨before, behind, rfl, hrefuses⟩ := readType_eq_error_iff.mp h
      obtain ⟨passed, rfl, -⟩ := hrefuses.of_head? rfl fun _ => rfl
      refine ⟨before ++ passed, (List.append_assoc ..).symm, ?_⟩
      intro stop' left' hhead hstop
      obtain ⟨passed', hsplit, h'⟩ := hrefuses.of_head? hhead hstop
      rw [← List.append_cancel_right hsplit] at h'
      rw [List.append_assoc, readType_of_refuses h']

theorem readType_singleton {name : Token} {text : String} (hname : name.lexeme = .word text) :
    (readType stop opened [name]).2 = [] := by
  rw [readType]
  simp only [hname]
  split
  · rfl
  · split <;> rfl

/-- A reading that begins at a word passes it. If it left the word it would do so as well where
nothing comes behind, and there it does not. -/
theorem exists_passed_of_readType_word {name : Token} {text : String}
    (hname : name.lexeme = .word text) {rest : List Token} {outcome : Except Complaint TypeTree}
    (h : readType stop opened (name :: rest) = (outcome, left)) :
    ∃ passed, rest = passed ++ left ∧ ∀ stop' left', left'.head? = left.head? →
      (left = [] → stop' = stop) →
      readType stop' opened (name :: (passed ++ left')) = (outcome, left') := by
  obtain ⟨passed, hsplit, hsame⟩ := exists_passed_of_readType h
  cases passed with
  | nil =>
      obtain rfl : name :: rest = left := hsplit
      have hleft := congrArg Prod.snd (hsame stop [name] rfl fun _ => rfl)
      rw [List.nil_append, readType_singleton hname] at hleft
      simp at hleft
  | cons token passed =>
      obtain ⟨rfl, hrest⟩ := List.cons.inj hsplit
      exact ⟨passed, hrest, hsame⟩

/-- No reading of a type says that there is none. -/
theorem readType_ne_noType : (readType stop opened tokens).1 ≠ .error .noType := by
  intro h
  obtain ⟨_, _, -, hrefuses⟩ := readType_eq_error_iff.mp (Prod.ext h rfl)
  exact hrefuses.complaint_at

/-- A first reading finds no word outside parentheses, or reads the type that it begins. -/
theorem readFirstType_cases (stop : Span) (tokens : List Token) :
    (fromFirstWord 0 tokens = [] ∧ readFirstType stop tokens = (.error .noType, [])) ∨
      ∃ noise name rest text, tokens = noise ++ name :: rest ∧ Noise noise ∧
        name.lexeme = .word text ∧ readFirstType stop tokens = readType stop 0 (name :: rest) := by
  rcases exists_noise_of_depth 0 tokens with hnone | ⟨noise, text, hsplit, hnone, hdepth, hword⟩
  · exact .inl ⟨hnone, by rw [readFirstType, hnone]⟩
  · obtain ⟨name, rest, hfirst, hname⟩ := exists_cons_of_startsWith hword
    rw [hfirst] at hsplit hword
    refine .inr ⟨noise, name, rest, text, hsplit, ⟨hnone, hdepth⟩, hname, ?_⟩
    rw [hsplit, Noise.readFirstType_append ⟨hnone, hdepth⟩ stop hword]

end WorkflowParams.Declaration
