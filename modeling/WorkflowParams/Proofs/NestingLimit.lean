import WorkflowParams.Proofs.Refusal

/-!
When arrays are nested too deep. The reader complains of that exactly if one array more is opened
than may be open at once and the innermost of them is not closed at once: it points at the name of
this array and stops behind its bracket, so nothing of what comes then can matter.
-/

namespace WorkflowParams.Declaration

/-- The lexemes that open arrays one in the other. -/
def openings : Nat → List Lexeme
  | 0 => []
  | n + 1 => .word arrayName :: .leftBracket :: openings n

/-- The tokens begin by opening `n` arrays one in the other, with anything behind the last bracket
but a closing one. -/
def Opens (n : Nat) (tokens : List Token) : Prop :=
  ∃ inner, tokens.map Token.lexeme = openings n ++ inner ∧ inner.head? ≠ some .rightBracket

variable {stop : Span} {opened n : Nat} {tokens before behind left : List Token}
  {complaint : Complaint}

theorem opens_zero_iff : Opens 0 tokens ↔ startsWith .rightBracket tokens = false := by
  rw [← Bool.not_eq_true, startsWith_iff]
  simp [Opens, openings]

theorem opens_succ_iff : Opens (n + 1) tokens ↔
    ∃ name bracket inner, tokens = name :: bracket :: inner ∧ name.lexeme = .word arrayName ∧
      bracket.lexeme = .leftBracket ∧ Opens n inner := by
  constructor
  · rintro ⟨lexemes, hlexemes, hhead⟩
    simp only [openings, List.cons_append, List.map_eq_cons_iff] at hlexemes
    obtain ⟨name, _, rfl, hname, bracket, inner, rfl, hbracket, hinner⟩ := hlexemes
    exact ⟨name, bracket, inner, rfl, hname, hbracket, lexemes, hinner, hhead⟩
  · rintro ⟨name, bracket, inner, rfl, hname, hbracket, lexemes, hinner, hhead⟩
    exact ⟨lexemes, by simp [openings, hname, hbracket, hinner], hhead⟩

theorem Opens.not_startsWith_rightBracket (h : Opens n tokens) :
    startsWith .rightBracket tokens = false := by
  cases n with
  | zero => exact opens_zero_iff.mp h
  | succ n =>
      obtain ⟨name, bracket, inner, rfl, hname, -, -⟩ := opens_succ_iff.mp h
      simp [startsWith, hname]

theorem Opens.length_le (h : Opens n tokens) : 2 * n ≤ tokens.length := by
  induction n generalizing tokens with
  | zero => exact Nat.zero_le _
  | succ n ih =>
      obtain ⟨name, bracket, inner, rfl, -, -, hinner⟩ := opens_succ_iff.mp h
      simp only [List.length_cons]
      have hlength := ih hinner
      omega

/-- Inside `opened` open arrays with room for `n` more, the last of `n + 1` openings is refused. -/
theorem Opens.readType (h : Opens (n + 1) tokens) (hroom : opened + n = maxNesting) :
    ∃ name, tokens[2 * n]? = some name ∧
      readType stop opened tokens = (.error (.tooDeep name.span), tokens.drop (2 * (n + 1))) := by
  induction n generalizing opened tokens with
  | zero =>
      obtain ⟨name, bracket, inner, rfl, hname, hbracket, hinner⟩ := opens_succ_iff.mp h
      exact ⟨name, rfl, readType_tooDeep stop (by omega) hname hbracket
        hinner.not_startsWith_rightBracket⟩
  | succ n ih =>
      obtain ⟨outer, bracket, inner, rfl, houter, hbracket, hinner⟩ := opens_succ_iff.mp h
      obtain ⟨name, hname, hread⟩ := ih hinner (show opened + 1 + n = maxNesting by omega)
      refine ⟨name, by rwa [Nat.mul_succ], ?_⟩
      rw [readType_array stop (by omega) houter hbracket hinner.not_startsWith_rightBracket, hread]
      rfl

/-- Only openings can be refused in this way. -/
theorem Refuses.opens (h : Refuses stop opened before behind complaint left)
    (hkind : complaint.kind = .nestingTooDeep) (hopened : opened ≤ maxNesting) :
    Opens (maxNesting - opened + 1) (before ++ behind) := by
  induction h with
  | @here opened behind left complaint h =>
      cases h with
      | tooDeep hfull hname hbracket hinner =>
          rw [Nat.sub_eq_zero_of_le hfull]
          exact opens_succ_iff.mpr ⟨_, _, _, rfl, hname, hbracket, opens_zero_iff.mpr hinner⟩
      | notName _ => cases behind <;> cases hkind
      | unsupported _ _ _ | bareArray _ _ | emptyBrackets _ _ _ => cases hkind
  | innerType _ _ => cases hkind
  | @element opened name opening before behind left complaint hroom hname hopening _ _ ih =>
      rw [show maxNesting - opened + 1 = maxNesting - (opened + 1) + 1 + 1 by omega]
      exact opens_succ_iff.mpr ⟨name, opening, _, rfl, hname, hopening, ih hkind hroom⟩
  | @unclosed _ _ _ _ behind _ _ _ _ _ _ => cases behind <;> cases hkind

namespace Session

variable {first : Nat}

theorem next_ofTokens_of_opens (hfirst : FirstWordAt (beforeEnd tokens) first)
    (h : Opens (maxNesting + 1) ((beforeEnd tokens).drop first)) :
    ∃ name, (beforeEnd tokens)[first + 2 * maxNesting]? = some name ∧
      (ofTokens tokens).next.1 = .error (.tooDeep name.span) ∧
      (ofTokens tokens).next.2.position = first + 2 * (maxNesting + 1) := by
  obtain ⟨houtcome, hposition⟩ := next_ofTokens tokens
  have hlast := @Opens.readType (ofTokens tokens).stop 0 maxNesting _ h (Nat.zero_add _)
  obtain ⟨name, hname, hread⟩ := hlast
  have hlength := h.length_le
  rw [readFirstType_of_firstWordAt _ hfirst, hread] at houtcome hposition
  refine ⟨name, by rwa [List.getElem?_drop] at hname, houtcome, ?_⟩
  simp only [List.length_drop] at hlength hposition
  omega

theorem exists_opens_of_next (h : (ofTokens tokens).next.1 = .error complaint)
    (hkind : complaint.kind = .nestingTooDeep) :
    ∃ first, FirstWordAt (beforeEnd tokens) first ∧
      Opens (maxNesting + 1) ((beforeEnd tokens).drop first) := by
  rw [(next_ofTokens tokens).1] at h
  rcases fromFirstWord_spec 0 (beforeEnd tokens) with ⟨hnil, -⟩ | ⟨first, -, hfirst, -⟩
  · rw [readFirstType, hnil] at h
    cases h
    cases hkind
  · rw [readFirstType_of_firstWordAt _ hfirst] at h
    obtain ⟨before, behind, hsplit, hrefuses⟩ := refuses_of_readType (Prod.ext h rfl)
    exact ⟨first, hfirst, hsplit ▸ hrefuses.opens hkind (Nat.zero_le _)⟩

/-- The first reading complains of arrays nested too deep exactly where the first word outside
parentheses begins one opening more than the limit allows. Then it points at the name in the last of
these openings, and the session stands right behind them. -/
theorem next_ofTokens_nestingTooDeep (tokens : List Token) (complaint : Complaint) (k : Nat) :
    ((ofTokens tokens).next.1 = .error complaint ∧ complaint.kind = .nestingTooDeep ∧
      (ofTokens tokens).next.2.position = k) ↔
    ∃ first name, FirstWordAt (beforeEnd tokens) first ∧
      Opens (maxNesting + 1) ((beforeEnd tokens).drop first) ∧
      (beforeEnd tokens)[first + 2 * maxNesting]? = some name ∧
      complaint = .tooDeep name.span ∧ k = first + 2 * (maxNesting + 1) := by
  constructor
  · rintro ⟨herror, hkind, rfl⟩
    obtain ⟨first, hfirst, hopens⟩ := exists_opens_of_next herror hkind
    obtain ⟨name, hname, hnext, hposition⟩ := next_ofTokens_of_opens hfirst hopens
    have hcomplaint := Except.error.inj (herror.symm.trans hnext)
    exact ⟨first, name, hfirst, hopens, hname, hcomplaint, hposition⟩
  · rintro ⟨first, name, hfirst, hopens, hname, rfl, rfl⟩
    obtain ⟨last, hlast, hnext, hposition⟩ := next_ofTokens_of_opens hfirst hopens
    obtain rfl := Option.some.inj (hlast.symm.trans hname)
    exact ⟨hnext, rfl, hposition⟩

end Session

end WorkflowParams.Declaration
