import WorkflowParams.Proofs.Grammar

/-!
What the reader refuses, and where. A refusal splits the tokens in two: those before the place are
the beginning of a type, and the complaint arises at the first of those behind it. The reader
refuses exactly what can be split in this way.
-/

namespace WorkflowParams.Declaration

/-- The complaint about what stands where something else is wanted. -/
def Complaint.instead (stop : Span) (wanted : Expectation) : List Token → Complaint
  | [] => .ended wanted stop
  | token :: _ => .unexpected wanted token.lexeme token.span

/-- A complaint that arises where a type should begin inside `opened` open arrays, and the tokens
that are left then. -/
inductive Arises (stop : Span) (opened : Nat) : List Token → Complaint → List Token → Prop
  | notName {behind : List Token} (h : ∀ text, startsWith (.word text) behind = false) :
      Arises stop opened behind (.instead stop .typeName behind) behind
  | unsupported {token : Token} {rest : List Token} {name : String}
      (hname : token.lexeme = .word name) (harray : name ≠ arrayName)
      (hprimitive : Primitive.ofName? name = none) :
      Arises stop opened (token :: rest) (.unsupported name token.span) rest
  | bareArray {name : Token} {rest : List Token} (hname : name.lexeme = .word arrayName)
      (hopening : startsWith .leftBracket rest = false) :
      Arises stop opened (name :: rest) (.bareArray name.span) rest
  | emptyBrackets {name opening closing : Token} {rest : List Token}
      (hname : name.lexeme = .word arrayName) (hopening : opening.lexeme = .leftBracket)
      (hclosing : closing.lexeme = .rightBracket) :
      Arises stop opened (name :: opening :: closing :: rest)
        (.emptyBrackets (Span.ofColumns opening.column closing.column)) (closing :: rest)
  | tooDeep {name opening : Token} {rest : List Token} (hfull : maxNesting ≤ opened)
      (hname : name.lexeme = .word arrayName) (hopening : opening.lexeme = .leftBracket)
      (hinner : startsWith .rightBracket rest = false) :
      Arises stop opened (name :: opening :: rest) (.tooDeep name.span) rest

/-- A complaint that arises behind the beginning of a type inside `opened` open arrays, and the
tokens that are left then. -/
inductive Refuses (stop : Span) : Nat → List Token → List Token → Complaint → List Token → Prop
  | here {opened : Nat} {behind left : List Token} {complaint : Complaint}
      (h : Arises stop opened behind complaint left) : Refuses stop opened [] behind complaint left
  | innerType {opened : Nat} {name bracket : Token} {rest : List Token} {p : Primitive}
      (hname : name.lexeme = .word p.name) (hbracket : bracket.lexeme = .leftBracket) :
      Refuses stop opened [name] (bracket :: rest) (.innerType p bracket.span) (bracket :: rest)
  | element {opened : Nat} {name opening : Token} {before behind left : List Token}
      {complaint : Complaint} (hroom : opened < maxNesting)
      (hname : name.lexeme = .word arrayName) (hopening : opening.lexeme = .leftBracket)
      (hinner : startsWith .rightBracket (before ++ behind) = false)
      (h : Refuses stop (opened + 1) before behind complaint left) :
      Refuses stop opened (name :: opening :: before) behind complaint left
  | unclosed {opened : Nat} {name opening : Token} {segment behind : List Token}
      {element : TypeTree} (hroom : opened + element.arrayDepth < maxNesting)
      (hname : name.lexeme = .word arrayName) (hopening : opening.lexeme = .leftBracket)
      (helement : Derives (segment.map Token.lexeme) element (behind.map Token.lexeme))
      (hclosing : startsWith .rightBracket behind = false) :
      Refuses stop opened (name :: opening :: segment) behind
        (.instead stop .closingBracket behind) behind

theorem exists_cons_of_startsWith {mark : Lexeme} {tokens : List Token}
    (h : startsWith mark tokens = true) :
    ∃ token rest, tokens = token :: rest ∧ token.lexeme = mark := by
  cases tokens with
  | nil => simp [startsWith] at h
  | cons token rest => exact ⟨token, rest, rfl, by simpa [startsWith] using h⟩

/-! What can be split in this way is refused. -/

theorem readType_of_notName (stop : Span) (opened : Nat) {tokens : List Token}
    (h : ∀ text, startsWith (.word text) tokens = false) :
    readType stop opened tokens = (.error (.instead stop .typeName tokens), tokens) := by
  cases tokens with
  | nil => rfl
  | cons token rest =>
      rw [readType.eq_def]
      cases hlexeme : token.lexeme with
      | word text => simp [startsWith, hlexeme] at h
      | _ => simp [hlexeme, Complaint.instead]

theorem readType_of_bareArray (stop : Span) (opened : Nat) {name : Token}
    (hname : name.lexeme = .word arrayName) {rest : List Token}
    (hopening : startsWith .leftBracket rest = false) :
    readType stop opened (name :: rest) = (.error (.bareArray name.span), rest) := by
  rw [readType.eq_def]
  cases rest with
  | nil => simp [hname]
  | cons token rest =>
      have htoken : token.lexeme ≠ .leftBracket := by simpa [startsWith] using hopening
      simp [hname, htoken]

theorem readType_of_arises {stop : Span} {opened : Nat} {behind left : List Token}
    {complaint : Complaint} (h : Arises stop opened behind complaint left) :
    readType stop opened behind = (.error complaint, left) := by
  cases h with
  | notName h => exact readType_of_notName stop opened h
  | unsupported hname harray hprimitive =>
      rw [readType.eq_def]
      simp [hname, harray, hprimitive]
  | bareArray hname hopening => exact readType_of_bareArray stop opened hname hopening
  | emptyBrackets hname hopening hclosing =>
      rw [readType.eq_def]
      simp [hname, hopening, emptyBrackets?, hclosing]
  | tooDeep hfull hname hopening hinner => exact readType_tooDeep stop hfull hname hopening hinner

theorem closeArray_of_unclosed (stop : Span) (element : TypeTree) {behind : List Token}
    (h : startsWith .rightBracket behind = false) :
    closeArray stop element behind = (.error (.instead stop .closingBracket behind), behind) := by
  cases behind with
  | nil => rfl
  | cons token rest =>
      have htoken : token.lexeme ≠ .rightBracket := by simpa [startsWith] using h
      simp [closeArray, htoken, Complaint.instead]

theorem readType_of_refuses {stop : Span} {opened : Nat} {before behind left : List Token}
    {complaint : Complaint} (h : Refuses stop opened before behind complaint left) :
    readType stop opened (before ++ behind) = (.error complaint, left) := by
  induction h with
  | here h => exact readType_of_arises h
  | @innerType opened name bracket rest p hname hbracket =>
      rw [List.singleton_append, readType_primitive stop opened hname]
      simp [readPrimitive, hbracket]
  | element hroom hname hopening hinner _ ih =>
      rw [List.cons_append, List.cons_append, readType_array stop hroom hname hopening hinner, ih]
      rfl
  | @unclosed opened name opening segment behind element hroom hname hopening helement hclosing =>
      have hread : readType stop (opened + 1) (segment ++ behind) = (.ok element, behind) :=
        readType_eq_ok_iff.mpr ⟨segment, rfl, helement, by omega⟩
      have hinner := helement.not_startsWith_rightBracket (List.map_append ..)
      rw [List.cons_append, List.cons_append,
        readType_array stop (by omega) hname hopening hinner, hread]
      exact closeArray_of_unclosed stop element hclosing

/-! What is refused can be split in this way. -/

theorem refuses_of_readPrimitive {stop : Span} {opened : Nat} {name : Token} {p : Primitive}
    (hname : name.lexeme = .word p.name) {tokens left : List Token} {complaint : Complaint}
    (h : readPrimitive p tokens = (.error complaint, left)) :
    Refuses stop opened [name] tokens complaint left := by
  cases tokens with
  | nil => simp [readPrimitive, settle] at h
  | cons token rest =>
      by_cases hbracket : token.lexeme = .leftBracket
      · simp only [readPrimitive, hbracket, if_true, Prod.mk.injEq, Except.error.injEq] at h
        obtain ⟨rfl, rfl⟩ := h
        exact .innerType hname hbracket
      · simp [readPrimitive, settle, hbracket] at h

theorem eq_instead_of_closeArray {stop : Span} {element : TypeTree} {behind left : List Token}
    {complaint : Complaint} (h : closeArray stop element behind = (.error complaint, left)) :
    startsWith .rightBracket behind = false ∧ complaint = .instead stop .closingBracket behind ∧
      left = behind := by
  have hclosing : startsWith .rightBracket behind = false := by
    apply eq_false_of_ne_true
    intro hstarts
    obtain ⟨token, rest, rfl, htoken⟩ := exists_cons_of_startsWith hstarts
    simp [closeArray, settle, htoken] at h
  rw [closeArray_of_unclosed stop element hclosing] at h
  cases h
  exact ⟨hclosing, rfl, rfl⟩

theorem emptyBrackets?_eq_some {opening : Token} {inner : List Token} {brackets : Span}
    (h : emptyBrackets? opening inner = some brackets) :
    ∃ closing rest, inner = closing :: rest ∧ closing.lexeme = .rightBracket ∧
      brackets = Span.ofColumns opening.column closing.column := by
  cases inner with
  | nil => simp [emptyBrackets?] at h
  | cons closing rest =>
      by_cases hclosing : closing.lexeme = .rightBracket
      · simp only [emptyBrackets?, hclosing, if_true, Option.some.injEq] at h
        exact ⟨closing, rest, rfl, hclosing, h.symm⟩
      · simp [emptyBrackets?, hclosing] at h

theorem refuses_of_readType {stop : Span} {opened : Nat} {tokens left : List Token}
    {complaint : Complaint} (h : readType stop opened tokens = (.error complaint, left)) :
    ∃ before behind, tokens = before ++ behind ∧
      Refuses stop opened before behind complaint left := by
  fun_induction readType stop opened tokens generalizing complaint left with
  | case1 opened =>
      cases h
      exact ⟨[], [], rfl, .here (.notName fun _ => rfl)⟩
  | case2 opened name hname =>
      cases h
      exact ⟨[], _, rfl, .here (.bareArray hname rfl)⟩
  | case3 opened name opening inner hopening brackets hbrackets hname =>
      cases h
      obtain ⟨closing, rest, rfl, hclosing, rfl⟩ := emptyBrackets?_eq_some hbrackets
      exact ⟨[], _, rfl, .here (.emptyBrackets hname hopening hclosing)⟩
  | case4 opened name opening inner hopening _ hroom element after hread hname _ =>
      obtain ⟨hclosing, rfl, rfl⟩ := eq_instead_of_closeArray h
      obtain ⟨segment, rfl, helement, hdepth⟩ := derives_of_readType hread
      exact ⟨name :: opening :: segment, _, rfl,
        .unclosed (by omega) hname hopening helement hclosing⟩
  | case5 opened name opening inner hopening hbrackets hroom complaint' after hread hname ih =>
      cases h
      obtain ⟨before, behind, rfl, hrefuses⟩ := ih hread
      exact ⟨name :: opening :: before, behind, rfl, .element hroom hname hopening
        (emptyBrackets?_eq_none_iff.mp hbrackets) hrefuses⟩
  | case6 opened name opening inner hopening hbrackets hfull hname =>
      cases h
      exact ⟨[], _, rfl, .here (.tooDeep (Nat.le_of_not_lt hfull) hname hopening
        (emptyBrackets?_eq_none_iff.mp hbrackets))⟩
  | case7 opened name token rest htoken hname =>
      cases h
      exact ⟨[], _, rfl, .here (.bareArray hname (by simp [startsWith, htoken]))⟩
  | case8 opened name rest text hname _ p hp =>
      rw [Primitive.ofName?_eq_some_iff.mp hp] at hname
      exact ⟨[name], rest, rfl, refuses_of_readPrimitive hname h⟩
  | case9 opened token rest text hname harray hprimitive =>
      cases h
      exact ⟨[], _, rfl, .here (.unsupported hname harray hprimitive)⟩
  | case10 opened token rest hname =>
      cases h
      exact ⟨[], _, rfl, .here (.notName fun text => by simpa [startsWith] using hname text)⟩

/-- The reader refuses exactly what has the beginning of a type up to a place where a complaint
arises. -/
theorem readType_eq_error_iff {stop : Span} {opened : Nat} {tokens left : List Token}
    {complaint : Complaint} :
    readType stop opened tokens = (.error complaint, left) ↔
      ∃ before behind, tokens = before ++ behind ∧
        Refuses stop opened before behind complaint left := by
  constructor
  · exact refuses_of_readType
  · rintro ⟨before, behind, rfl, h⟩
    exact readType_of_refuses h

/-! What stands where a complaint arises. -/

/-- The tokens from the place of a complaint on, and those of them that are left then. -/
def Complaint.At (stop : Span) (behind left : List Token) : Complaint → Prop
  | .noType => False
  | .bareArray span =>
    ∃ name, behind = name :: left ∧ name.lexeme = .word arrayName ∧ span = name.span
  | .emptyBrackets span => ∃ name opening closing rest,
    behind = name :: opening :: left ∧ left = closing :: rest ∧ opening.lexeme = .leftBracket ∧
    closing.lexeme = .rightBracket ∧ span = Span.ofColumns opening.column closing.column
  | .innerType _ span => ∃ bracket rest,
    behind = bracket :: rest ∧ left = behind ∧ bracket.lexeme = .leftBracket ∧ span = bracket.span
  | .unexpected _ found span => ∃ token rest,
    behind = token :: rest ∧ left = behind ∧ token.lexeme = found ∧ span = token.span
  | .ended _ span => behind = [] ∧ left = [] ∧ span = stop
  | .tooDeep span => ∃ name opening,
    behind = name :: opening :: left ∧ name.lexeme = .word arrayName ∧ span = name.span
  | .unsupported text span => ∃ token,
    behind = token :: left ∧ token.lexeme = .word text ∧ text ≠ arrayName ∧
    Primitive.ofName? text = none ∧ span = token.span

theorem Complaint.at_instead (stop : Span) (wanted : Expectation) (behind : List Token) :
    (instead stop wanted behind).At stop behind behind := by
  cases behind with
  | nil => exact ⟨rfl, rfl, rfl⟩
  | cons token rest => exact ⟨token, rest, rfl, rfl, rfl, rfl⟩

theorem Arises.complaint_at {stop : Span} {opened : Nat} {behind left : List Token}
    {complaint : Complaint} (h : Arises stop opened behind complaint left) :
    complaint.At stop behind left := by
  cases h with
  | notName _ => exact Complaint.at_instead stop .typeName behind
  | unsupported hname harray hprimitive => exact ⟨_, rfl, hname, harray, hprimitive, rfl⟩
  | bareArray hname _ => exact ⟨_, rfl, hname, rfl⟩
  | emptyBrackets _ hopening hclosing => exact ⟨_, _, _, _, rfl, rfl, hopening, hclosing, rfl⟩
  | tooDeep _ hname _ _ => exact ⟨_, _, rfl, hname, rfl⟩

theorem Refuses.complaint_at {stop : Span} {opened : Nat} {before behind left : List Token}
    {complaint : Complaint} (h : Refuses stop opened before behind complaint left) :
    complaint.At stop behind left := by
  induction h with
  | here h => exact h.complaint_at
  | innerType _ hbracket => exact ⟨_, _, rfl, rfl, hbracket, rfl⟩
  | element _ _ _ _ _ ih => exact ih
  | unclosed _ _ _ _ _ => exact Complaint.at_instead stop .closingBracket _

/-! Tokens in front of a type. -/

/-- No type begins among the tokens, and all their parentheses are closed behind them. -/
structure Noise (tokens : List Token) : Prop where
  noWord : fromFirstWord 0 tokens = []
  balanced : tokens.foldl parensBehind 0 = 0

theorem fromFirstWord_append {depth : Nat} {noise : List Token} (h : fromFirstWord depth noise = [])
    (rest : List Token) :
    fromFirstWord depth (noise ++ rest) = fromFirstWord (noise.foldl parensBehind depth) rest := by
  induction noise generalizing depth with
  | nil => rfl
  | cons token noise ih =>
      by_cases hopen : OpenWordAt depth (token :: noise) 0
      · obtain ⟨⟨text, htext⟩, rfl⟩ := openWordAt_zero.mp hopen
        simp [fromFirstWord_of_open htext] at h
      · have hopen' : ¬ OpenWordAt depth (token :: (noise ++ rest)) 0 := by
          simpa only [openWordAt_zero] using hopen
        rw [fromFirstWord_of_not_open hopen] at h
        rw [List.cons_append, fromFirstWord_of_not_open hopen', ih h, List.foldl_cons]

theorem exists_noise_of_depth (depth : Nat) (tokens : List Token) :
    fromFirstWord depth tokens = [] ∨
      ∃ noise text, tokens = noise ++ fromFirstWord depth tokens ∧
        fromFirstWord depth noise = [] ∧ noise.foldl parensBehind depth = 0 ∧
        startsWith (.word text) (fromFirstWord depth tokens) = true := by
  induction tokens generalizing depth with
  | nil => exact .inl rfl
  | cons token tokens ih =>
      by_cases hopen : OpenWordAt depth (token :: tokens) 0
      · obtain ⟨⟨text, htext⟩, rfl⟩ := openWordAt_zero.mp hopen
        rw [fromFirstWord_of_open htext]
        exact .inr ⟨[], text, rfl, rfl, rfl, by simp [startsWith, htext]⟩
      · rw [fromFirstWord_of_not_open hopen]
        rcases ih (parensBehind depth token) with hnil | ⟨noise, text, hsplit, hnil, hdepth, hword⟩
        · exact .inl hnil
        · refine .inr ⟨token :: noise, text, by rw [List.cons_append, ← hsplit], ?_, hdepth, hword⟩
          have hopen' : ¬ OpenWordAt depth (token :: noise) 0 := by
            simpa only [openWordAt_zero] using hopen
          rw [fromFirstWord_of_not_open hopen', hnil]

theorem Noise.readFirstType_append {noise : List Token} (h : Noise noise) (stop : Span)
    {tokens : List Token} {text : String} (hword : startsWith (.word text) tokens = true) :
    readFirstType stop (noise ++ tokens) = readType stop 0 tokens := by
  obtain ⟨token, rest, rfl, htoken⟩ := exists_cons_of_startsWith hword
  rw [readFirstType, fromFirstWord_append h.noWord, h.balanced, fromFirstWord_of_open htoken]

/-- A first reading that is refused finds no type name, or is refused at the first one. -/
theorem refuses_of_readFirstType {stop : Span} {tokens left : List Token} {complaint : Complaint}
    (h : readFirstType stop tokens = (.error complaint, left)) :
    complaint = .noType ∨
      ∃ noise before behind text, tokens = noise ++ (before ++ behind) ∧ Noise noise ∧
        startsWith (.word text) (before ++ behind) = true ∧
        Refuses stop 0 before behind complaint left := by
  rcases exists_noise_of_depth 0 tokens with hnil | ⟨noise, text, hsplit, hnil, hdepth, hword⟩
  · rw [readFirstType, hnil] at h
    cases h
    exact .inl rfl
  · rw [hsplit, Noise.readFirstType_append ⟨hnil, hdepth⟩ stop hword] at h
    obtain ⟨before, behind, heq, hrefuses⟩ := refuses_of_readType h
    rw [heq] at hsplit hword
    exact .inr ⟨noise, before, behind, text, hsplit, ⟨hnil, hdepth⟩, hword, hrefuses⟩

end WorkflowParams.Declaration
