import WorkflowParams.Proofs.Refusal

/-!
What may still come of tokens that are refused. Those before the place of a complaint can always be
continued to a type, and the few tokens at which it arises settle it whatever stands behind them. So
a complaint names the first token that is too many, and one about an early end names none.
-/

namespace WorkflowParams.Declaration

/-! What stands behind a derivation. -/

/-- Of what stands behind a derivation, only a mark that could still belong to the type counts. -/
theorem Greedy.of_head? {mark : Lexeme} {segment following following' : List Lexeme}
    {present : Bool} (h : Greedy mark segment present following)
    (hhead : following'.head? = some mark → following.head? = some mark) :
    Greedy mark segment present following' := by
  cases h with
  | taken following => exact .taken following'
  | absent hmark => exact .absent (mt hhead hmark)

theorem head?_append_of_head? {mark : Lexeme} {following following' : List Lexeme}
    (h : following'.head? = some mark → following.head? = some mark) (front : List Lexeme) :
    (front ++ following').head? = some mark → (front ++ following).head? = some mark := by
  cases front with
  | nil => exact h
  | cons lexeme front => exact id

theorem Derives.of_head? {segment following following' : List Lexeme} {tree : TypeTree}
    (h : Derives segment tree following)
    (hhead : ∀ mark ∈ [Lexeme.leftBracket, .plus, .question],
      following'.head? = some mark → following.head? = some mark) :
    Derives segment tree following' := by
  have hquestion := hhead .question (by simp)
  induction h generalizing following' with
  | @primitive p question following marked hplain hgreedy =>
      refine .primitive p ?_ (hgreedy.of_head? hquestion)
      exact mt (head?_append_of_head? (hhead .leftBracket (by simp)) question) hplain
  | @array inner plus question following element nonEmpty marked _ hplus hgreedy ih =>
      refine .array (ih (fun _ _ => id) id) ?_ (hgreedy.of_head? hquestion)
      exact hplus.of_head? (head?_append_of_head? (hhead .plus (by simp)) question)

/-- Nothing that could belong to a type stands first. -/
def EndsType (following : List Lexeme) : Prop :=
  ∀ mark ∈ [Lexeme.leftBracket, .plus, .question], following.head? ≠ some mark

theorem endsType_nil : EndsType [] := by simp [EndsType]

theorem endsType_rightBracket (rest : List Lexeme) : EndsType (.rightBracket :: rest) := by
  simp [EndsType]

theorem Derives.of_endsType {segment following following' : List Lexeme} {tree : TypeTree}
    (h : Derives segment tree following) (hends : EndsType following') :
    Derives segment tree following' :=
  h.of_head? fun mark hmark hhead => absurd hhead (hends mark hmark)

theorem derives_primitive (p : Primitive) {following : List Lexeme} (h : EndsType following) :
    Derives [.word p.name] (.primitive p) following :=
  .primitive p (h .leftBracket (by simp)) (.absent (h .question (by simp)))

theorem derives_array {inner following : List Lexeme} {element : TypeTree}
    (h : Derives inner element (.rightBracket :: following)) (hends : EndsType following) :
    Derives (.word arrayName :: .leftBracket :: (inner ++ [.rightBracket])) (.array element false)
      following := by
  have hplus : Greedy .plus [] false ([] ++ following) := .absent (hends .plus (by simp))
  exact .array h hplus (.absent (hends .question (by simp)))

theorem Derives.endMark_not_mem {segment following : List Lexeme} {tree : TypeTree}
    (h : Derives segment tree following) : .endMark ∉ segment := by
  have hgreedy {mark : Lexeme} (hmark : .endMark ≠ mark) {taken following : List Lexeme}
      {present : Bool} (h : Greedy mark taken present following) : .endMark ∉ taken := by
    cases h <;> simp [hmark]
  induction h with
  | primitive p _ hquestion => simp [hgreedy (by simp) hquestion]
  | array _ hplus hquestion ih =>
      simp [ih, hgreedy (by simp) hplus, hgreedy (by simp) hquestion]

/-! What stands before a complaint can be continued to a type. -/

theorem Refuses.exists_completion {stop : Span} {opened : Nat} {before behind left : List Token}
    {complaint : Complaint} (h : Refuses stop opened before behind complaint left)
    (hopened : opened ≤ maxNesting) :
    ∃ more tree, opened + tree.arrayDepth ≤ maxNesting ∧ ∀ following, EndsType following →
      Derives (before.map Token.lexeme ++ more) tree following := by
  induction h with
  | here _ =>
      exact ⟨[.word Primitive.int.name], .primitive .int, hopened,
        fun _ hends => derives_primitive .int hends⟩
  | @innerType opened name bracket rest p hname _ =>
      refine ⟨[], .primitive p, hopened, ?_⟩
      intro following hends
      rw [List.append_nil, List.map_singleton, hname]
      exact derives_primitive p hends
  | element hroom hname hopening _ _ ih =>
      obtain ⟨more, tree, hdepth, hderives⟩ := ih hroom
      refine ⟨more ++ [.rightBracket], .array tree false, ?_, ?_⟩
      · simp only [TypeTree.arrayDepth]
        omega
      · intro following hends
        have h := derives_array (hderives _ (endsType_rightBracket following)) hends
        simpa only [List.map_cons, hname, hopening, List.cons_append, List.append_assoc] using h
  | @unclosed opened name opening segment behind element hroom hname hopening helement _ =>
      refine ⟨[.rightBracket], .array element false, ?_, ?_⟩
      · simp only [TypeTree.arrayDepth]
        omega
      · intro following hends
        have h := derives_array (helement.of_endsType (endsType_rightBracket following)) hends
        simpa only [List.map_cons, hname, hopening, List.cons_append] using h

/-! A complaint is settled by the tokens that it arises at. -/

/-- The number of tokens at the place of a complaint that are looked at before it is made. -/
def Complaint.reach : Complaint → Nat
  | .emptyBrackets _ => 3
  | .bareArray _ | .tooDeep _ => 2
  | _ => 1

theorem Complaint.reach_pos (complaint : Complaint) : 0 < complaint.reach := by
  cases complaint <;> simp [reach]

theorem head?_of_take {n : Nat} (hn : 0 < n) {behind behind' : List Token}
    (h : behind'.take n = behind.take n) : behind'.head? = behind.head? := by
  have hhead := congrArg List.head? h
  simpa [List.head?_take, Nat.pos_iff_ne_zero.mp hn] using hhead

theorem head?_append_congr {behind behind' : List Token} (h : behind'.head? = behind.head?)
    (before : List Token) : (before ++ behind').head? = (before ++ behind).head? := by
  rw [List.head?_append, List.head?_append, h]

theorem exists_cons_of_take {n : Nat} {token : Token} {rest behind' : List Token}
    (h : behind'.take (n + 1) = (token :: rest).take (n + 1)) :
    ∃ rest', behind' = token :: rest' ∧ rest'.take n = rest.take n := by
  cases behind' with
  | nil => simp at h
  | cons token' rest' =>
      obtain ⟨rfl, hrest⟩ := List.cons.inj h
      exact ⟨rest', rfl, hrest⟩

theorem startsWith_of_head? {tokens tokens' : List Token} (h : tokens'.head? = tokens.head?)
    (mark : Lexeme) : startsWith mark tokens' = startsWith mark tokens := by
  rw [startsWith, startsWith, h]

theorem Arises.settled {stop : Span} {opened : Nat} {behind left : List Token}
    {complaint : Complaint} (h : Arises stop opened behind complaint left) (stop' : Span)
    {behind' : List Token} (hsame : behind'.take complaint.reach = behind.take complaint.reach) :
    ∃ complaint' left', Arises stop' opened behind' complaint' left' := by
  have hhead := startsWith_of_head? (head?_of_take complaint.reach_pos hsame)
  cases h with
  | notName hname => exact ⟨_, _, .notName fun text => (hhead _).trans (hname text)⟩
  | unsupported hname harray hprimitive =>
      obtain ⟨rest', rfl, -⟩ := exists_cons_of_take hsame
      exact ⟨_, _, .unsupported hname harray hprimitive⟩
  | bareArray hname hopening =>
      obtain ⟨rest', rfl, hrest⟩ := exists_cons_of_take hsame
      have hhead' := startsWith_of_head? (head?_of_take Nat.one_pos hrest)
      exact ⟨_, _, .bareArray hname ((hhead' _).trans hopening)⟩
  | emptyBrackets hname hopening hclosing =>
      obtain ⟨_, rfl, hbrackets⟩ := exists_cons_of_take hsame
      obtain ⟨_, rfl, hinner⟩ := exists_cons_of_take hbrackets
      obtain ⟨_, rfl, -⟩ := exists_cons_of_take hinner
      exact ⟨_, _, .emptyBrackets hname hopening hclosing⟩
  | tooDeep hfull hname hopening _ =>
      obtain ⟨_, rfl, hbrackets⟩ := exists_cons_of_take hsame
      obtain ⟨inner, rfl, -⟩ := exists_cons_of_take hbrackets
      -- A closing bracket where the element was makes it another complaint.
      cases hclosing : startsWith .rightBracket inner with
      | false => exact ⟨_, _, .tooDeep hfull hname hopening hclosing⟩
      | true =>
          obtain ⟨closing, rest, rfl, htoken⟩ := exists_cons_of_startsWith hclosing
          exact ⟨_, _, .emptyBrackets hname hopening htoken⟩

/-- Whatever stands behind the tokens that a complaint is settled by, a reading that gets there is
refused. -/
theorem Refuses.settled {stop : Span} {opened : Nat} {before behind left : List Token}
    {complaint : Complaint} (h : Refuses stop opened before behind complaint left) (stop' : Span)
    {behind' : List Token} (hsame : behind'.take complaint.reach = behind.take complaint.reach) :
    ∃ complaint' left', Refuses stop' opened before behind' complaint' left' := by
  have hhead := head?_of_take complaint.reach_pos hsame
  induction h with
  | here h =>
      obtain ⟨complaint', left', h'⟩ := h.settled stop' hsame
      exact ⟨complaint', left', .here h'⟩
  | innerType hname hbracket =>
      obtain ⟨rest', rfl, -⟩ := exists_cons_of_take hsame
      exact ⟨_, _, .innerType hname hbracket⟩
  | @element opened name opening before behind left complaint hroom hname hopening hinner _ ih =>
      obtain ⟨complaint', left', h'⟩ := ih hsame hhead
      refine ⟨complaint', left', .element hroom hname hopening ?_ h'⟩
      rw [startsWith_of_head? (head?_append_congr hhead before), hinner]
  | @unclosed opened name opening segment behind element hroom hname hopening helement hclosing =>
      refine ⟨_, _, .unclosed hroom hname hopening (helement.of_head? ?_)
        ((startsWith_of_head? hhead _).trans hclosing)⟩
      intro mark _
      rw [List.head?_map, List.head?_map, hhead]
      exact id

/-! First readings. -/

/-- A type can be read from the tokens. -/
def Readable (tokens : List Token) : Prop := ∃ tree, (Session.ofTokens tokens).next.1 = .ok tree

/-- The tokens can be continued so that a type can be read from them. -/
def Completable (tokens : List Token) : Prop := ∃ more, Readable (tokens ++ more)

theorem readable_iff {tokens : List Token} :
    Readable tokens ↔ ∃ tree left,
      readFirstType (Session.ofTokens tokens).stop (beforeEnd tokens) = (.ok tree, left) := by
  simp only [Readable, (Session.next_ofTokens tokens).1, Prod.ext_iff]
  simp

theorem beforeEnd_append {tokens : List Token} (h : ∀ t ∈ tokens, t.isEnd = false)
    (more : List Token) : beforeEnd (tokens ++ more) = tokens ++ beforeEnd more :=
  List.takeWhile_append_of_pos (by simpa using h)

theorem beforeEnd_eq_self {tokens : List Token} (h : ∀ t ∈ tokens, t.isEnd = false) :
    beforeEnd tokens = tokens := by
  simpa [beforeEnd] using beforeEnd_append h []

theorem Noise.readable {noise tokens : List Token} (h : Noise noise)
    (hopen : ∀ t ∈ noise ++ tokens, t.isEnd = false) {tree : TypeTree}
    (hderives : Derives (tokens.map Token.lexeme) tree []) (hdepth : tree.arrayDepth ≤ maxNesting) :
    Readable (noise ++ tokens) := by
  obtain ⟨text, rest, hword⟩ := hderives.exists_word
  have hstarts : startsWith (.word text) tokens = true := startsWith_iff.mpr (by rw [hword]; rfl)
  refine readable_iff.mpr ⟨tree, [], ?_⟩
  rw [beforeEnd_eq_self hopen, h.readFirstType_append _ hstarts]
  exact readType_eq_ok_iff.mpr ⟨tokens, tokens.append_nil.symm, hderives, by omega⟩

/-- The tokens before a complaint can be continued. -/
theorem Refuses.completable {stop : Span} {before behind left : List Token} {complaint : Complaint}
    (h : Refuses stop 0 before behind complaint left) {noise : List Token} (hnoise : Noise noise)
    (hopen : ∀ t ∈ noise ++ before, t.isEnd = false) : Completable (noise ++ before) := by
  obtain ⟨lexemes, tree, hdepth, hderives⟩ := h.exists_completion (Nat.zero_le _)
  let more : List Token := lexemes.map (⟨·, 0, 0⟩)
  have hmore : more.map Token.lexeme = lexemes := by simp [more, Function.comp_def]
  have hwhole : Derives ((before ++ more).map Token.lexeme) tree [] := by
    rw [List.map_append, hmore]
    exact hderives [] endsType_nil
  refine ⟨more, ?_⟩
  rw [List.append_assoc]
  refine hnoise.readable ?_ hwhole (by omega)
  intro t ht
  cases List.mem_append.mp ht with
  | inl hmem => exact hopen t (List.mem_append_left _ hmem)
  | inr hmem =>
      apply eq_false_of_ne_true
      intro hend
      exact hwhole.endMark_not_mem (List.mem_map.mpr ⟨t, hmem, of_decide_eq_true hend⟩)

/-- A reading that gets to the tokens that settle a complaint is refused. -/
theorem Refuses.readFirstType_settled {stop : Span} {before behind left : List Token}
    {complaint : Complaint} (h : Refuses stop 0 before behind complaint left) {noise : List Token}
    (hnoise : Noise noise) {text : String}
    (hword : startsWith (.word text) (before ++ behind) = true) {settling : List Token}
    (hreach : complaint.reach ≤ settling.length)
    (hsame : settling.take complaint.reach = behind.take complaint.reach) (stop' : Span)
    (more : List Token) :
    ∃ complaint' left', readFirstType stop' (noise ++ (before ++ settling) ++ more) =
      (.error complaint', left') := by
  have hsame' : (settling ++ more).take complaint.reach = behind.take complaint.reach := by
    rw [List.take_append_of_le_length hreach, hsame]
  have hhead := head?_append_congr (head?_of_take complaint.reach_pos hsame') before
  obtain ⟨complaint', left', hrefuses⟩ := h.settled stop' hsame'
  refine ⟨complaint', left', ?_⟩
  rw [List.append_assoc, List.append_assoc,
    hnoise.readFirstType_append stop' ((startsWith_of_head? hhead _).trans hword),
    readType_of_refuses hrefuses]

/-- The tokens that settle a complaint cannot be continued. -/
theorem Refuses.not_completable {stop : Span} {before behind left : List Token}
    {complaint : Complaint} (h : Refuses stop 0 before behind complaint left) {noise : List Token}
    (hnoise : Noise noise) {text : String}
    (hword : startsWith (.word text) (before ++ behind) = true) {settling : List Token}
    (hreach : complaint.reach ≤ settling.length)
    (hsame : settling.take complaint.reach = behind.take complaint.reach)
    (hopen : ∀ t ∈ noise ++ (before ++ settling), t.isEnd = false) :
    ¬ Completable (noise ++ (before ++ settling)) := by
  rintro ⟨more, hreadable⟩
  obtain ⟨tree, left', hread⟩ := readable_iff.mp hreadable
  rw [beforeEnd_append hopen] at hread
  obtain ⟨complaint', left'', hrefused⟩ :=
    h.readFirstType_settled hnoise hword hreach hsame _ (beforeEnd more)
  rw [hrefused] at hread
  simp at hread

/-- A complaint about one token arises at it and is settled by it. The reader stops in front of the
token, or behind it if it is a name that is not supported. -/
theorem Complaint.At.exists_culprit {stop : Span} {complaint : Complaint}
    {behind left : List Token} (h : complaint.At stop behind left)
    (hkind : complaint.kind = .unexpectedToken ∨ complaint.kind = .unexpectedInnerType ∨
      complaint.kind = .unsupportedType) :
    ∃ token rest, behind = token :: rest ∧ complaint.reach = 1 ∧
      complaint.span? = some token.span ∧
      left = if complaint.kind = .unsupportedType then rest else token :: rest := by
  cases complaint with
  | innerType p span =>
      obtain ⟨bracket, rest, rfl, rfl, -, rfl⟩ := h
      exact ⟨bracket, rest, rfl, rfl, rfl, rfl⟩
  | unexpected wanted found span =>
      obtain ⟨token, rest, rfl, rfl, -, rfl⟩ := h
      exact ⟨token, rest, rfl, rfl, rfl, rfl⟩
  | unsupported text span =>
      obtain ⟨token, rfl, -, -, -, rfl⟩ := h
      exact ⟨token, left, rfl, rfl, rfl, rfl⟩
  | noType => exact h.elim
  | bareArray _ | emptyBrackets _ | ended _ _ | tooDeep _ => simp [kind] at hkind

theorem Complaint.At.eq_nil_of_unexpectedEnd {stop : Span} {complaint : Complaint}
    {behind left : List Token} (h : complaint.At stop behind left)
    (hkind : complaint.kind = .unexpectedEnd) : behind = [] := by
  cases complaint with
  | ended wanted span => exact h.1
  | _ => simp [kind] at hkind

/-- All that may be missing at the place of a complaint is a type or a bracket at the end. -/
theorem Complaint.At.of_length_lt_reach {stop : Span} {complaint : Complaint}
    {behind left : List Token} (h : complaint.At stop behind left)
    (hreach : behind.length < complaint.reach) :
    complaint.kind = .unexpectedEnd ∨
      ∃ name, behind = [name] ∧ name.lexeme = .word arrayName ∧
        complaint = .bareArray name.span := by
  cases complaint with
  | noType => exact h.elim
  | ended wanted span => exact .inl rfl
  | bareArray span =>
      obtain ⟨name, rfl, hname, rfl⟩ := h
      have hleft : left.length = 0 := by
        simp only [reach, List.length_cons] at hreach
        omega
      rw [List.length_eq_zero_iff.mp hleft]
      exact .inr ⟨name, rfl, hname, rfl⟩
  | emptyBrackets span =>
      obtain ⟨name, opening, closing, rest, rfl, rfl, -⟩ := h
      simp only [reach, List.length_cons] at hreach
      omega
  | tooDeep span =>
      obtain ⟨name, opening, rfl, -⟩ := h
      simp only [reach, List.length_cons] at hreach
      omega
  | innerType p span | unexpected wanted found span =>
      obtain ⟨token, rest, rfl, -⟩ := h
      simp [reach] at hreach
  | unsupported text span =>
      obtain ⟨token, rfl, -⟩ := h
      simp [reach] at hreach

namespace Session

variable {tokens : List Token} {complaint : Complaint}

theorem exists_refusal (hopen : ∀ t ∈ tokens, t.isEnd = false)
    (h : (ofTokens tokens).next.1 = .error complaint) :
    complaint = .noType ∨
      ∃ noise before behind left text, tokens = noise ++ (before ++ behind) ∧ Noise noise ∧
        startsWith (.word text) (before ++ behind) = true ∧
        Refuses (ofTokens tokens).stop 0 before behind complaint left ∧
        (ofTokens tokens).next.2.position = tokens.length - left.length := by
  obtain ⟨houtcome, hposition⟩ := next_ofTokens tokens
  rw [beforeEnd_eq_self hopen] at houtcome hposition
  rw [hposition]
  rcases refuses_of_readFirstType (Prod.ext (houtcome.symm.trans h) rfl) with
    hnone | ⟨noise, before, behind, text, hsplit, hnoise, hword, hrefuses⟩
  · exact .inl hnone
  · exact .inr ⟨noise, before, behind, _, text, hsplit, hnoise, hword, hrefuses, rfl⟩

/-- A complaint about one token names the first one that no continuation can make good. -/
theorem exists_culprit (hopen : ∀ t ∈ tokens, t.isEnd = false)
    (h : (ofTokens tokens).next.1 = .error complaint)
    (hkind : complaint.kind = .unexpectedToken ∨ complaint.kind = .unexpectedInnerType ∨
      complaint.kind = .unsupportedType) :
    ∃ front token rest, tokens = front ++ token :: rest ∧ complaint.span? = some token.span ∧
      (ofTokens tokens).next.2.position =
        (if complaint.kind = .unsupportedType then front.length + 1 else front.length) ∧
      Completable front ∧ ¬ Completable (front ++ [token]) := by
  rcases exists_refusal hopen h with
    rfl | ⟨noise, before, behind, left, text, rfl, hnoise, hword, hrefuses, hposition⟩
  · simp [Complaint.kind] at hkind
  · obtain ⟨token, rest, rfl, hreach, hspan, hleft⟩ := hrefuses.complaint_at.exists_culprit hkind
    refine ⟨noise ++ before, token, rest, by simp, hspan, ?_, ?_, ?_⟩
    · rw [hposition, hleft]
      split <;> simp only [List.length_append, List.length_cons] <;> omega
    · apply hrefuses.completable hnoise
      intro t ht
      apply hopen
      rw [← List.append_assoc]
      exact List.mem_append_left _ ht
    · rw [List.append_assoc]
      apply hrefuses.not_completable hnoise hword
      · rw [hreach]
        exact Nat.le_refl 1
      · rw [hreach]
        rfl
      · intro t ht
        apply hopen
        simp only [List.mem_append, List.mem_cons, List.not_mem_nil, or_false] at ht ⊢
        tauto

theorem completable_of_unexpectedEnd (hopen : ∀ t ∈ tokens, t.isEnd = false)
    (h : (ofTokens tokens).next.1 = .error complaint) (hkind : complaint.kind = .unexpectedEnd) :
    Completable tokens := by
  rcases exists_refusal hopen h with
    rfl | ⟨noise, before, behind, left, text, rfl, hnoise, -, hrefuses, -⟩
  · simp [Complaint.kind] at hkind
  · obtain rfl := hrefuses.complaint_at.eq_nil_of_unexpectedEnd hkind
    rw [List.append_nil] at hopen ⊢
    exact hrefuses.completable hnoise hopen

/-- Tokens that can be continued lack a type name, or end too early. -/
theorem kind_of_completable (hopen : ∀ t ∈ tokens, t.isEnd = false)
    (h : (ofTokens tokens).next.1 = .error complaint) (hmore : Completable tokens) :
    complaint.kind = .unexpectedEnd ∨ complaint.kind = .noTypeFound ∨
      ∃ name, tokens.getLast? = some name ∧ name.lexeme = .word arrayName ∧
        complaint = .bareArray name.span := by
  rcases exists_refusal hopen h with
    rfl | ⟨noise, before, behind, left, text, rfl, hnoise, hword, hrefuses, -⟩
  · exact .inr (.inl rfl)
  · have hreach : behind.length < complaint.reach := by
      apply Nat.lt_of_not_le
      intro hreach
      exact hrefuses.not_completable hnoise hword hreach rfl hopen hmore
    rcases hrefuses.complaint_at.of_length_lt_reach hreach with hend | ⟨name, rfl, hname, hbare⟩
    · exact .inl hend
    · exact .inr (.inr ⟨name, by simp, hname, hbare⟩)

/-- The first reading of tokens that hold no end mark, where it fails. A complaint about one token
names the earliest one that is too many: the tokens in front of it can be continued to a list from
which a type is read, and together with it they cannot. Tokens that end too early can be continued.
If tokens can be continued at all, they end too early, hold no type name, or end with an array
name. -/
theorem next_ofTokens_refused {tokens : List Token} (hopen : ∀ t ∈ tokens, t.isEnd = false)
    {complaint : Complaint} (h : (ofTokens tokens).next.1 = .error complaint) :
    (complaint.kind = .unexpectedToken ∨ complaint.kind = .unexpectedInnerType ∨
        complaint.kind = .unsupportedType →
      ∃ j token, tokens[j]? = some token ∧ complaint.span? = some token.span ∧
        (ofTokens tokens).next.2.position =
          (if complaint.kind = .unsupportedType then j + 1 else j) ∧
        Completable (tokens.take j) ∧ ¬ Completable (tokens.take (j + 1))) ∧
    (complaint.kind = .unexpectedEnd → Completable tokens) ∧
    (Completable tokens → complaint.kind = .unexpectedEnd ∨ complaint.kind = .noTypeFound ∨
      ∃ name, tokens.getLast? = some name ∧ name.lexeme = .word arrayName ∧
        complaint = .bareArray name.span) := by
  refine ⟨?_, completable_of_unexpectedEnd hopen h, kind_of_completable hopen h⟩
  intro hkind
  obtain ⟨front, token, rest, rfl, hspan, hposition, hfront, hthrough⟩ :=
    exists_culprit hopen h hkind
  refine ⟨front.length, token, by simp, hspan, hposition, ?_, ?_⟩
  · rwa [List.take_left]
  · rwa [List.take_length_add_append, List.take_succ_cons, List.take_zero]

/-- `Array[Int` can be continued, `Array[Int,` and `Array]` cannot. The tokens need not stand on the
columns of a text for this. -/
theorem next_ofTokens_refused_of_comma :
    Completable [⟨.word "Array", 7, 3⟩, ⟨.leftBracket, 7, 3⟩, ⟨.word "Int", 7, 3⟩] ∧
      ¬ Completable
        [⟨.word "Array", 7, 3⟩, ⟨.leftBracket, 7, 3⟩, ⟨.word "Int", 7, 3⟩, ⟨.comma, 7, 3⟩] ∧
      ¬ Completable [⟨.word "Array", 7, 3⟩, ⟨.rightBracket, 7, 3⟩] := by
  have hcomma : (ofTokens [⟨.word "Array", 7, 3⟩, ⟨.leftBracket, 7, 3⟩, ⟨.word "Int", 7, 3⟩,
      ⟨.comma, 7, 3⟩]).next = (.error (.unexpected .closingBracket .comma (.single 7)),
      ⟨_, 3⟩) := rfl
  have hbare : (ofTokens [⟨.word "Array", 7, 3⟩, ⟨.rightBracket, 7, 3⟩]).next.1 =
      .error (.bareArray (.single 7)) := rfl
  obtain ⟨j, token, -, -, hposition, hfront, hthrough⟩ :=
    (next_ofTokens_refused (by decide) (congrArg Prod.fst hcomma)).1 (.inl rfl)
  rw [hcomma] at hposition
  obtain rfl : 3 = j := hposition
  refine ⟨hfront, hthrough, ?_⟩
  intro hmore
  rcases (next_ofTokens_refused (by decide) hbare).2.2 hmore with hkind | hkind | ⟨_, hlast, h⟩
  · cases hkind
  · cases hkind
  · cases hlast
    exact absurd h.1 (by decide)

end Session

end WorkflowParams.Declaration
