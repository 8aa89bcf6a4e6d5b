import Mathlib.Order.Bounds.Basic
import WorkflowParams.Declaration.Session

/-!
The grammar of types, over lexemes alone, and its agreement with the reader. A type is a primitive,
or an array name with a type in brackets behind it; a plus sign may follow the brackets and a
question mark the whole. Such a mark is taken whenever it comes next, so a derivation names the
lexemes behind its segment too. The nesting limit is no part of the grammar.
-/

namespace WorkflowParams.Declaration

/-- The lexemes that an optional mark takes up, and whether it is there. -/
inductive Greedy (mark : Lexeme) : List Lexeme → Bool → List Lexeme → Prop
  | taken (following : List Lexeme) : Greedy mark [mark] true following
  | absent {following : List Lexeme} (h : following.head? ≠ some mark) :
      Greedy mark [] false following

/-- The segment spells the tree where `following` comes behind it. -/
inductive Derives : List Lexeme → TypeTree → List Lexeme → Prop
  | primitive (p : Primitive) {question following : List Lexeme} {marked : Bool}
      (hplain : (question ++ following).head? ≠ some .leftBracket)
      (hquestion : Greedy .question question marked following) :
      Derives (.word p.name :: question) (.primitive p) following
  | array {inner plus question following : List Lexeme} {element : TypeTree}
      {nonEmpty marked : Bool}
      (hinner : Derives inner element (.rightBracket :: (plus ++ (question ++ following))))
      (hplus : Greedy .plus plus nonEmpty (question ++ following))
      (hquestion : Greedy .question question marked following) :
      Derives (.word arrayName :: .leftBracket :: (inner ++ .rightBracket :: (plus ++ question)))
        (.array element nonEmpty) following

theorem Greedy.unique {mark : Lexeme} {s s' f f' : List Lexeme} {b b' : Bool}
    (h : Greedy mark s b f) (h' : Greedy mark s' b' f') (heq : s ++ f = s' ++ f') :
    s = s' ∧ b = b' ∧ f = f' := by
  cases h with
  | taken f =>
      cases h' with
      | taken f' => exact ⟨rfl, rfl, by simpa using heq⟩
      | absent hne => exact absurd (by simpa using congrArg List.head? heq.symm) hne
  | absent hne =>
      cases h' with
      | taken f' => exact absurd (by simpa using congrArg List.head? heq) hne
      | absent _ => exact ⟨rfl, rfl, heq⟩

/-- A derivation begins with a word. -/
theorem Derives.exists_word {segment following : List Lexeme} {tree : TypeTree}
    (h : Derives segment tree following) : ∃ text rest, segment = .word text :: rest := by
  cases h with
  | primitive p _ _ => exact ⟨p.name, _, rfl⟩
  | array _ _ _ => exact ⟨arrayName, _, rfl⟩

/-- The grammar is unambiguous: from one place on, it derives one segment and one tree at most. -/
theorem Derives.unique {s s' f f' : List Lexeme} {t t' : TypeTree} (h : Derives s t f)
    (h' : Derives s' t' f') (heq : s ++ f = s' ++ f') : s = s' ∧ t = t' ∧ f = f' := by
  induction h generalizing s' t' f' with
  | primitive p _ hquestion =>
      cases h' with
      | primitive q _ hquestion' =>
          simp only [List.cons_append, List.cons.injEq, Lexeme.word.injEq] at heq
          obtain ⟨rfl, -, rfl⟩ := hquestion.unique hquestion' heq.2
          obtain rfl := Primitive.name_injective heq.1
          exact ⟨rfl, rfl, rfl⟩
      | array _ _ _ =>
          simp only [List.cons_append, List.cons.injEq, Lexeme.word.injEq] at heq
          exact absurd heq.1 p.name_ne_arrayName
  | array _ hplus hquestion ih =>
      cases h' with
      | primitive q _ _ =>
          simp only [List.cons_append, List.cons.injEq, Lexeme.word.injEq] at heq
          exact absurd heq.1.symm q.name_ne_arrayName
      | array hinner' hplus' hquestion' =>
          simp only [List.cons_append, List.cons.injEq, List.append_assoc, true_and] at heq
          obtain ⟨rfl, rfl, hclosed⟩ := ih hinner' heq
          obtain ⟨rfl, rfl, hbehind⟩ := hplus.unique hplus' (List.cons.inj hclosed).2
          obtain ⟨rfl, -, rfl⟩ := hquestion.unique hquestion' hbehind
          exact ⟨rfl, rfl, rfl⟩

/-! The reader one step at a time. -/

theorem startsWith_iff {mark : Lexeme} {tokens : List Token} :
    startsWith mark tokens = true ↔ (tokens.map Token.lexeme).head? = some mark := by
  cases tokens <;> simp [startsWith]

theorem skip_greedy (mark : Lexeme) (tokens : List Token) :
    ∃ segment, tokens = segment ++ skip mark tokens ∧
      Greedy mark (segment.map Token.lexeme) (startsWith mark tokens)
        ((skip mark tokens).map Token.lexeme) := by
  by_cases h : startsWith mark tokens = true
  · cases tokens with
    | nil => simp [startsWith] at h
    | cons token rest =>
        have hmark : token.lexeme = mark := by simpa [startsWith] using h
        refine ⟨[token], by simp [skip, h], ?_⟩
        have hgreedy : Greedy mark [mark] true (rest.map Token.lexeme) := .taken _
        simpa [skip, h, hmark] using hgreedy
  · refine ⟨[], by simp [skip, h], ?_⟩
    rw [eq_false_of_ne_true h]
    apply Greedy.absent
    simpa [skip, h] using mt startsWith_iff.mpr h

/-- What is left behind a mark that is taken as the grammar takes it. -/
theorem skip_of_greedy {mark : Lexeme} {segment following : List Lexeme} {present : Bool}
    (h : Greedy mark segment present following) {tokens : List Token}
    (htokens : tokens.map Token.lexeme = segment ++ following) :
    startsWith mark tokens = present ∧ (skip mark tokens).map Token.lexeme = following := by
  obtain ⟨taken, hsplit, hgreedy⟩ := skip_greedy mark tokens
  have heq := congrArg (List.map Token.lexeme) hsplit
  rw [htokens, List.map_append] at heq
  obtain ⟨-, hpresent, hfollowing⟩ := h.unique hgreedy heq
  exact ⟨hpresent.symm, hfollowing.symm⟩

theorem readPrimitive_eq_ok_iff {p : Primitive} {tokens rest : List Token} {tree : TypeTree} :
    readPrimitive p tokens = (.ok tree, rest) ↔
      startsWith .leftBracket tokens = false ∧ tree = .primitive p ∧
        rest = skip .question tokens := by
  cases tokens with
  | nil => simp [readPrimitive, settle, startsWith, eq_comm]
  | cons token behind =>
      by_cases h : token.lexeme = .leftBracket
      · simp [readPrimitive, startsWith, h]
      · simpa [readPrimitive, settle, startsWith, h] using and_congr eq_comm eq_comm

theorem closeArray_eq_ok_iff {stop : Span} {element tree : TypeTree} {tokens rest : List Token} :
    closeArray stop element tokens = (.ok tree, rest) ↔
      ∃ bracket behind, tokens = bracket :: behind ∧ bracket.lexeme = .rightBracket ∧
        tree = .array element (startsWith .plus behind) ∧
        rest = skip .question (skip .plus behind) := by
  cases tokens with
  | nil => simp [closeArray]
  | cons bracket behind =>
      by_cases h : bracket.lexeme = .rightBracket
      · simpa [closeArray, settle, h] using and_congr eq_comm eq_comm
      · simp only [closeArray, h, if_false, Prod.mk.injEq, reduceCtorEq, false_and, List.cons.injEq,
          false_iff]
        rintro ⟨_, _, ⟨rfl, -⟩, hclosing, -⟩
        exact h hclosing

theorem readType_primitive (stop : Span) (opened : Nat) {name : Token} {p : Primitive}
    (hname : name.lexeme = .word p.name) (behind : List Token) :
    readType stop opened (name :: behind) = readPrimitive p behind := by
  rw [readType.eq_def]
  simp [hname, p.name_ne_arrayName]

theorem emptyBrackets?_eq_none_iff {bracket : Token} {inner : List Token} :
    emptyBrackets? bracket inner = none ↔ startsWith .rightBracket inner = false := by
  cases inner with
  | nil => simp [emptyBrackets?, startsWith]
  | cons token rest => simp [emptyBrackets?, startsWith]

/-- How the reading of an element goes on in its array. -/
def closeReading (stop : Span) : Reading → Reading
  | (.ok element, after) => closeArray stop element after
  | (.error complaint, after) => (.error complaint, after)

/-- Inside the limit an array is its element, read one level deeper, and what closes it. -/
theorem readType_array (stop : Span) {opened : Nat} (hroom : opened < maxNesting)
    {name bracket : Token} (hname : name.lexeme = .word arrayName)
    (hbracket : bracket.lexeme = .leftBracket) {inner : List Token}
    (hinner : startsWith .rightBracket inner = false) :
    readType stop opened (name :: bracket :: inner) =
      closeReading stop (readType stop (opened + 1) inner) := by
  rw [readType]
  simp only [hname, hbracket, hroom, emptyBrackets?_eq_none_iff.mpr hinner, if_true]
  rfl

/-- At the limit the name of the array is complained about. -/
theorem readType_tooDeep (stop : Span) {opened : Nat} (hfull : maxNesting ≤ opened)
    {name bracket : Token} (hname : name.lexeme = .word arrayName)
    (hbracket : bracket.lexeme = .leftBracket) {inner : List Token}
    (hinner : startsWith .rightBracket inner = false) :
    readType stop opened (name :: bracket :: inner) = (.error (.tooDeep name.span), inner) := by
  rw [readType]
  simp [hname, hbracket, Nat.not_lt.mpr hfull, emptyBrackets?_eq_none_iff.mpr hinner]

theorem derives_of_readPrimitive {p : Primitive} {name : Token}
    (hname : name.lexeme = .word p.name) {tokens rest : List Token} {tree : TypeTree}
    (h : readPrimitive p tokens = (.ok tree, rest)) :
    ∃ segment, name :: tokens = segment ++ rest ∧
      Derives (segment.map Token.lexeme) tree (rest.map Token.lexeme) ∧ tree.arrayDepth = 0 := by
  obtain ⟨hplain, rfl, rfl⟩ := readPrimitive_eq_ok_iff.mp h
  obtain ⟨question, hsplit, hgreedy⟩ := skip_greedy .question tokens
  refine ⟨name :: question, by rw [List.cons_append, ← hsplit], ?_, rfl⟩
  rw [List.map_cons, hname]
  refine .primitive p ?_ hgreedy
  rw [← List.map_append, ← hsplit]
  exact mt startsWith_iff.mpr (by simp [hplain])

theorem derives_of_closeArray {stop : Span} {name bracket : Token} {segment after rest : List Token}
    {element tree : TypeTree} (hname : name.lexeme = .word arrayName)
    (hbracket : bracket.lexeme = .leftBracket)
    (helement : Derives (segment.map Token.lexeme) element (after.map Token.lexeme))
    (h : closeArray stop element after = (.ok tree, rest)) :
    ∃ whole, name :: bracket :: (segment ++ after) = whole ++ rest ∧
      Derives (whole.map Token.lexeme) tree (rest.map Token.lexeme) ∧
      tree.arrayDepth = element.arrayDepth + 1 := by
  obtain ⟨closing, behind, rfl, hclosing, rfl, rfl⟩ := closeArray_eq_ok_iff.mp h
  obtain ⟨plus, hplus, hgreedyPlus⟩ := skip_greedy .plus behind
  obtain ⟨question, hquestion, hgreedyQuestion⟩ := skip_greedy .question (skip .plus behind)
  refine ⟨name :: bracket :: (segment ++ closing :: (plus ++ question)), ?_, ?_, rfl⟩
  · simp only [List.cons_append, List.append_assoc, ← hquestion, ← hplus]
  · simp only [List.map_cons, List.map_append, hname, hbracket, hclosing]
    refine .array ?_ ?_ hgreedyQuestion
    · rw [← List.map_append, ← hquestion, ← List.map_append, ← hplus, ← hclosing]
      exact helement
    · rw [← List.map_append, ← hquestion]
      exact hgreedyPlus

/-- What the reader takes in is derived, and nested no deeper than the limit lets it be. -/
theorem derives_of_readType {stop : Span} {opened : Nat} {tokens rest : List Token}
    {tree : TypeTree} (h : readType stop opened tokens = (.ok tree, rest)) :
    ∃ segment, tokens = segment ++ rest ∧
      Derives (segment.map Token.lexeme) tree (rest.map Token.lexeme) ∧
      opened + tree.arrayDepth ≤ max opened maxNesting := by
  fun_induction readType stop opened tokens generalizing tree rest with
  | case4 opened name bracket inner hbracket _ hroom element after hread hname ih =>
      obtain ⟨segment, rfl, hderives, hdepth⟩ := ih hread
      obtain ⟨whole, hwhole, hderives, hwholeDepth⟩ :=
        derives_of_closeArray hname hbracket hderives h
      exact ⟨whole, hwhole, hderives, by omega⟩
  | case8 opened name behind text hname _ p hp =>
      rw [Primitive.ofName?_eq_some_iff.mp hp] at hname
      obtain ⟨segment, hsegment, hderives, hdepth⟩ := derives_of_readPrimitive hname h
      exact ⟨segment, hsegment, hderives, by omega⟩
  | case1 | case2 | case3 | case5 | case6 | case7 | case9 | case10 => simp at h

/-- Behind an opening bracket a derivation leaves no room for the closing one. -/
theorem Derives.not_startsWith_rightBracket {segment following : List Lexeme} {tree : TypeTree}
    (h : Derives segment tree following) {tokens : List Token}
    (htokens : tokens.map Token.lexeme = segment ++ following) :
    startsWith .rightBracket tokens = false := by
  obtain ⟨text, rest, rfl⟩ := h.exists_word
  apply eq_false_of_ne_true
  intro hstarts
  rw [startsWith_iff, htokens] at hstarts
  simp at hstarts

theorem readType_of_derives (stop : Span) {segment following : List Lexeme} {tree : TypeTree}
    (h : Derives segment tree following) {opened : Nat} {tokens : List Token}
    (hdepth : opened + tree.arrayDepth ≤ max opened maxNesting)
    (htokens : tokens.map Token.lexeme = segment ++ following) :
    ∃ rest, readType stop opened tokens = (.ok tree, rest) ∧
      rest.map Token.lexeme = following := by
  induction h generalizing opened tokens with
  | primitive p hplain hquestion =>
      rw [List.cons_append, List.map_eq_cons_iff] at htokens
      obtain ⟨name, behind, rfl, hname, hbehind⟩ := htokens
      obtain ⟨-, hfollowing⟩ := skip_of_greedy hquestion hbehind
      refine ⟨skip .question behind, ?_, hfollowing⟩
      rw [readType_primitive stop opened hname, readPrimitive_eq_ok_iff]
      refine ⟨?_, rfl, rfl⟩
      apply eq_false_of_ne_true
      intro hstarts
      apply hplain
      rw [← hbehind]
      exact startsWith_iff.mp hstarts
  | @array inner plus question following element nonEmpty _ hinner hplus hquestion ih =>
      simp only [List.cons_append, List.append_assoc, List.map_eq_cons_iff] at htokens
      obtain ⟨name, _, rfl, hname, bracket, body, rfl, hbracket, hbody⟩ := htokens
      have hroom : opened < maxNesting := by
        simp only [TypeTree.arrayDepth] at hdepth
        omega
      have hdeeper : opened + 1 + element.arrayDepth ≤ max (opened + 1) maxNesting := by
        simp only [TypeTree.arrayDepth] at hdepth
        omega
      obtain ⟨after, hread, hafter⟩ := ih hdeeper hbody
      obtain ⟨closing, behind, rfl, hclosing, hbehind⟩ := List.map_eq_cons_iff.mp hafter
      obtain ⟨hpresent, hbehindPlus⟩ := skip_of_greedy hplus hbehind
      obtain ⟨-, hfollowing⟩ := skip_of_greedy hquestion hbehindPlus
      refine ⟨skip .question (skip .plus behind), ?_, hfollowing⟩
      rw [readType_array stop hroom hname hbracket (hinner.not_startsWith_rightBracket hbody), hread]
      change closeArray stop element (closing :: behind) = _
      exact closeArray_eq_ok_iff.mpr ⟨closing, behind, rfl, hclosing, by rw [hpresent], rfl⟩

/-- The reader takes in exactly what the grammar derives within the nesting limit. -/
theorem readType_eq_ok_iff {stop : Span} {opened : Nat} {tokens rest : List Token}
    {tree : TypeTree} :
    readType stop opened tokens = (.ok tree, rest) ↔
      ∃ segment, tokens = segment ++ rest ∧
        Derives (segment.map Token.lexeme) tree (rest.map Token.lexeme) ∧
        opened + tree.arrayDepth ≤ max opened maxNesting := by
  constructor
  · exact derives_of_readType
  · rintro ⟨segment, rfl, hderives, hdepth⟩
    obtain ⟨rest', hread, hrest'⟩ :=
      readType_of_derives stop hderives hdepth (List.map_append ..)
    obtain ⟨segment', hsplit, -⟩ := derives_of_readType hread
    have hlength := congrArg List.length hrest'
    simp only [List.length_map] at hlength
    rw [hread, (List.append_inj' hsplit hlength.symm).2]

/-! Where the reading begins. -/

/-- The number of open parentheses behind a token. One that closes without having been opened is
passed over. -/
def parensBehind (depth : Nat) (token : Token) : Nat :=
  match token.lexeme with
  | .leftParen => depth + 1
  | .rightParen => depth - 1
  | _ => depth

/-- The token at an index is a word outside parentheses, `depth` of which are open to begin with. -/
def OpenWordAt (depth : Nat) (tokens : List Token) (i : Nat) : Prop :=
  (∃ text, tokens[i]?.map Token.lexeme = some (.word text)) ∧
    (tokens.take i).foldl parensBehind depth = 0

/-- The first word outside parentheses stands at an index. -/
def FirstWordAt (tokens : List Token) (i : Nat) : Prop := IsLeast {i | OpenWordAt 0 tokens i} i

theorem openWordAt_zero {depth : Nat} {token : Token} {rest : List Token} :
    OpenWordAt depth (token :: rest) 0 ↔ (∃ text, token.lexeme = .word text) ∧ depth = 0 := by
  simp [OpenWordAt]

theorem openWordAt_succ {depth i : Nat} {token : Token} {rest : List Token} :
    OpenWordAt depth (token :: rest) (i + 1) ↔ OpenWordAt (parensBehind depth token) rest i := by
  simp [OpenWordAt]

theorem fromFirstWord_of_open {token : Token} {text : String} (h : token.lexeme = .word text)
    (rest : List Token) : fromFirstWord 0 (token :: rest) = token :: rest := by
  simp [fromFirstWord, h]

theorem fromFirstWord_of_not_open {depth : Nat} {token : Token} {rest : List Token}
    (h : ¬ OpenWordAt depth (token :: rest) 0) :
    fromFirstWord depth (token :: rest) = fromFirstWord (parensBehind depth token) rest := by
  rw [openWordAt_zero] at h
  cases hlexeme : token.lexeme with
  | word text =>
      have hdepth : depth ≠ 0 := fun hzero => h ⟨⟨text, hlexeme⟩, hzero⟩
      simp [fromFirstWord, parensBehind, hlexeme, hdepth]
  | quoted _ | number _ | symbol _ | leftBracket | rightBracket | plus | question | leftParen
  | rightParen | comma | equal | endMark => simp [fromFirstWord, parensBehind, hlexeme]

/-- The search passes over all tokens, or stops at the least index at which it may. -/
theorem fromFirstWord_spec (depth : Nat) (tokens : List Token) :
    (fromFirstWord depth tokens = [] ∧ ∀ i, ¬ OpenWordAt depth tokens i) ∨
      ∃ i, i < tokens.length ∧ IsLeast {i | OpenWordAt depth tokens i} i ∧
        fromFirstWord depth tokens = tokens.drop i := by
  induction tokens generalizing depth with
  | nil => exact .inl ⟨rfl, by simp [OpenWordAt]⟩
  | cons token rest ih =>
      by_cases hopen : OpenWordAt depth (token :: rest) 0
      · obtain ⟨⟨text, htext⟩, rfl⟩ := openWordAt_zero.mp hopen
        exact .inr ⟨0, by simp, ⟨hopen, fun _ _ => Nat.zero_le _⟩, fromFirstWord_of_open htext rest⟩
      · rw [fromFirstWord_of_not_open hopen]
        rcases ih (parensBehind depth token) with ⟨hnil, hnone⟩ | ⟨i, hi, ⟨hat, hleast⟩, hdrop⟩
        · refine .inl ⟨hnil, ?_⟩
          intro i
          cases i with
          | zero => exact hopen
          | succ i => exact mt openWordAt_succ.mp (hnone i)
        · refine .inr ⟨i + 1, by simpa using hi, ⟨openWordAt_succ.mpr hat, ?_⟩, hdrop⟩
          intro j hj
          cases j with
          | zero => exact absurd hj hopen
          | succ j => exact Nat.succ_le_succ (hleast (openWordAt_succ.mp hj))

theorem readFirstType_of_firstWordAt (stop : Span) {tokens : List Token} {first : Nat}
    (h : FirstWordAt tokens first) :
    readFirstType stop tokens = readType stop 0 (tokens.drop first) := by
  rcases fromFirstWord_spec 0 tokens with ⟨-, hnone⟩ | ⟨i, hi, hleast, hdrop⟩
  · exact absurd h.1 (hnone first)
  · obtain rfl := hleast.unique h
    rw [readFirstType, hdrop, List.drop_eq_getElem_cons hi]

/-- The tokens from `first` to before `stop` spell the tree where they stand. -/
structure SpelledAt (tokens : List Token) (first stop : Nat) (tree : TypeTree) : Prop where
  first_le_stop : first ≤ stop
  stop_le_length : stop ≤ tokens.length
  derives : Derives (((tokens.take stop).drop first).map Token.lexeme) tree
    ((tokens.drop stop).map Token.lexeme)

theorem segment_append_drop (tokens : List Token) {first stop : Nat} (h : first ≤ stop) :
    (tokens.take stop).drop first ++ tokens.drop stop = tokens.drop first := by
  rw [List.drop_take, ← Nat.add_sub_cancel' h, ← List.drop_drop, Nat.add_sub_cancel_left,
    List.take_append_drop]

theorem SpelledAt.unique {tokens : List Token} {first stop stop' : Nat} {tree tree' : TypeTree}
    (h : SpelledAt tokens first stop tree) (h' : SpelledAt tokens first stop' tree') :
    tree = tree' ∧ stop = stop' := by
  have hsplit := segment_append_drop tokens h.first_le_stop
  rw [← segment_append_drop tokens h'.first_le_stop] at hsplit
  have heq := congrArg (List.map Token.lexeme) hsplit
  simp only [List.map_append] at heq
  obtain ⟨-, rfl, hrest⟩ := h.derives.unique h'.derives heq
  have hlength := congrArg List.length hrest
  simp only [List.length_map, List.length_drop] at hlength
  have hstop := h.stop_le_length
  have hstop' := h'.stop_le_length
  exact ⟨rfl, by omega⟩

theorem spelledAt_of_split {tokens segment rest : List Token} {first : Nat} {tree : TypeTree}
    (hfirst : first ≤ tokens.length) (hsplit : tokens.drop first = segment ++ rest)
    (h : Derives (segment.map Token.lexeme) tree (rest.map Token.lexeme)) :
    SpelledAt tokens first (tokens.length - rest.length) tree ∧
      rest = tokens.drop (tokens.length - rest.length) := by
  have hlength := congrArg List.length hsplit
  simp only [List.length_drop, List.length_append] at hlength
  have hstop : first ≤ tokens.length - rest.length := by omega
  have hwhole := (segment_append_drop tokens hstop).trans hsplit
  have hrestLength : (tokens.drop (tokens.length - rest.length)).length = rest.length := by
    simp only [List.length_drop]
    omega
  obtain ⟨hsegment, hrest⟩ := List.append_inj' hwhole hrestLength
  exact ⟨⟨hstop, Nat.sub_le _ _, by rw [hsegment, hrest]; exact h⟩, hrest.symm⟩

theorem readFirstType_eq_ok_iff {stop : Span} {tokens rest : List Token} {tree : TypeTree} :
    readFirstType stop tokens = (.ok tree, rest) ↔
      ∃ first k, FirstWordAt tokens first ∧ SpelledAt tokens first k tree ∧
        tree.arrayDepth ≤ maxNesting ∧ rest = tokens.drop k := by
  rcases fromFirstWord_spec 0 tokens with ⟨hnil, hnone⟩ | ⟨i, hi, hleast, hdrop⟩
  · refine iff_of_false (by simp [readFirstType, hnil]) ?_
    rintro ⟨first, _, hfirst, -⟩
    exact hnone first hfirst.1
  · rw [readFirstType_of_firstWordAt stop hleast, readType_eq_ok_iff, Nat.zero_add, Nat.zero_max]
    constructor
    · rintro ⟨segment, hsplit, hderives, hdepth⟩
      obtain ⟨hspelled, hrest⟩ := spelledAt_of_split hi.le hsplit hderives
      exact ⟨i, _, hleast, hspelled, hdepth, hrest⟩
    · rintro ⟨first, k, hfirst, hspelled, hdepth, rfl⟩
      obtain rfl := hleast.unique hfirst
      exact ⟨_, (segment_append_drop tokens hspelled.first_le_stop).symm, hspelled.derives, hdepth⟩

/-- The tokens before the first end mark. -/
def beforeEnd (tokens : List Token) : List Token := tokens.takeWhile (!·.isEnd)

namespace Session

theorem ahead_ofTokens (tokens : List Token) : (ofTokens tokens).ahead = beforeEnd tokens := by
  simp only [ahead, ofTokens, closed, beforeEnd, List.drop_zero]
  split
  · rfl
  · rw [List.takeWhile_append]
    split
    · next hall =>
        rw [(List.takeWhile_prefix _).eq_of_length hall]
        simp [closing, Token.endAt, Token.isEnd]
    · rfl

theorem next_ofTokens (tokens : List Token) :
    (ofTokens tokens).next.1 = (readFirstType (ofTokens tokens).stop (beforeEnd tokens)).1 ∧
    (ofTokens tokens).next.2.position = (beforeEnd tokens).length -
      (readFirstType (ofTokens tokens).stop (beforeEnd tokens)).2.length := by
  rw [← ahead_ofTokens]
  exact ⟨rfl, Nat.zero_add _⟩

/-- The first reading of a session finds a type exactly where the grammar derives one from the
first word outside parentheses on, within the nesting limit, and moves to the end of its segment.
From one place on the grammar derives no other type and no other segment. -/
theorem next_ofTokens_exactly (tokens : List Token) :
    (∀ tree k, ((ofTokens tokens).next.1 = .ok tree ∧ (ofTokens tokens).next.2.position = k) ↔
      ∃ first, FirstWordAt (beforeEnd tokens) first ∧ SpelledAt (beforeEnd tokens) first k tree ∧
        tree.arrayDepth ≤ maxNesting) ∧
    ∀ first, {spelled : TypeTree × Nat |
      SpelledAt (beforeEnd tokens) first spelled.2 spelled.1}.Subsingleton := by
  constructor
  · intro tree k
    obtain ⟨houtcome, hposition⟩ := next_ofTokens tokens
    cases hread : readFirstType (ofTokens tokens).stop (beforeEnd tokens) with
    | mk outcome left =>
        rw [houtcome, hposition, hread]
        constructor
        · rintro ⟨rfl, rfl⟩
          obtain ⟨first, k, hfirst, hspelled, hdepth, rfl⟩ := readFirstType_eq_ok_iff.mp hread
          rw [List.length_drop, Nat.sub_sub_self hspelled.stop_le_length]
          exact ⟨first, hfirst, hspelled, hdepth⟩
        · rintro ⟨first, hfirst, hspelled, hdepth⟩
          rw [readFirstType_eq_ok_iff.mpr ⟨first, k, hfirst, hspelled, hdepth, rfl⟩] at hread
          cases hread
          exact ⟨rfl, by rw [List.length_drop, Nat.sub_sub_self hspelled.stop_le_length]⟩
  · intro first spelled h spelled' h'
    obtain ⟨htree, hk⟩ := SpelledAt.unique h h'
    exact Prod.ext htree hk

end Session

end WorkflowParams.Declaration
