import WorkflowParams.Proofs.Session

/-!
The tokens that matter to a first reading. They reach from the type name to the token in front of
which the reading stops, that one included. What comes behind it may be anything, and what comes
before the name any tokens that no type begins among.
-/

namespace WorkflowParams.Declaration

variable {tokens noise found left left' : List Token} {first : Nat} {mark : Token}
  {outcome : Except Complaint TypeTree}

/-! Tokens in front of a type, told by the words and parentheses among them. -/

theorem noise_of_openWordAt (hnone : ∀ i, ¬ OpenWordAt 0 noise i)
    (hbalanced : noise.foldl parensBehind 0 = 0) : Noise noise := by
  rcases fromFirstWord_spec 0 noise with ⟨hnil, -⟩ | ⟨i, -, hleast, -⟩
  · exact ⟨hnil, hbalanced⟩
  · exact absurd hleast.1 (hnone i)

theorem FirstWordAt.exists_noise (h : FirstWordAt tokens first) :
    ∃ noise name rest text, tokens = noise ++ name :: rest ∧ noise.length = first ∧ Noise noise ∧
      name.lexeme = .word text := by
  rcases fromFirstWord_spec 0 tokens with ⟨-, hnone⟩ | ⟨i, hi, hleast, hdrop⟩
  · exact absurd h.1 (hnone first)
  · obtain rfl := hleast.unique h
    rcases exists_noise_of_depth 0 tokens with hnil | ⟨noise, text, hsplit, hnil, hdepth, hword⟩
    · rw [hdrop, List.drop_eq_nil_iff] at hnil
      omega
    · obtain ⟨name, rest, hname, hlexeme⟩ := exists_cons_of_startsWith hword
      have hlength := congrArg List.length hsplit
      rw [hdrop, List.length_append, List.length_drop] at hlength
      exact ⟨noise, name, rest, text, by rw [← hname, ← hsplit], by omega, ⟨hnil, hdepth⟩, hlexeme⟩

/-- The tokens behind `start` up to the first one behind `found`. -/
theorem drop_take_window (start found left : List Token) (mark : Token) (behind : List Token) :
    ((start ++ (found ++ (left ++ mark :: behind))).take (start.length + found.length + 1)).drop
        start.length = found ++ [left.head?.getD mark] ∧
      (start ++ (found ++ (left ++ mark :: behind)))[start.length + found.length]? =
        some (left.head?.getD mark) := by
  constructor
  · rw [List.drop_take, List.drop_left, show start.length + found.length + 1 - start.length =
      found.length + 1 by omega, List.take_length_add_append]
    cases left <;> rfl
  · rw [List.getElem?_append_right (by omega), List.getElem?_append_right (by omega)]
    cases left <;> simp

theorem exists_closed_eq_append (tokens : List Token) :
    ∃ added, closed tokens = tokens ++ added := by
  unfold closed
  split
  · exact ⟨[], tokens.append_nil.symm⟩
  · exact ⟨_, rfl⟩

namespace Session

/-- A reading that begins at `found` passes it and has this outcome wherever it stands, if the same
token comes behind as in front of `left`, or the tokens end at `mark` when `left` is empty. -/
structure Settles (found left : List Token) (mark : Token) (outcome : Except Complaint TypeTree) :
    Prop where
  word : ∃ text, startsWith (.word text) found = true
  read : ∀ stop left', left'.head? = left.head? → (left = [] → stop = mark.span) →
    readType stop 0 (found ++ left') = (outcome, left')

theorem Settles.next_ofTokens (h : Settles found left mark outcome) (hnoise : Noise noise)
    (hbefore : beforeEnd tokens = noise ++ (found ++ left')) (hhead : left'.head? = left.head?)
    (hstop : left = [] → (ofTokens tokens).stop = mark.span) :
    (ofTokens tokens).next.1 = outcome ∧
      (ofTokens tokens).next.2.position = noise.length + found.length := by
  obtain ⟨text, hfound⟩ := h.word
  obtain ⟨name, rest, rfl, hname⟩ := exists_cons_of_startsWith hfound
  have hword : startsWith (.word text) (name :: rest ++ left') = true := by
    simp [startsWith, hname]
  obtain ⟨houtcome, hposition⟩ := Session.next_ofTokens tokens
  rw [hbefore, hnoise.readFirstType_append _ hword, h.read _ left' hhead hstop]
    at houtcome hposition
  refine ⟨houtcome, ?_⟩
  rw [hposition, ← List.append_assoc, List.length_append, Nat.add_sub_cancel, List.length_append]

/-- Behind the first type name some tokens settle what is read. -/
theorem exists_settles (h : FirstWordAt (beforeEnd tokens) first) :
    ∃ start found left outcome, start.length = first ∧ Noise start ∧
      beforeEnd tokens = start ++ (found ++ left) ∧
      Settles found left (firstEnd (closed tokens)) outcome := by
  obtain ⟨start, name, rest, text, hbefore, hlength, hstart, hname⟩ := h.exists_noise
  cases hread : readType (ofTokens tokens).stop 0 (name :: rest) with
  | mk outcome left =>
      obtain ⟨passed, rfl, hsame⟩ := exists_passed_of_readType_word hname hread
      have hword : startsWith (.word text) (name :: passed) = true := by simp [startsWith, hname]
      exact ⟨start, name :: passed, left, outcome, hlength, hstart, hbefore, ⟨text, hword⟩, hsame⟩

/-- Behind tokens without an end mark, the next one decides what is seen there: that token, or that
the tokens end with it. -/
theorem exists_beforeEnd_eq (hfound : ∀ t ∈ found, t.isEnd = false)
    (hleft : ∀ t ∈ left, t.isEnd = false) (hmark : mark.isEnd = true) (more : List Token) :
    ∃ left', beforeEnd (found ++ left.head?.getD mark :: more) = found ++ left' ∧
      left'.head? = left.head? ∧
      (left = [] → (ofTokens (found ++ left.head?.getD mark :: more)).stop = mark.span) := by
  cases left with
  | nil =>
      refine ⟨[], ?_, rfl, ?_⟩
      · rw [List.append_nil]
        exact beforeEnd_append_end hfound hmark more
      · intro _
        obtain ⟨added, hadded⟩ := exists_closed_eq_append (found ++ mark :: more)
        simp only [List.head?_nil, Option.getD_none, stop, ofTokens, hadded, List.append_assoc,
          List.cons_append, find?_append_end hfound hmark, Option.getD_some]
  | cons token rest =>
      refine ⟨token :: beforeEnd more, ?_, rfl, by simp⟩
      have hopen : ∀ t ∈ found ++ [token], t.isEnd = false := by
        simpa [or_imp, forall_and] using ⟨hfound, hleft token List.mem_cons_self⟩
      simpa using beforeEnd_append hopen more

/-- The tokens up to the first one behind `found` settle a first reading, whatever comes behind. -/
theorem Settles.next_ofTokens_append (h : Settles found left mark outcome) (hnoise : Noise noise)
    (hopen : ∀ t ∈ noise ++ found, t.isEnd = false) (hleft : ∀ t ∈ left, t.isEnd = false)
    (hmark : mark.isEnd = true) (more : List Token) :
    let changed := (ofTokens (noise ++ (found ++ [left.head?.getD mark]) ++ more)).next
    changed.1 = outcome ∧ changed.2.position = noise.length + found.length ∧
      changed.2.tokens[changed.2.position]? = some (left.head?.getD mark) := by
  obtain ⟨left', hbefore, hhead, hstop⟩ := exists_beforeEnd_eq hopen hleft hmark more
  rw [List.append_assoc noise found left'] at hbefore
  obtain ⟨houtcome, hposition⟩ := h.next_ofTokens hnoise hbefore hhead hstop
  obtain ⟨added, hadded⟩ := exists_closed_eq_append (noise ++ found ++ left.head?.getD mark :: more)
  have hchanged : noise ++ (found ++ [left.head?.getD mark]) ++ more =
      noise ++ found ++ left.head?.getD mark :: more := by simp
  rw [hchanged]
  refine ⟨houtcome, hposition, ?_⟩
  rw [hposition, tokens_next, ofTokens, hadded, List.append_assoc, ← List.length_append,
    List.getElem?_append_right (Nat.le_refl _)]
  simp

/-- The outcome of a first reading that finds a type name depends only on the tokens from that name
to the one in front of which the reading stops. Before them there may be any tokens that no type
begins among and that leave no parenthesis open, and behind them any tokens at all. -/
theorem next_ofTokens_window (hfirst : FirstWordAt (beforeEnd tokens) first)
    (hopen : ∀ t ∈ noise, t.isEnd = false) (hnone : ∀ i, ¬ OpenWordAt 0 noise i)
    (hbalanced : noise.foldl parensBehind 0 = 0) (more : List Token) :
    let stopped := (ofTokens tokens).next.2.position
    let window := ((closed tokens).take (stopped + 1)).drop first
    let changed := (ofTokens (noise ++ window ++ more)).next
    first < stopped ∧ changed.1 = (ofTokens tokens).next.1 ∧
      changed.2.position = noise.length + (stopped - first) ∧
      ∃ token, (closed tokens)[stopped]? = some token ∧
        changed.2.tokens[changed.2.position]? = some token := by
  intro stopped window changed
  obtain ⟨start, found, left, outcome, rfl, hstart, hbefore, hsettles⟩ := exists_settles hfirst
  obtain ⟨behind, hclosed, hmark, -⟩ := exists_eq_beforeEnd_append (getLast?_closed tokens)
  obtain ⟨houtcome, hposition⟩ : _ ∧ stopped = _ :=
    hsettles.next_ofTokens hstart hbefore rfl fun _ => rfl
  have hbefore' : ∀ t ∈ start ++ (found ++ left), t.isEnd = false := by
    rw [← hbefore]
    intro t ht
    exact isEnd_of_mem_beforeEnd ht
  simp only [List.mem_append, or_imp, forall_and] at hbefore'
  obtain ⟨-, hfound, hleft⟩ := hbefore'
  have hwhole : closed tokens =
      start ++ (found ++ (left ++ firstEnd (closed tokens) :: behind)) := by
    rw [beforeEnd_closed, hbefore] at hclosed
    simpa using hclosed
  obtain ⟨hwindow, htoken⟩ :=
    drop_take_window start found left (firstEnd (closed tokens)) behind
  rw [← hwhole, ← hposition] at hwindow htoken
  have hopen' : ∀ t ∈ noise ++ found, t.isEnd = false := by
    simpa only [List.mem_append, or_imp, forall_and] using ⟨hopen, hfound⟩
  obtain ⟨houtcome', hposition', htoken'⟩ := hsettles.next_ofTokens_append
    (noise_of_openWordAt hnone hbalanced) hopen' hleft hmark more
  rw [← show window = _ from hwindow] at houtcome' hposition' htoken'
  refine ⟨?_, houtcome'.trans houtcome.symm, ?_, _, htoken, htoken'⟩
  · obtain ⟨text, hword⟩ := hsettles.word
    obtain ⟨name, rest, rfl, -⟩ := exists_cons_of_startsWith hword
    rw [hposition, List.length_cons]
    omega
  · rw [hposition', hposition, Nat.add_sub_cancel_left]

/-- `) Array[Int,` is refused at its comma as it is behind `(Map)` and in front of an end mark with
more tokens behind that. -/
theorem next_ofTokens_window_of_comma :
    let comma : Token := ⟨.comma, 11, 11⟩
    let window : List Token :=
      [⟨.word "Array", 2, 6⟩, ⟨.leftBracket, 7, 7⟩, ⟨.word "Int", 8, 10⟩, comma]
    let noise : List Token := [⟨.leftParen, 1, 1⟩, ⟨.word "Map", 2, 4⟩, ⟨.rightParen, 5, 5⟩]
    let changed := (ofTokens (noise ++ window ++ [.endAt 30, ⟨.rightBracket, 1, 1⟩])).next
    (ofTokens (⟨.rightParen, 1, 1⟩ :: window)).next.1 =
        .error (.unexpected .closingBracket .comma (.single 11)) ∧
      changed.1 = .error (.unexpected .closingBracket .comma (.single 11)) ∧
      changed.2.position = 6 ∧ changed.2.tokens[6]? = some comma := by
  intro comma window noise changed
  have hread : (ofTokens (⟨.rightParen, 1, 1⟩ :: window)).next =
      (.error (.unexpected .closingBracket .comma (.single 11)), ⟨_, 4⟩) := rfl
  have hfirst : FirstWordAt (beforeEnd (⟨.rightParen, 1, 1⟩ :: window)) 1 := by
    refine ⟨⟨⟨"Array", rfl⟩, rfl⟩, ?_⟩
    intro i hword
    cases i with
    | zero =>
        obtain ⟨⟨_, hlexeme⟩, -⟩ := hword
        cases hlexeme
    | succ i => exact Nat.succ_le_succ (Nat.zero_le i)
  have hnone : ∀ i, ¬ OpenWordAt 0 noise i := by
    rintro (_ | _ | _ | i) <;> simp [OpenWordAt, parensBehind, noise]
  have hwindow : ((closed (⟨.rightParen, 1, 1⟩ :: window)).take 5).drop 1 = window := rfl
  have hsame :=
    next_ofTokens_window hfirst (by decide) hnone rfl [.endAt 30, ⟨.rightBracket, 1, 1⟩]
  simp only [hread, hwindow] at hsame
  obtain ⟨-, houtcome, hposition, token, htoken, htoken'⟩ := hsame
  rw [hposition, ← show some comma = some token from htoken] at htoken'
  exact ⟨congrArg Prod.fst hread, houtcome, hposition, htoken'⟩

end Session

end WorkflowParams.Declaration
