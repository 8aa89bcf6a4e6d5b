import WorkflowParams.Proofs.Lookahead

/-!
Sessions of readings. A session stays within its tokens and never passes the first end mark. A
reading that finds a type name uses it up, whatever becomes of it, so a session makes no more such
readings than there are words before the end mark; once it finds none it stands at the end mark for
good.
-/

namespace WorkflowParams.Declaration

theorem getLast?_closed (tokens : List Token) :
    (closed tokens).getLast?.any Token.isEnd = true := by
  unfold closed
  split
  · next h => exact h
  · simp [closing, Token.endAt, Token.isEnd]

def Token.isWord (t : Token) : Bool :=
  match t.lexeme with
  | .word _ => true
  | _ => false

theorem Token.isWord_iff {t : Token} : t.isWord = true ↔ ∃ text, t.lexeme = .word text := by
  unfold isWord
  split
  · next text h => simp [h]
  · next h => simpa using h

/-! The first end mark. -/

section FirstEnd

variable {front : List Token} (hfront : ∀ t ∈ front, t.isEnd = false) {mark : Token}
  (hmark : mark.isEnd = true) (behind : List Token)
include hfront hmark

theorem beforeEnd_append_end : beforeEnd (front ++ mark :: behind) = front := by
  rw [beforeEnd_append hfront, beforeEnd, List.takeWhile_cons_of_neg (by simp [hmark]),
    List.append_nil]

theorem find?_append_end : (front ++ mark :: behind).find? Token.isEnd = some mark := by
  have hnone : front.find? Token.isEnd = none := List.find?_eq_none.mpr (by simpa using hfront)
  rw [List.find?_append, hnone, Option.none_or, List.find?_cons_of_pos hmark]

theorem findIdx_append_end : (front ++ mark :: behind).findIdx Token.isEnd = front.length := by
  have hnone := List.findIdx_eq_length_of_false hfront
  simp [List.findIdx_append, hnone, List.findIdx_cons, hmark]

end FirstEnd

def firstEnd (tokens : List Token) : Token := (tokens.find? Token.isEnd).getD (closing tokens)

theorem isEnd_of_mem_beforeEnd {tokens : List Token} {t : Token} (ht : t ∈ beforeEnd tokens) :
    t.isEnd = false := by
  simpa using List.all_eq_true.mp List.all_takeWhile t ht

theorem exists_eq_beforeEnd_append {tokens : List Token}
    (h : tokens.getLast?.any Token.isEnd = true) :
    ∃ behind, tokens = beforeEnd tokens ++ firstEnd tokens :: behind ∧
      (firstEnd tokens).isEnd = true ∧
      tokens.findIdx Token.isEnd = (beforeEnd tokens).length := by
  obtain ⟨last, hlast, hend⟩ := (Option.any_eq_true ..).mp h
  have hfound : (tokens.find? Token.isEnd).isSome = true :=
    List.find?_isSome.mpr ⟨last, List.mem_of_getLast? hlast, hend⟩
  obtain ⟨mark, hmark⟩ := Option.isSome_iff_exists.mp hfound
  obtain ⟨hend, front, behind, rfl, hfront⟩ := List.find?_eq_some_iff_append.mp hmark
  have hfront : ∀ t ∈ front, t.isEnd = false := by simpa using hfront
  rw [firstEnd, hmark, Option.getD_some, beforeEnd_append_end hfront hend,
    findIdx_append_end hfront hend]
  exact ⟨behind, rfl, hend, rfl⟩

/-- The tokens close with an end mark, and `left` are the last ones before the first end mark. -/
structure Ahead (tokens left : List Token) : Prop where
  closed : tokens.getLast?.any Token.isEnd = true
  suffix : left <:+ beforeEnd tokens

theorem Ahead.isEnd_of_mem {tokens left : List Token} (h : Ahead tokens left) {t : Token}
    (ht : t ∈ left) : t.isEnd = false :=
  isEnd_of_mem_beforeEnd (h.suffix.mem ht)

theorem Ahead.isEnd_firstEnd {tokens left : List Token} (h : Ahead tokens left) :
    (firstEnd tokens).isEnd = true := by
  obtain ⟨-, -, hend, -⟩ := exists_eq_beforeEnd_append h.closed
  exact hend

theorem Ahead.exists_split {tokens left : List Token} (h : Ahead tokens left) :
    ∃ passed behind, tokens = passed ++ (left ++ firstEnd tokens :: behind) ∧
      tokens.findIdx Token.isEnd = passed.length + left.length := by
  obtain ⟨behind, hsplit, -, hlength⟩ := exists_eq_beforeEnd_append h.closed
  obtain ⟨passed, hpassed⟩ := h.suffix
  rw [← hpassed] at hsplit hlength
  refine ⟨passed, behind, ?_, ?_⟩
  · rw [← List.append_assoc, ← hsplit]
  · rw [hlength, List.length_append]

namespace Session

/-- The tokens close with an end mark, and the position is not behind the first one. -/
structure InBounds (s : Session) : Prop where
  closed : s.tokens.getLast?.any Token.isEnd = true
  position_le : s.position ≤ s.tokens.findIdx Token.isEnd

theorem beforeEnd_closed (tokens : List Token) : beforeEnd (closed tokens) = beforeEnd tokens :=
  ahead_ofTokens tokens

theorem inBounds_ofTokens (tokens : List Token) : (ofTokens tokens).InBounds :=
  ⟨getLast?_closed tokens, Nat.zero_le _⟩

variable {s : Session}

/-- What is ahead of a session reaches from the position to the first end mark. -/
theorem InBounds.ahead (h : s.InBounds) :
    Ahead s.tokens s.ahead ∧ s.position + s.ahead.length = s.tokens.findIdx Token.isEnd := by
  obtain ⟨behind, hsplit, hend, hlength⟩ := exists_eq_beforeEnd_append h.closed
  have hposition := h.position_le
  rw [hlength] at hposition ⊢
  have hahead : s.ahead = (beforeEnd s.tokens).drop s.position := by
    rw [Session.ahead]
    conv_lhs => rw [hsplit, List.drop_append_of_le_length hposition]
    apply beforeEnd_append_end _ hend
    intro t ht
    exact isEnd_of_mem_beforeEnd (List.mem_of_mem_drop ht)
  rw [hahead, List.length_drop]
  exact ⟨⟨h.closed, List.drop_suffix _ _⟩, by omega⟩

theorem InBounds.getElem?_ahead (h : s.InBounds) {i : Nat} (hi : i < s.ahead.length) :
    s.tokens[s.position + i]? = s.ahead[i]? := by
  obtain ⟨hahead, hlength⟩ := h.ahead
  obtain ⟨passed, behind, hsplit, hlength'⟩ := hahead.exists_split
  have hposition : s.position = passed.length := by omega
  rw [hposition]
  conv_lhs => rw [hsplit, List.getElem?_append_right (Nat.le_add_right _ _),
    Nat.add_sub_cancel_left, List.getElem?_append_left hi]

/-- A session that stands in front of the last tokens before the first end mark. -/
theorem inBounds_of_ahead {tokens left : List Token} (h : Ahead tokens left) {position : Nat}
    (hposition : position + left.length = tokens.findIdx Token.isEnd) :
    InBounds ⟨tokens, position⟩ ∧ Session.ahead ⟨tokens, position⟩ = left := by
  obtain ⟨passed, behind, hsplit, hlength⟩ := h.exists_split
  obtain rfl : position = passed.length := by omega
  refine ⟨⟨h.closed, by simp only; omega⟩, ?_⟩
  rw [Session.ahead]
  conv_lhs => rw [hsplit, List.drop_left]
  exact beforeEnd_append_end (fun t ht => h.isEnd_of_mem ht) h.isEnd_firstEnd behind

/-- Past some of the tokens ahead the others are still ahead. -/
theorem InBounds.pass (h : s.InBounds) {passed left : List Token}
    (hsplit : s.ahead = passed ++ left) :
    InBounds ⟨s.tokens, s.position + passed.length⟩ ∧
      Session.ahead ⟨s.tokens, s.position + passed.length⟩ = left := by
  obtain ⟨hahead, hlength⟩ := h.ahead
  rw [hsplit] at hahead hlength
  apply inBounds_of_ahead ⟨h.closed, (List.suffix_append passed left).trans hahead.suffix⟩
  rw [← hlength, List.length_append, Nat.add_assoc]

/-- A reading passes all tokens ahead and finds no type name, or it finds one and passes it. -/
theorem InBounds.next_cases (h : s.InBounds) :
    (fromFirstWord 0 s.ahead = [] ∧ s.next.2.ahead = [] ∧
        s.next = (.error .noType, ⟨s.tokens, s.position + s.ahead.length⟩)) ∨
      ∃ noise name text passed, s.ahead = noise ++ name :: (passed ++ s.next.2.ahead) ∧
        Noise noise ∧ name.lexeme = .word text ∧
        readType s.stop 0 (name :: (passed ++ s.next.2.ahead)) = (s.next.1, s.next.2.ahead) ∧
        s.next.2 = ⟨s.tokens, s.position + (noise ++ name :: passed).length⟩ := by
  rcases readFirstType_cases s.stop s.ahead with
    ⟨hnone, hread⟩ | ⟨noise, name, rest, text, hsplit, hnoise, hname, hread⟩
  · have hnext : s.next = (.error .noType, ⟨s.tokens, s.position + s.ahead.length⟩) := by
      simp [Session.next, hread]
    refine .inl ⟨hnone, ?_, hnext⟩
    rw [hnext]
    exact (h.pass s.ahead.append_nil.symm).2
  · cases houtcome : readType s.stop 0 (name :: rest) with
    | mk outcome left =>
        obtain ⟨passed, rfl, -⟩ := exists_passed_of_readType_word hname houtcome
        rw [houtcome] at hread
        have hlength : s.ahead.length = (noise ++ name :: passed).length + left.length := by
          simp only [hsplit, List.length_append, List.length_cons]
          omega
        have hnext : s.next =
            (outcome, ⟨s.tokens, s.position + (noise ++ name :: passed).length⟩) := by
          simp only [Session.next, hread, hlength, Nat.add_sub_cancel]
        have hahead : s.next.2.ahead = left := by
          rw [hnext]
          refine (h.pass ?_).2
          rw [hsplit, List.append_assoc, List.cons_append]
        rw [hahead, hnext]
        exact .inr ⟨noise, name, text, passed, hsplit, hnoise, hname, houtcome, rfl⟩

theorem tokens_next (s : Session) : s.next.2.tokens = s.tokens := rfl

theorem InBounds.next (h : s.InBounds) : s.next.2.InBounds := by
  refine ⟨h.closed, ?_⟩
  rw [tokens_next, ← h.ahead.2]
  exact Nat.add_le_add_left (Nat.sub_le _ _) _

/-! Many readings. -/

theorem run_cons (n : Nat) (s : Session) :
    run (n + 1) s = (s.next.1 :: (run n s.next.2).1, (run n s.next.2).2) := rfl

theorem run_succ (n : Nat) (s : Session) :
    run (n + 1) s = ((run n s).1 ++ [(run n s).2.next.1], (run n s).2.next.2) := by
  induction n generalizing s with
  | zero => rfl
  | succ n ih =>
      rw [run_cons, ih, run_cons n]
      rfl

theorem InBounds.run (h : s.InBounds) (n : Nat) :
    (s.run n).2.InBounds ∧ (s.run n).2.tokens = s.tokens := by
  induction n with
  | zero => exact ⟨h, rfl⟩
  | succ n ih =>
      rw [run_succ]
      exact ⟨ih.1.next, ih.2⟩

/-! Type names are used up. -/

/-- The number of words ahead. -/
def wordsAhead (s : Session) : Nat := s.ahead.countP Token.isWord

/-- A reading that finds a type name moves past a word. -/
theorem InBounds.next_passes_word (h : s.InBounds) (hfound : s.next.1 ≠ .error .noType) :
    s.next.2.wordsAhead < s.wordsAhead ∧ ∃ i, s.position ≤ i ∧ i < s.next.2.position ∧
      s.tokens[i]?.any Token.isWord = true := by
  rcases h.next_cases with ⟨-, -, hnone⟩ | ⟨noise, name, text, passed, hsplit, -, hname, -, hnext⟩
  · rw [hnone] at hfound
    exact absurd rfl hfound
  · have hword : name.isWord = true := Token.isWord_iff.mpr ⟨text, hname⟩
    constructor
    · rw [wordsAhead, wordsAhead, hsplit, List.countP_append, List.countP_cons_of_pos hword,
        List.countP_append]
      omega
    · refine ⟨s.position + noise.length, by omega, ?_, ?_⟩
      · simp only [hnext, List.length_append, List.length_cons]
        omega
      · rw [h.getElem?_ahead (by simp [hsplit]), hsplit]
        simp [hword]

/-- A reading that finds no type name moves to the first end mark. -/
theorem InBounds.next_of_noType (h : s.InBounds) (hnone : s.next.1 = .error .noType) :
    s.next.2.position = s.tokens.findIdx Token.isEnd ∧ s.next.2.ahead = [] := by
  rcases h.next_cases with ⟨-, hnil, hnext⟩ | ⟨-, name, -, passed, -, -, -, hread, -⟩
  · refine ⟨?_, hnil⟩
    rw [hnext]
    exact h.ahead.2
  · exact absurd (congrArg Prod.fst hread |>.trans hnone) readType_ne_noType

theorem next_of_ahead_nil (h : s.ahead = []) : s.next = (.error .noType, s) := by
  simp [next, h, readFirstType, fromFirstWord]

theorem run_of_ahead_nil (h : s.ahead = []) (n : Nat) :
    s.run n = (List.replicate n (.error .noType), s) := by
  induction n with
  | zero => rfl
  | succ n ih => rw [run_cons, next_of_ahead_nil h, ih, List.replicate_succ]

theorem InBounds.countP_run (h : s.InBounds) (n : Nat) :
    (s.run n).1.countP (· ≠ .error .noType) + (s.run n).2.wordsAhead ≤ s.wordsAhead := by
  induction n with
  | zero => simp [Session.run]
  | succ n ih =>
      simp only [run_succ, List.countP_append, List.countP_singleton]
      by_cases hnone : (s.run n).2.next.1 = .error .noType
      · have hnil : (s.run n).2.next.2.wordsAhead = 0 := by
          rw [wordsAhead, ((h.run n).1.next_of_noType hnone).2, List.countP_nil]
        rw [if_neg (by simp [hnone])]
        omega
      · have hless := ((h.run n).1.next_passes_word hnone).1
        rw [if_pos (decide_eq_true hnone)]
        omega

/-- In a session over any tokens, each reading that finds a type name moves past a word, so no more
readings do than there are words before the first end mark. A reading that finds none moves to that
end mark, and all that come after it find none there again. -/
theorem run_exhausts (tokens : List Token) :
    (∀ k, let s := ((ofTokens tokens).run k).2
      (ofTokens tokens).run (k + 1) = (((ofTokens tokens).run k).1 ++ [s.next.1], s.next.2) ∧
      (s.next.1 ≠ .error .noType → s.position < s.next.2.position ∧
        ∃ i, s.position ≤ i ∧ i < s.next.2.position ∧
          (closed tokens)[i]?.any Token.isWord = true) ∧
      (s.next.1 = .error .noType →
        s.next.2.position = (closed tokens).findIdx Token.isEnd ∧
        ∀ n, s.next.2.run n = (List.replicate n (.error .noType), s.next.2))) ∧
    ∀ n, ((ofTokens tokens).run n).1.countP (· ≠ .error .noType) ≤
      (beforeEnd tokens).countP Token.isWord := by
  have hstart := inBounds_ofTokens tokens
  constructor
  · intro k s
    obtain ⟨hbounds, htokens⟩ := hstart.run k
    refine ⟨run_succ k _, ?_, ?_⟩
    · intro hfound
      obtain ⟨-, i, hfirst, hlast, hword⟩ := hbounds.next_passes_word hfound
      rw [htokens] at hword
      exact ⟨Nat.lt_of_le_of_lt hfirst hlast, i, hfirst, hlast, hword⟩
    · intro hnone
      obtain ⟨hposition, hnil⟩ := hbounds.next_of_noType hnone
      rw [htokens] at hposition
      exact ⟨hposition, run_of_ahead_nil hnil⟩
  · intro n
    rw [← ahead_ofTokens]
    exact Nat.le_trans (Nat.le_add_right _ _) (hstart.countP_run n)

end Session

end WorkflowParams.Declaration
