import WorkflowParams.Proofs.Readings

/-!
Readings have no memory. Wherever the readings before it have left a session, the next one has the
outcome of a first reading of the tokens from there on, and passes as many of them.
-/

namespace WorkflowParams.Declaration

namespace Session

variable {s : Session}

/-- The tokens from the position on close with an end mark as they are. -/
theorem InBounds.closed_drop (h : s.InBounds) :
    Declaration.closed (s.tokens.drop s.position) = s.tokens.drop s.position := by
  obtain ⟨last, hlast, hend⟩ := (Option.any_eq_true ..).mp h.closed
  have hposition : s.position < s.tokens.length := by
    apply Nat.lt_of_le_of_lt h.position_le
    exact List.findIdx_lt_length_of_exists ⟨last, List.mem_of_getLast? hlast, hend⟩
  unfold Declaration.closed
  rw [List.getLast?_drop, if_neg (Nat.not_le.mpr hposition), if_pos h.closed]

theorem InBounds.stop_drop (h : s.InBounds) :
    (ofTokens (s.tokens.drop s.position)).stop = s.stop := by
  obtain ⟨hahead, hlength⟩ := h.ahead
  obtain ⟨passed, behind, hsplit, hlength'⟩ := hahead.exists_split
  have hposition : s.position = passed.length := by omega
  have hdrop : s.tokens.drop s.position = s.ahead ++ firstEnd s.tokens :: behind := by
    conv_lhs => rw [hsplit, hposition, List.drop_left]
  have hfind : (s.tokens.drop s.position).find? Token.isEnd = some (firstEnd s.tokens) := by
    rw [hdrop]
    exact find?_append_end (fun t ht => hahead.isEnd_of_mem ht) hahead.isEnd_firstEnd behind
  rw [stop, ofTokens, h.closed_drop, hfind]
  rfl

/-- A session reads on as a fresh one reads that has only the tokens from its position on. -/
theorem InBounds.next_drop (h : s.InBounds) :
    let fresh := (ofTokens (s.tokens.drop s.position)).next
    s.next = (fresh.1, ⟨s.tokens, s.position + fresh.2.position⟩) := by
  have hahead : (ofTokens (s.tokens.drop s.position)).ahead = s.ahead := ahead_ofTokens _
  have hposition : (ofTokens (s.tokens.drop s.position)).position = 0 := rfl
  intro fresh
  simp only [fresh, Session.next, hahead, h.stop_drop, hposition, Nat.zero_add]

end Session

namespace Cursor

/-- The reading of a used session and that of a fresh one that has only the tokens from its position
on: both have the same outcome and pass as many tokens. So it is for a cursor that has made any
readings before, which counts and remembers open arrays across them. -/
theorem reads_afresh (tokens : List Token) :
    (∀ k, let used := ((Session.ofTokens tokens).run k).2
      let fresh := (Session.ofTokens (used.tokens.drop used.position)).next
      (Session.ofTokens tokens).run (k + 1) = (((Session.ofTokens tokens).run k).1 ++ [fresh.1],
        ⟨used.tokens, used.position + fresh.2.position⟩)) ∧
    ∀ outcomes used, ReadsAll (start (.ofTokens tokens)) outcomes used →
      ∀ outcome behind, Reads used outcome behind ↔
        ∃ fresh, Reads (start (.ofTokens (used.tokens.drop used.position))) outcome fresh ∧
          behind = { used with position := used.position + fresh.position } := by
  have hsession := Session.inBounds_ofTokens tokens
  constructor
  · intro k used fresh
    rw [Session.run_succ, (hsession.run k).1.next_drop]
  · intro outcomes used hreads outcome behind
    obtain ⟨-, rfl⟩ := eq_run_of_readsAll hsession hreads
    generalize hused : ((Session.ofTokens tokens).run outcomes.length).2 = s
    have hbounds : s.InBounds := hused ▸ (hsession.run outcomes.length).1
    have hfresh := Session.inBounds_ofTokens (s.tokens.drop s.position)
    rw [reads_iff hbounds, hbounds.next_drop]
    constructor
    · rintro ⟨rfl, rfl⟩
      exact ⟨_, reads_next hfresh, rfl⟩
    · rintro ⟨fresh, hread, rfl⟩
      obtain ⟨rfl, rfl⟩ := (reads_iff hfresh).mp hread
      exact ⟨rfl, rfl⟩

end Cursor

end WorkflowParams.Declaration
