import WorkflowParams.Proofs.Readings

/-!
Bounds on a cursor. Whatever it reads, it stays in front of the first end mark or at it, never moves
back, keeps to the nesting limit and counts as many open arrays as it has to return to. So no look
at a token is out of bounds, no count falls below zero, and once a reading is over, of whatever
outcome, no array is open.
-/

namespace WorkflowParams.Declaration.Cursor

variable {tokens left left' : List Token} {opened : Nat} {callers : List Token} {task task' : Task}
  {c c' begun : Cursor}

/-- A cursor that is not behind the first end mark and within the nesting limit, and whose count of
open arrays is right. -/
structure InBounds (tokens : List Token) (c : Cursor) : Prop where
  tokens_eq : c.tokens = tokens
  position_le : c.position ≤ tokens.findIdx Token.isEnd
  opened_eq : c.opened = c.callers.length
  opened_le : c.opened ≤ maxNesting
  /-- While a type name is looked for, no array is being read. -/
  seeking : ∀ parens, c.task = .seek parens → c.callers = []

theorem InBounds.exists_facing (hclosed : tokens.getLast?.any Token.isEnd = true)
    (h : InBounds tokens c) :
    ∃ left, Ahead tokens left ∧ c = facing tokens left c.opened c.callers c.task := by
  have hsession : Session.InBounds ⟨tokens, c.position⟩ := ⟨hclosed, h.position_le⟩
  obtain ⟨hahead, hlength⟩ := hsession.ahead
  have hposition : c.position =
      tokens.findIdx Token.isEnd - (Session.ahead ⟨tokens, c.position⟩).length := by
    simp only at hlength
    omega
  refine ⟨_, hahead, ?_⟩
  rw [facing, ← hposition, ← h.tokens_eq]

theorem inBounds_start {s : Session} (h : s.InBounds) : InBounds s.tokens (start s) :=
  ⟨rfl, h.position_le, rfl, Nat.zero_le _, fun _ _ => rfl⟩

/-! One step. -/

/-- The reading goes on, in bounds and not further back, or it is over and no array is open. -/
def Proceeds (tokens : List Token) (c : Cursor) : Prop :=
  (∃ c', c.step = some (.next c') ∧ InBounds tokens c' ∧ c.position ≤ c'.position) ∨
    ∃ outcome, c.step = some (.over outcome) ∧ c.callers = []

/-- Nothing but the task changes and some tokens are passed, as in all steps but those that begin or
end the element of an array. -/
theorem InBounds.proceeds_of_step (h : InBounds tokens (facing tokens left opened callers task))
    (hstep : (facing tokens left opened callers task).step =
      some (.next (facing tokens left' opened callers task')))
    (hleft : left' <:+ left) (hseeking : ∀ parens, task' = .seek parens → callers = []) :
    Proceeds tokens (facing tokens left opened callers task) := by
  refine .inl ⟨_, hstep, ⟨rfl, Nat.sub_le _ _, h.opened_eq, h.opened_le, hseeking⟩, ?_⟩
  exact Nat.sub_le_sub_left hleft.length_le _

theorem behindName_ne_seek (name : Token) (text : String) (parens : Nat) :
    Task.behindName name text ≠ .seek parens := by
  unfold Task.behindName
  split
  · simp
  · split <;> simp

theorem InBounds.proceeds_behindOpening (h : Ahead tokens left) {name : Token}
    (hbounds : InBounds tokens (facing tokens left opened callers (.behindOpening name))) :
    Proceeds tokens (facing tokens left opened callers (.behindOpening name)) := by
  obtain ⟨before, hbefore⟩ := Option.isSome_iff_exists.mp (isSome_previous?_facing h)
  have hstep := step_behindOpening opened callers h name hbefore
  cases hbrackets : emptyBrackets? before left with
  | some brackets =>
      rw [hbrackets] at hstep
      exact hbounds.proceeds_of_step hstep List.suffix_rfl (by simp)
  | none =>
      rw [hbrackets] at hstep
      by_cases hfull : maxNesting ≤ opened
      · simp only [hfull, if_true] at hstep
        exact hbounds.proceeds_of_step hstep List.suffix_rfl (by simp)
      · simp only [hfull, if_false] at hstep
        have hopened : opened + 1 = (name :: callers).length :=
          congrArg (· + 1) hbounds.opened_eq
        exact .inl ⟨_, hstep,
          ⟨rfl, Nat.sub_le _ _, hopened, Nat.not_le.mp hfull, by simp⟩, Nat.le_refl _⟩

theorem InBounds.proceeds_answer {outcome : Except Complaint TypeTree}
    (h : InBounds tokens (facing tokens left opened callers (.answer outcome))) :
    Proceeds tokens (facing tokens left opened callers (.answer outcome)) := by
  cases callers with
  | nil => exact .inr ⟨outcome, step_answer_nil opened outcome, rfl⟩
  | cons name callers =>
      obtain rfl : opened = callers.length + 1 := h.opened_eq
      have hroom : callers.length ≤ maxNesting := Nat.le_of_succ_le h.opened_le
      refine .inl ⟨_, step_answer_cons _ callers name outcome,
        ⟨rfl, Nat.sub_le _ _, rfl, hroom, ?_⟩, Nat.le_refl _⟩
      intro parens hseek
      cases outcome <;> cases hseek

/-- From within bounds no step fails, and none leads out of them. -/
theorem InBounds.proceeds (hclosed : tokens.getLast?.any Token.isEnd = true)
    (hbounds : InBounds tokens c) : Proceeds tokens c := by
  obtain ⟨left, h, hc⟩ := hbounds.exists_facing hclosed
  generalize c.opened = opened, c.callers = callers, c.task = task at hc
  subst hc
  cases task with
  | seek parens =>
      have hcallers : callers = [] := hbounds.seeking parens rfl
      cases left with
      | nil => exact .inr ⟨_, step_seek_nil opened callers h parens, hcallers⟩
      | cons t rest =>
          have hstep := step_seek_cons opened callers h parens
          split at hstep
          · exact hbounds.proceeds_of_step hstep List.suffix_rfl (by simp)
          · exact hbounds.proceeds_of_step hstep (List.suffix_cons t rest) fun _ _ => hcallers
  | name =>
      by_cases hname : ∃ text, startsWith (.word text) left = true
      · obtain ⟨text, hname⟩ := hname
        obtain ⟨t, rest, rfl, hword⟩ := exists_cons_of_startsWith hname
        have hstep := step_name_of_word opened callers h hword
        refine hbounds.proceeds_of_step hstep (List.suffix_cons t rest) ?_
        intro parens hseek
        exact absurd hseek (behindName_ne_seek t text parens)
      · have hnone : ∀ text, startsWith (.word text) left = false := by simpa using hname
        have hstep := step_name_of_notName opened callers h hnone
        exact hbounds.proceeds_of_step hstep List.suffix_rfl (by simp)
  | behindPrimitive p =>
      refine hbounds.proceeds_of_step (step_behindPrimitive opened callers h p) List.suffix_rfl ?_
      split <;> simp
  | behindArrayName name =>
      refine hbounds.proceeds_of_step (step_behindArrayName opened callers h name)
        (skip_suffix _ _) ?_
      split <;> simp
  | behindOpening name => exact InBounds.proceeds_behindOpening h hbounds
  | behindElement element =>
      refine hbounds.proceeds_of_step (step_behindElement opened callers h element)
        (skip_suffix _ _) ?_
      split <;> simp
  | behindClosing element =>
      exact hbounds.proceeds_of_step (step_behindClosing opened callers h element)
        (skip_suffix _ _) (by simp)
  | behindType tree =>
      exact hbounds.proceeds_of_step (step_behindType opened callers h tree) (skip_suffix _ _)
        (by simp)
  | answer outcome => exact hbounds.proceeds_answer

/-! Any number of steps. -/

theorem InBounds.steps (hclosed : tokens.getLast?.any Token.isEnd = true)
    (hbounds : InBounds tokens c) (hsteps : Steps c c') :
    InBounds tokens c' ∧ c.position ≤ c'.position := by
  induction hsteps with
  | refl => exact ⟨hbounds, Nat.le_refl _⟩
  | @tail c' c'' _ hstep ih =>
      rcases ih.1.proceeds hclosed with ⟨next, hnext, hbounds', hposition⟩ | ⟨outcome, hover, -⟩
      · obtain rfl : c'' = next := rightUnique_step hstep hnext
        exact ⟨hbounds', Nat.le_trans ih.2 hposition⟩
      · rw [hstep] at hover
        cases hover

theorem InBounds.looks (hclosed : tokens.getLast?.any Token.isEnd = true)
    (hbounds : InBounds tokens c) : c.peek?.isSome = true ∧ c.previous?.isSome = true := by
  obtain ⟨left, h, hc⟩ := hbounds.exists_facing hclosed
  rw [hc]
  exact ⟨Option.isSome_of_eq_some (peek?_facing h), isSome_previous?_facing h⟩

theorem InBounds.nesting_le (hbounds : InBounds tokens c) : c.nesting ≤ maxNesting + 1 := by
  have hcallers : c.callers.length ≤ maxNesting := hbounds.opened_eq ▸ hbounds.opened_le
  unfold nesting
  split
  · exact Nat.zero_le _
  · exact Nat.add_le_add_right hcallers 1

/-- Over any tokens, a cursor makes the readings of a session, one after another, and begins each of
them with no array open and where the one before it ended. At every point of a reading it is in
bounds, both looks at a token find one, and the reading goes on, not further back, or is over with
no array open. -/
theorem readings_inBounds (tokens : List Token) :
    (closed tokens).getLast?.any Token.isEnd = true ∧
    (∀ n, ReadsAll (start (.ofTokens tokens)) ((Session.ofTokens tokens).run n).1
      (start ((Session.ofTokens tokens).run n).2)) ∧
    ∀ outcomes begun, ReadsAll (start (.ofTokens tokens)) outcomes begun →
      outcomes = ((Session.ofTokens tokens).run outcomes.length).1 ∧
      begun = start ((Session.ofTokens tokens).run outcomes.length).2 ∧
      ∀ c, Steps begun c →
        InBounds (closed tokens) c ∧ begun.position ≤ c.position ∧
        c.nesting ≤ maxNesting + 1 ∧ c.peek?.isSome = true ∧ c.previous?.isSome = true ∧
        ((∃ c', c.step = some (.next c') ∧ c.position ≤ c'.position) ∨
          ∃ outcome, c.step = some (.over outcome) ∧ c.opened = 0) := by
  have hsession := Session.inBounds_ofTokens tokens
  refine ⟨getLast?_closed tokens, readsAll_run hsession, ?_⟩
  intro outcomes begun hreads
  obtain ⟨houtcomes, hbegun⟩ := eq_run_of_readsAll hsession hreads
  refine ⟨houtcomes, hbegun, ?_⟩
  intro c hsteps
  obtain ⟨hrun, htokens⟩ := hsession.run outcomes.length
  have hstart := inBounds_start hrun
  rw [htokens, ← hbegun] at hstart
  obtain ⟨hbounds, hposition⟩ := hstart.steps (getLast?_closed tokens) hsteps
  obtain ⟨hpeek, hprevious⟩ := hbounds.looks (getLast?_closed tokens)
  refine ⟨hbounds, hposition, hbounds.nesting_le, hpeek, hprevious, ?_⟩
  rcases hbounds.proceeds (getLast?_closed tokens) with
    ⟨c', hnext, -, hfurther⟩ | ⟨outcome, hover, hcallers⟩
  · exact .inl ⟨c', hnext, hfurther⟩
  · refine .inr ⟨outcome, hover, ?_⟩
    rw [hbounds.opened_eq, hcallers, List.length_nil]

end WorkflowParams.Declaration.Cursor
