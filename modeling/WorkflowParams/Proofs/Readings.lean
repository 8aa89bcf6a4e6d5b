import WorkflowParams.Proofs.Cursor

/-!
A cursor reads what a session reads. From the beginning of a type its steps lead to the outcome of
the type reader, in front of the tokens that the reader leaves and with the arrays open that were
open before. So a reading, and any number of readings one after another, end with the outcomes of a
session and where it stands; no other outcome or end is possible, since a step is determined.
-/

namespace WorkflowParams.Declaration

theorem Ahead.readType {tokens left : List Token} (h : Ahead tokens left) (stop : Span)
    (opened : Nat) : Ahead tokens (readType stop opened left).2 := by
  obtain ⟨passed, hsplit, -⟩ := exists_passed_of_readType (Prod.ext rfl rfl)
  refine ⟨h.closed, List.IsSuffix.trans ⟨passed, ?_⟩ h.suffix⟩
  exact hsplit.symm

namespace Cursor

variable {tokens left rest : List Token} {name bracket : Token} (opened : Nat)
  (callers : List Token)

/-- Any number of steps of one reading. -/
def Steps : Cursor → Cursor → Prop :=
  Relation.ReflTransGen fun c c' => c.step = some (.next c')

theorem Steps.trans {c c' c'' : Cursor} (h : Steps c c') (h' : Steps c' c'') : Steps c c'' :=
  Relation.ReflTransGen.trans h h'

theorem steps_of_step {c c' : Cursor} (h : c.step = some (.next c')) : Steps c c' :=
  .single h

/-! The parts of a reading, from the innermost outwards. -/

theorem steps_behindType (h : Ahead tokens left) (tree : TypeTree) :
    Steps (facing tokens left opened callers (.behindType tree))
      (facing tokens (settle tree left).2 opened callers (.answer (settle tree left).1)) :=
  steps_of_step (step_behindType opened callers h tree)

theorem steps_behindPrimitive (h : Ahead tokens left) (p : Primitive) :
    Steps (facing tokens left opened callers (.behindPrimitive p))
      (facing tokens (readPrimitive p left).2 opened callers
        (.answer (readPrimitive p left).1)) := by
  have hstep := steps_of_step (step_behindPrimitive opened callers h p)
  cases hopening : startsWith .leftBracket left with
  | true =>
      obtain ⟨t, rest, rfl, ht⟩ := exists_cons_of_startsWith hopening
      simpa [readPrimitive, startsWith, ht] using hstep
  | false =>
      have hread : readPrimitive p left = settle (.primitive p) left :=
        readPrimitive_eq_ok_iff.mpr ⟨hopening, rfl, rfl⟩
      rw [hopening] at hstep
      rw [hread]
      exact hstep.trans (steps_behindType opened callers h _)

theorem steps_behindElement (h : Ahead tokens left) (element : TypeTree) :
    Steps (facing tokens left opened callers (.behindElement element))
      (facing tokens (closeArray (firstEnd tokens).span element left).2 opened callers
        (.answer (closeArray (firstEnd tokens).span element left).1)) := by
  have hstep := steps_of_step (step_behindElement opened callers h element)
  cases hclosing : startsWith .rightBracket left with
  | true =>
      obtain ⟨t, rest, rfl, ht⟩ := exists_cons_of_startsWith hclosing
      have hread : closeArray (firstEnd tokens).span element (t :: rest) =
          settle (.array element (startsWith .plus rest)) (skip .plus rest) := by
        simp [closeArray, ht]
      have hplus := steps_of_step (step_behindClosing opened callers h.tail element)
      rw [hclosing, skip, hclosing] at hstep
      rw [hread]
      exact (hstep.trans hplus).trans (steps_behindType opened callers (h.tail.skip .plus) _)
  | false =>
      rw [hclosing, skip, hclosing] at hstep
      rw [closeArray_of_unclosed _ _ hclosing]
      exact hstep

theorem steps_name (h : Ahead tokens (name :: rest)) {text : String}
    (hname : name.lexeme = .word text) :
    Steps (facing tokens (name :: rest) opened callers .name)
      (facing tokens rest opened callers (.behindName name text)) :=
  steps_of_step (step_name_of_word opened callers h hname)

theorem steps_arrayName (h : Ahead tokens (name :: rest)) (hname : name.lexeme = .word arrayName) :
    Steps (facing tokens (name :: rest) opened callers .name)
      (facing tokens (skip .leftBracket rest) opened callers
        (if startsWith .leftBracket rest then .behindOpening name
        else .answer (.error (.bareArray name.span)))) :=
  (steps_name opened callers h hname).trans
    (steps_of_step (step_behindArrayName opened callers h.tail name))

/-- Behind the opening bracket of an array, the token before the position is that bracket. -/
theorem steps_opening (h : Ahead tokens (name :: bracket :: rest))
    (hname : name.lexeme = .word arrayName) (hbracket : bracket.lexeme = .leftBracket) :
    Steps (facing tokens (name :: bracket :: rest) opened callers .name)
      (match emptyBrackets? bracket rest with
      | some brackets =>
        facing tokens rest opened callers (.answer (.error (.emptyBrackets brackets)))
      | none =>
        if maxNesting ≤ opened then
          facing tokens rest opened callers (.answer (.error (.tooDeep name.span)))
        else facing tokens rest (opened + 1) (name :: callers) .name) := by
  have hopening : startsWith .leftBracket (bracket :: rest) = true := by
    simp [startsWith, hbracket]
  have hsteps := steps_arrayName opened callers h hname
  rw [hopening, skip, hopening] at hsteps
  exact hsteps.trans (steps_of_step
    (step_behindOpening opened callers h.tail.tail name (previous?_facing_of_cons h.tail)))

/-- From the beginning of a type a cursor gets to its end with the outcome of the reader, in front
of the tokens that the reader leaves. As many arrays are open there as at the beginning. -/
theorem steps_readType (h : Ahead tokens left) :
    Steps (facing tokens left opened callers .name)
      (facing tokens (readType (firstEnd tokens).span opened left).2 opened callers
        (.answer (readType (firstEnd tokens).span opened left).1)) := by
  -- The element of an array is read with one more caller, so the hypothesis is about any callers.
  generalize hstop : (firstEnd tokens).span = stop
  fun_induction readType stop opened left generalizing callers with
  | case1 opened =>
      subst hstop
      exact steps_of_step (step_name_of_notName opened callers h fun _ => rfl)
  | case2 opened name hname => exact steps_arrayName opened callers h hname
  | case3 opened name bracket inner hbracket brackets hbrackets hname =>
      have hsteps := steps_opening opened callers h hname hbracket
      rw [hbrackets] at hsteps
      exact hsteps
  | case4 opened name bracket inner hbracket hbrackets hroom element after hread hname ih =>
      have hsteps := steps_opening opened callers h hname hbracket
      rw [hbrackets] at hsteps
      simp only [Nat.not_le.mpr hroom, if_false] at hsteps
      have hinner := ih (name :: callers) h.tail.tail
      have hafter := h.tail.tail.readType stop (opened + 1)
      rw [hread] at hinner hafter
      subst hstop
      have hreturn := steps_of_step
        (@step_answer_cons tokens after opened callers name (.ok element))
      exact ((hsteps.trans hinner).trans hreturn).trans
        (steps_behindElement opened callers hafter element)
  | case5 opened name bracket inner hbracket hbrackets hroom complaint after hread hname ih =>
      have hsteps := steps_opening opened callers h hname hbracket
      rw [hbrackets] at hsteps
      simp only [Nat.not_le.mpr hroom, if_false] at hsteps
      have hinner := ih (name :: callers) h.tail.tail
      rw [hread] at hinner
      exact (hsteps.trans hinner).trans (steps_of_step (step_answer_cons opened callers name _))
  | case6 opened name bracket inner hbracket hbrackets hfull hname =>
      have hsteps := steps_opening opened callers h hname hbracket
      rw [hbrackets] at hsteps
      simpa only [Nat.le_of_not_lt hfull, if_true] using hsteps
  | case7 opened name token rest htoken hname =>
      have hopening : startsWith .leftBracket (token :: rest) = false := by
        simp [startsWith, htoken]
      have hsteps := steps_arrayName opened callers h hname
      rw [hopening, skip, hopening] at hsteps
      exact hsteps
  | case8 opened name rest text hname harray p hp =>
      have hsteps := steps_name opened callers h hname
      simp only [Task.behindName, harray, if_false, hp] at hsteps
      exact hsteps.trans (steps_behindPrimitive opened callers h.tail p)
  | case9 opened name rest text hname harray hprimitive =>
      have hsteps := steps_name opened callers h hname
      simpa only [Task.behindName, harray, if_false, hprimitive] using hsteps
  | case10 opened token rest hname =>
      subst hstop
      refine steps_of_step (step_name_of_notName opened callers h ?_)
      intro text
      simpa [startsWith] using hname text

/-! Whole readings. -/

/-- Over tokens that no type begins among a cursor counts the open parentheses. -/
theorem steps_seek {noise : List Token} (h : Ahead tokens (noise ++ left)) {parens : Nat}
    (hnone : fromFirstWord parens noise = []) :
    Steps (facing tokens (noise ++ left) opened callers (.seek parens))
      (facing tokens left opened callers (.seek (noise.foldl parensBehind parens))) := by
  induction noise generalizing parens with
  | nil => exact .refl
  | cons t noise ih =>
      have hopen : ¬ OpenWordAt parens (t :: noise) 0 := by
        intro hopen
        obtain ⟨⟨text, htext⟩, rfl⟩ := openWordAt_zero.mp hopen
        rw [fromFirstWord_of_open htext] at hnone
        cases hnone
      have hword : (t.isWord && decide (parens = 0)) = false := by
        rw [openWordAt_zero, ← Token.isWord_iff] at hopen
        simpa using hopen
      rw [fromFirstWord_of_not_open hopen] at hnone
      have hstep := step_seek_cons opened callers h parens
      rw [hword] at hstep
      exact (steps_of_step hstep).trans (ih h.tail hnone)

/-- The cursor makes one reading and is ready for the next one. -/
def Reads (c : Cursor) (outcome : Except Complaint TypeTree) (c' : Cursor) : Prop :=
  ∃ last, Steps c last ∧ last.step = some (.over outcome) ∧ c' = last.again

/-- The cursor makes one reading after another. -/
inductive ReadsAll (c : Cursor) : List (Except Complaint TypeTree) → Cursor → Prop
  | none : ReadsAll c [] c
  | snoc {outcomes : List (Except Complaint TypeTree)} {outcome : Except Complaint TypeTree}
      {c' c'' : Cursor} (h : ReadsAll c outcomes c') (hread : Reads c' outcome c'') :
      ReadsAll c (outcomes ++ [outcome]) c''

theorem rightUnique_step : Relator.RightUnique fun c c' : Cursor => c.step = some (.next c') := by
  intro c c' c'' h h'
  rw [h] at h'
  cases h'
  rfl

theorem Steps.eq_of_over {c c' : Cursor} {outcome : Except Complaint TypeTree} (h : Steps c c')
    (hover : c.step = some (.over outcome)) : c' = c := by
  cases h.cases_head with
  | inl heq => exact heq.symm
  | inr hnext =>
      obtain ⟨_, hstep, -⟩ := hnext
      rw [hover] at hstep
      cases hstep

theorem Reads.unique {c c' c'' : Cursor} {outcome outcome' : Except Complaint TypeTree}
    (h : Reads c outcome c') (h' : Reads c outcome' c'') : outcome = outcome' ∧ c' = c'' := by
  obtain ⟨last, hsteps, hover, rfl⟩ := h
  obtain ⟨last', hsteps', hover', rfl⟩ := h'
  have hlast : last = last' := by
    rcases hsteps.total_of_right_unique rightUnique_step hsteps' with hfurther | hfurther
    · exact (Steps.eq_of_over hfurther hover).symm
    · exact Steps.eq_of_over hfurther hover'
  subst hlast
  rw [hover] at hover'
  cases hover'
  exact ⟨rfl, rfl⟩

variable {s : Session}

theorem start_of_inBounds (h : s.InBounds) : start s = facing s.tokens s.ahead 0 [] (.seek 0) := by
  have hlength := h.ahead.2
  simp only [start, facing, mk.injEq, true_and, and_true]
  omega

/-- A cursor makes the reading that the session makes, and ends where the session does. -/
theorem reads_next (h : s.InBounds) : Reads (start s) s.next.1 (start s.next.2) := by
  have hahead := h.ahead.1
  rw [start_of_inBounds h, start_of_inBounds h.next]
  rcases h.next_cases with
    ⟨hnone, hnil, hnext⟩ | ⟨noise, name, text, passed, hsplit, hnoise, hname, hread, -⟩
  · rw [← s.ahead.append_nil] at hahead ⊢
    rw [hnil]
    refine ⟨_, steps_seek 0 [] hahead hnone, ?_, rfl⟩
    rw [hnext]
    exact step_seek_nil 0 [] ⟨h.closed, List.nil_suffix⟩ _
  · rw [hsplit] at hahead ⊢
    have hfirst : Ahead s.tokens (name :: (passed ++ s.next.2.ahead)) :=
      ⟨h.closed, (List.suffix_append _ _).trans hahead.suffix⟩
    have hword : name.isWord = true := Token.isWord_iff.mpr ⟨text, hname⟩
    have hseek := steps_seek 0 [] hahead hnoise.noWord
    have hbegin := step_seek_cons 0 [] hfirst 0
    have htype := steps_readType 0 [] hfirst
    rw [hnoise.balanced] at hseek
    rw [if_pos (by simp [hword])] at hbegin
    rw [show (firstEnd s.tokens).span = s.stop from rfl, hread] at htype
    exact ⟨_, (hseek.trans (steps_of_step hbegin)).trans htype, step_answer_nil 0 _, rfl⟩

/-- What a cursor reads, and where it is then, is determined by where it begins. -/
theorem reads_iff (h : s.InBounds) {outcome : Except Complaint TypeTree} {c : Cursor} :
    Reads (start s) outcome c ↔ outcome = s.next.1 ∧ c = start s.next.2 := by
  constructor
  · exact fun hread => hread.unique (reads_next h)
  · rintro ⟨rfl, rfl⟩
    exact reads_next h

theorem readsAll_run (h : s.InBounds) (n : Nat) :
    ReadsAll (start s) (s.run n).1 (start (s.run n).2) := by
  induction n with
  | zero => exact .none
  | succ n ih =>
      rw [Session.run_succ]
      exact .snoc ih (reads_next (h.run n).1)

theorem eq_run_of_readsAll (h : s.InBounds) {outcomes : List (Except Complaint TypeTree)}
    {c : Cursor} (hreads : ReadsAll (start s) outcomes c) :
    outcomes = (s.run outcomes.length).1 ∧ c = start (s.run outcomes.length).2 := by
  induction hreads with
  | none => exact ⟨rfl, rfl⟩
  | @snoc outcomes outcome c c' _ hread ih =>
      obtain ⟨houtcomes, rfl⟩ := ih
      obtain ⟨rfl, rfl⟩ := (reads_iff (h.run outcomes.length).1).mp hread
      rw [List.length_append, List.length_singleton, Session.run_succ, ← houtcomes]
      exact ⟨rfl, rfl⟩

end Cursor

end WorkflowParams.Declaration
