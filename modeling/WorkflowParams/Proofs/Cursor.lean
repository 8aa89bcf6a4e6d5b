import Mathlib.Logic.Relation
import WorkflowParams.Proofs.Session

/-!
Readings in single steps. A cursor goes over the tokens of a session by index. It counts the arrays
that are open and keeps the names of those whose elements it reads; both outlive a reading, so the
next one begins with what this one left. Every look at a token and every count downwards is checked:
a step answers nothing where an index would be out of bounds or a count below zero.
-/

namespace WorkflowParams.Declaration

/-- What a cursor is about to do. -/
inductive Task where
  /-- Look for a type name, with `parens` parentheses open. -/
  | seek (parens : Nat)
  /-- Begin a type at its name. -/
  | name
  | behindPrimitive (p : Primitive)
  | behindArrayName (name : Token)
  | behindOpening (name : Token)
  | behindElement (element : TypeTree)
  | behindClosing (element : TypeTree)
  /-- Go on behind all of a type but a question mark. -/
  | behindType (tree : TypeTree)
  /-- Return from a type to the array that it is the element of, or from the reading. -/
  | answer (outcome : Except Complaint TypeTree)

/-- What is to be done behind the name of a type. -/
def Task.behindName (name : Token) (text : String) : Task :=
  if text = arrayName then .behindArrayName name
  else
    match Primitive.ofName? text with
    | some p => .behindPrimitive p
    | none => .answer (.error (.unsupported text name.span))

structure Cursor where
  tokens : List Token
  position : Nat
  /-- The number of open arrays. -/
  opened : Nat
  /-- The names of the arrays whose elements are being read, the innermost first. -/
  callers : List Token
  task : Task

/-- What a step leads to: another step of the same reading, or its end. -/
inductive Progress where
  | next (c : Cursor)
  | over (outcome : Except Complaint TypeTree)

namespace Cursor

/-- At the beginning of a reading. -/
def start (s : Session) : Cursor := ⟨s.tokens, s.position, 0, [], .seek 0⟩

/-- The index of the last token. In an empty list it would be below zero. -/
def lastIndex? (c : Cursor) : Option Nat :=
  if c.tokens.length = 0 then none else some (c.tokens.length - 1)

/-- The token at the position, or the last one if the position is behind all of them. -/
def peek? (c : Cursor) : Option Token := do
  let last ← c.lastIndex?
  c.tokens[min c.position last]?

/-- The token before the position, or the first one if there is none before it. -/
def previous? (c : Cursor) : Option Token := c.tokens[c.position - 1]?

def moved (c : Cursor) : Cursor := { c with position := c.position + 1 }

/-- Moves past a token, but not past an end mark, and looks back at it. -/
def advance? (c : Cursor) : Option Cursor := do
  let t ← c.peek?
  let c := if t.isEnd then c else c.moved
  let _ ← c.previous?
  return c

def standsAt? (mark : Lexeme) (c : Cursor) : Option Bool := do
  let t ← c.peek?
  return !t.isEnd && t.lexeme = mark

/-- Moves past the given token if it comes next, and says whether it does. -/
def pass? (mark : Lexeme) (c : Cursor) : Option (Bool × Cursor) := do
  if ← c.standsAt? mark then return (true, ← c.advance?)
  else return (false, c)

def instead? (wanted : Expectation) (c : Cursor) : Option Complaint := do
  let t ← c.peek?
  return if t.isEnd then .ended wanted t.span else .unexpected wanted t.lexeme t.span

def goOn (c : Cursor) (task : Task) : Progress := .next { c with task := task }

/-- Counts an array as open and begins its element. -/
def enter (c : Cursor) (name : Token) : Progress :=
  .next { c with opened := c.opened + 1, callers := name :: c.callers, task := .name }

/-- Goes on in the innermost array with what has become of its element, or ends the reading. -/
def return? (c : Cursor) (outcome : Except Complaint TypeTree) : Option Progress :=
  match c.callers with
  | [] => some (.over outcome)
  | _ :: callers =>
    if c.opened = 0 then none
    else some <| goOn { c with opened := c.opened - 1, callers := callers } <|
      match outcome with
      | .ok element => .behindElement element
      | .error complaint => .answer (.error complaint)

def step (c : Cursor) : Option Progress :=
  match c.task with
  | .seek parens => do
    let t ← c.peek?
    if t.isEnd then return .over (.error .noType)
    else if t.isWord && parens = 0 then return c.goOn .name
    else return (← c.advance?).goOn (.seek (parensBehind parens t))
  | .name => do
    let t ← c.peek?
    match t.lexeme with
    | .word text => return (← c.advance?).goOn (.behindName t text)
    | _ => return c.goOn (.answer (.error (← c.instead? .typeName)))
  | .behindPrimitive p => do
    if ← c.standsAt? .leftBracket then
      return c.goOn (.answer (.error (.innerType p (← c.peek?).span)))
    else return c.goOn (.behindType (.primitive p))
  | .behindArrayName name => do
    let (found, c) ← c.pass? .leftBracket
    if found then return c.goOn (.behindOpening name)
    else return c.goOn (.answer (.error (.bareArray name.span)))
  | .behindOpening name => do
    if ← c.standsAt? .rightBracket then
      let brackets := Span.ofColumns (← c.previous?).column (← c.peek?).column
      return c.goOn (.answer (.error (.emptyBrackets brackets)))
    else if maxNesting ≤ c.opened then return c.goOn (.answer (.error (.tooDeep name.span)))
    else return c.enter name
  | .behindElement element => do
    let (found, c) ← c.pass? .rightBracket
    if found then return c.goOn (.behindClosing element)
    else return c.goOn (.answer (.error (← c.instead? .closingBracket)))
  | .behindClosing element => do
    let (nonEmpty, c) ← c.pass? .plus
    return c.goOn (.behindType (.array element nonEmpty))
  | .behindType tree => do
    let (_, c) ← c.pass? .question
    return c.goOn (.answer (.ok tree))
  | .answer outcome => c.return? outcome

/-- Begins the next reading where this one ended. -/
def again (c : Cursor) : Cursor := { c with task := .seek 0 }

/-- The number of types whose reading has begun and not ended, each within the one before it. -/
def nesting (c : Cursor) : Nat :=
  match c.task with
  | .seek _ => 0
  | _ => c.callers.length + 1

end Cursor

/-! What a cursor sees, told by the tokens ahead of it. -/

variable {tokens left rest : List Token} {t : Token}

theorem Ahead.tail (h : Ahead tokens (t :: rest)) : Ahead tokens rest :=
  ⟨h.closed, (List.suffix_cons t rest).trans h.suffix⟩

theorem skip_suffix (mark : Lexeme) (tokens : List Token) : skip mark tokens <:+ tokens := by
  unfold skip
  split
  · exact List.tail_suffix tokens
  · exact List.suffix_rfl

theorem Ahead.skip (h : Ahead tokens left) (mark : Lexeme) : Ahead tokens (skip mark left) :=
  ⟨h.closed, (skip_suffix mark left).trans h.suffix⟩

namespace Cursor

/-- A cursor in front of the tokens `left`. -/
def facing (tokens left : List Token) (opened : Nat) (callers : List Token) (task : Task) :
    Cursor :=
  ⟨tokens, tokens.findIdx Token.isEnd - left.length, opened, callers, task⟩

variable {opened : Nat} {callers : List Token} {task : Task}

@[simp] theorem task_facing : (facing tokens left opened callers task).task = task := rfl

@[simp] theorem opened_facing : (facing tokens left opened callers task).opened = opened := rfl

@[simp] theorem goOn_facing (task' : Task) : (facing tokens left opened callers task).goOn task' =
    .next (facing tokens left opened callers task') := rfl

@[simp] theorem enter_facing (name : Token) :
    (facing tokens left opened callers task).enter name =
      .next (facing tokens left (opened + 1) (name :: callers) .name) := rfl

theorem position_facing (h : Ahead tokens left) :
    tokens[(facing tokens left opened callers task).position]? =
        some (left.head?.getD (firstEnd tokens)) ∧
      (facing tokens left opened callers task).position < tokens.length := by
  obtain ⟨passed, behind, hsplit, hlength⟩ := h.exists_split
  have hposition : tokens.findIdx Token.isEnd - left.length = passed.length := by omega
  simp only [facing, hposition]
  generalize firstEnd tokens = mark at hsplit ⊢
  rw [hsplit]
  constructor
  · rw [List.getElem?_append_right (Nat.le_refl _), Nat.sub_self]
    cases left <;> rfl
  · simp only [List.length_append, List.length_cons]
    omega

theorem peek?_facing (h : Ahead tokens left) :
    (facing tokens left opened callers task).peek? =
      some (left.head?.getD (firstEnd tokens)) := by
  obtain ⟨htoken, hposition⟩ := @position_facing tokens left opened callers task h
  have hnonempty : tokens.length ≠ 0 := by omega
  have hlast : min (facing tokens left opened callers task).position (tokens.length - 1) =
      (facing tokens left opened callers task).position := by omega
  have hlastIndex : (facing tokens left opened callers task).lastIndex? =
      some (tokens.length - 1) := if_neg hnonempty
  rw [peek?, hlastIndex, Option.bind_eq_bind, Option.bind_some, hlast]
  exact htoken

theorem previous?_facing_of_cons (h : Ahead tokens (t :: rest)) :
    (facing tokens rest opened callers task).previous? = some t :=
  (@position_facing tokens (t :: rest) opened callers task h).1

theorem isSome_previous?_facing (h : Ahead tokens left) :
    (facing tokens left opened callers task).previous?.isSome = true := by
  have hposition := (@position_facing tokens left opened callers task h).2
  rw [previous?, isSome_getElem?]
  exact Nat.lt_of_le_of_lt (Nat.sub_le _ _) hposition

theorem moved_facing (h : Ahead tokens (t :: rest)) :
    (facing tokens (t :: rest) opened callers task).moved =
      facing tokens rest opened callers task := by
  obtain ⟨passed, behind, -, hlength⟩ := h.exists_split
  simp only [moved, facing, List.length_cons, mk.injEq, and_true, true_and] at hlength ⊢
  omega

theorem advance?_facing (h : Ahead tokens (t :: rest)) :
    (facing tokens (t :: rest) opened callers task).advance? =
      some (facing tokens rest opened callers task) := by
  simp [advance?, peek?_facing h, h.isEnd_of_mem List.mem_cons_self, moved_facing h,
    previous?_facing_of_cons h]

theorem standsAt?_facing (mark : Lexeme) (h : Ahead tokens left) :
    (facing tokens left opened callers task).standsAt? mark = some (startsWith mark left) := by
  rw [standsAt?, peek?_facing h]
  cases left with
  | nil => simp [startsWith, h.isEnd_firstEnd]
  | cons t rest => simp [startsWith, h.isEnd_of_mem List.mem_cons_self]

theorem pass?_facing (mark : Lexeme) (h : Ahead tokens left) :
    (facing tokens left opened callers task).pass? mark =
      some (startsWith mark left, facing tokens (skip mark left) opened callers task) := by
  rw [pass?, standsAt?_facing mark h]
  cases hstarts : startsWith mark left with
  | false => simp [skip, hstarts]
  | true =>
      obtain ⟨t, rest, rfl, -⟩ := exists_cons_of_startsWith hstarts
      simp [skip, hstarts, advance?_facing h]

theorem instead?_facing (wanted : Expectation) (h : Ahead tokens left) :
    (facing tokens left opened callers task).instead? wanted =
      some (.instead (firstEnd tokens).span wanted left) := by
  rw [instead?, peek?_facing h]
  cases left with
  | nil => simp [h.isEnd_firstEnd, Complaint.instead]
  | cons t rest => simp [h.isEnd_of_mem List.mem_cons_self, Complaint.instead]

/-! Steps. -/

variable (opened : Nat) (callers : List Token)

theorem step_seek_nil (h : Ahead tokens []) (parens : Nat) :
    (facing tokens [] opened callers (.seek parens)).step = some (.over (.error .noType)) := by
  simp [step, peek?_facing h, h.isEnd_firstEnd]

theorem step_seek_cons (h : Ahead tokens (t :: rest)) (parens : Nat) :
    (facing tokens (t :: rest) opened callers (.seek parens)).step = some (.next
      (if t.isWord && parens = 0 then facing tokens (t :: rest) opened callers .name
      else facing tokens rest opened callers (.seek (parensBehind parens t)))) := by
  simp only [step, task_facing, peek?_facing h, List.head?_cons, Option.getD_some,
    h.isEnd_of_mem List.mem_cons_self, advance?_facing h, Option.bind_eq_bind, Option.bind_some,
    Bool.false_eq_true, if_false]
  split <;> rfl

theorem step_name_of_word (h : Ahead tokens (t :: rest)) {text : String}
    (hword : t.lexeme = .word text) :
    (facing tokens (t :: rest) opened callers .name).step =
      some (.next (facing tokens rest opened callers (.behindName t text))) := by
  simp [step, peek?_facing h, hword, advance?_facing h]

theorem step_name_of_notName (h : Ahead tokens left)
    (hname : ∀ text, startsWith (.word text) left = false) :
    (facing tokens left opened callers .name).step = some (.next (facing tokens left opened callers
      (.answer (.error (.instead (firstEnd tokens).span .typeName left))))) := by
  have hnotWord : ∀ text, (left.head?.getD (firstEnd tokens)).lexeme ≠ .word text := by
    intro text hword
    cases left with
    | nil =>
        have hlexeme : (firstEnd tokens).lexeme = .endMark := of_decide_eq_true h.isEnd_firstEnd
        rw [List.head?_nil, Option.getD_none, hlexeme] at hword
        cases hword
    | cons t rest =>
        have hnot : t.lexeme ≠ .word text := by simpa [startsWith] using hname text
        exact hnot hword
  simp [step, peek?_facing h, instead?_facing .typeName h]

theorem step_behindPrimitive (h : Ahead tokens left) (p : Primitive) :
    (facing tokens left opened callers (.behindPrimitive p)).step = some (.next
      (facing tokens left opened callers
        (if startsWith .leftBracket left then
          .answer (.error (.innerType p (left.head?.getD (firstEnd tokens)).span))
        else .behindType (.primitive p)))) := by
  simp only [step, task_facing, standsAt?_facing _ h, peek?_facing h, Option.bind_eq_bind,
    Option.bind_some]
  split <;> rfl

theorem step_behindArrayName (h : Ahead tokens left) (name : Token) :
    (facing tokens left opened callers (.behindArrayName name)).step = some (.next
      (facing tokens (skip .leftBracket left) opened callers
        (if startsWith .leftBracket left then .behindOpening name
        else .answer (.error (.bareArray name.span))))) := by
  simp only [step, task_facing, pass?_facing _ h, Option.bind_eq_bind, Option.bind_some]
  split <;> rfl

theorem step_behindOpening (h : Ahead tokens left) (name : Token) {before : Token}
    (hbefore : (facing tokens left opened callers (.behindOpening name)).previous? = some before) :
    (facing tokens left opened callers (.behindOpening name)).step = some (.next
      (match emptyBrackets? before left with
      | some brackets =>
        facing tokens left opened callers (.answer (.error (.emptyBrackets brackets)))
      | none =>
        if maxNesting ≤ opened then
          facing tokens left opened callers (.answer (.error (.tooDeep name.span)))
        else facing tokens left (opened + 1) (name :: callers) .name)) := by
  simp only [step, task_facing, standsAt?_facing _ h, peek?_facing h, hbefore, Option.bind_eq_bind,
    Option.bind_some]
  cases hstarts : startsWith .rightBracket left with
  | true =>
    obtain ⟨t, rest, rfl, ht⟩ := exists_cons_of_startsWith hstarts
    simp [emptyBrackets?, ht]
  | false =>
    rw [emptyBrackets?_eq_none_iff.mpr hstarts]
    by_cases hfull : maxNesting ≤ opened
    · simp [hfull]
    · simp [hfull]

theorem step_behindElement (h : Ahead tokens left) (element : TypeTree) :
    (facing tokens left opened callers (.behindElement element)).step = some (.next
      (facing tokens (skip .rightBracket left) opened callers
        (if startsWith .rightBracket left then .behindClosing element
        else .answer (.error (.instead (firstEnd tokens).span .closingBracket left))))) := by
  simp only [step, task_facing, pass?_facing _ h, Option.bind_eq_bind, Option.bind_some]
  cases hstarts : startsWith .rightBracket left with
  | true => rfl
  | false => simp [skip, hstarts, instead?_facing _ h]

theorem step_behindClosing (h : Ahead tokens left) (element : TypeTree) :
    (facing tokens left opened callers (.behindClosing element)).step = some (.next
      (facing tokens (skip .plus left) opened callers
        (.behindType (.array element (startsWith .plus left))))) := by
  simp [step, pass?_facing _ h]

theorem step_behindType (h : Ahead tokens left) (tree : TypeTree) :
    (facing tokens left opened callers (.behindType tree)).step = some (.next
      (facing tokens (skip .question left) opened callers (.answer (.ok tree)))) := by
  simp [step, pass?_facing _ h]

theorem step_answer_nil (outcome : Except Complaint TypeTree) :
    (facing tokens left opened [] (.answer outcome)).step = some (.over outcome) := rfl

theorem step_answer_cons (name : Token) (outcome : Except Complaint TypeTree) :
    (facing tokens left (opened + 1) (name :: callers) (.answer outcome)).step = some (.next
      (facing tokens left opened callers
        (match outcome with
        | .ok element => .behindElement element
        | .error complaint => .answer (.error complaint)))) := rfl

end Cursor

end WorkflowParams.Declaration
