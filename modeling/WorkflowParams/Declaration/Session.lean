import WorkflowParams.Declaration.TypeReader

/-!
Reading one type after another from a list of tokens. A session goes on where the last reading
ended, whether that found a type or a complaint, and never passes the first end mark.
-/

namespace WorkflowParams.Declaration

def Token.isEnd (t : Token) : Bool := t.lexeme = .endMark

/-- The end mark behind a list of tokens that has none of its own. -/
def closing (tokens : List Token) : Token :=
  .endAt (match tokens.getLast? with
    | some last => last.endColumn + 1
    | none => 1)

/-- The tokens with an end mark as the last of them. -/
def closed (tokens : List Token) : List Token :=
  if tokens.getLast?.any Token.isEnd then tokens else tokens ++ [closing tokens]

structure Session where
  tokens : List Token
  position : Nat
  deriving DecidableEq, Repr

namespace Session

def ofTokens (tokens : List Token) : Session := ⟨closed tokens, 0⟩

/-- The tokens between the position and the first end mark. -/
def ahead (s : Session) : List Token :=
  (s.tokens.drop s.position).takeWhile (!·.isEnd)

/-- The columns of the first end mark. -/
def stop (s : Session) : Span :=
  ((s.tokens.find? Token.isEnd).getD (closing s.tokens)).span

/-- Reads the next type, and moves past the tokens that this took. -/
def next (s : Session) : Except Complaint TypeTree × Session :=
  match readFirstType s.stop s.ahead with
  | (outcome, left) => (outcome, { s with position := s.position + (s.ahead.length - left.length) })

/-- The outcomes of as many readings as are asked for. -/
def run : Nat → Session → List (Except Complaint TypeTree) × Session
  | 0, s => ([], s)
  | n + 1, s =>
    match s.next with
    | (outcome, s) =>
      match run n s with
      | (outcomes, s) => (outcome :: outcomes, s)

end Session

end WorkflowParams.Declaration
