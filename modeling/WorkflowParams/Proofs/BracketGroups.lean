import Mathlib.Data.List.Infix
import WorkflowParams.Declaration.Annotation
import WorkflowParams.Declaration.Session

/-!
What the scan of the tokens passes over. No word counts while a bracket is open, and behind a group
of balanced brackets as many are open as in front of it, so the scan goes on as if the group were
not there. This asks nothing of the tokens around the group, which may close brackets that were
never opened.
-/

namespace WorkflowParams.Declaration

/-- The number of open brackets behind a token. One that closes without having been opened is passed
over. -/
def bracketsBehind (depth : Nat) (token : Token) : Nat :=
  match token.lexeme with
  | .leftBracket => depth + 1
  | .rightBracket => depth - 1
  | _ => depth

theorem marksOptional_cons (depth : Nat) (token : Token) (rest : List Token) :
    marksOptional depth (token :: rest) =
      (depth = 0 && token.lexeme = .word optionalWord ||
        marksOptional (bracketsBehind depth token) rest) := by
  rw [marksOptional, bracketsBehind]
  cases token.lexeme <;> simp

theorem marksOptional_append (depth : Nat) (xs ys : List Token) :
    marksOptional depth (xs ++ ys) =
      (marksOptional depth xs || marksOptional (xs.foldl bracketsBehind depth) ys) := by
  induction xs generalizing depth with
  | nil => rfl
  | cons token xs ih =>
      rw [List.cons_append, List.foldl_cons, marksOptional_cons, marksOptional_cons, ih,
        Bool.or_assoc]

/-! Groups of brackets. -/

def openingCount (tokens : List Token) : Nat := tokens.countP (·.lexeme = .leftBracket)

def closingCount (tokens : List Token) : Nat := tokens.countP (·.lexeme = .rightBracket)

theorem openingCount_cons (token : Token) (tokens : List Token) :
    openingCount (token :: tokens) = openingCount [token] + openingCount tokens := by
  simp only [openingCount, ← List.countP_append, List.singleton_append]

theorem closingCount_cons (token : Token) (tokens : List Token) :
    closingCount (token :: tokens) = closingCount [token] + closingCount tokens := by
  simp only [closingCount, ← List.countP_append, List.singleton_append]

/-- No bracket among the tokens closes before it is opened, and none is left open. -/
structure BracketsBalanced (tokens : List Token) : Prop where
  closingCount_le : ∀ before, before <+: tokens → closingCount before ≤ openingCount before
  closingCount_eq : closingCount tokens = openingCount tokens

theorem bracketsBalanced_iff {tokens : List Token} :
    BracketsBalanced tokens ↔
      (∀ before ∈ tokens.inits, closingCount before ≤ openingCount before) ∧
        closingCount tokens = openingCount tokens := by
  simp only [List.mem_inits]
  exact ⟨fun h => ⟨h.closingCount_le, h.closingCount_eq⟩, fun h => ⟨h.1, h.2⟩⟩

instance (tokens : List Token) : Decidable (BracketsBalanced tokens) :=
  decidable_of_iff _ bracketsBalanced_iff.symm

theorem bracketsBehind_succ {depth : Nat} {token : Token}
    (h : closingCount [token] ≤ depth + openingCount [token]) :
    bracketsBehind (depth + 1) token = depth + openingCount [token] - closingCount [token] + 1 := by
  rw [bracketsBehind]
  cases hlexeme : token.lexeme <;>
    simp [openingCount, closingCount, hlexeme] at h ⊢
  omega

/-- Inside an open bracket tokens are passed whatever words are among them, as long as they leave it
open. -/
theorem marksOptional_within {depth : Nat} {group : List Token}
    (h : ∀ before, before <+: group → closingCount before ≤ depth + openingCount before)
    (rest : List Token) :
    marksOptional (depth + 1) (group ++ rest) =
      marksOptional (depth + openingCount group - closingCount group + 1) rest := by
  induction group generalizing depth with
  | nil => rfl
  | cons token group ih =>
      have hfirst : closingCount [token] ≤ depth + openingCount [token] :=
        h [token] (List.cons_prefix_cons.mpr ⟨rfl, List.nil_prefix⟩)
      have hbehind : ∀ before, before <+: group → closingCount before ≤
          depth + openingCount [token] - closingCount [token] + openingCount before := by
        intro before hbefore
        have hle := h (token :: before) (List.cons_prefix_cons.mpr ⟨rfl, hbefore⟩)
        rw [openingCount_cons, closingCount_cons] at hle
        omega
      have hdepth : depth + openingCount [token] - closingCount [token] + openingCount group -
          closingCount group = depth + (openingCount [token] + openingCount group) -
            (closingCount [token] + closingCount group) := by
        omega
      rw [List.cons_append, marksOptional_cons, bracketsBehind_succ hfirst, ih hbehind, hdepth,
        openingCount_cons token group, closingCount_cons token group]
      rfl

theorem marksOptional_group (depth : Nat) {opening closing : Token} {group : List Token}
    (hopening : opening.lexeme = .leftBracket) (hgroup : BracketsBalanced group)
    (hclosing : closing.lexeme = .rightBracket) (rest : List Token) :
    marksOptional depth (opening :: (group ++ closing :: rest)) = marksOptional depth rest := by
  have hwithin : ∀ before, before <+: group →
      closingCount before ≤ depth + openingCount before := fun before hbefore =>
    Nat.le_add_left_of_le (hgroup.closingCount_le before hbefore)
  calc marksOptional depth (opening :: (group ++ closing :: rest))
      = marksOptional (depth + 1) (group ++ closing :: rest) := by
        simp [marksOptional, hopening]
    _ = marksOptional (depth + 1) (closing :: rest) := by
        rw [marksOptional_within hwithin, hgroup.closingCount_eq, Nat.add_sub_cancel]
    _ = marksOptional depth rest := by
        simp [marksOptional, hclosing]

/-! Single tokens. -/

theorem marksOptional_other (depth : Nat) {token : Token} (hopening : token.lexeme ≠ .leftBracket)
    (hclosing : token.lexeme ≠ .rightBracket) (hword : token.lexeme ≠ .word optionalWord)
    (rest : List Token) : marksOptional depth (token :: rest) = marksOptional depth rest := by
  have hdepth : bracketsBehind depth token = depth := by
    rw [bracketsBehind]
    split
    · exact absurd ‹_› hopening
    · exact absurd ‹_› hclosing
    · rfl
  simp [marksOptional_cons, hword, hdepth]

/-- A session adds no more to its tokens than an end mark. -/
theorem marksOptional_closed (depth : Nat) (tokens : List Token) :
    marksOptional depth (closed tokens) = marksOptional depth tokens := by
  rw [closed]
  split
  · rfl
  · simp [marksOptional_append, marksOptional, closing, Token.endAt]

/-- The scan of the tokens answers as if a bracket group were not there, whatever words it holds, and
as if a token were not there that is neither a bracket nor the word. The tokens in front and behind
need not be balanced. The end mark of a session makes no difference to the answer. -/
theorem marksOptional_passesOver (depth : Nat) (front behind : List Token) :
    (∀ opening group closing, opening.lexeme = .leftBracket → BracketsBalanced group →
      closing.lexeme = .rightBracket →
      marksOptional depth (front ++ opening :: (group ++ closing :: behind)) =
        marksOptional depth (front ++ behind)) ∧
    (∀ token, token.lexeme ≠ .leftBracket → token.lexeme ≠ .rightBracket →
      token.lexeme ≠ .word optionalWord →
      marksOptional depth (front ++ token :: behind) = marksOptional depth (front ++ behind)) ∧
    ∀ tokens, marksOptional depth (Session.ofTokens tokens).tokens =
      marksOptional depth tokens := by
  refine ⟨?_, ?_, marksOptional_closed depth⟩
  · intro opening group closing hopening hgroup hclosing
    rw [marksOptional_append, marksOptional_append, marksOptional_group _ hopening hgroup hclosing]
  · intro token hopening hclosing hword
    rw [marksOptional_append, marksOptional_append, marksOptional_other _ hopening hclosing hword]

/-- A group that holds the word, and a question mark, between brackets that were never opened. -/
theorem marksOptional_passesOver_between_strays :
    let token (lexeme : Lexeme) : Token := ⟨lexeme, 1, 1⟩
    let group := [token (.word optionalWord), token .leftBracket, token .rightBracket]
    let front := [token .rightBracket, token (.word "Int")]
    let behind := [token .rightBracket, token (.word optionalWord)]
    BracketsBalanced group ∧ marksOptional 0 (front ++ behind) = true ∧
      marksOptional 0 (front ++ token .leftBracket :: (group ++ token .rightBracket :: behind)) =
        true ∧
      marksOptional 0 (front ++ token .question :: behind) = true := by
  intro token group front behind
  have hgroup : BracketsBalanced group := by decide
  have hmark : marksOptional 0 (front ++ behind) = true := by decide
  obtain ⟨hpasses, hpasses', -⟩ := marksOptional_passesOver 0 front behind
  refine ⟨hgroup, hmark, ?_, ?_⟩
  · rw [hpasses (token .leftBracket) group (token .rightBracket) rfl hgroup rfl, hmark]
  · rw [hpasses' (token .question) (by decide) (by decide) (by decide), hmark]

end WorkflowParams.Declaration
