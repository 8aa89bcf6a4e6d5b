import WorkflowParams.Json.Fault

/-!
Readers make progress: what is left behind a value is shorter than the text that the value begins.
A reader that goes on with what another has left over takes it together with this fact.
-/

namespace WorkflowParams.Json

/-- A mapped reading succeeds only where the reading itself does. -/
theorem exists_of_map_eq_ok {ε α β : Type} {f : α → β} {x : Except ε α} {b : β}
    (h : x.map f = .ok b) : ∃ a, x = .ok a ∧ f a = b := by
  cases x with
  | error _ => simp [Except.map] at h
  | ok a => exact ⟨a, rfl, by simpa [Except.map] using h⟩

abbrev Shorter (cs : List Char) := { rest : List Char // rest.length < cs.length }

/-- A reading from `cs`, its rest taken together with the fact that it is shorter. -/
def advancing {α : Type} {cs : List Char} (reading : Except Fault (α × List Char))
    (h : ∀ a rest, reading = .ok (a, rest) → rest.length < cs.length) :
    Except Fault (α × Shorter cs) :=
  match reading, h with
  | .ok (a, rest), h => .ok (a, ⟨rest, h a rest rfl⟩)
  | .error fault, _ => .error fault

theorem advancing_of_ok {α : Type} {cs rest : List Char} {a : α}
    {reading : Except Fault (α × List Char)} (hreading : reading = .ok (a, rest))
    (h : ∀ a rest, reading = .ok (a, rest) → rest.length < cs.length) :
    advancing reading h = .ok (a, ⟨rest, h a rest hreading⟩) := by
  subst hreading
  rfl

def isSpace (c : Char) : Bool := c = ' ' || c = '\t' || c = '\n' || c = '\r'

def skipSpace (cs : List Char) : List Char := cs.dropWhile isSpace

theorem length_skipSpace_le (cs : List Char) : (skipSpace cs).length ≤ cs.length :=
  (List.dropWhile_suffix isSpace).length_le

theorem length_lt_of_skipSpace {cs rest : List Char} {c : Char}
    (h : skipSpace cs = c :: rest) : rest.length < cs.length := by
  have := length_skipSpace_le cs
  rw [h] at this
  exact this

/-- The text behind the white space, which is no longer than with it. -/
def pastSpace (cs : List Char) : { rest : List Char // rest.length ≤ cs.length } :=
  ⟨skipSpace cs, length_skipSpace_le cs⟩

theorem pastSpace_eq {cs rest : List Char} (h : skipSpace cs = rest) :
    pastSpace cs = ⟨rest, h ▸ length_skipSpace_le cs⟩ := by
  subst h
  rfl

end WorkflowParams.Json
