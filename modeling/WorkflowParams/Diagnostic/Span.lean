/-!
Ranges of columns in a one-line text. Both ends belong to the range, so no range is empty.
-/

namespace WorkflowParams

structure Span where
  start : Nat
  stop : Nat
  start_le_stop : start ≤ stop := by omega
  deriving DecidableEq, Repr

namespace Span

/-- From one column to another; a range that would end before it starts ends there. -/
def ofColumns (start stop : Nat) : Span := ⟨start, max stop start, Nat.le_max_right _ _⟩

def single (column : Nat) : Span := ⟨column, column, Nat.le_refl _⟩

def width (s : Span) : Nat := s.stop - s.start + 1

def describe (s : Span) : String :=
  if s.start = s.stop then "column " ++ toString s.start
  else "columns " ++ toString s.start ++ "-" ++ toString s.stop

@[simp] theorem ofColumns_self (column : Nat) : ofColumns column column = single column := by
  simp [ofColumns, single]

end Span

end WorkflowParams
