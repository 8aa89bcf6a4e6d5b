/-!
Sets of code points, held as inclusive ranges in ascending order. A look-up walks the ranges and
stops at the first one that begins after the code point, so ASCII is settled at the front of
every table.
-/

namespace WorkflowParams.Text

abbrev RangeTable := List (Nat × Nat)

namespace RangeTable

def contains : RangeTable → Nat → Bool
  | [], _ => false
  | (low, high) :: ranges, n => low ≤ n && (n ≤ high || contains ranges n)

theorem exists_range_of_contains {table : RangeTable} {n : Nat} (h : table.contains n = true) :
    ∃ range ∈ table, range.1 ≤ n ∧ n ≤ range.2 := by
  induction table with
  | nil => simp [contains] at h
  | cons range ranges ih =>
      simp only [contains, Bool.and_eq_true, Bool.or_eq_true, decide_eq_true_eq] at h
      rcases h with ⟨hlow, hhigh | hrest⟩
      · exact ⟨range, List.mem_cons_self, hlow, hhigh⟩
      · obtain ⟨found, hmem, hbounds⟩ := ih hrest
        exact ⟨found, List.mem_cons_of_mem _ hmem, hbounds⟩

/-- No range of one table meets a range of the other. -/
def apart (table other : RangeTable) : Bool :=
  table.all fun range => other.all fun range' => range.2 < range'.1 || range'.2 < range.1

theorem contains_eq_false_of_apart {table other : RangeTable} (h : table.apart other = true)
    {n : Nat} (hn : table.contains n = true) : other.contains n = false := by
  apply eq_false_of_ne_true
  intro hother
  obtain ⟨range, hrange, hlow, hhigh⟩ := exists_range_of_contains hn
  obtain ⟨range', hrange', hlow', hhigh'⟩ := exists_range_of_contains hother
  have hapart := List.all_eq_true.mp (List.all_eq_true.mp h range hrange) range' hrange'
  simp only [Bool.or_eq_true, decide_eq_true_eq] at hapart
  omega

end RangeTable

end WorkflowParams.Text
