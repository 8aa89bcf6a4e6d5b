import WorkflowParams.Text.RangeTable

/-!
White space as Unicode has it (the property White_Space): the ASCII blanks and line ends, the
no-break spaces and the typographic spaces. The zero-width characters are not among them.
-/

namespace WorkflowParams.Text

def blankRanges : RangeTable :=
  [(0x9, 0xD), (0x20, 0x20), (0x85, 0x85), (0xA0, 0xA0), (0x1680, 0x1680), (0x2000, 0x200A),
   (0x2028, 0x2029), (0x202F, 0x202F), (0x205F, 0x205F), (0x3000, 0x3000)]

def isBlank (c : Char) : Bool := blankRanges.contains c.toNat

/-- There are no blanks between the space and the next control character. -/
theorem toNat_of_isBlank {c : Char} (h : isBlank c = true) : c.toNat ≤ 32 ∨ 133 ≤ c.toNat := by
  have hranges : ∀ range ∈ blankRanges, range.2 ≤ 32 ∨ 133 ≤ range.1 := by decide
  obtain ⟨range, hrange, hlow, hhigh⟩ := RangeTable.exists_range_of_contains h
  have := hranges range hrange
  omega

end WorkflowParams.Text
