/-!
Collections keyed by name that keep the order in which names were first put in. Putting in a name
that is present replaces its value and leaves it in its place.
-/

namespace WorkflowParams

structure Keyed (α : Type) where
  entries : List (String × α)
  nodup : (entries.map Prod.fst).Nodup

namespace Keyed

variable {α : Type}

def empty : Keyed α := ⟨[], List.nodup_nil⟩

def put (name : String) (value : α) : List (String × α) → List (String × α)
  | [] => [(name, value)]
  | (other, present) :: entries =>
    if other = name then (name, value) :: entries
    else (other, present) :: put name value entries

theorem map_fst_put (name : String) (value : α) (entries : List (String × α)) :
    (put name value entries).map Prod.fst =
      if name ∈ entries.map Prod.fst then entries.map Prod.fst
      else entries.map Prod.fst ++ [name] := by
  induction entries with
  | nil => simp [put]
  | cons entry entries ih =>
      obtain ⟨other, present⟩ := entry
      by_cases h : other = name
      · simp [put, h]
      · simp only [put, h, if_false, List.map_cons, ih, List.mem_cons, Ne.symm h, false_or]
        split <;> simp

def insert (collection : Keyed α) (name : String) (value : α) : Keyed α where
  entries := put name value collection.entries
  nodup := by
    rw [map_fst_put]
    split
    · exact collection.nodup
    · rename_i h
      exact List.nodup_append.2 ⟨collection.nodup, by simp, by grind⟩

/-- Of the pairs with one name, the first gives the place and the last gives the value. -/
def ofList (pairs : List (String × α)) : Keyed α :=
  pairs.foldl (fun collection pair => collection.insert pair.1 pair.2) empty

end Keyed

end WorkflowParams
