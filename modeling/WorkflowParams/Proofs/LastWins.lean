import Mathlib.Data.List.Induction
import WorkflowParams.Keyed

/-!
What a keyed collection holds of the pairs that it was made from: each name once, where it first
stands, with the value that it was given last. Nothing else is of these names and values, so this
says everything about the collection.
-/

namespace WorkflowParams.Keyed

variable {α : Type}

/-- The entries name what the pairs name, each name once and in the order of first occurrences, and
a name has among the entries the value of the last pair with that name. -/
structure LastWins (pairs entries : List (String × α)) : Prop where
  names : entries.map Prod.fst = (pairs.map Prod.fst).eraseDups
  values : ∀ name, entries.lookup name = pairs.reverse.lookup name

theorem lookup_pair_cons (name : String) (value : α) (entries : List (String × α))
    (other : String) :
    ((name, value) :: entries).lookup other =
      if other = name then some value else entries.lookup other := by
  rw [List.lookup_cons]
  by_cases h : other = name
  · simp [h]
  · rw [beq_false_of_ne h, if_neg h]

theorem lookup_of_not_mem {name : String} {entries : List (String × α)}
    (h : name ∉ entries.map Prod.fst) : entries.lookup name = none := by
  rw [List.lookup_eq_none_iff]
  intro entry hentry
  rw [bne_iff_ne]
  rintro rfl
  exact h (List.mem_map_of_mem hentry)

theorem eq_of_lookup_eq {entries entries' : List (String × α)}
    (hnames : entries.map Prod.fst = entries'.map Prod.fst)
    (hnodup : (entries.map Prod.fst).Nodup)
    (h : ∀ name, entries.lookup name = entries'.lookup name) : entries = entries' := by
  induction entries generalizing entries' with
  | nil => exact (List.map_eq_nil_iff.mp hnames.symm).symm
  | cons entry entries ih =>
      obtain ⟨entry', rest, rfl, hname, hrest⟩ := List.map_eq_cons_iff.mp hnames.symm
      obtain ⟨name, value⟩ := entry
      obtain ⟨name', value'⟩ := entry'
      obtain rfl : name' = name := hname
      rw [List.map_cons, List.nodup_cons] at hnodup
      have hvalue := h name'
      rw [lookup_pair_cons, lookup_pair_cons, if_pos rfl, if_pos rfl] at hvalue
      obtain rfl := Option.some.inj hvalue
      rw [ih hrest.symm hnodup.2]
      intro other
      have hother := h other
      rw [lookup_pair_cons, lookup_pair_cons] at hother
      by_cases heq : other = name'
      · rw [heq, lookup_of_not_mem hnodup.1, lookup_of_not_mem (hrest ▸ hnodup.1)]
      · rwa [if_neg heq, if_neg heq] at hother

theorem lookup_put (name : String) (value : α) (entries : List (String × α)) (other : String) :
    (put name value entries).lookup other =
      if other = name then some value else entries.lookup other := by
  induction entries with
  | nil => exact lookup_pair_cons name value [] other
  | cons entry entries ih =>
      obtain ⟨present, old⟩ := entry
      by_cases hpresent : present = name
      · subst hpresent
        rw [put, if_pos rfl, lookup_pair_cons, lookup_pair_cons]
        by_cases h : other = present <;> simp only [h, if_true, if_false]
      · rw [put, if_neg hpresent, lookup_pair_cons, lookup_pair_cons, ih]
        by_cases h : other = present
        · rw [if_pos h, if_pos h, if_neg (h ▸ hpresent)]
        · rw [if_neg h, if_neg h]

theorem put_of_not_mem {name : String} {entries : List (String × α)} (value : α)
    (h : name ∉ entries.map Prod.fst) : put name value entries = entries ++ [(name, value)] := by
  induction entries with
  | nil => rfl
  | cons entry entries ih =>
      rw [List.map_cons, List.mem_cons, not_or] at h
      rw [put, if_neg (Ne.symm h.1), ih h.2, List.cons_append]

theorem LastWins.eq {pairs entries entries' : List (String × α)} (h : LastWins pairs entries)
    (h' : LastWins pairs entries') (hnodup : (entries.map Prod.fst).Nodup) : entries = entries' :=
  eq_of_lookup_eq (h.names.trans h'.names.symm) hnodup fun name =>
    (h.values name).trans (h'.values name).symm

theorem lastWins_nil : LastWins (α := α) [] [] := ⟨rfl, fun _ => rfl⟩

/-- One more pair. -/
theorem LastWins.put {pairs entries : List (String × α)} (h : LastWins pairs entries)
    (name : String) (value : α) :
    LastWins (pairs ++ [(name, value)]) (Keyed.put name value entries) where
  names := by
    have hmem : name ∈ entries.map Prod.fst ↔ name ∈ pairs.map Prod.fst := by
      rw [h.names, List.mem_eraseDups]
    rw [map_fst_put, List.map_append, List.eraseDups_append, ← h.names]
    by_cases hname : name ∈ pairs.map Prod.fst
    · rw [if_pos (hmem.mpr hname)]
      simp [List.removeAll, hname]
    · rw [if_neg (mt hmem.mp hname)]
      simp [List.removeAll, hname, List.eraseDups_cons]
  values := by
    intro other
    rw [lookup_put, h.values, List.reverse_append, List.reverse_singleton, List.singleton_append,
      lookup_pair_cons]

theorem entries_ofList_append (pairs : List (String × α)) (name : String) (value : α) :
    (ofList (pairs ++ [(name, value)])).entries = put name value (ofList pairs).entries := by
  rw [ofList, List.foldl_append]
  rfl

theorem lastWins_ofList (pairs : List (String × α)) : LastWins pairs (ofList pairs).entries := by
  induction pairs using List.reverseRecOn with
  | nil => exact lastWins_nil
  | append_singleton pairs pair ih =>
      rw [entries_ofList_append]
      exact ih.put pair.1 pair.2

/-- Pairs with distinct names are the entries themselves. -/
theorem entries_ofList_of_nodup {pairs : List (String × α)} (h : (pairs.map Prod.fst).Nodup) :
    (ofList pairs).entries = pairs := by
  induction pairs using List.reverseRecOn with
  | nil => rfl
  | append_singleton pairs pair ih =>
      rw [List.map_append, List.nodup_append] at h
      obtain ⟨hpairs, -, hdisjoint⟩ := h
      rw [entries_ofList_append, ih hpairs, put_of_not_mem]
      intro hmem
      exact hdisjoint pair.1 hmem pair.1 (by simp) rfl

end WorkflowParams.Keyed
