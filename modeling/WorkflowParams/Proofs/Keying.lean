import WorkflowParams.Document
import WorkflowParams.Proofs.Batch
import WorkflowParams.Proofs.LastWins

/-!
Keying by name goes together with defining. A collection of declarations and the collection of their
definitions grow in step, so repeated names may be given up before the definitions are made or
after, with one result. A document has no names to give up: its list and its object hold the same
definitions in the same order.
-/

namespace WorkflowParams

open Json Declaration

namespace Keyed

variable {α β : Type}

theorem eq_of_entries {xs ys : Keyed α} (h : xs.entries = ys.entries) : xs = ys := by
  cases xs
  cases ys
  cases h
  rfl

/-- That two entries have one name and values that belong together under it. -/
def Alike (R : String → α → β → Prop) (x : String × α) (y : String × β) : Prop :=
  x.1 = y.1 ∧ R x.1 x.2 y.2

variable {R : String → α → β → Prop} {xs : List (String × α)} {ys : List (String × β)}

/-- One more pair on each side. -/
theorem forall₂_put (h : List.Forall₂ (Alike R) xs ys) {name : String} {a : α} {b : β}
    (hpair : R name a b) : List.Forall₂ (Alike R) (put name a xs) (put name b ys) := by
  induction h with
  | nil => exact .cons ⟨rfl, hpair⟩ .nil
  | @cons x y xs ys hfirst hrest ih =>
      obtain ⟨present, old⟩ := x
      obtain ⟨present', old'⟩ := y
      obtain rfl : present = present' := hfirst.1
      by_cases hname : present = name
      · rw [put, put, if_pos hname, if_pos hname]
        exact .cons ⟨rfl, hpair⟩ hrest
      · rw [put, put, if_neg hname, if_neg hname]
        exact .cons hfirst ih

/-- Collections that are in step stay so when they take in pairs in step. -/
theorem forall₂_foldl_insert (h : List.Forall₂ (Alike R) xs ys) {c : Keyed α} {c' : Keyed β}
    (hc : List.Forall₂ (Alike R) c.entries c'.entries) :
    List.Forall₂ (Alike R) (xs.foldl (fun c pair => c.insert pair.1 pair.2) c).entries
      (ys.foldl (fun c pair => c.insert pair.1 pair.2) c').entries := by
  induction h generalizing c c' with
  | nil => exact hc
  | @cons x y xs ys hfirst _ ih =>
      obtain ⟨name, a⟩ := x
      obtain ⟨name', b⟩ := y
      obtain rfl : name = name' := hfirst.1
      exact ih (forall₂_put hc hfirst.2)

theorem forall₂_ofList (h : List.Forall₂ (Alike R) xs ys) :
    List.Forall₂ (Alike R) (ofList xs).entries (ofList ys).entries :=
  forall₂_foldl_insert h .nil

end Keyed

namespace Definition

variable {settings : Settings} {direction : Direction}

theorem name_of_build {name declaration : String} {d : Definition}
    (h : build settings direction name declaration = .ok d) : d.name = name := by
  rw [build] at h
  split at h
  · cases h
  · obtain rfl := Except.ok.inj h
    rfl

/-- The declarations and the definitions of a batch stay in step when they are keyed. -/
theorem forall₂_byName {entries : List (String × String)} {definitions : List Definition}
    (h : buildAll settings direction entries = .ok definitions) :
    List.Forall₂
      (Keyed.Alike fun name declaration d => build settings direction name declaration = .ok d)
      (Keyed.ofList entries).entries (byName definitions).entries := by
  refine Keyed.forall₂_ofList (List.forall₂_map_right_iff.mpr ?_)
  refine (buildAll_eq_ok_iff.mp h).imp ?_
  intro entry d hentry
  exact ⟨(name_of_build hentry).symm, hentry⟩

/-- The keyed definitions are those of the entries that keep each name once. -/
theorem buildAll_ofList {entries : List (String × String)} {definitions : List Definition}
    (h : buildAll settings direction entries = .ok definitions) :
    buildAll settings direction (Keyed.ofList entries).entries =
      .ok ((byName definitions).entries.map Prod.snd) := by
  refine buildAll_eq_ok_iff.mpr (List.forall₂_map_right_iff.mpr ?_)
  exact (forall₂_byName h).imp fun entry keyed halike => halike.2

theorem names_of_buildAll {entries : List (String × String)} {definitions : List Definition}
    (h : buildAll settings direction entries = .ok definitions) :
    definitions.map Definition.name = entries.map Prod.fst := by
  rw [← List.forall₂_eq_eq_eq, List.forall₂_map_left_iff, List.forall₂_map_right_iff]
  exact (buildAll_eq_ok_iff.mp h).flip.imp fun d entry hentry => name_of_build hentry

theorem name_of_mem_byName {definitions : List Definition} {entry : String × Definition}
    (h : entry ∈ (byName definitions).entries) : entry.2.name = entry.1 := by
  have hpairs : List.Forall₂ (Keyed.Alike fun name d _ => d.name = name)
      (definitions.map fun d => (d.name, d)) (definitions.map fun d => (d.name, d)) := by
    rw [List.forall₂_same]
    intro pair hpair
    obtain ⟨d, -, rfl⟩ := List.mem_map.mp hpair
    exact ⟨rfl, rfl⟩
  exact (List.forall₂_same.mp (Keyed.forall₂_ofList hpairs) entry h).2

theorem pairs_values_byName (definitions : List Definition) :
    ((byName definitions).entries.map Prod.snd).map (fun d => (d.name, d)) =
      (byName definitions).entries := by
  rw [List.map_map]
  refine (List.map_congr_left ?_).trans (List.map_id _)
  intro entry hentry
  exact Prod.ext (name_of_mem_byName hentry) rfl

/-- Definitions with distinct names are keyed one by one. -/
theorem entries_byName_of_nodup {definitions : List Definition}
    (h : (definitions.map Definition.name).Nodup) :
    (byName definitions).entries = definitions.map fun d => (d.name, d) :=
  Keyed.entries_ofList_of_nodup (by simpa [Function.comp_def] using h)

theorem byName_values (definitions : List Definition) :
    byName ((byName definitions).entries.map Prod.snd) = byName definitions := by
  apply Keyed.eq_of_entries
  rw [byName, pairs_values_byName, Keyed.entries_ofList_of_nodup (byName definitions).nodup]

/-- A batch with repeated names, keyed by name: each name once and in the order of first
occurrences, with a definition of that name. The entries that keep each name once, with its last
declaration, make up a batch with the same keyed definitions, and what is keyed stays as it is when
it is keyed again. A document with these entries lists the same definitions as its object holds. -/
theorem byName_buildAll {entries : List (String × String)} {definitions : List Definition}
    (h : buildAll settings direction entries = .ok definitions) :
    (byName definitions).entries.map Prod.fst = (entries.map Prod.fst).eraseDups ∧
    (∀ entry ∈ (byName definitions).entries, entry.2.name = entry.1) ∧
    (∃ kept built, Keyed.LastWins entries kept ∧ buildAll settings direction kept = .ok built ∧
      byName built = byName definitions) ∧
    byName ((byName definitions).entries.map Prod.snd) = byName definitions ∧
    ∀ document declarations, Document.read document = .ok declarations →
      declarations.entries = entries →
      Document.convert settings direction .list document =
        .ok (Value.array (definitions.map toJson)).pretty ∧
      Document.convert settings direction .map document =
        .ok (Value.object (definitions.map fun d => (d.name, d.toJson))).pretty := by
  refine ⟨?_, fun _ => name_of_mem_byName, ?_, byName_values definitions, ?_⟩
  · rw [byName, (Keyed.lastWins_ofList _).names, List.map_map, ← names_of_buildAll h]
    rfl
  · exact ⟨_, _, Keyed.lastWins_ofList entries, buildAll_ofList h, byName_values definitions⟩
  · rintro document declarations hread rfl
    have hnames : (definitions.map Definition.name).Nodup := by
      rw [names_of_buildAll h]
      exact declarations.nodup
    simp only [Document.convert, hread, h, Except.map, Document.write, Document.toJson,
      entries_byName_of_nodup hnames, List.map_map, Function.comp_def, and_self]

/-- The place is that of the first declaration, and the definition that of the last. -/
theorem byName_buildAll_of_repeated_name :
    ∃ definitions built,
      buildAll {} .input [("wf.b", "Int"), ("wf.a", "File"), ("wf.b", "Float (optional)")] =
        .ok definitions ∧
      buildAll {} .input [("wf.b", "Float (optional)"), ("wf.a", "File")] = .ok built ∧
      byName built = byName definitions ∧
      (byName definitions).entries.map Prod.fst = ["wf.b", "wf.a"] := by
  have hint : interpret {} "Int" = .ok (.primitive .int) := by decide +kernel
  have hfile : interpret {} "File" = .ok (.primitive .file) := by decide +kernel
  have hfloat : interpret {} "Float (optional)" = .ok (.optional (.primitive .float)) := by
    decide +kernel
  obtain ⟨definitions, h⟩ : ∃ definitions,
      buildAll {} .input [("wf.b", "Int"), ("wf.a", "File"), ("wf.b", "Float (optional)")] =
        .ok definitions :=
    exists_buildAll_eq_ok_iff.mpr (by simp [hint, hfile, hfloat])
  obtain ⟨hnames, -, ⟨kept, built, hkept, hbuilt, hkeyed⟩, -⟩ := byName_buildAll h
  have heq : [("wf.b", "Float (optional)"), ("wf.a", "File")] = kept := by
    refine Keyed.LastWins.eq ⟨by decide, ?_⟩ hkept (by decide)
    intro name
    by_cases hname : name = "wf.b" <;> simp [Keyed.lookup_pair_cons, hname]
  subst heq
  exact ⟨definitions, built, h, hbuilt, hkeyed, hnames.trans (by decide)⟩

end Definition

end WorkflowParams
