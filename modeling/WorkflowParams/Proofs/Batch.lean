import Mathlib.Data.List.Forall2
import WorkflowParams.Definition

/-!
A batch is defined as a whole or not at all. It stops at the first entry whose declaration cannot be
read, with the diagnostic of that declaration and a note that names the parameter; no entry behind
this one matters. Batches in a row are therefore one batch.
-/

namespace WorkflowParams.Definition

open Json Declaration

variable {settings : Settings} {direction : Direction}

/-! One entry. -/

theorem exists_build_eq_ok_iff {name declaration : String} :
    (∃ d, build settings direction name declaration = .ok d) ↔
      ∃ tree, interpret settings declaration = .ok tree := by
  rw [build]
  cases interpret settings declaration <;> simp

theorem build_eq_error_iff {name declaration : String} {e : Diagnostic} :
    build settings direction name declaration = .error e ↔
      ∃ d, interpret settings declaration = .error d ∧
        e = { d with note := some ("while converting parameter '" ++ name ++ "'") } := by
  rw [build]
  cases interpret settings declaration with
  | ok tree => simp
  | error d => simpa [Diagnostic.withNote] using eq_comm

/-! One entry in front of a batch. -/

theorem buildAll_cons_of_ok {entry : String × String} {d : Definition}
    (h : build settings direction entry.1 entry.2 = .ok d) (entries : List (String × String)) :
    buildAll settings direction (entry :: entries) =
      (buildAll settings direction entries).map (d :: ·) := by
  simp only [buildAll, h]

theorem buildAll_cons_of_error {entry : String × String} {e : Diagnostic}
    (h : build settings direction entry.1 entry.2 = .error e) (entries : List (String × String)) :
    buildAll settings direction (entry :: entries) = .error e := by
  simp only [buildAll, h]

/-! Whole batches. -/

/-- A batch that is defined has one definition for each entry, in its place. -/
theorem buildAll_eq_ok_iff {entries : List (String × String)} {definitions : List Definition} :
    buildAll settings direction entries = .ok definitions ↔
      List.Forall₂ (fun entry d => build settings direction entry.1 entry.2 = .ok d)
        entries definitions := by
  induction entries generalizing definitions with
  | nil => simp [buildAll, eq_comm]
  | cons entry entries ih =>
      rw [List.forall₂_cons_left_iff]
      constructor
      · intro h
        cases hentry : build settings direction entry.1 entry.2 with
        | error e => simp [buildAll_cons_of_error hentry] at h
        | ok d =>
            rw [buildAll_cons_of_ok hentry] at h
            obtain ⟨behind, hbehind, rfl⟩ := exists_of_map_eq_ok h
            exact ⟨d, behind, rfl, ih.mp hbehind, rfl⟩
      · rintro ⟨d, behind, hentry, hbehind, rfl⟩
        rw [buildAll_cons_of_ok hentry, ih.mpr hbehind]
        rfl

/-- A batch that is not defined fails at one of its entries, and those before it can be read. -/
theorem buildAll_eq_error_iff {entries : List (String × String)} {e : Diagnostic} :
    buildAll settings direction entries = .error e ↔
      ∃ before entry behind, entries = before ++ entry :: behind ∧
        (∀ earlier ∈ before, ∃ tree, interpret settings earlier.2 = .ok tree) ∧
        build settings direction entry.1 entry.2 = .error e := by
  induction entries with
  | nil => simp [buildAll]
  | cons entry entries ih =>
      constructor
      · intro h
        cases hentry : build settings direction entry.1 entry.2 with
        | error e' =>
            rw [buildAll_cons_of_error hentry] at h
            obtain rfl := Except.error.inj h
            exact ⟨[], entry, entries, rfl, by simp, hentry⟩
        | ok d =>
            have hreads := exists_build_eq_ok_iff.mp ⟨d, hentry⟩
            rw [buildAll_cons_of_ok hentry] at h
            cases hentries : buildAll settings direction entries with
            | ok behind => simp [hentries, Except.map] at h
            | error e' =>
                rw [hentries] at h
                obtain rfl := Except.error.inj h
                obtain ⟨before, failing, behind, rfl, hbefore, hfailing⟩ := ih.mp hentries
                refine ⟨entry :: before, failing, behind, rfl, ?_, hfailing⟩
                exact List.forall_mem_cons.mpr ⟨hreads, hbefore⟩
      · rintro ⟨before, failing, behind, hsplit, hbefore, hfailing⟩
        cases before with
        | nil =>
            obtain ⟨rfl, rfl⟩ := List.cons.inj hsplit
            exact buildAll_cons_of_error hfailing _
        | cons earlier before =>
            obtain ⟨rfl, rfl⟩ := List.cons.inj hsplit
            obtain ⟨hreads, hbefore⟩ := List.forall_mem_cons.mp hbefore
            obtain ⟨d, hentry⟩ := exists_build_eq_ok_iff.mpr hreads
            have herror := ih.mpr ⟨before, failing, behind, rfl, hbefore, hfailing⟩
            rw [buildAll_cons_of_ok hentry, herror]
            rfl

theorem buildAll_append (xs ys : List (String × String)) :
    buildAll settings direction (xs ++ ys) =
      (buildAll settings direction xs).bind fun definitions =>
        (buildAll settings direction ys).map (definitions ++ ·) := by
  induction xs with
  | nil =>
      rw [List.nil_append, buildAll]
      cases buildAll settings direction ys <;> rfl
  | cons entry xs ih =>
      rw [List.cons_append]
      cases hentry : build settings direction entry.1 entry.2 with
      | error e =>
          rw [buildAll_cons_of_error hentry, buildAll_cons_of_error hentry]
          rfl
      | ok d =>
          rw [buildAll_cons_of_ok hentry, buildAll_cons_of_ok hentry, ih]
          cases buildAll settings direction xs with
          | error e => rfl
          | ok definitions => cases buildAll settings direction ys <;> rfl

theorem exists_buildAll_eq_ok_iff {entries : List (String × String)} :
    (∃ definitions, buildAll settings direction entries = .ok definitions) ↔
      ∀ entry ∈ entries, ∃ tree, interpret settings entry.2 = .ok tree := by
  constructor
  · rintro ⟨definitions, h⟩
    have hreads := (buildAll_eq_ok_iff.mp h).imp fun entry d hentry =>
      And.intro (exists_build_eq_ok_iff.mp ⟨d, hentry⟩) hentry
    exact ((List.forall₂_and_left _ _).mp hreads).1
  · intro hreads
    cases hbatch : buildAll settings direction entries with
    | ok definitions => exact ⟨definitions, rfl⟩
    | error e =>
        obtain ⟨before, entry, behind, rfl, -, hfailing⟩ := buildAll_eq_error_iff.mp hbatch
        obtain ⟨d, hentry⟩ := exists_build_eq_ok_iff.mpr (hreads entry (by simp))
        rw [hentry] at hfailing
        cases hfailing

/-- A batch is defined exactly if all its declarations can be read, and then has the definition of
each entry in its place. Otherwise its diagnostic is that of the first declaration that cannot be
read, whatever stands behind it, with a note that names the parameter. Of two batches in a row the
first goes first. -/
theorem buildAll_stopsAtFirst (settings : Settings) (direction : Direction)
    (entries : List (String × String)) :
    ((∃ definitions, buildAll settings direction entries = .ok definitions) ↔
      ∀ entry ∈ entries, ∃ tree, interpret settings entry.2 = .ok tree) ∧
    (∀ definitions, buildAll settings direction entries = .ok definitions ↔
      List.Forall₂ (fun entry d => build settings direction entry.1 entry.2 = .ok d)
        entries definitions) ∧
    (∀ e, buildAll settings direction entries = .error e ↔
      ∃ before name declaration behind d, entries = before ++ (name, declaration) :: behind ∧
        (∀ entry ∈ before, ∃ tree, interpret settings entry.2 = .ok tree) ∧
        interpret settings declaration = .error d ∧
        e = { d with note := some ("while converting parameter '" ++ name ++ "'") }) ∧
    ∀ xs ys, entries = xs ++ ys → buildAll settings direction entries =
      (buildAll settings direction xs).bind fun definitions =>
        (buildAll settings direction ys).map (definitions ++ ·) := by
  refine ⟨exists_buildAll_eq_ok_iff, fun _ => buildAll_eq_ok_iff, ?_, ?_⟩
  · intro e
    rw [buildAll_eq_error_iff]
    constructor
    · rintro ⟨before, entry, behind, hsplit, hbefore, hfailing⟩
      obtain ⟨d, hd, he⟩ := build_eq_error_iff.mp hfailing
      exact ⟨before, entry.1, entry.2, behind, d, hsplit, hbefore, hd, he⟩
    · rintro ⟨before, name, declaration, behind, d, hsplit, hbefore, hd, he⟩
      refine ⟨before, (name, declaration), behind, hsplit, hbefore, ?_⟩
      exact build_eq_error_iff.mpr ⟨d, hd, he⟩
  · rintro xs ys rfl
    exact buildAll_append xs ys

end WorkflowParams.Definition
