import Mathlib.Data.List.Nodup
import WorkflowParams.Proofs.Keying

/-!
Which parameters are bound to one attribute of the record. The attribute of a name forgets which of
its separators are dots and which are underscores, and nothing else. As the names in a document are
distinct, two of its parameters share an attribute only if one has an underscore where the other has
a dot.
-/

namespace WorkflowParams

open Json Declaration

/-- Two names that differ only in places where one has a dot and the other an underscore. -/
structure SeparatorVariants (name other : String) : Prop where
  length_eq : name.length = other.length
  separators (i : Nat) {c c' : Char} (hc : name.toList[i]? = some c)
    (hc' : other.toList[i]? = some c') (hne : c ≠ c') : c = '.' ∧ c' = '_' ∨ c = '_' ∧ c' = '.'

theorem separator_eq_iff {c c' : Char} :
    (if c = '.' then '_' else c) = (if c' = '.' then '_' else c') ↔
      (c ≠ c' → c = '.' ∧ c' = '_' ∨ c = '_' ∧ c' = '.') := by
  grind

theorem dot_not_mem_recordAttribute (name : String) : '.' ∉ (recordAttribute name).toList := by
  rw [recordAttribute, String.toList_ofList]
  intro hmem
  obtain ⟨c, -, hc⟩ := List.mem_map.mp hmem
  grind

/-- The attribute tells names apart that are no variants of each other. -/
theorem recordAttribute_eq_iff {name other : String} :
    recordAttribute name = recordAttribute other ↔ SeparatorVariants name other := by
  rw [recordAttribute, recordAttribute, String.ofList_inj, ← List.forall₂_eq_eq_eq,
    List.forall₂_map_left_iff, List.forall₂_map_right_iff, List.forall₂_iff_get]
  simp only [separator_eq_iff]
  constructor
  · rintro ⟨hlength, h⟩
    refine ⟨by simpa only [String.length_toList] using hlength, ?_⟩
    intro i c c' hc hc' hne
    obtain ⟨hi, rfl⟩ := List.getElem?_eq_some_iff.mp hc
    obtain ⟨hi', rfl⟩ := List.getElem?_eq_some_iff.mp hc'
    exact h i hi hi' hne
  · intro h
    refine ⟨by simpa only [String.length_toList] using h.length_eq, ?_⟩
    intro i hi hi'
    exact h.separators i (List.getElem?_eq_getElem hi) (List.getElem?_eq_getElem hi')

theorem SeparatorVariants.eq {name other : String} (h : SeparatorVariants name other)
    (hname : '_' ∉ name.toList) (hother : '_' ∉ other.toList) : name = other := by
  have hlength : name.toList.length = other.toList.length := by
    simpa only [String.length_toList] using h.length_eq
  refine String.toList_inj.mp (List.ext_getElem hlength ?_)
  intro i hi hi'
  by_contra hne
  rcases h.separators i (List.getElem?_eq_getElem hi) (List.getElem?_eq_getElem hi') hne with
    ⟨-, hunderscore⟩ | ⟨hunderscore, -⟩
  · exact hother (hunderscore ▸ List.getElem_mem hi')
  · exact hname (hunderscore ▸ List.getElem_mem hi)

/-- Distinct names without underscores have distinct attributes. -/
theorem nodup_map_recordAttribute {names : List String} (h : names.Nodup)
    (hunderscore : ∀ name ∈ names, '_' ∉ name.toList) : (names.map recordAttribute).Nodup := by
  refine h.map_on ?_
  intro name hname other hother heq
  exact (recordAttribute_eq_iff.mp heq).eq (hunderscore name hname) (hunderscore other hother)

theorem Binding.target_ofName (name : String) (direction : Direction) (policy : OutputBinding) :
    (Binding.ofName name direction policy).target = recordAttribute name := by
  cases direction <;> cases policy <;> rfl

namespace Definition

variable {settings : Settings} {direction : Direction}

theorem target_of_build {name declaration : String} {d : Definition}
    (h : build settings direction name declaration = .ok d) :
    d.binding.target = recordAttribute d.name := by
  rw [build] at h
  split at h
  · cases h
  · obtain rfl := Except.ok.inj h
    exact Binding.target_ofName name direction settings.outputBinding

theorem targets_of_buildAll {entries : List (String × String)} {definitions : List Definition}
    (h : buildAll settings direction entries = .ok definitions) :
    ∀ d ∈ definitions, d.binding.target = recordAttribute d.name := by
  have htargets := (buildAll_eq_ok_iff.mp h).flip.imp fun d entry hentry =>
    And.intro (target_of_build hentry) hentry
  exact ((List.forall₂_and_left _ _).mp htargets).1

end Definition

namespace Document

/-- Of the definitions that a document is converted to, each is bound to an attribute without dots,
and two are bound to one attribute exactly if their names differ only in dots of the one that are
underscores in the other. So if no name in the document has an underscore, no two parameters share
an attribute. -/
theorem convert_recordAttributes {settings : Settings} {direction : Direction} {format : Format}
    {document text : String} (h : convert settings direction format document = .ok text) :
    ∃ declarations definitions, read document = .ok declarations ∧
      Definition.buildAll settings direction declarations.entries = .ok definitions ∧
      text = write format definitions ∧
      definitions.map Definition.name = declarations.entries.map Prod.fst ∧
      (∀ d ∈ definitions, '.' ∉ d.binding.target.toList) ∧
      (∀ d ∈ definitions, ∀ d' ∈ definitions,
        d.binding.target = d'.binding.target ↔ SeparatorVariants d.name d'.name) ∧
      ((∀ name ∈ declarations.entries.map Prod.fst, '_' ∉ name.toList) →
        (definitions.map fun d => d.binding.target).Nodup) := by
  rw [convert] at h
  split at h
  · cases h
  · next declarations hread =>
      obtain ⟨definitions, hbuild, htext⟩ := exists_of_map_eq_ok h
      have htargets := Definition.targets_of_buildAll hbuild
      have hnames := Definition.names_of_buildAll hbuild
      refine ⟨declarations, definitions, hread, hbuild, htext.symm, hnames, ?_, ?_, ?_⟩
      · intro d hd
        rw [htargets d hd]
        exact dot_not_mem_recordAttribute d.name
      · intro d hd d' hd'
        rw [htargets d hd, htargets d' hd']
        exact recordAttribute_eq_iff
      · intro hunderscore
        have hdistinct := nodup_map_recordAttribute declarations.nodup hunderscore
        rw [← hnames, List.map_map] at hdistinct
        rwa [List.map_congr_left htargets]

/-- Two outputs that are written to one attribute. -/
theorem convert_recordAttributes_of_variants :
    ∃ text first second,
      convert {} .output .list "\x7b\"wf.a_b\":\"Int\",\"wf.a.b\":\"File\"\x7d" = .ok text ∧
      Definition.buildAll {} .output [("wf.a_b", "Int"), ("wf.a.b", "File")] =
        .ok [first, second] ∧
      first.binding.target = second.binding.target := by
  have hlisted : readTextObject "\x7b\"wf.a_b\":\"Int\",\"wf.a.b\":\"File\"\x7d".toList =
      .ok [("wf.a_b", "Int"), ("wf.a.b", "File")] := by decide +kernel
  have hread : read "\x7b\"wf.a_b\":\"Int\",\"wf.a.b\":\"File\"\x7d" =
      .ok (Keyed.ofList [("wf.a_b", "Int"), ("wf.a.b", "File")]) := by
    rw [read, hlisted]
  have hint : interpret {} "Int" = .ok (.primitive .int) := by decide +kernel
  have hfile : interpret {} "File" = .ok (.primitive .file) := by decide +kernel
  have hbuilt : ∃ first second,
      Definition.buildAll {} .output [("wf.a_b", "Int"), ("wf.a.b", "File")] =
        .ok [first, second] ∧ first.name = "wf.a_b" ∧ second.name = "wf.a.b" := by
    simp only [Definition.buildAll, Definition.build, hint, hfile]
    exact ⟨_, _, rfl, rfl, rfl⟩
  obtain ⟨first, second, hbuilt, hfirst, hsecond⟩ := hbuilt
  have hentries : (Keyed.ofList [("wf.a_b", "Int"), ("wf.a.b", "File")]).entries =
      [("wf.a_b", "Int"), ("wf.a.b", "File")] := Keyed.entries_ofList_of_nodup (by decide)
  have hconvert : convert {} .output .list
      "\x7b\"wf.a_b\":\"Int\",\"wf.a.b\":\"File\"\x7d" =
        .ok (write .list [first, second]) := by
    simp only [convert, hread, hentries, hbuilt, Except.map]
  obtain ⟨declarations, definitions, hread', hbuilt', -, -, -, hshared, -⟩ :=
    convert_recordAttributes hconvert
  obtain rfl := Except.ok.inj (hread.symm.trans hread')
  obtain rfl := Except.ok.inj (hbuilt.symm.trans (hentries ▸ hbuilt'))
  refine ⟨_, first, second, hconvert, hbuilt, ?_⟩
  rw [hshared first (by simp) second (by simp), hfirst, hsecond]
  exact recordAttribute_eq_iff.mp (by decide)

end Document

end WorkflowParams
