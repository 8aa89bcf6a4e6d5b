import WorkflowParams.Proofs.Relabeling
import WorkflowParams.Proofs.Seams

/-!
Blanks between tokens do not matter. A declaration that has more of them at a place where no token
is has the same tokens, on columns that are moved from that place on, and it denotes the same type
or is refused with the same words. The mark of an optional parameter is found wherever it was: it is
a word or a part of one, and no word goes over such a place.
-/

namespace WorkflowParams.Declaration

open WorkflowParams.Text

/-- The columns of a text that has `n` more characters behind the first `place` of them. -/
def inserting (place n : Nat) : Relabeling where
  column i := if i ≤ place then i else i + n
  column_le := by
    intro i j h
    split <;> split <;> omega
  value := id

namespace Relabeling

variable {place n : Nat}

theorem column_inserting_of_le {i : Nat} (h : i ≤ place) : (inserting place n).column i = i :=
  if_pos h

theorem column_inserting_of_lt {i : Nat} (h : place < i) : (inserting place n).column i = i + n :=
  if_neg (Nat.not_le.mpr h)

theorem lexeme_inserting (l : Lexeme) : (inserting place n).lexeme l = l := by
  cases l <;> rfl

theorem token_inserting_of_le {t : Token} (h : t.column ≤ t.endColumn)
    (hend : t.endColumn ≤ place) : (inserting place n).token t = t := by
  rw [token, lexeme_inserting, column_inserting_of_le hend,
    column_inserting_of_le (Nat.le_trans h hend)]

theorem token_inserting_of_lt {t : Token} (h : t.column ≤ t.endColumn) (hfirst : place < t.column) :
    (inserting place n).token t = t.shift n := by
  rw [token, lexeme_inserting, column_inserting_of_lt hfirst,
    column_inserting_of_lt (Nat.lt_of_lt_of_le hfirst h)]
  rfl

theorem token_inserting_zero (t : Token) : (inserting place 0).token t = t := by
  have hcolumn (i : Nat) : (inserting place 0).column i = i := by simp [inserting]
  rw [token, lexeme_inserting, hcolumn, hcolumn]

end Relabeling

/-- A place behind the first `place` characters of a declaration that is inside no token and not
behind a string literal that is left open. -/
structure IsGap (declaration : String) (place : Nat) : Prop where
  apart : ∀ t ∈ tokenize declaration, ¬ (t.column ≤ place ∧ place < t.endColumn)
  closed : ∀ t ∈ tokenize declaration, t.endColumn = place →
    ¬ Unclosed (slice declaration.toList t.column t.endColumn)

variable {front back blanks : String}

theorem IsGap.exists_cut (h : IsGap (front ++ back) front.length) :
    ∃ before after, tokenize (front ++ back) =
        before ++ after ++ [.endAt ((front ++ back).length + 1)] ∧
      Tiles 1 front.toList before ∧ Tiles (1 + front.length) back.toList after ∧
      ∀ t ∈ before, ¬ Unclosed (front.toList.drop (t.column - 1)) := by
  obtain ⟨tokens, htokens, htiles⟩ := exists_tiles_tokenize (front ++ back)
  have hmem {t : Token} (ht : t ∈ tokens) : t ∈ tokenize (front ++ back) := by simp [htokens, ht]
  rw [String.toList_append] at htiles
  have hcut : ∀ t ∈ tokens, 1 + front.toList.length ≤ t.column ∨
      t.endColumn < 1 + front.toList.length := by
    intro t ht
    have := h.apart t (hmem ht)
    rw [String.length_toList]
    omega
  obtain ⟨before, after, rfl, hbefore, hafter⟩ := htiles.cut hcut
  rw [String.length_toList] at hafter
  refine ⟨before, after, htokens, hbefore, hafter, ?_⟩
  intro t ht hopen
  obtain ⟨hunclosed, hend⟩ := hbefore.unclosed_drop ht hopen
  refine h.closed t (hmem (List.mem_append_left after ht)) (by rw [hend, String.length_toList]) ?_
  have htake : (front ++ back).toList.take t.endColumn = front.toList.take t.endColumn := by
    rw [String.toList_append, List.take_append_of_le_length (Nat.le_of_eq hend)]
  rwa [slice, htake]

theorem Tiles.map_inserting_of_front {text : List Char} {tokens : List Token}
    (h : Tiles 1 text tokens) (n : Nat) :
    tokens.map (inserting text.length n).token = tokens := by
  have hsame : ∀ t ∈ tokens, (inserting text.length n).token t = t := by
    intro t ht
    obtain ⟨-, horder, hlast⟩ := h.bounds ht
    exact Relabeling.token_inserting_of_le horder (by omega)
  exact (List.map_congr_left hsame).trans tokens.map_id'

theorem Tiles.map_inserting_of_back {place : Nat} {text : List Char} {tokens : List Token}
    (h : Tiles (1 + place) text tokens) (n : Nat) :
    tokens.map (inserting place n).token = tokens.map (Token.shift n) := by
  refine List.map_congr_left ?_
  intro t ht
  obtain ⟨hfirst, horder, -⟩ := h.bounds ht
  exact Relabeling.token_inserting_of_lt horder (by omega)

theorem isSeparator_of_blanks {blanks : List Char} (h : blanks.all isBlank = true)
    (hne : blanks ≠ []) (behind : List Char) :
    ∀ c, (blanks ++ behind).head? = some c → isSeparator c = true := by
  intro c hc
  cases blanks with
  | nil => exact absurd rfl hne
  | cons c' blanks =>
      rw [List.all_cons, Bool.and_eq_true] at h
      obtain rfl : c' = c := Option.some.inj hc
      exact isSeparator_of_isBlank h.1

theorem column_inserting_end (front blanks back : String) :
    (inserting front.length blanks.length).column ((front ++ back).length + 1) =
      (front ++ blanks ++ back).length + 1 := by
  rw [String.length_append, String.length_append, String.length_append,
    Relabeling.column_inserting_of_lt (by omega)]
  omega

/-- Blanks that are put into a gap move the tokens behind it. -/
theorem tokenize_insert (hblanks : blanks.toList.all isBlank = true)
    (h : IsGap (front ++ back) front.length) :
    tokenize (front ++ blanks ++ back) =
      (tokenize (front ++ back)).map (inserting front.length blanks.length).token := by
  by_cases hnone : blanks = ""
  · subst hnone
    rw [String.append_empty, String.length_empty, List.map_id'' Relabeling.token_inserting_zero]
  · obtain ⟨before, after, htokens, hbefore, hafter, hclosed⟩ := h.exists_cut
    have hback : Tiles (1 + front.toList.length) (blanks.toList ++ back.toList)
        (after.map (Token.shift blanks.length)) := by
      apply Tiles.blanks_append hblanks
      rw [String.length_toList, String.length_toList]
      exact hafter.shift blanks.length
    have hseparator := isSeparator_of_blanks hblanks (mt String.toList_eq_nil_iff.mp hnone)
    have htiles := hbefore.append hback (hseparator back.toList) hclosed
    rw [← String.toList_append, ← String.toList_append, ← String.append_assoc] at htiles
    have hunmoved := hbefore.map_inserting_of_front blanks.length
    rw [String.length_toList] at hunmoved
    have hend : (inserting front.length blanks.length).token
        (.endAt ((front ++ back).length + 1)) =
        .endAt ((front ++ blanks ++ back).length + 1) := by
      rw [← column_inserting_end]
      rfl
    rw [htiles.tokenize_eq, htokens, List.map_append, List.map_append, hunmoved,
      hafter.map_inserting_of_back, List.map_singleton, hend]

/-! The mark of an optional parameter. -/

theorem infix_of_insert {word xs ys : List Char} {c : Char} (hc : c ∉ word)
    (h : word <:+: xs ++ c :: ys) : word <:+: xs ++ ys := by
  have hbehind {v : List Char} (hv : v ⊆ word) (hbegins : v <+: c :: ys) : v = [] := by
    rcases List.prefix_cons_iff.mp hbegins with hnil | ⟨v, rfl, -⟩
    · exact hnil
    · exact absurd (hv List.mem_cons_self) hc
  rcases List.infix_append_iff.mp h with hxs | hys | ⟨u, v, rfl, hu, hv⟩
  · exact List.infix_append_of_infix_left hxs
  · rcases List.infix_cons_iff.mp hys with hbegins | hoccurs
    · rw [hbehind (fun _ => id) hbegins]
      exact List.nil_infix
    · exact List.infix_append_of_infix_right hoccurs
  · rw [hbehind (List.subset_append_right u v) hv, List.append_nil]
    exact List.infix_append_of_infix_left hu.isInfix

theorem infix_of_insert_blanks {word xs blanks ys : List Char} (hblanks : blanks.all isBlank = true)
    (hword : ∀ c ∈ word, isBlank c = false) (h : word <:+: xs ++ (blanks ++ ys)) :
    word <:+: xs ++ ys := by
  induction blanks with
  | nil => exact h
  | cons c blanks ih =>
      rw [List.all_cons, Bool.and_eq_true] at hblanks
      have hc : c ∉ word := by
        intro hmem
        rw [hword c hmem] at hblanks
        exact Bool.false_ne_true hblanks.1
      exact ih hblanks.2 (infix_of_insert hc h)

/-- No token ends between two characters that words and numbers go on over, the first of which a
word may begin with. -/
theorem Lexeme.Covers.not_between {lexeme : Lexeme} {own behind : List Char} {x y : Char}
    (hx : startsWord x = true) (hword : continuesWord y = true)
    (hnumber : continuesNumber y = true) : ¬ lexeme.Covers (own ++ [x]) (y :: behind) := by
  intro h
  have hmark {c : Char} (hown : own ++ [x] = [c]) : startsWord c = true := by
    obtain ⟨rfl, hxc⟩ := List.append_eq_singleton_iff.mp hown |>.resolve_right (by simp)
    exact (List.singleton_inj.mp hxc) ▸ hx
  cases lexeme with
  | word text => simp [Lexeme.Covers, extendsWord, hword] at h
  | number text => simp [Lexeme.Covers, hnumber] at h
  | quoted value =>
      obtain ⟨inside, -, -, ⟨hown, -⟩ | ⟨-, hnil⟩⟩ := h
      · rw [← List.cons_append] at hown
        obtain rfl := List.singleton_inj.mp (List.append_inj_right' hown rfl)
        exact absurd hx (by decide)
      · simp at hnil
  | symbol c =>
      obtain ⟨hown, hsymbol, -⟩ := h
      simp [isSymbol, hmark hown] at hsymbol
  | leftBracket | rightBracket | plus | question | leftParen | rightParen | comma | equal =>
      exact absurd (hmark h) (by decide)
  | endMark => exact h

theorem IsGap.not_between {x y : Char} (h : IsGap (front ++ back) front.length)
    (hfront : front.toList.getLast? = some x) (hback : back.toList.head? = some y)
    (hx : startsWord x = true) (hword : continuesWord y = true) :
    continuesNumber y = false := by
  apply eq_false_of_ne_true
  intro hnumber
  obtain ⟨tokens, htokens, htiles⟩ := exists_tiles_tokenize (front ++ back)
  obtain ⟨init, hinit⟩ := List.getLast?_eq_some_iff.mp hfront
  obtain ⟨rest, hrest⟩ := List.head?_eq_some_iff.mp hback
  have htext : (front ++ back).toList = init ++ x :: y :: rest := by
    rw [String.toList_append, hinit, hrest, List.append_assoc, List.singleton_append]
  have hlength : front.length = init.length + 1 := by
    rw [← String.length_toList, hinit, List.length_append, List.length_singleton]
  rw [htext] at htiles
  obtain ⟨t, ht, hfirst, hlast⟩ :
      ∃ t ∈ tokens, t.column ≤ 1 + init.length ∧ 1 + init.length ≤ t.endColumn := by
    by_contra hnone
    have hblank := htiles.isBlank_of_uncovered (i := init.length) (by simp) (by simpa using hnone)
    simp [isBlank_of_startsWord hx] at hblank
  have hapart := h.apart t (by simp [htokens, ht])
  obtain ⟨before, own, behind, hsplit, hcolumn, hend, hcovers⟩ := htiles.exists_split ht
  have hplace : (before ++ own).length = (init ++ [x]).length := by
    rw [List.length_append, List.length_append, List.length_singleton]
    omega
  rw [← List.append_assoc, List.append_cons] at hsplit
  obtain ⟨hown, rfl⟩ := List.append_inj hsplit hplace.symm
  rcases List.eq_nil_or_concat own with rfl | ⟨own, z, rfl⟩
  · exact hcovers.ne_nil rfl
  · rw [List.concat_eq_append, ← List.append_assoc] at hown
    obtain rfl := List.singleton_inj.mp (List.append_inj_right' hown rfl)
    rw [List.concat_eq_append] at hcovers
    exact hcovers.not_between hx hword hnumber

theorem classes_of_mem_optionalWord {c : Char} (h : c ∈ optionalWord.toList) :
    startsWord c = true ∧ continuesWord c = true ∧ continuesNumber c = true := by
  have hall : optionalWord.toList.all (fun c =>
      startsWord c && (continuesWord c && continuesNumber c)) = true := by
    decide +kernel
  simpa [and_assoc] using List.all_eq_true.mp hall c h

/-- The word stands in a declaration on one side of a gap or on the other. -/
theorem IsGap.infix_optionalWord (h : IsGap (front ++ back) front.length)
    (hoccurs : optionalWord.toList <:+: front.toList ++ back.toList) :
    optionalWord.toList <:+: front.toList ∨ optionalWord.toList <:+: back.toList := by
  rcases List.infix_append_iff.mp hoccurs with hfront | hback | ⟨u, v, hsplit, hu, hv⟩
  · exact .inl hfront
  · exact .inr hback
  · rcases List.eq_nil_or_concat u with rfl | ⟨u, x, rfl⟩
    · rw [hsplit, List.nil_append]
      exact .inr hv.isInfix
    · cases v with
      | nil =>
          rw [hsplit, List.append_nil]
          exact .inl hu.isInfix
      | cons y v =>
          -- The word would go over the gap: its letters on either side are of one token.
          rw [List.concat_eq_append] at hsplit hu
          obtain ⟨init, hinit⟩ := hu
          obtain ⟨rest, hrest⟩ := hv
          have hlast : front.toList.getLast? = some x := by
            rw [← hinit, ← List.append_assoc, List.getLast?_concat]
          have hfirst : back.toList.head? = some y := by
            rw [← hrest, List.cons_append, List.head?_cons]
          obtain ⟨hx, -, -⟩ := classes_of_mem_optionalWord (c := x) (by simp [hsplit])
          obtain ⟨-, hword, hnumber⟩ := classes_of_mem_optionalWord (c := y) (by simp [hsplit])
          rw [h.not_between hlast hfirst hx hword] at hnumber
          exact absurd hnumber Bool.false_ne_true

theorem mentionsOptional_insert (hblanks : blanks.toList.all isBlank = true)
    (h : IsGap (front ++ back) front.length) :
    mentionsOptional (front ++ blanks ++ back) = mentionsOptional (front ++ back) := by
  have hword : ∀ c ∈ optionalWord.toList, isBlank c = false := fun _ hc =>
    isBlank_of_startsWord (classes_of_mem_optionalWord hc).1
  rw [Bool.eq_iff_iff, mentionsOptional, mentionsOptional, occursIn_iff, occursIn_iff,
    String.append_assoc, String.toList_append, String.toList_append, String.toList_append]
  constructor
  · exact infix_of_insert_blanks hblanks hword
  · intro hoccurs
    rcases h.infix_optionalWord hoccurs with hfront | hback
    · exact List.infix_append_of_infix_left hfront
    · exact List.infix_append_of_infix_right (List.infix_append_of_infix_right hback)

theorem isOptional_insert (scan : OptionalScan) (hblanks : blanks.toList.all isBlank = true)
    (h : IsGap (front ++ back) front.length) :
    isOptional scan (front ++ blanks ++ back) = isOptional scan (front ++ back) := by
  cases scan with
  | wholeString => exact mentionsOptional_insert hblanks h
  | bareWord =>
      rw [isOptional, tokenize_insert hblanks h, Relabeling.marksOptional_map]
      rfl

theorem readStructure_insert (hblanks : blanks.toList.all isBlank = true)
    (h : IsGap (front ++ back) front.length) :
    readStructure (front ++ blanks ++ back) =
      (readStructure (front ++ back)).mapError
        (inserting front.length blanks.length).complaint := by
  rw [← Relabeling.next_map_tokenize, ← tokenize_insert hblanks h]
  rfl

/-- Blanks that are put into a gap of a declaration leave its lexemes and its type as they are. They
move the tokens behind the gap, and of what is complained about the columns that stand there. -/
theorem interpret_insert (hblanks : blanks.toList.all isBlank = true)
    (h : IsGap (front ++ back) front.length) :
    tokenize (front ++ blanks ++ back) =
        (tokenize (front ++ back)).map (inserting front.length blanks.length).token ∧
      ∀ settings,
        (∀ tree, interpret settings (front ++ back) = .ok tree →
          interpret settings (front ++ blanks ++ back) = .ok tree) ∧
        ∀ d, interpret settings (front ++ back) = .error d →
          interpret settings (front ++ blanks ++ back) = .error
            { d with
              span := d.span.map (inserting front.length blanks.length).span
              declaration := some (front ++ blanks ++ back) } := by
  refine ⟨tokenize_insert hblanks h, ?_⟩
  intro settings
  have hread := readStructure_insert hblanks h
  have hoptional := isOptional_insert settings.optionalScan hblanks h
  cases hstructure : readStructure (front ++ back) with
  | ok tree =>
      rw [hstructure, Except.mapError] at hread
      simp [interpret, hstructure, hread, hoptional]
  | error complaint =>
      have hlexeme (l : Lexeme) : (inserting front.length blanks.length).lexeme l = l :=
        Relabeling.lexeme_inserting l
      rw [hstructure, Except.mapError] at hread
      simp only [interpret, hstructure, hread, Relabeling.toDiagnostic_complaint _ hlexeme]
      refine ⟨by simp, ?_⟩
      rintro d hd
      obtain rfl := Except.error.inj hd
      rfl

/-- The place behind the closing quote of `"\"["` is a gap. -/
theorem interpret_insert_behind_literal :
    let diagnostic : Diagnostic :=
      { kind := .unexpectedToken
        message := "expected ']' after the inner type, found ','"
        span := some ⟨15, 15, by decide⟩
        declaration := some "\"\\\"[\"Array[Int,)" }
    IsGap ("\"\\\"[\"" ++ "Array[Int,)") 5 ∧
      interpret {} ("\"\\\"[\"" ++ "Array[Int,)") = .error diagnostic ∧
      interpret {} ("\"\\\"[\"" ++ "\u3000\n" ++ "Array[Int,)") = .error
        { diagnostic with
          span := some ⟨17, 17, by decide⟩
          declaration := some "\"\\\"[\"\u3000\nArray[Int,)" } := by
  intro diagnostic
  have hgap : IsGap ("\"\\\"[\"" ++ "Array[Int,)") ("\"\\\"[\"").length := by
    constructor
    · decide +kernel
    · have hliteral : ∀ t ∈ tokenize ("\"\\\"[\"" ++ "Array[Int,)"), t.endColumn = 5 →
          slice ("\"\\\"[\"" ++ "Array[Int,)").toList t.column t.endColumn =
            '"' :: ['\\', '"', '[', '"'] := by
        decide +kernel
      rintro t ht hend ⟨inside, hinside, hescaped⟩
      rw [hliteral t ht hend] at hinside
      obtain ⟨-, rfl⟩ := List.cons.inj hinside
      have hclosed : escapesNext ['\\', '"', '['] = false := by decide
      exact not_quotesEscaped_append hclosed [] hescaped
  have hrefused : interpret {} ("\"\\\"[\"" ++ "Array[Int,)") = .error diagnostic := by
    decide +kernel
  exact ⟨hgap, hrefused, ((interpret_insert (by decide) hgap).2 {}).2 diagnostic hrefused⟩

end WorkflowParams.Declaration
