import WorkflowParams.Declaration.Interpretation
import WorkflowParams.Proofs.Grammar
import WorkflowParams.Proofs.Lexing

/-!
Reading back how a type is spelled. The optional marks of the spelling carry no structure, so what
is read back is the type without them. A mark can be passed once behind each type: two of them
behind the element of an array leave one where the closing bracket should be.
-/

namespace WorkflowParams

open Declaration Declaration.Scanner

namespace TypeTree

def unmarked : TypeTree → TypeTree
  | .primitive p => .primitive p
  | .array element nonEmpty => .array element.unmarked nonEmpty
  | .optional inner => inner.unmarked

/-- Nothing in the tree is optional. -/
def isPlain : TypeTree → Bool
  | .primitive _ => true
  | .array element _ => element.isPlain
  | .optional _ => false

def isTwiceOptional : TypeTree → Bool
  | .optional (.optional _) => true
  | _ => false

/-- Some array in the tree has an element that is optional twice. -/
def hasTwiceOptionalElement : TypeTree → Bool
  | .primitive _ => false
  | .array element _ => element.isTwiceOptional || element.hasTwiceOptionalElement
  | .optional inner => inner.hasTwiceOptionalElement

theorem unmarked_of_isPlain {t : TypeTree} (h : t.isPlain = true) : t.unmarked = t := by
  induction t with
  | primitive p => rfl
  | array element nonEmpty ih => rw [unmarked, ih h]
  | optional inner _ => simp [isPlain] at h

theorem isPlain_unmarked (t : TypeTree) : t.unmarked.isPlain = true := by
  induction t with
  | primitive p => rfl
  | array element nonEmpty ih | optional inner ih => exact ih

theorem isOptional_of_isPlain {t : TypeTree} (h : t.isPlain = true) : t.isOptional = false := by
  cases t with
  | primitive _ | array _ _ => rfl
  | optional _ => simp [isPlain] at h

theorem hasTwiceOptionalElement_of_isPlain {t : TypeTree} (h : t.isPlain = true) :
    t.hasTwiceOptionalElement = false := by
  induction t with
  | primitive p => rfl
  | array element nonEmpty ih =>
      have htwice : element.isTwiceOptional = false := by
        cases element with
        | primitive _ | array _ _ => rfl
        | optional _ => simp [isPlain] at h
      rw [hasTwiceOptionalElement, htwice, ih h]
      rfl
  | optional inner _ => simp [isPlain] at h

/-- What closes an array whose element ends before `column`. -/
def closeAt (column : Nat) (nonEmpty : Bool) : List Token :=
  ⟨.rightBracket, column, column⟩ ::
    if nonEmpty then [⟨.plus, column + 1, column + 1⟩] else []

/-- The tokens of the spelling, the first character of which stands on `column`. -/
def tokensAt (column : Nat) : TypeTree → List Token
  | .primitive p => [⟨.word p.name, column, column + p.name.length - 1⟩]
  | .array element nonEmpty =>
    ⟨.word arrayName, column, column + 4⟩ :: ⟨.leftBracket, column + 5, column + 5⟩ ::
      (element.tokensAt (column + 6) ++ closeAt (column + 6 + element.spelling.length) nonEmpty)
  | .optional inner =>
    let mark := column + inner.spelling.length
    inner.tokensAt column ++ [⟨.question, mark, mark⟩]

/-- The question marks with which the spelling ends. -/
def marksAt (column : Nat) : TypeTree → List Token
  | .optional inner =>
    let mark := column + inner.spelling.length
    inner.marksAt column ++ [⟨.question, mark, mark⟩]
  | _ => []

end TypeTree

theorem Primitive.isWord_name (p : Primitive) : isWord p.name.toList = true := by
  cases p <;> decide

namespace TypeTree

theorem toList_spelling_array (element : TypeTree) (nonEmpty : Bool) (rest : List Char) :
    (TypeTree.array element nonEmpty).spelling.toList ++ rest =
      arrayName.toList ++ '[' :: (element.spelling.toList ++
        ']' :: ((if nonEmpty then ['+'] else []) ++ rest)) := by
  cases nonEmpty <;> simp [spelling]

theorem length_spelling_array (element : TypeTree) (nonEmpty : Bool) :
    (TypeTree.array element nonEmpty).spelling.length =
      element.spelling.length + 7 + (if nonEmpty then ['+'] else []).length := by
  have hlength := congrArg List.length (toList_spelling_array element nonEmpty [])
  have harray : arrayName.toList.length = 5 := rfl
  simp only [List.length_append, List.length_cons, List.length_nil, String.length_toList] at hlength
  rw [String.length_toList] at harray
  omega

theorem length_spelling_optional (inner : TypeTree) :
    (TypeTree.optional inner).spelling.length = inner.spelling.length + 1 :=
  String.length_append inner.spelling "?"

theorem tokensFrom_arrayName (column : Nat) (rest : List Char) :
    tokensFrom column (arrayName.toList ++ '[' :: rest) =
      ⟨.word arrayName, column, column + 4⟩ :: ⟨.leftBracket, column + 5, column + 5⟩ ::
        tokensFrom (column + 6) rest := by
  have hbracket : Lexeme.mark? '[' = some .leftBracket := rfl
  rw [tokensFrom_word (by decide) (extendsWord_of_mark? hbracket rest), tokensFrom_mark hbracket]
  rfl

theorem tokensFrom_spelling (t : TypeTree) (column : Nat) {rest : List Char}
    (hrest : extendsWord rest = false) :
    tokensFrom column (t.spelling.toList ++ rest) =
      t.tokensAt column ++ tokensFrom (column + t.spelling.length) rest := by
  induction t generalizing column rest with
  | primitive p => exact tokensFrom_word p.isWord_name hrest column
  | array element nonEmpty ih =>
      have hclose : Lexeme.mark? ']' = some .rightBracket := rfl
      have hplus : Lexeme.mark? '+' = some .plus := rfl
      rw [toList_spelling_array, tokensFrom_arrayName, ih _ (extendsWord_of_mark? hclose _),
        tokensFrom_mark hclose, length_spelling_array]
      cases nonEmpty with
      | false =>
          have hbehind : column + 6 + element.spelling.length + 1 =
              column + (element.spelling.length + 7 + 0) := by omega
          simp [tokensAt, closeAt, hbehind]
      | true =>
          have hbehind : column + 6 + element.spelling.length + 1 + 1 =
              column + (element.spelling.length + 7 + 1) := by omega
          rw [if_pos rfl, List.singleton_append, tokensFrom_mark hplus, hbehind]
          simp [tokensAt, closeAt]
  | optional inner ih =>
      have hmark : Lexeme.mark? '?' = some .question := rfl
      rw [spelling, String.toList_append, List.append_assoc, ← spelling, length_spelling_optional]
      refine (ih column (extendsWord_of_mark? hmark rest)).trans ?_
      rw [tokensFrom_mark hmark, tokensAt, List.append_assoc, Nat.add_assoc]
      rfl

/-- The first token of a spelling is a word, and none of them ends the declaration. -/
theorem exists_word_tokensAt (t : TypeTree) (column : Nat) :
    ∃ text endColumn behind, t.tokensAt column = ⟨.word text, column, endColumn⟩ :: behind := by
  induction t with
  | primitive p => exact ⟨p.name, _, [], rfl⟩
  | array element nonEmpty _ => exact ⟨arrayName, _, _, rfl⟩
  | optional inner ih =>
      obtain ⟨text, endColumn, behind, h⟩ := ih
      exact ⟨text, endColumn, _, by rw [tokensAt, h]; rfl⟩

theorem isEnd_of_mem_tokensAt {t : TypeTree} {column : Nat} {token : Token}
    (h : token ∈ t.tokensAt column) : token.isEnd = false := by
  induction t generalizing column with
  | primitive p => simp_all [tokensAt, Token.isEnd]
  | array element nonEmpty ih =>
      simp only [tokensAt, closeAt, List.mem_cons, List.mem_append] at h
      rcases h with rfl | rfl | h | rfl | h
      · rfl
      · rfl
      · exact ih h
      · rfl
      · cases nonEmpty <;> simp_all [Token.isEnd]
  | optional inner ih =>
      simp only [tokensAt, List.mem_append, List.mem_singleton] at h
      cases h with
      | inl hinner => exact ih hinner
      | inr hmark => rw [hmark]; rfl

theorem lexeme_of_mem_marksAt {t : TypeTree} {column : Nat} {token : Token}
    (h : token ∈ t.marksAt column) : token.lexeme = .question := by
  induction t with
  | primitive p => simp [marksAt] at h
  | array element nonEmpty _ => simp [marksAt] at h
  | optional inner ih =>
      simp only [marksAt, List.mem_append, List.mem_singleton] at h
      cases h with
      | inl hinner => exact ih hinner
      | inr hmark => rw [hmark]

theorem startsWith_tokensAt {mark : Lexeme} (hmark : ∀ text, mark ≠ .word text) (t : TypeTree)
    (column : Nat) (rest : List Token) : startsWith mark (t.tokensAt column ++ rest) = false := by
  obtain ⟨text, endColumn, behind, h⟩ := t.exists_word_tokensAt column
  simpa [startsWith, h] using (hmark text).symm

/-- The reader passes one mark behind a type. -/
theorem skip_marksAt_of_not_twice {t : TypeTree} (h : t.isTwiceOptional = false) (column : Nat)
    {rest : List Token} (hrest : startsWith .question rest = false) :
    skip .question (t.marksAt column ++ rest) = rest := by
  cases t with
  | primitive p => simp [marksAt, skip, hrest]
  | array element nonEmpty => simp [marksAt, skip, hrest]
  | optional inner =>
      cases inner with
      | primitive p => simp [marksAt, skip, startsWith]
      | array element nonEmpty => simp [marksAt, skip, startsWith]
      | optional inner => simp [isTwiceOptional] at h

theorem exists_of_isTwiceOptional {t : TypeTree} (h : t.isTwiceOptional = true) :
    ∃ inner, t = .optional (.optional inner) := by
  cases t with
  | primitive _ | array _ _ => simp [isTwiceOptional] at h
  | optional inner =>
      cases inner with
      | primitive _ | array _ _ => simp [isTwiceOptional] at h
      | optional inner => exact ⟨inner, rfl⟩

theorem skip_of_two_marks {mark : Lexeme} {marks : List Token} (hlength : 2 ≤ marks.length)
    (hmarks : ∀ token ∈ marks, token.lexeme = mark) (rest : List Token) :
    ∃ next behind, skip mark (marks ++ rest) = next :: behind ∧ next.lexeme = mark := by
  match marks, hlength with
  | first :: second :: more, _ =>
      refine ⟨second, more ++ rest, ?_, hmarks second (by simp)⟩
      simp [skip, startsWith, hmarks first]

theorem skip_marksAt_of_twice {t : TypeTree} (h : t.isTwiceOptional = true) (column : Nat)
    (rest : List Token) :
    ∃ mark behind, skip .question (t.marksAt column ++ rest) = mark :: behind ∧
      mark.lexeme = .question := by
  obtain ⟨inner, rfl⟩ := exists_of_isTwiceOptional h
  exact skip_of_two_marks (by simp [marksAt]) (fun _ => lexeme_of_mem_marksAt) rest

theorem readType_array_tokensAt (stop : Span) (element : TypeTree) (nonEmpty : Bool)
    {opened : Nat} (hroom : opened < maxNesting) (column : Nat) (rest : List Token) :
    readType stop opened ((TypeTree.array element nonEmpty).tokensAt column ++ rest) =
      closeReading stop (readType stop (opened + 1) (element.tokensAt (column + 6) ++
        (closeAt (column + 6 + element.spelling.length) nonEmpty ++ rest))) := by
  rw [tokensAt, List.cons_append, List.cons_append, List.append_assoc,
    readType_array stop hroom rfl rfl (startsWith_tokensAt (by simp) element _ _)]

theorem closeArray_closeAt (stop : Span) (element : TypeTree) (column : Nat) (nonEmpty : Bool)
    {rest : List Token} (hplus : startsWith .plus rest = false) :
    closeArray stop element (closeAt column nonEmpty ++ rest) =
      (.ok (.array element nonEmpty), skip .question rest) := by
  refine closeArray_eq_ok_iff.mpr ⟨_, _, rfl, rfl, ?_⟩
  cases nonEmpty with
  | false => simp [hplus, skip]
  | true => exact ⟨rfl, rfl⟩

/-- What is read back from a spelling: the type without its marks, the first of the marks at its
end being passed with it. -/
theorem readType_tokensAt (stop : Span) (t : TypeTree) (opened column : Nat) {rest : List Token}
    (hdepth : opened + t.arrayDepth ≤ maxNesting) (hmarks : t.hasTwiceOptionalElement = false)
    (hbracket : startsWith .leftBracket rest = false) (hplus : startsWith .plus rest = false) :
    readType stop opened (t.tokensAt column ++ rest) =
      (.ok t.unmarked, skip .question (t.marksAt column ++ rest)) := by
  induction t generalizing opened column rest with
  | primitive p =>
      rw [tokensAt, List.singleton_append, readType_primitive stop opened rfl]
      exact readPrimitive_eq_ok_iff.mpr ⟨hbracket, rfl, rfl⟩
  | array element nonEmpty ih =>
      rw [arrayDepth] at hdepth
      obtain ⟨htwice, hinner⟩ := Bool.or_eq_false_iff.mp hmarks
      rw [readType_array_tokensAt stop element nonEmpty (by omega),
        ih (opened + 1) (column + 6) (by omega) hinner rfl rfl,
        skip_marksAt_of_not_twice htwice _ rfl, closeReading,
        closeArray_closeAt stop element.unmarked _ nonEmpty hplus]
      rfl
  | optional inner ih =>
      rw [tokensAt, List.append_assoc]
      refine (ih opened column hdepth hmarks rfl rfl).trans ?_
      rw [marksAt, List.append_assoc]
      rfl

/-- A second mark behind the element of an array stands where the array should be closed. -/
theorem readType_tokensAt_of_twice (stop : Span) (t : TypeTree) (opened column : Nat)
    (rest : List Token) (hdepth : opened + t.arrayDepth ≤ maxNesting)
    (hmarks : t.hasTwiceOptionalElement = true) :
    ∃ place left, readType stop opened (t.tokensAt column ++ rest) =
      (.error (.unexpected .closingBracket .question place), left) := by
  induction t generalizing opened column rest with
  | primitive p => simp [hasTwiceOptionalElement] at hmarks
  | array element nonEmpty ih =>
      rw [arrayDepth] at hdepth
      rw [readType_array_tokensAt stop element nonEmpty (by omega)]
      cases hinner : element.hasTwiceOptionalElement with
      | true =>
          obtain ⟨place, left, hread⟩ := ih (opened + 1) (column + 6) _ (by omega) hinner
          exact ⟨place, left, by rw [hread]; rfl⟩
      | false =>
          rw [hasTwiceOptionalElement, hinner, Bool.or_false] at hmarks
          obtain ⟨mark, behind, hskip, hmark⟩ := skip_marksAt_of_twice hmarks (column + 6)
            (closeAt (column + 6 + element.spelling.length) nonEmpty ++ rest)
          rw [readType_tokensAt stop element (opened + 1) (column + 6) (by omega) hinner rfl rfl,
            hskip]
          exact ⟨mark.span, mark :: behind, by simp [closeReading, closeArray, hmark]⟩
  | optional inner ih =>
      rw [tokensAt, List.append_assoc]
      exact ih opened column _ hdepth hmarks

/-- The name of the array that is one level too deep is the one that is complained about. -/
theorem readType_tokensAt_of_deep (stop : Span) (t : TypeTree) (opened column : Nat)
    (rest : List Token) (hopened : opened ≤ maxNesting)
    (hdepth : maxNesting < opened + t.arrayDepth) :
    ∃ left, readType stop opened (t.tokensAt column ++ rest) =
      (.error (.tooDeep (Span.ofColumns (column + 6 * (maxNesting - opened))
        (column + 6 * (maxNesting - opened) + 4))), left) := by
  induction t generalizing opened column rest with
  | primitive p =>
      rw [arrayDepth] at hdepth
      omega
  | array element nonEmpty ih =>
      rw [arrayDepth] at hdepth
      by_cases hroom : opened < maxNesting
      · have hcolumn : column + 6 + 6 * (maxNesting - (opened + 1)) =
            column + 6 * (maxNesting - opened) := by omega
        obtain ⟨left, hread⟩ := ih (opened + 1) (column + 6) _ hroom (by omega)
        rw [readType_array_tokensAt stop element nonEmpty hroom, hread, hcolumn]
        exact ⟨left, rfl⟩
      · have hcolumn : column + 6 * (maxNesting - opened) = column := by omega
        rw [tokensAt, List.cons_append, List.cons_append, List.append_assoc, hcolumn,
          readType_tooDeep stop (by omega) rfl rfl (startsWith_tokensAt (by simp) element _ _)]
        exact ⟨_, rfl⟩
  | optional inner ih =>
      rw [tokensAt, List.append_assoc]
      exact ih opened column _ hopened hdepth

/-! A declaration that begins with a spelling. -/

theorem tokenize_spelling_append (t : TypeTree) {rest : String}
    (hrest : extendsWord rest.toList = false) :
    tokenize (t.spelling ++ rest) =
      t.tokensAt 1 ++ tokensFrom (1 + t.spelling.length) rest.toList := by
  rw [tokenize, run, ofString, String.toList_append]
  exact tokensFrom_spelling t 1 hrest

theorem tokenize_spelling (t : TypeTree) :
    tokenize t.spelling = t.tokensAt 1 ++ [Token.endAt (1 + t.spelling.length)] := by
  have h := t.tokenize_spelling_append (show extendsWord "".toList = false from rfl)
  rwa [String.append_empty, String.toList_empty, tokensFrom_nil] at h

theorem beforeEnd_tokensAt_append (t : TypeTree) (column : Nat) (rest : List Token) :
    beforeEnd (t.tokensAt column ++ rest) = t.tokensAt column ++ beforeEnd rest := by
  apply List.takeWhile_append_of_pos
  intro token htoken
  rw [isEnd_of_mem_tokensAt htoken]
  rfl

theorem readFirstType_tokensAt (stop : Span) (t : TypeTree) (column : Nat) (rest : List Token) :
    readFirstType stop (t.tokensAt column ++ rest) =
      readType stop 0 (t.tokensAt column ++ rest) := by
  obtain ⟨text, endColumn, behind, h⟩ := t.exists_word_tokensAt column
  rw [h, List.cons_append, readFirstType, fromFirstWord_of_open rfl]

/-- Where a declaration begins with the tokens of a spelling, its type is read from them on. -/
theorem readStructure_of_tokenize {declaration : String} {t : TypeTree} {rest : List Token}
    (h : tokenize declaration = t.tokensAt 1 ++ rest) :
    ∃ stop, readStructure declaration =
      (readType stop 0 (t.tokensAt 1 ++ beforeEnd rest)).1 := by
  have hnext := (Session.next_ofTokens (tokenize declaration)).1
  rw [h, beforeEnd_tokensAt_append, readFirstType_tokensAt, ← h] at hnext
  exact ⟨_, hnext⟩

/-! The word that marks a parameter as optional does not occur in a spelling. -/

/-- The characters with which types are spelled. -/
def alphabet : List Char := "IntStringFloatBooleanFileArray[]+?".toList

theorem spelling_subset_alphabet (t : TypeTree) : t.spelling.toList ⊆ alphabet := by
  induction t with
  | primitive p => cases p <;> decide
  | array element nonEmpty ih =>
      have hopen : (arrayName ++ "[").toList ⊆ alphabet := by decide
      have hclose : ("]" ++ if nonEmpty then "+" else "").toList ⊆ alphabet := by
        cases nonEmpty <;> decide
      rw [spelling, String.append_assoc, String.toList_append, String.toList_append]
      exact List.append_subset.mpr ⟨List.append_subset.mpr ⟨hopen, ih⟩, hclose⟩
  | optional inner ih =>
      rw [spelling, String.toList_append]
      exact List.append_subset.mpr ⟨ih, by decide⟩

theorem mentionsOptional_spelling (t : TypeTree) : mentionsOptional t.spelling = false := by
  apply eq_false_of_ne_true
  intro h
  have hp : 'p' ∈ t.spelling.toList := (occursIn_iff.mp h).subset (by decide)
  exact absurd (t.spelling_subset_alphabet hp) (by decide)

/-- The brackets of a spelling are balanced, so the scan for the word is as deep behind it. -/
theorem marksOptional_tokensAt (t : TypeTree) (column depth : Nat) (rest : List Token) :
    marksOptional depth (t.tokensAt column ++ rest) = marksOptional depth rest := by
  induction t generalizing column depth rest with
  | primitive p =>
      have hname : p.name ≠ optionalWord := by cases p <;> decide
      simp [tokensAt, marksOptional, hname]
  | array element nonEmpty ih =>
      have hname : arrayName ≠ optionalWord := by decide
      cases nonEmpty <;> simp [tokensAt, closeAt, marksOptional, hname, ih]
  | optional inner ih => simp [tokensAt, marksOptional, ih]

theorem isOptional_spelling (scan : OptionalScan) (t : TypeTree) :
    Declaration.isOptional scan t.spelling = false := by
  cases scan with
  | wholeString => exact t.mentionsOptional_spelling
  | bareWord =>
      rw [Declaration.isOptional, tokenize_spelling, marksOptional_tokensAt]
      rfl

theorem interpret_spelling_of_ok (settings : Settings) {t tree : TypeTree}
    (h : readStructure t.spelling = .ok tree) : interpret settings t.spelling = .ok tree := by
  simp [interpret, h, isOptional_spelling]

theorem interpret_spelling_of_error (settings : Settings) {t : TypeTree} {complaint : Complaint}
    (h : readStructure t.spelling = .error complaint) :
    interpret settings t.spelling =
      .error (complaint.toDiagnostic.withDeclaration t.spelling) := by
  simp [interpret, h]

theorem interpret_spelling_unmarked (settings : Settings) {t : TypeTree}
    (hdepth : t.arrayDepth ≤ maxNesting) (hmarks : t.hasTwiceOptionalElement = false) :
    interpret settings t.spelling = .ok t.unmarked := by
  obtain ⟨stop, hread⟩ := readStructure_of_tokenize t.tokenize_spelling
  rw [readType_tokensAt stop t 0 1 (by omega) hmarks rfl rfl] at hread
  exact interpret_spelling_of_ok settings hread

theorem interpret_spelling_of_deep (settings : Settings) {t : TypeTree}
    (hdepth : maxNesting < t.arrayDepth) :
    ∃ d, interpret settings t.spelling = .error d ∧ d.kind = .nestingTooDeep ∧
      d.span = some (Span.ofColumns 769 773) := by
  obtain ⟨stop, hread⟩ := readStructure_of_tokenize t.tokenize_spelling
  obtain ⟨left, hdeep⟩ := readType_tokensAt_of_deep stop t 0 1 _ (Nat.zero_le _) (by omega)
  rw [hdeep] at hread
  exact ⟨_, interpret_spelling_of_error settings hread, rfl, rfl⟩

theorem interpret_spelling_of_twice (settings : Settings) {t : TypeTree}
    (hdepth : t.arrayDepth ≤ maxNesting) (hmarks : t.hasTwiceOptionalElement = true) :
    ∃ d, interpret settings t.spelling = .error d ∧ d.kind = .unexpectedToken := by
  obtain ⟨stop, hread⟩ := readStructure_of_tokenize t.tokenize_spelling
  obtain ⟨place, left, htwice⟩ := readType_tokensAt_of_twice stop t 0 1 _ (by omega) hmarks
  rw [htwice] at hread
  exact ⟨_, interpret_spelling_of_error settings hread, rfl⟩

theorem interpret_spelling_of_isPlain (settings : Settings) {t : TypeTree}
    (hdepth : t.arrayDepth ≤ maxNesting) (hplain : t.isPlain = true) :
    interpret settings t.spelling = .ok t := by
  have h := interpret_spelling_unmarked settings hdepth (hasTwiceOptionalElement_of_isPlain hplain)
  rwa [unmarked_of_isPlain hplain] at h

/-! A spelling with an annotation behind it that marks the parameter as optional. -/

theorem tokensFrom_optionalMark {marking rest : List Char}
    (h : marking = ' ' :: '(' :: (optionalWord.toList ++ rest))
    (hrest : extendsWord rest = false) (column : Nat) :
    tokensFrom column marking =
      ⟨.leftParen, column + 1, column + 1⟩ :: ⟨.word optionalWord, column + 2, column + 9⟩ ::
        tokensFrom (column + 10) rest := by
  have hparen : Lexeme.mark? '(' = some .leftParen := rfl
  rw [h, tokensFrom_cons_of_isBlank (by decide), tokensFrom_mark hparen,
    tokensFrom_word (by decide) hrest]
  rfl

theorem isOptional_spelling_append (scan : OptionalScan) (t : TypeTree) {marking : String}
    {rest : List Char} (h : marking.toList = ' ' :: '(' :: (optionalWord.toList ++ rest))
    (hrest : extendsWord rest = false) :
    Declaration.isOptional scan (t.spelling ++ marking) = true := by
  cases scan with
  | wholeString =>
      refine occursIn_iff.mpr ⟨t.spelling.toList ++ [' ', '('], rest, ?_⟩
      rw [String.toList_append, h]
      simp
  | bareWord =>
      have hword : extendsWord marking.toList = false := by rw [h]; rfl
      rw [Declaration.isOptional, tokenize_spelling_append t hword, tokensFrom_optionalMark h hrest,
        marksOptional_tokensAt]
      simp [marksOptional]

/-- Such a declaration is read as the type without its marks, and the parameter is optional. -/
theorem interpret_spelling_append (settings : Settings) {t : TypeTree}
    (hdepth : t.arrayDepth ≤ maxNesting) (hmarks : t.hasTwiceOptionalElement = false)
    {marking : String} {rest : List Char}
    (h : marking.toList = ' ' :: '(' :: (optionalWord.toList ++ rest))
    (hrest : extendsWord rest = false) :
    interpret settings (t.spelling ++ marking) = .ok (.optional t.unmarked) := by
  have hword : extendsWord marking.toList = false := by rw [h]; rfl
  have htokens := tokenize_spelling_append t hword
  rw [tokensFrom_optionalMark h hrest] at htokens
  obtain ⟨stop, hread⟩ := readStructure_of_tokenize htokens
  rw [readType_tokensAt stop t 0 1 (by omega) hmarks rfl rfl] at hread
  simp [interpret, hread, isOptional_spelling_append _ t h hrest]

theorem interpret_spelling_append_of_isPlain (settings : Settings) {t : TypeTree}
    (hdepth : t.arrayDepth ≤ maxNesting) (hplain : t.isPlain = true) {marking : String}
    {rest : List Char} (h : marking.toList = ' ' :: '(' :: (optionalWord.toList ++ rest))
    (hrest : extendsWord rest = false) :
    interpret settings (t.spelling ++ marking) = .ok (.optional t) := by
  rw [interpret_spelling_append settings hdepth (hasTwiceOptionalElement_of_isPlain hplain) h hrest,
    unmarked_of_isPlain hplain]

/-- A declaration that is the spelling of a type, and nothing else, is refused at the array that is
one level too deep, or else at a second mark behind the element of an array. All others are read
as the type without its marks, and under neither scan is the parameter optional. -/
theorem interpret_spelling (settings : Settings) (t : TypeTree) :
    (maxNesting < t.arrayDepth → ∃ d, interpret settings t.spelling = .error d ∧
      d.kind = .nestingTooDeep ∧ d.span = some (Span.ofColumns 769 773)) ∧
    (t.arrayDepth ≤ maxNesting → t.hasTwiceOptionalElement = true →
      ∃ d, interpret settings t.spelling = .error d ∧ d.kind = .unexpectedToken) ∧
    (t.arrayDepth ≤ maxNesting → t.hasTwiceOptionalElement = false →
      interpret settings t.spelling = .ok t.unmarked) ∧
    (t.arrayDepth ≤ maxNesting → t.isPlain = true → interpret settings t.spelling = .ok t) ∧
    ∀ tree, interpret settings t.spelling = .ok tree → tree.isOptional = false := by
  refine ⟨interpret_spelling_of_deep settings, interpret_spelling_of_twice settings,
    interpret_spelling_unmarked settings, interpret_spelling_of_isPlain settings, ?_⟩
  intro tree htree
  by_cases hdepth : maxNesting < t.arrayDepth
  · obtain ⟨d, herror, -⟩ := interpret_spelling_of_deep settings hdepth
    simp [herror] at htree
  · cases hmarks : t.hasTwiceOptionalElement with
    | true =>
        obtain ⟨d, herror, -⟩ := interpret_spelling_of_twice settings (by omega) hmarks
        simp [herror] at htree
    | false =>
        rw [interpret_spelling_unmarked settings (by omega) hmarks] at htree
        cases htree
        exact isOptional_of_isPlain t.isPlain_unmarked

def nested : Nat → TypeTree
  | 0 => .primitive .int
  | n + 1 => .array (nested n) true

theorem arrayDepth_nested (n : Nat) : (nested n).arrayDepth = n := by
  induction n with
  | zero => rfl
  | succ n ih => rw [nested, arrayDepth, ih]

theorem isPlain_nested (n : Nat) : (nested n).isPlain = true := by
  induction n with
  | zero => rfl
  | succ n ih => exact ih

theorem interpret_spelling_each_case :
    (∃ d, interpret {} (nested 129).spelling = .error d ∧ d.kind = .nestingTooDeep ∧
      d.span = some (Span.ofColumns 769 773)) ∧
    (∃ d, interpret {} (array (optional (optional (nested 1))) false).spelling = .error d ∧
      d.kind = .unexpectedToken) ∧
    interpret {} (optional (optional (array (optional (nested 1)) false))).spelling =
      .ok (array (nested 1) false) ∧
    interpret {} (nested 128).spelling = .ok (nested 128) :=
  ⟨(interpret_spelling {} (nested 129)).1 (by rw [arrayDepth_nested]; decide),
    (interpret_spelling {} (array (optional (optional (nested 1))) false)).2.1 (by decide)
      (by decide),
    (interpret_spelling {} (optional (optional (array (optional (nested 1)) false)))).2.2.1
      (by decide) (by decide),
    (interpret_spelling {} (nested 128)).2.2.2.1 (by rw [arrayDepth_nested]; decide)
      (isPlain_nested 128)⟩

end TypeTree

end WorkflowParams
