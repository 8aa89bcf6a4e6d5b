import WorkflowParams.Diagnostic.Layout

/-!
Colour adds to a laid-out diagnostic and changes nothing in it. To a terminal a text is a row of
signals: characters that it shows, and sequences that select the style of what follows. The painted
layout has the characters of the plain one, and its sequences come in pairs of one that selects a
style and one that gives it up, so that no style is selected within another.
-/

namespace WorkflowParams

namespace Terminal

inductive Signal where
  | glyph (c : Char)
  | style (parameters : List Char)
  deriving DecidableEq, Repr

namespace Signal

def glyph? : Signal → Option Char
  | .glyph c => some c
  | .style _ => none

def style? : Signal → Option (List Char)
  | .glyph _ => none
  | .style parameters => some parameters

end Signal

theorem glyphs_map_glyph (text : List Char) :
    (text.map Signal.glyph).filterMap Signal.glyph? = text := by
  rw [List.filterMap_map]
  exact List.filterMap_some

theorem styles_map_glyph (text : List Char) :
    (text.map Signal.glyph).filterMap Signal.style? = [] := by
  simp [List.filterMap_eq_nil_iff, Signal.style?]

/-! The signals of a text. -/

def isParameter (c : Char) : Bool := c.isDigit || c = ';'

/-- The parameters of the sequence that a text begins with, if it begins with one. -/
def sequence? : List Char → Option (List Char)
  | '\x1b' :: '[' :: cs =>
    if (cs.dropWhile isParameter).head? = some 'm' then some (cs.takeWhile isParameter) else none
  | _ => none

/-- The signals of a text from left to right. A sequence has an escape and a bracket in front of its
parameters and a letter behind them. -/
def signals : List Char → List Signal
  | [] => []
  | c :: cs =>
    match sequence? (c :: cs) with
    | some parameters => .style parameters :: signals (cs.drop (parameters.length + 2))
    | none => .glyph c :: signals cs
termination_by text => text.length
decreasing_by all_goals grind

/-- What a terminal shows of a text. -/
def shown (text : String) : String := String.ofList ((signals text.toList).filterMap Signal.glyph?)

/-- The parameters of the sequences in a text. -/
def styles (text : String) : List (List Char) := (signals text.toList).filterMap Signal.style?

theorem signals_cons {c : Char} (h : c ≠ '\x1b') (cs : List Char) :
    signals (c :: cs) = .glyph c :: signals cs := by
  simp [signals, sequence?, h]

theorem signals_append {text : List Char} (h : '\x1b' ∉ text) (rest : List Char) :
    signals (text ++ rest) = text.map .glyph ++ signals rest := by
  induction text with
  | nil => rfl
  | cons c text ih =>
      rw [List.mem_cons, not_or] at h
      rw [List.cons_append, signals_cons (Ne.symm h.1), ih h.2]
      rfl

theorem signals_sequence {parameters : List Char} (h : parameters.all isParameter = true)
    (rest : List Char) :
    signals ('\x1b' :: '[' :: (parameters ++ 'm' :: rest)) = .style parameters :: signals rest := by
  have hsequence : sequence? ('\x1b' :: '[' :: (parameters ++ 'm' :: rest)) = some parameters := by
    rw [List.all_eq_true] at h
    simp [sequence?, List.dropWhile_append_of_pos h, List.takeWhile_append_of_pos h, isParameter]
  have hbehind : ('[' :: (parameters ++ 'm' :: rest)).drop (parameters.length + 2) = rest := by
    simp
  simp only [signals, hsequence, hbehind]

/-- Whether a sequence selects a style: none of its parameters is the zero that gives up all
styles, as one that is left out does too. -/
def selects (parameters : List Char) : Bool :=
  (parameters.splitOn ';').all (·.any (· ≠ '0'))

/-- Each style is given up before the next one is selected, and the last one too. -/
inductive Alternating : List (List Char) → Prop
  | nil : Alternating []
  | cons {opening : List Char} {rest : List (List Char)} (h : selects opening = true)
      (hrest : Alternating rest) : Alternating (opening :: ['0'] :: rest)

theorem Alternating.append {xs ys : List (List Char)} (hxs : Alternating xs)
    (hys : Alternating ys) : Alternating (xs ++ ys) := by
  induction hxs with
  | nil => exact hys
  | cons h _ ih => exact .cons h ih

end Terminal

open Terminal

namespace Diagnostic

/-! The signals of a piece. -/

theorem Ink.of_code? {ink : Ink} {code : String} (h : ink.code? = some code) :
    code.toList.all isParameter = true ∧ selects code.toList = true := by
  cases ink <;> cases h <;> decide

namespace Piece

def signals (p : Piece) : List Signal :=
  match p.ink.code? with
  | some code => .style code.toList :: (p.text.toList.map .glyph ++ [.style ['0']])
  | none => p.text.toList.map .glyph

theorem signals_painted {p : Piece} (h : '\x1b' ∉ p.text.toList) (rest : List Char) :
    Terminal.signals (p.painted.toList ++ rest) = p.signals ++ Terminal.signals rest := by
  rw [painted, signals]
  cases hcode : p.ink.code? with
  | none => exact signals_append h rest
  | some code =>
      have hpainted : ("\x1b[" ++ code ++ "m" ++ p.text ++ "\x1b[0m").toList ++ rest =
          '\x1b' :: '[' :: (code.toList ++ 'm' :: (p.text.toList ++
            '\x1b' :: '[' :: (['0'] ++ 'm' :: rest))) := by
        simp
      rw [hpainted, signals_sequence (Ink.of_code? hcode).1, signals_append h,
        signals_sequence (by decide)]
      simp

theorem glyphs_signals (p : Piece) : p.signals.filterMap Signal.glyph? = p.text.toList := by
  rw [signals]
  split
  · rw [List.filterMap_cons_none rfl, List.filterMap_append, glyphs_map_glyph]
    exact List.append_nil _
  · exact glyphs_map_glyph p.text.toList

theorem alternating_signals (p : Piece) : Alternating (p.signals.filterMap Signal.style?) := by
  rw [signals]
  split
  · next code hcode =>
      have hstyles : (Signal.style code.toList ::
          (p.text.toList.map Signal.glyph ++ [.style ['0']])).filterMap Signal.style? =
            [code.toList, ['0']] := by
        simp [Signal.style?]
      rw [hstyles]
      exact .cons (Ink.of_code? hcode).2 .nil
  · rw [styles_map_glyph]
    exact .nil

end Piece

/-! The signals of a layout. -/

/-- The texts that a layout is made of, up to its own. -/
def texts (d : Diagnostic) (file : Option String) : List String :=
  d.message :: (file.toList ++ d.declaration.toList ++ d.note.toList ++ d.help.toList)

theorem escape_not_mem_title (kind : Kind) : '\x1b' ∉ kind.title.toList := by
  cases kind <;> decide

theorem escape_not_mem_remark {ink : Ink} {label text : String} (hlabel : '\x1b' ∉ label.toList)
    (htext : '\x1b' ∉ text.toList) : ∀ p ∈ remark ink label text, '\x1b' ∉ p.text.toList := by
  simp [remark, plain, hlabel, htext]

theorem escape_not_mem_snippet {declaration : String} (h : '\x1b' ∉ declaration.toList)
    (span : Option Span) : ∀ p ∈ snippet declaration span, '\x1b' ∉ p.text.toList := by
  cases span <;> simp [snippet, caretLine, plain, h]

theorem escape_not_mem_pieces {d : Diagnostic} {file : Option String}
    (h : ∀ text ∈ d.texts file, '\x1b' ∉ text.toList) :
    ∀ p ∈ d.pieces file, '\x1b' ∉ p.text.toList := by
  simp only [texts, List.forall_mem_cons, List.forall_mem_append, Option.mem_toList] at h
  obtain ⟨hmessage, ⟨⟨hfile, hdeclaration⟩, hnote⟩, hhelp⟩ := h
  simp only [pieces, List.forall_mem_append]
  refine ⟨⟨⟨⟨?_, ?_⟩, ?_⟩, ?_⟩, ?_⟩
  · cases file with
    | none => simp
    | some name => simp [plain, hfile name rfl]
  · simp [plain, hmessage, escape_not_mem_title]
  · cases hd : d.declaration with
    | none => simp
    | some declaration => exact escape_not_mem_snippet (hdeclaration _ hd) d.span
  · cases hn : d.note with
    | none => simp
    | some note => exact escape_not_mem_remark (by decide) (hnote _ hn)
  · cases hh : d.help with
    | none => simp
    | some help => exact escape_not_mem_remark (by decide) (hhelp _ hh)

theorem signals_flatMap_painted {pieces : List Piece}
    (h : ∀ p ∈ pieces, '\x1b' ∉ p.text.toList) :
    signals (pieces.flatMap (·.painted.toList)) = pieces.flatMap Piece.signals := by
  induction pieces with
  | nil => simp [signals]
  | cons p pieces ih =>
      obtain ⟨hp, hpieces⟩ := List.forall_mem_cons.mp h
      rw [List.flatMap_cons, List.flatMap_cons, Piece.signals_painted hp, ih hpieces]

theorem signals_layout {d : Diagnostic} {file : Option String}
    (h : ∀ text ∈ d.texts file, '\x1b' ∉ text.toList) :
    signals (d.layout file true).toList = (d.pieces file).flatMap Piece.signals := by
  rw [layout, String.toList_join, List.flatMap_map]
  exact signals_flatMap_painted (escape_not_mem_pieces h)

theorem alternating_flatMap_signals (pieces : List Piece) :
    Alternating ((pieces.flatMap Piece.signals).filterMap Signal.style?) := by
  induction pieces with
  | nil => exact .nil
  | cons p pieces ih =>
      rw [List.flatMap_cons, List.filterMap_append]
      exact p.alternating_signals.append ih

/-- The layout of a diagnostic shows the same with colour as without, as long as no text in it has
sequences of its own. Those that colour adds alternate: each style is given up before the next one
is selected, and none is left at the end. -/
theorem layout_coloured {d : Diagnostic} {file : Option String}
    (h : ∀ text ∈ d.texts file, '\x1b' ∉ text.toList) :
    shown (d.layout file true) = d.layout file false ∧ Alternating (styles (d.layout file true)) := by
  constructor
  · rw [shown, signals_layout h, List.filterMap_flatMap, layout]
    simp only [Piece.glyphs_signals]
    rw [← String.toList_inj, String.toList_ofList, String.toList_join, List.flatMap_map]
    rfl
  · rw [styles, signals_layout h]
    exact alternating_flatMap_signals _

/-- Texts that would go on with a sequence, or look like one but for the escape. -/
theorem layout_coloured_of_lookalikes :
    let d : Diagnostic :=
      { kind := .unexpectedToken, message := "[0m", span := some (.single 2)
        declaration := some "1;31m", note := some "" }
    (∀ text ∈ d.texts (some ";4m"), '\x1b' ∉ text.toList) ∧
      shown (d.layout (some ";4m") true) =
        ";4m: unexpected token: [0m\n  | 1;31m\n  |  ^\nnote: " ∧
      Alternating (styles (d.layout (some ";4m") true)) := by
  intro d
  have htexts : ∀ text ∈ d.texts (some ";4m"), '\x1b' ∉ text.toList := by decide
  obtain ⟨hshown, hstyles⟩ := layout_coloured htexts
  refine ⟨htexts, hshown.trans ?_, hstyles⟩
  decide +kernel

end Diagnostic

end WorkflowParams
