import WorkflowParams.Document
import WorkflowParams.Proofs.JsonValues
import WorkflowParams.Proofs.LastWins

/-!
Documents are read as they list their declarations. A document is a text of one object from names to
declarations, in any of the spellings that JSON has for the two and with white space anywhere
between the tokens; what is read from it is what it lists, a repeated name once and with its last
declaration.
-/

namespace WorkflowParams

open Json

namespace Json

/-- The texts of entries in a row. -/
inductive EntriesText : List Char → List (String × String) → Prop
  | last {name cs : List Char} {s text : String} (hname : SpacedText name s)
      (h : SpacedText cs text) : EntriesText (name ++ ':' :: cs) [(s, text)]
  | entry {name cs rest : List Char} {s text : String} {entries : List (String × String)}
      (hname : SpacedText name s) (h : SpacedText cs text) (hrest : EntriesText rest entries) :
      EntriesText (name ++ ':' :: (cs ++ ',' :: rest)) ((s, text) :: entries)

/-- The texts of an object that lists the entries. -/
inductive Lists : List Char → List (String × String) → Prop
  | nothing {before inside after : List Char} (hbefore : Blank before) (hinside : Blank inside)
      (hafter : Blank after) : Lists (before ++ '{' :: (inside ++ '}' :: after)) []
  | entries {before cs after : List Char} {entries : List (String × String)}
      (hbefore : Blank before) (h : EntriesText cs entries) (hafter : Blank after) :
      Lists (before ++ '{' :: (cs ++ '}' :: after)) entries

/-! Reading, one entry at a time. -/

theorem skipSpace_spacedText {cs : List Char} {s : String} (h : SpacedText cs s)
    (rest : List Char) : ∃ quoted behind, skipSpace (cs ++ rest) = '"' :: quoted ∧
      readText quoted = .ok (s, behind) ∧ skipSpace behind = skipSpace rest := by
  obtain ⟨hbefore, htext, hafter⟩ := h
  obtain ⟨quoted, hskip, hread⟩ := skipSpace_quotedText hbefore htext (_ ++ rest)
  refine ⟨quoted, _, ?_, hread, skipSpace_append hafter rest⟩
  rw [List.append_assoc, List.append_assoc]
  exact hskip

theorem readEntry_spacedText {name cs : List Char} {s text : String} (hname : SpacedText name s)
    (h : SpacedText cs text) (rest : List Char) :
    ∃ quoted behind, skipSpace (name ++ ':' :: (cs ++ rest)) = '"' :: quoted ∧
      readEntry quoted = .ok ((s, text), behind) ∧ skipSpace behind = skipSpace rest := by
  obtain ⟨quoted, afterName, hskip, hread, hcolon⟩ :=
    skipSpace_spacedText hname (':' :: (cs ++ rest))
  obtain ⟨quotedText, behind, hskipText, hreadText, hbehind⟩ := skipSpace_spacedText h rest
  refine ⟨quoted, behind, hskip, ?_, hbehind⟩
  rw [skipSpace_cons rfl] at hcolon
  simp only [readEntry, hread, readColon, hcolon, readTextValue, hskipText, hreadText, Except.map]

theorem readEntries_entriesText {cs : List Char} {entries : List (String × String)}
    (h : EntriesText cs entries) (rest : List Char) :
    ∃ quoted, skipSpace (cs ++ '}' :: rest) = '"' :: quoted ∧
      readEntries quoted = .ok (entries, rest) := by
  induction h with
  | last hname htext =>
      obtain ⟨quoted, behind, hskip, hread, hbehind⟩ :=
        readEntry_spacedText hname htext ('}' :: rest)
      refine ⟨quoted, by rw [List.append_assoc, List.cons_append, hskip], ?_⟩
      rw [readEntries, advancing_of_ok hread]
      simp only
      rw [pastSpace_eq (hbehind.trans (skipSpace_cons rfl rest))]
      simp
  | entry hname htext _ ih =>
      obtain ⟨quotedRest, hskipRest, hreadRest⟩ := ih
      obtain ⟨quoted, behind, hskip, hread, hbehind⟩ :=
        readEntry_spacedText hname htext (',' :: (_ ++ '}' :: rest))
      refine ⟨quoted, by simpa using hskip, ?_⟩
      rw [readEntries, advancing_of_ok hread]
      simp only
      rw [pastSpace_eq (hbehind.trans (skipSpace_cons rfl _))]
      simp only [Char.reduceEq, if_true, if_false]
      rw [pastSpace_eq hskipRest]
      simp [hreadRest, Except.map]

theorem skipSpace_blank {cs : List Char} (h : Blank cs) : skipSpace cs = [] := by
  rw [← List.append_nil cs, skipSpace_append h]
  rfl

theorem readTextObject_lists {cs : List Char} {entries : List (String × String)}
    (h : Lists cs entries) : readTextObject cs = .ok entries := by
  cases h with
  | nothing hbefore hinside hafter =>
      simp only [readTextObject, readObject, skipSpace_append hbefore, skipSpace_append hinside,
        skipSpace_blank hafter, skipSpace_cons (c := '{') rfl, skipSpace_cons (c := '}') rfl]
  | @entries before inside after _ hbefore hentries hafter =>
      obtain ⟨quoted, hskip, hread⟩ := readEntries_entriesText hentries after
      simp only [readTextObject, readObject, skipSpace_append hbefore, hskip, hread,
        skipSpace_blank hafter, skipSpace_cons (c := '{') rfl]

/-! Writing lists what it is given. -/

/-- The object that has the entries as its members. -/
def textObject (entries : List (String × String)) : Value :=
  .object (entries.map fun entry => (entry.1, .text entry.2))

theorem entriesText_writeMembers (layout : Layout) (level : Nat) {after : List Char}
    (hafter : Blank after) (entries : List (String × String)) {s : String} (text : String)
    {name before : List Char} (hname : SpacedText name s) (hbefore : Blank before) :
    EntriesText
      (name ++ ':' :: (before ++ quote text ++
        (Value.writeMembers layout level (entries.map fun entry => (entry.1, .text entry.2)) ++
          after)))
      ((s, text) :: entries) := by
  induction entries generalizing s text name before with
  | nil =>
      rw [List.map_nil, Value.writeMembers, List.nil_append, List.append_assoc]
      exact .last hname (spacedText_quote hbefore text hafter)
  | cons entry entries ih =>
      obtain ⟨space, hspace, hcolon⟩ := exists_colon layout
      have hnext := spacedText_quote (blank_lineBreak layout level) entry.1 blank_nil
      have hvalue := spacedText_quote hbefore text blank_nil
      have hentry := EntriesText.entry hname hvalue (ih entry.2 hnext hspace)
      rw [List.map_cons, Value.writeMembers, Value.write, hcolon]
      simpa using hentry

theorem lists_write (layout : Layout) (level : Nat) (entries : List (String × String)) :
    Lists ((textObject entries).write layout level) entries := by
  cases entries with
  | nil => exact .nothing blank_nil blank_nil blank_nil
  | cons entry entries =>
      obtain ⟨space, hspace, hcolon⟩ := exists_colon layout
      have hname := spacedText_quote (blank_lineBreak layout (level + 1)) entry.1 blank_nil
      have hentries := entriesText_writeMembers layout (level + 1) (blank_lineBreak layout level)
        entries entry.2 hname hspace
      have hlists := Lists.entries blank_nil hentries blank_nil
      rw [textObject, List.map_cons, Value.write, Value.write, hcolon]
      simpa using hlists

end Json

namespace Document

/-- What is written for pairs lists them, and from any text that lists them they are read back: each
name where it first stands, with the last of its declarations. -/
theorem read_lists (pairs : List (String × String)) :
    (∀ layout level, Lists ((textObject pairs).write layout level) pairs) ∧
    ∀ document : String, Lists document.toList pairs →
      ∃ declarations, read document = .ok declarations ∧
        Keyed.LastWins pairs declarations.entries ∧
        ((pairs.map Prod.fst).Nodup → declarations.entries = pairs) := by
  refine ⟨fun layout level => lists_write layout level pairs, ?_⟩
  intro document h
  refine ⟨Keyed.ofList pairs, ?_, Keyed.lastWins_ofList pairs, Keyed.entries_ofList_of_nodup⟩
  rw [read, readTextObject_lists h]

/-- A name is the same in each of its spellings. -/
theorem read_lists_of_repeated_name :
    Lists "\x7b\"a\":\"Int\" ,\t\"b\\\"\": \"File?\",\r\n\"\\u0061\":\"\\ud83d\\uDE00\"\x7d\n".toList
      [("a", "Int"), ("b\"", "File?"), ("a", "😀")] ∧
    ∃ declarations,
      read "\x7b\"a\":\"Int\" ,\t\"b\\\"\": \"File?\",\r\n\"\\u0061\":\"\\ud83d\\uDE00\"\x7d\n" =
        .ok declarations ∧
      declarations.entries = [("a", "😀"), ("b\"", "File?")] := by
  have hletter : HexDigits ['0', '0', '6', '1'] 0x61 :=
    @HexDigits.mk _ _ _ _ 0 0 6 1 rfl rfl rfl rfl
  have hhigh : HexDigits ['d', '8', '3', 'd'] (0xD800 + 0x3D) :=
    @HexDigits.mk _ _ _ _ 13 8 3 13 rfl rfl rfl rfl
  have hlow : HexDigits ['D', 'E', '0', '0'] (0xDC00 + 0x200) :=
    @HexDigits.mk _ _ _ _ 13 14 0 0 rfl rfl rfl rfl
  have hname : QuotedText _ "a" := .mk (.cons (.unit hletter) .nil)
  have hface : QuotedText _ "😀" :=
    .mk (.cons (.pair hhigh hlow (by decide) (by decide) rfl) .nil)
  have hspace : Blank [' '] := by decide
  have htab : Blank ['\t'] := by decide
  have hbreak : Blank ['\r', '\n'] := by decide
  have hend : Blank ['\n'] := by decide
  have hlists := Lists.entries blank_nil
    (.entry (spacedText_quote blank_nil "a" blank_nil) (spacedText_quote blank_nil "Int" hspace)
      (.entry (spacedText_quote htab "b\"" blank_nil) (spacedText_quote hspace "File?" blank_nil)
        (.last (.mk hbreak hname blank_nil) (.mk blank_nil hface blank_nil)))) hend
  obtain ⟨declarations, hread, hlast, -⟩ := (read_lists
    [("a", "Int"), ("b\"", "File?"), ("a", "😀")]).2
    "\x7b\"a\":\"Int\" ,\t\"b\\\"\": \"File?\",\r\n\"\\u0061\":\"\\ud83d\\uDE00\"\x7d\n" hlists
  refine ⟨hlists, declarations, hread, ?_⟩
  refine hlast.eq ⟨by decide, ?_⟩ declarations.nodup
  intro name
  by_cases ha : name = "a" <;> simp [Keyed.lookup_pair_cons, ha]

end Document

end WorkflowParams
