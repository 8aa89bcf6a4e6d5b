import WorkflowParams.Document
import WorkflowParams.Proofs.JsonValues
import WorkflowParams.Proofs.LastWins
import WorkflowParams.Text.Blank

/-!
The two layouts of a value differ in white space alone, and only in white space that stands outside
quoted text: without it, an indented text is the compact one. A document of definitions so falls
apart into the compact texts of the definitions, whatever blanks and quotes their names and
defaults hold.
-/

namespace WorkflowParams

open Json

namespace Json

open WorkflowParams.Text WorkflowParams.Decimal

/-- Where in a JSON text a character stands: outside quoted text, within it, or in it behind a
backslash. -/
inductive Place where
  | outside
  | quoted
  | escaped
  deriving DecidableEq, Repr

/-- The place behind a character. -/
def Place.next : Place → Char → Place
  | .outside, c => if c = '"' then .quoted else .outside
  | .quoted, c => if c = '"' then .outside else if c = '\\' then .escaped else .quoted
  | .escaped, _ => .quoted

/-- A text that begins at a place, without the white space that stands outside quoted text. -/
def unspacedFrom (place : Place) : List Char → List Char
  | [] => []
  | c :: cs =>
    if place = .outside && isBlank c then unspacedFrom place cs
    else c :: unspacedFrom (place.next c) cs

def unspaced (text : String) : String := String.ofList (unspacedFrom .outside text.toList)

/-! Text outside quotes. -/

theorem unspacedFrom_blank {c : Char} (h : isBlank c = true) (cs : List Char) :
    unspacedFrom .outside (c :: cs) = unspacedFrom .outside cs := by
  simp [unspacedFrom, h]

/-- Whether a character outside quotes stays and leaves what follows outside. -/
def isSolid (c : Char) : Bool := !(isBlank c || c = '"')

theorem unspacedFrom_solid {c : Char} (h : isSolid c = true) (cs : List Char) :
    unspacedFrom .outside (c :: cs) = c :: unspacedFrom .outside cs := by
  simp only [isSolid, Bool.not_eq_true', Bool.or_eq_false_iff, decide_eq_false_iff_not] at h
  simp [unspacedFrom, Place.next, h]

theorem unspacedFrom_append_of_blank {blanks : List Char} (h : ∀ c ∈ blanks, isBlank c = true)
    (cs : List Char) : unspacedFrom .outside (blanks ++ cs) = unspacedFrom .outside cs := by
  induction blanks with
  | nil => rfl
  | cons c blanks ih =>
      rw [List.cons_append, unspacedFrom_blank (h c (by simp)), ih fun d hd => h d (by simp [hd])]

theorem unspacedFrom_append_of_solid {text : List Char} (h : text.all isSolid = true)
    (cs : List Char) :
    unspacedFrom .outside (text ++ cs) = text ++ unspacedFrom .outside cs := by
  induction text with
  | nil => rfl
  | cons c text ih =>
      rw [List.all_cons, Bool.and_eq_true] at h
      rw [List.cons_append, unspacedFrom_solid h.1, ih h.2, List.cons_append]

theorem unspacedFrom_lineBreak (layout : Layout) (depth : Nat) (cs : List Char) :
    unspacedFrom .outside (layout.lineBreak depth ++ cs) = unspacedFrom .outside cs := by
  apply unspacedFrom_append_of_blank
  cases layout with
  | compact => simp [Layout.lineBreak]
  | indented =>
      intro c hc
      rw [Layout.lineBreak, List.mem_cons] at hc
      obtain rfl | hc := hc
      · decide
      · rw [List.eq_of_mem_replicate hc]
        decide

theorem unspacedFrom_colon (layout : Layout) (cs : List Char) :
    unspacedFrom .outside (layout.colon ++ cs) = ':' :: unspacedFrom .outside cs := by
  cases layout with
  | compact => exact unspacedFrom_solid (by decide) cs
  | indented =>
      have hspace : unspacedFrom .outside (' ' :: cs) = unspacedFrom .outside cs :=
        unspacedFrom_blank (by decide) cs
      rw [← hspace]
      exact unspacedFrom_solid (by decide) (' ' :: cs)

/-! Quoted text. -/

theorem unspacedFrom_escape (c : Char) (cs : List Char) :
    unspacedFrom .quoted ('\\' :: c :: cs) = '\\' :: c :: unspacedFrom .quoted cs := rfl

theorem unspacedFrom_within {c : Char} (hquote : c ≠ '"') (hbackslash : c ≠ '\\')
    (cs : List Char) : unspacedFrom .quoted (c :: cs) = c :: unspacedFrom .quoted cs := by
  simp [unspacedFrom, Place.next, hquote, hbackslash]

theorem unspacedFrom_hexDigit {n : Nat} (h : n < 16) (cs : List Char) :
    unspacedFrom .quoted (hexDigit n :: cs) = hexDigit n :: unspacedFrom .quoted cs := by
  have hdigits : ∀ n < 16, hexDigit n ≠ '"' ∧ hexDigit n ≠ '\\' := by decide
  exact unspacedFrom_within (hdigits n h).1 (hdigits n h).2 cs

theorem unspacedFrom_escapeChar (c : Char) (cs : List Char) :
    unspacedFrom .quoted (escapeChar c ++ cs) = escapeChar c ++ unspacedFrom .quoted cs := by
  rw [escapeChar.eq_def]
  split
  case h_8 =>
    split
    · next hcontrol =>
        simp only [List.cons_append, List.nil_append]
        rw [unspacedFrom_escape, ← hexDigit_zero, unspacedFrom_hexDigit (by omega),
          unspacedFrom_hexDigit (by omega), unspacedFrom_hexDigit (by omega),
          unspacedFrom_hexDigit (by omega)]
    · next hquote hbackslash _ _ _ _ _ _ => exact unspacedFrom_within hquote hbackslash cs
  all_goals rfl

theorem unspacedFrom_flatMap_escapeChar (characters cs : List Char) :
    unspacedFrom .quoted (characters.flatMap escapeChar ++ '"' :: cs) =
      characters.flatMap escapeChar ++ '"' :: unspacedFrom .outside cs := by
  induction characters with
  | nil => rfl
  | cons c characters ih =>
      rw [List.flatMap_cons, List.append_assoc, unspacedFrom_escapeChar, ih, List.append_assoc]

theorem unspacedFrom_quote (s : String) (cs : List Char) :
    unspacedFrom .outside (quote s ++ cs) = quote s ++ unspacedFrom .outside cs := by
  have hinside := unspacedFrom_flatMap_escapeChar s.toList cs
  simp only [quote, List.cons_append, List.append_assoc, List.nil_append]
  rw [← hinside]
  rfl

/-! Numbers. -/

/-- Whether a character may occur in a number. -/
def occursInNumber (c : Char) : Bool := c.isDigit || ['-', '+', '.', 'e'].contains c

theorem isSolid_of_occursInNumber {c : Char} (h : occursInNumber c = true) :
    isSolid c = true := by
  rw [occursInNumber, Bool.or_eq_true, List.contains_iff_mem] at h
  obtain hdigit | hmark := h
  · have hrange : 48 ≤ c.toNat ∧ c.toNat ≤ 57 := by
      simpa [Char.isDigit, UInt32.le_iff_toNat_le] using hdigit
    have hblank : isBlank c = false := by
      apply eq_false_of_ne_true
      intro hblank
      have hgap := toNat_of_isBlank hblank
      omega
    have hquote : c ≠ '"' := by
      rintro rfl
      exact absurd hdigit (by decide)
    simp [isSolid, hblank, hquote]
  · have hmarks : ['-', '+', '.', 'e'].all isSolid = true := by decide
    exact List.all_eq_true.mp hmarks c hmark

theorem occursInNumber_of_mem_toDigits {n : Nat} {c : Char} (h : c ∈ Nat.toDigits 10 n) :
    occursInNumber c = true := by
  simp [occursInNumber, isDigit_of_mem_toDigits h]

theorem occursInNumber_of_mem_writeInteger {n : Int} {c : Char} (h : c ∈ writeInteger n) :
    occursInNumber c = true := by
  rw [writeInteger] at h
  split at h
  · obtain rfl | h := List.mem_cons.mp h
    · decide
    · exact occursInNumber_of_mem_toDigits h
  · exact occursInNumber_of_mem_toDigits h

theorem occursInNumber_of_mem_plain {digits : List Char} (power : Int)
    (hdigits : ∀ c ∈ digits, occursInNumber c = true) :
    ∀ c ∈ Style.plain digits power, occursInNumber c = true := by
  have hzeros : ∀ n, ∀ c ∈ List.replicate n '0', occursInNumber c = true := by
    intro n c hc
    rw [List.eq_of_mem_replicate hc]
    decide
  rw [Style.plain]
  split
  · have htake := fun c hc => hdigits c (List.mem_of_mem_take (i := power.toNat + 1) hc)
    have hdrop := fun c hc => hdigits c (List.mem_of_mem_drop (i := power.toNat + 1) hc)
    simp only [List.forall_mem_append, List.forall_mem_cons]
    refine ⟨⟨htake, hzeros _⟩, by decide, ?_⟩
    split
    · exact List.all_eq_true.mp (by decide)
    · exact hdrop
  · simp only [List.cons_append, List.forall_mem_append, List.forall_mem_cons]
    exact ⟨by decide, by decide, hzeros _, hdigits⟩

theorem occursInNumber_of_mem_scientific {digits : List Char} (power : Int)
    (hdigits : ∀ c ∈ digits, occursInNumber c = true) :
    ∀ c ∈ Style.scientific digits power, occursInNumber c = true := by
  have hsign : occursInNumber (if power < 0 then '-' else '+') = true := by split <;> decide
  have hexponent : ∀ c ∈ Nat.toDigits 10 power.natAbs, occursInNumber c = true :=
    fun _ => occursInNumber_of_mem_toDigits
  rw [Style.scientific.eq_def]
  simp only
  split
  · simp
  · simp only [List.forall_mem_cons] at hdigits ⊢
    exact ⟨hdigits.1, by decide, hsign, hexponent⟩
  · simp only [List.cons_append, List.forall_mem_append, List.forall_mem_cons] at hdigits ⊢
    exact ⟨hdigits.1, by decide, hdigits.2, by decide, hsign, hexponent⟩

theorem occursInNumber_of_mem_write {style : Style} {x : Double} :
    ∀ c ∈ style.write x, occursInNumber c = true := by
  have hsignificant : ∀ c ∈ Style.significant (Nat.toDigits 10 x.shortest.digits),
      occursInNumber c = true := by
    intro c hc
    rw [Style.significant, List.mem_reverse] at hc
    have hdigit := (List.dropWhile_sublist _).mem hc
    exact occursInNumber_of_mem_toDigits (List.mem_reverse.mp hdigit)
  have hmagnitude : ∀ c ∈ style.magnitude x, occursInNumber c = true := by
    rw [Style.magnitude]
    split
    · exact List.all_eq_true.mp (by decide)
    · simp only
      split
      · exact occursInNumber_of_mem_plain _ hsignificant
      · exact occursInNumber_of_mem_scientific _ hsignificant
  rw [Style.write]
  split
  · rw [List.forall_mem_cons]
    exact ⟨by decide, hmagnitude⟩
  · exact hmagnitude

theorem unspacedFrom_number {text : List Char} (h : ∀ c ∈ text, occursInNumber c = true)
    (cs : List Char) : unspacedFrom .outside (text ++ cs) = text ++ unspacedFrom .outside cs :=
  unspacedFrom_append_of_solid
    (List.all_eq_true.mpr fun c hc => isSolid_of_occursInNumber (h c hc)) cs

namespace Value

mutual

/-- Without its white space a text is the compact one, in either layout and at any depth. -/
theorem unspacedFrom_write : ∀ (v : Value) (layout : Layout) (level level' : Nat)
    (rest : List Char), unspacedFrom .outside (v.write layout level ++ rest) =
      v.write .compact level' ++ unspacedFrom .outside rest
  | .null, _, _, _, rest => by
      rw [write, write]
      exact unspacedFrom_append_of_solid (by decide) rest
  | .boolean true, _, _, _, rest => by
      rw [write, write]
      exact unspacedFrom_append_of_solid (by decide) rest
  | .boolean false, _, _, _, rest => by
      rw [write, write]
      exact unspacedFrom_append_of_solid (by decide) rest
  | .integer n, _, _, _, rest =>
      unspacedFrom_number (fun _ => occursInNumber_of_mem_writeInteger) rest
  | .double x, _, _, _, rest => unspacedFrom_number occursInNumber_of_mem_write rest
  | .text s, _, _, _, rest => unspacedFrom_quote s rest
  | .array [], _, _, _, rest => by
      rw [write, write]
      exact unspacedFrom_append_of_solid (by decide) rest
  | .array (item :: items), layout, level, level', rest => by
      rw [write, write_array_append, List.cons_append, unspacedFrom_solid (by decide)]
      simp only [List.append_assoc]
      rw [unspacedFrom_lineBreak,
        unspacedFrom_write item layout (level + 1) (level' + 1),
        unspacedFrom_writeItems items layout (level + 1) (level' + 1), unspacedFrom_lineBreak,
        List.singleton_append, unspacedFrom_solid (by decide)]
  | .object [], _, _, _, rest => by
      rw [write, write]
      exact unspacedFrom_append_of_solid (by decide) rest
  | .object ((name, value) :: members), layout, level, level', rest => by
      rw [write, write_object_append, List.cons_append, unspacedFrom_solid (by decide)]
      simp only [List.append_assoc]
      rw [unspacedFrom_lineBreak, unspacedFrom_quote, unspacedFrom_colon,
        unspacedFrom_write value layout (level + 1) (level' + 1),
        unspacedFrom_writeMembers members layout (level + 1) (level' + 1), unspacedFrom_lineBreak,
        List.singleton_append, unspacedFrom_solid (by decide)]

theorem unspacedFrom_writeItems : ∀ (items : List Value) (layout : Layout) (level level' : Nat)
    (rest : List Char), unspacedFrom .outside (writeItems layout level items ++ rest) =
      writeItems .compact level' items ++ unspacedFrom .outside rest
  | [], _, _, _, _ => by rw [writeItems, writeItems, List.nil_append, List.nil_append]
  | item :: items, layout, level, level', rest => by
      rw [writeItems, writeItems_append, List.cons_append, unspacedFrom_solid (by decide)]
      simp only [List.append_assoc]
      rw [unspacedFrom_lineBreak, unspacedFrom_write item layout level level',
        unspacedFrom_writeItems items layout level level']

theorem unspacedFrom_writeMembers : ∀ (members : List (String × Value)) (layout : Layout)
    (level level' : Nat) (rest : List Char),
    unspacedFrom .outside (writeMembers layout level members ++ rest) =
      writeMembers .compact level' members ++ unspacedFrom .outside rest
  | [], _, _, _, _ => by rw [writeMembers, writeMembers, List.nil_append, List.nil_append]
  | (name, value) :: members, layout, level, level', rest => by
      rw [writeMembers, writeMembers_append, List.cons_append, unspacedFrom_solid (by decide)]
      simp only [List.append_assoc]
      rw [unspacedFrom_lineBreak, unspacedFrom_quote, unspacedFrom_colon,
        unspacedFrom_write value layout level level',
        unspacedFrom_writeMembers members layout level level']

end

theorem unspaced_pretty (v : Value) : unspaced v.pretty = v.compact := by
  have h := unspacedFrom_write v .indented 0 0 []
  rw [List.append_nil, unspacedFrom, List.append_nil] at h
  rw [unspaced, pretty, String.toList_ofList, h, compact]

/-! Compact texts of containers, put together from those of their parts. -/

theorem toList_compact (v : Value) (level : Nat) : v.compact.toList = v.write .compact level := by
  have h := unspacedFrom_write v .compact 0 level []
  rw [unspacedFrom_write v .compact 0 0 []] at h
  rw [compact, String.toList_ofList]
  exact List.append_cancel_right h

theorem write_writeItems (item : Value) (items : List Value) (level : Nat) :
    item.write .compact level ++ writeItems .compact level items =
      [','].intercalate ((item :: items).map fun v => v.compact.toList) := by
  induction items generalizing item with
  | nil => simp [writeItems, toList_compact _ level]
  | cons next items ih =>
      have hnext := ih next
      rw [List.map_cons] at hnext
      rw [List.map_cons, List.map_cons, List.intercalate_cons_cons, ← hnext,
        toList_compact item level]
      simp [writeItems, Layout.lineBreak]

/-- The compact text of a member of an object. -/
def memberText (member : String × Value) : String :=
  (text member.1).compact ++ ":" ++ member.2.compact

theorem toList_memberText (member : String × Value) (level : Nat) :
    (memberText member).toList = quote member.1 ++ ':' :: member.2.write .compact level := by
  rw [memberText, String.toList_append, String.toList_append, toList_compact _ level,
    toList_compact _ level, write]
  simp

theorem write_writeMembers (member : String × Value) (members : List (String × Value))
    (level : Nat) :
    quote member.1 ++ ':' :: (member.2.write .compact level ++
        writeMembers .compact level members) =
      [','].intercalate ((member :: members).map fun member => (memberText member).toList) := by
  induction members generalizing member with
  | nil => simp [writeMembers, toList_memberText _ level]
  | cons next members ih =>
      have hnext := ih next
      rw [List.map_cons] at hnext
      rw [List.map_cons, List.map_cons, List.intercalate_cons_cons, ← hnext,
        toList_memberText member level]
      simp [writeMembers, Layout.lineBreak, Layout.colon]

theorem compact_array (items : List Value) :
    (array items).compact = "[" ++ ",".intercalate (items.map compact) ++ "]" := by
  apply String.toList_injective
  simp only [String.toList_append, String.toList_intercalate, List.map_map]
  cases items with
  | nil => rfl
  | cons item items =>
      have htext := write_array_append item items 0 []
      rw [List.append_nil, ← List.append_assoc, write_writeItems] at htext
      rw [toList_compact _ 0, htext]
      rfl

theorem compact_object (members : List (String × Value)) :
    (object members).compact = "\x7b" ++ ",".intercalate (members.map memberText) ++ "\x7d" := by
  apply String.toList_injective
  simp only [String.toList_append, String.toList_intercalate, List.map_map]
  cases members with
  | nil => rfl
  | cons member members =>
      have htext := write_object_append member.1 member.2 members 0 []
      have hmembers := congrArg (· ++ ['}']) (write_writeMembers member members 1)
      simp only [List.append_assoc, List.cons_append] at hmembers
      rw [List.append_nil, hmembers] at htext
      rw [toList_compact _ 0, htext]
      rfl

end Value

end Json

namespace Document

/-- Without white space a document is put together from the compact texts of the definitions: all of
them in order as a list, and by name the last of each name, in the order of first occurrences. -/
theorem unspaced_write (definitions : List Definition) :
    unspaced (write .list definitions) =
      "[" ++ ",".intercalate (definitions.map fun d => d.toJson.compact) ++ "]" ∧
    ∃ entries, Keyed.LastWins (definitions.map fun d => (d.name, d)) entries ∧
      unspaced (write .map definitions) =
        "\x7b" ++ ",".intercalate (entries.map fun entry =>
          (Value.text entry.1).compact ++ ":" ++ entry.2.toJson.compact) ++ "\x7d" := by
  refine ⟨?_, (Definition.byName definitions).entries, Keyed.lastWins_ofList _, ?_⟩
  · rw [write, Value.unspaced_pretty, toJson, Value.compact_array, List.map_map]
    rfl
  · rw [write, Value.unspaced_pretty, toJson, Value.compact_object, List.map_map]
    rfl

end Document

end WorkflowParams
