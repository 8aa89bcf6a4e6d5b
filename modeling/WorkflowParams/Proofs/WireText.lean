import WorkflowParams.Proofs.DefaultValue

/-!
Compact texts are unambiguous. Where the text of a value ends is told by the text itself, except
that a number must not be followed by what could go on with it; so two texts that begin alike begin
with the same value, and what follows it is the same. From this it follows that a type and a
definition are determined by their texts. Doubles are left out: two of them may share a text.
-/

namespace WorkflowParams

open Json Declaration

namespace Json

/-! Scalars. -/

theorem quote_append_inj {s s' : String} {rest rest' : List Char}
    (h : quote s ++ rest = quote s' ++ rest') : s = s' ∧ rest = rest' := by
  obtain ⟨quoted, hquoted, hread⟩ := readText_of_quotedText (quotedText_quote s) rest
  obtain ⟨quoted', hquoted', hread'⟩ := readText_of_quotedText (quotedText_quote s') rest'
  rw [h, hquoted', List.cons.injEq] at hquoted
  rw [← hquoted.2, hread'] at hread
  obtain ⟨rfl, rfl⟩ := Prod.mk.inj (Except.ok.inj hread)
  exact ⟨rfl, rfl⟩

theorem writeInteger_append_inj {n n' : Int} {rest rest' : List Char}
    (hrest : extendsNumber rest = false) (hrest' : extendsNumber rest' = false)
    (h : writeInteger n ++ rest = writeInteger n' ++ rest') : n = n' ∧ rest = rest' := by
  have hread := readNumeral_of_numeralText (numeralText_writeInteger n) hrest
  rw [h, readNumeral_of_numeralText (numeralText_writeInteger n') hrest', Except.ok.injEq,
    Prod.mk.injEq] at hread
  obtain ⟨hnumeral, rfl⟩ := hread
  rw [Numeral.mk.injEq, decide_eq_decide] at hnumeral
  obtain ⟨hsign, hdigits, -⟩ := hnumeral
  have habsolute : n.natAbs = n'.natAbs := by
    rw [← Nat.ofDigitChars_ten_toDigits (n := n.natAbs), ← hdigits, Nat.ofDigitChars_ten_toDigits]
  exact ⟨by omega, rfl⟩

namespace Value

mutual

/-- Whether some number in the value is a double. -/
def hasDouble : Value → Bool
  | .double _ => true
  | .array items => itemsHaveDouble items
  | .object members => membersHaveDouble members
  | .null | .boolean _ | .integer _ | .text _ => false

def itemsHaveDouble : List Value → Bool
  | [] => false
  | item :: items => hasDouble item || itemsHaveDouble items

def membersHaveDouble : List (String × Value) → Bool
  | [] => false
  | (_, value) :: members => hasDouble value || membersHaveDouble members

end

/-- The character that a text begins with, where a zero stands for whatever a number may begin
with. -/
def opening : Value → Char
  | .null => 'n'
  | .boolean true => 't'
  | .boolean false => 'f'
  | .integer _ | .double _ => '0'
  | .text _ => '"'
  | .array _ => '['
  | .object _ => '{'

def openingOf (c : Char) : Char := if beginsNumber c then '0' else c

theorem exists_write_opening {v : Value} (h : ∀ x, v ≠ .double x) (layout : Layout)
    (level : Nat) : ∃ c cs, v.write layout level = c :: cs ∧ openingOf c = v.opening := by
  cases v with
  | null => exact ⟨'n', _, rfl, rfl⟩
  | boolean b =>
      cases b with
      | true => exact ⟨'t', _, rfl, rfl⟩
      | false => exact ⟨'f', _, rfl, rfl⟩
  | integer n =>
      obtain ⟨c, cs, hc, hfirst⟩ := exists_cons_of_numeralText (numeralText_writeInteger n)
      exact ⟨c, cs, by rw [write, hc], if_pos hfirst⟩
  | double x => exact absurd rfl (h x)
  | text s => exact ⟨'"', _, by rw [write, quote], rfl⟩
  | array items =>
      cases items with
      | nil => exact ⟨'[', _, by rw [write], rfl⟩
      | cons item items => exact ⟨'[', _, by rw [write], rfl⟩
  | object members =>
      cases members with
      | nil => exact ⟨'{', _, by rw [write], rfl⟩
      | cons member members => exact ⟨'{', _, by rw [write], rfl⟩

theorem opening_ne_closing (v : Value) : v.opening ≠ ']' := by
  cases v with
  | boolean b => cases b <;> simp [opening]
  | null | integer _ | double _ | text _ | array _ | object _ => simp [opening]

theorem extendsNumber_writeItems (level : Nat) (items : List Value) (rest : List Char) :
    extendsNumber (writeItems .compact level items ++ ']' :: rest) = false := by
  cases items with
  | nil => rw [writeItems]; rfl
  | cons item items => rw [writeItems]; rfl

theorem extendsNumber_writeMembers (level : Nat) (members : List (String × Value))
    (rest : List Char) :
    extendsNumber (writeMembers .compact level members ++ '}' :: rest) = false := by
  cases members with
  | nil => rw [writeMembers]; rfl
  | cons member members => rw [writeMembers]; rfl

theorem ne_double_of_hasDouble {v : Value} (h : v.hasDouble = false) (x : Decimal.Double) :
    v ≠ .double x := by
  rintro rfl
  rw [hasDouble] at h
  exact Bool.noConfusion h

/-- The values whose texts begin alike are of one constructor. -/
theorem of_opening_eq {v v' : Value} (h' : v'.hasDouble = false) (heq : v.opening = v'.opening) :
    match v with
    | .null => v' = .null
    | .boolean b => v' = .boolean b
    | .integer _ | .double _ => ∃ n, v' = .integer n
    | .text _ => ∃ s, v' = .text s
    | .array _ => ∃ items, v' = .array items
    | .object _ => ∃ members, v' = .object members := by
  cases v' with
  | double x => exact absurd rfl (ne_double_of_hasDouble h' x)
  | boolean b' =>
      cases v with
      | boolean b => cases b <;> cases b' <;> simp [opening] at heq ⊢
      | _ => cases b' <;> simp [opening] at heq
  | null | integer _ | text _ | array _ | object _ =>
      cases v with
      | boolean b => cases b <;> simp [opening] at heq
      | _ => simp [opening] at heq ⊢

theorem opening_eq_of_write {v v' : Value} (h : v.hasDouble = false) (h' : v'.hasDouble = false)
    {level level' : Nat} {rest rest' : List Char}
    (heq : v.write .compact level ++ rest = v'.write .compact level' ++ rest') :
    v.opening = v'.opening := by
  obtain ⟨c, cs, hc, hopening⟩ := exists_write_opening (ne_double_of_hasDouble h) .compact level
  obtain ⟨c', cs', hc', hopening'⟩ :=
    exists_write_opening (ne_double_of_hasDouble h') .compact level'
  rw [hc, hc', List.cons_append, List.cons_append, List.cons.injEq] at heq
  rw [← hopening, ← hopening', heq.1]

/-- No value begins as an array without items ends. -/
theorem write_append_ne_closing {v : Value} (h : v.hasDouble = false) (layout : Layout)
    (level : Nat) (rest behind : List Char) : v.write layout level ++ rest ≠ ']' :: behind := by
  obtain ⟨c, cs, hc, hopening⟩ := exists_write_opening (ne_double_of_hasDouble h) layout level
  rw [hc, List.cons_append]
  intro heq
  obtain ⟨rfl, -⟩ := List.cons.inj heq
  exact opening_ne_closing v hopening.symm

mutual

/-- Texts that begin with values begin with the same value if they are the same. -/
theorem write_append_inj : ∀ (v v' : Value) (level level' : Nat) (rest rest' : List Char),
    v.hasDouble = false → v'.hasDouble = false → extendsNumber rest = false →
    extendsNumber rest' = false →
    v.write .compact level ++ rest = v'.write .compact level' ++ rest' → v = v' ∧ rest = rest'
  | .null, v', level, level', rest, rest', hv, hv', _, _, h => by
      obtain rfl : v' = .null := of_opening_eq hv' (opening_eq_of_write hv hv' h)
      exact ⟨rfl, List.append_cancel_left h⟩
  | .boolean b, v', level, level', rest, rest', hv, hv', _, _, h => by
      obtain rfl : v' = .boolean b := of_opening_eq hv' (opening_eq_of_write hv hv' h)
      cases b with
      | true => exact ⟨rfl, List.append_cancel_left h⟩
      | false => exact ⟨rfl, List.append_cancel_left h⟩
  | .integer n, v', level, level', rest, rest', hv, hv', hrest, hrest', h => by
      obtain ⟨n', rfl⟩ := of_opening_eq hv' (opening_eq_of_write hv hv' h)
      rw [write, write] at h
      obtain ⟨rfl, rfl⟩ := writeInteger_append_inj hrest hrest' h
      exact ⟨rfl, rfl⟩
  | .double x, v', level, level', rest, rest', hv, _, _, _, _ =>
      absurd rfl (ne_double_of_hasDouble hv x)
  | .text s, v', level, level', rest, rest', hv, hv', _, _, h => by
      obtain ⟨s', rfl⟩ := of_opening_eq hv' (opening_eq_of_write hv hv' h)
      rw [write, write] at h
      obtain ⟨rfl, rfl⟩ := quote_append_inj h
      exact ⟨rfl, rfl⟩
  -- Whether there are items shows in the character behind the bracket.
  | .array [], v', level, level', rest, rest', hv, hv', _, _, h => by
      obtain ⟨items', rfl⟩ := of_opening_eq hv' (opening_eq_of_write hv hv' h)
      cases items' with
      | nil => exact ⟨rfl, List.append_cancel_left h⟩
      | cons item' items' =>
          rw [hasDouble, itemsHaveDouble, Bool.or_eq_false_iff] at hv'
          rw [write_array_append] at h
          exact absurd (List.cons.inj h).2.symm (write_append_ne_closing hv'.1 .compact _ _ _)
  | .array (item :: items), v', level, level', rest, rest', hv, hv', _, _, h => by
      obtain ⟨items', rfl⟩ := of_opening_eq hv' (opening_eq_of_write hv hv' h)
      rw [hasDouble, itemsHaveDouble, Bool.or_eq_false_iff] at hv
      rw [write_array_append] at h
      cases items' with
      | nil => exact absurd (List.cons.inj h).2 (write_append_ne_closing hv.1 .compact _ _ _)
      | cons item' items' =>
          rw [hasDouble, itemsHaveDouble, Bool.or_eq_false_iff] at hv'
          rw [write_array_append] at h
          obtain ⟨rfl, hitems⟩ := write_append_inj item item' _ _ _ _ hv.1 hv'.1
            (extendsNumber_writeItems _ items rest) (extendsNumber_writeItems _ items' rest')
            (List.cons.inj h).2
          obtain ⟨rfl, rfl⟩ := writeItems_append_inj items items' _ _ rest rest' hv.2 hv'.2 hitems
          exact ⟨rfl, rfl⟩
  | .object [], v', level, level', rest, rest', hv, hv', _, _, h => by
      obtain ⟨members', rfl⟩ := of_opening_eq hv' (opening_eq_of_write hv hv' h)
      cases members' with
      | nil => exact ⟨rfl, List.append_cancel_left h⟩
      | cons member' members' => simp [write, Layout.lineBreak, quote] at h
  | .object ((name, value) :: members), v', level, level', rest, rest', hv, hv', _, _, h => by
      obtain ⟨members', rfl⟩ := of_opening_eq hv' (opening_eq_of_write hv hv' h)
      cases members' with
      | nil => simp [write, Layout.lineBreak, quote] at h
      | cons member' members' =>
          obtain ⟨name', value'⟩ := member'
          rw [hasDouble, membersHaveDouble, Bool.or_eq_false_iff] at hv hv'
          rw [write_object_append, write_object_append] at h
          obtain ⟨rfl, hvalue⟩ := quote_append_inj (List.cons.inj h).2
          obtain ⟨rfl, hmembers⟩ := write_append_inj value value' _ _ _ _ hv.1 hv'.1
            (extendsNumber_writeMembers _ members rest)
            (extendsNumber_writeMembers _ members' rest') (List.cons.inj hvalue).2
          obtain ⟨rfl, rfl⟩ :=
            writeMembers_append_inj members members' _ _ rest rest' hv.2 hv'.2 hmembers
          exact ⟨rfl, rfl⟩

theorem writeItems_append_inj : ∀ (items items' : List Value) (level level' : Nat)
    (rest rest' : List Char), itemsHaveDouble items = false → itemsHaveDouble items' = false →
    writeItems .compact level items ++ ']' :: rest =
      writeItems .compact level' items' ++ ']' :: rest' → items = items' ∧ rest = rest'
  | [], [], level, level', rest, rest', _, _, h => by simpa [writeItems] using h
  | [], item' :: items', level, level', rest, rest', _, _, h => by simp [writeItems] at h
  | item :: items, [], level, level', rest, rest', _, _, h => by simp [writeItems] at h
  | item :: items, item' :: items', level, level', rest, rest', hv, hv', h => by
      rw [itemsHaveDouble, Bool.or_eq_false_iff] at hv hv'
      rw [writeItems_append, writeItems_append] at h
      obtain ⟨rfl, hitems⟩ := write_append_inj item item' _ _ _ _ hv.1 hv'.1
        (extendsNumber_writeItems _ items rest) (extendsNumber_writeItems _ items' rest')
        (List.cons.inj h).2
      obtain ⟨rfl, rfl⟩ := writeItems_append_inj items items' _ _ rest rest' hv.2 hv'.2 hitems
      exact ⟨rfl, rfl⟩

theorem writeMembers_append_inj : ∀ (members members' : List (String × Value))
    (level level' : Nat) (rest rest' : List Char), membersHaveDouble members = false →
    membersHaveDouble members' = false →
    writeMembers .compact level members ++ '}' :: rest =
      writeMembers .compact level' members' ++ '}' :: rest' → members = members' ∧ rest = rest'
  | [], [], level, level', rest, rest', _, _, h => by simpa [writeMembers] using h
  | [], member' :: members', level, level', rest, rest', _, _, h => by simp [writeMembers] at h
  | member :: members, [], level, level', rest, rest', _, _, h => by simp [writeMembers] at h
  | (name, value) :: members, (name', value') :: members', level, level', rest, rest', hv, hv',
      h => by
      rw [membersHaveDouble, Bool.or_eq_false_iff] at hv hv'
      rw [writeMembers_append, writeMembers_append] at h
      obtain ⟨rfl, hvalue⟩ := quote_append_inj (List.cons.inj h).2
      obtain ⟨rfl, hmembers⟩ := write_append_inj value value' _ _ _ _ hv.1 hv'.1
        (extendsNumber_writeMembers _ members rest) (extendsNumber_writeMembers _ members' rest')
        (List.cons.inj hvalue).2
      obtain ⟨rfl, rfl⟩ :=
        writeMembers_append_inj members members' _ _ rest rest' hv.2 hv'.2 hmembers
      exact ⟨rfl, rfl⟩

end

/-- A value without doubles is determined by its compact text. -/
theorem eq_of_compact {v v' : Value} (h : v.hasDouble = false) (h' : v'.hasDouble = false)
    (heq : v.compact = v'.compact) : v = v' := by
  have htext : v.write .compact 0 ++ [] = v'.write .compact 0 ++ [] := by
    rw [String.ofList_injective heq]
  exact (write_append_inj v v' 0 0 [] [] h h' rfl rfl htext).1

end Value

end Json

namespace TypeTree

theorem hasDouble_toJson (t : TypeTree) : t.toJson.hasDouble = false := by
  induction t with
  | primitive p => rfl
  | array element nonEmpty ih => simp [toJson, Value.hasDouble, Value.membersHaveDouble, ih]
  | optional inner ih => simp [toJson, Value.hasDouble, Value.membersHaveDouble, ih]

theorem toJson_inj {t t' : TypeTree} (h : t.toJson = t'.toJson) : t = t' := by
  induction t generalizing t' with
  | primitive p =>
      cases t' with
      | primitive p' =>
          have hname : p.name = p'.name := by simpa [toJson] using h
          rw [Primitive.name_injective hname]
      | array _ _ | optional _ => simp [toJson] at h
  | array element nonEmpty ih =>
      cases t' with
      | array element' nonEmpty' =>
          obtain ⟨helement, rfl⟩ : element.toJson = element'.toJson ∧ nonEmpty = nonEmpty' := by
            simpa [toJson] using h
          rw [ih helement]
      | primitive _ | optional _ => simp [toJson] at h
  | optional inner ih =>
      cases t' with
      | optional inner' =>
          have hinner : inner.toJson = inner'.toJson := by simpa [toJson] using h
          rw [ih hinner]
      | primitive _ | array _ _ => simp [toJson] at h

theorem eq_of_compact_toJson {t t' : TypeTree} (h : t.toJson.compact = t'.toJson.compact) :
    t = t' :=
  toJson_inj (Value.eq_of_compact t.hasDouble_toJson t'.hasDouble_toJson h)

/-- The mark that the spelling ends with; the name of a primitive ends with none. -/
def lastMark? (t : TypeTree) : Option Char :=
  t.spelling.toList.getLast?.filter fun c => !c.isAlpha

@[simp] theorem lastMark?_primitive (p : Primitive) : (primitive p).lastMark? = none := by
  cases p <;> decide

@[simp] theorem lastMark?_array (element : TypeTree) (nonEmpty : Bool) :
    (array element nonEmpty).lastMark? = some (if nonEmpty then '+' else ']') := by
  cases nonEmpty <;> simp [lastMark?, spelling, List.getLast?_append, List.getLast?_cons]

@[simp] theorem lastMark?_optional (inner : TypeTree) : (optional inner).lastMark? = some '?' := by
  simp [lastMark?, spelling]

theorem spelling_inj {t t' : TypeTree} (h : t.spelling = t'.spelling) : t = t' := by
  have hmark : t.lastMark? = t'.lastMark? := by rw [lastMark?, h, lastMark?]
  induction t generalizing t' with
  | primitive p =>
      cases t' with
      | primitive p' => rw [Primitive.name_injective h]
      | array _ _ | optional _ => simp at hmark
  | array element nonEmpty ih =>
      cases t' with
      | array element' nonEmpty' =>
          obtain rfl : nonEmpty = nonEmpty' := by
            cases nonEmpty <;> cases nonEmpty' <;> simp at hmark ⊢
          have hlist := congrArg (·.toList ++ []) h
          simp only [toList_spelling_array] at hlist
          have hbehind := (List.cons.inj (List.append_cancel_left hlist)).2
          have helement := String.toList_injective (List.append_cancel_right hbehind)
          rw [ih helement (by rw [lastMark?, helement, lastMark?])]
      | primitive _ => simp at hmark
      | optional _ => cases nonEmpty <;> simp at hmark
  | optional inner ih =>
      cases t' with
      | optional inner' =>
          have hinner : inner.spelling = inner'.spelling := (String.append_left_inj "?").mp h
          rw [ih hinner (by rw [lastMark?, hinner, lastMark?])]
      | primitive _ => simp at hmark
      | array _ nonEmpty' => cases nonEmpty' <;> simp at hmark

end TypeTree

theorem Binding.hasDouble_toJson (b : Binding) : b.toJson.hasDouble = false := by
  simp [toJson, Value.hasDouble, Value.membersHaveDouble]

theorem Binding.toJson_inj {b b' : Binding} (h : b.toJson = b'.toJson) : b = b' := by
  cases b <;> cases b' <;> simp_all [toJson, tag, target]

namespace Definition

theorem hasDouble_toJson {d : Definition} (h : ∀ v ∈ d.default, v.hasDouble = false) :
    d.toJson.hasDouble = false := by
  have htype := d.type.hasDouble_toJson
  have hbinding := d.binding.hasDouble_toJson
  cases hdefault : d.default with
  | none => simp [toJson, Value.hasDouble, Value.membersHaveDouble, htype, hbinding, hdefault]
  | some v =>
      have hv := h v hdefault
      simp [toJson, Value.hasDouble, Value.membersHaveDouble, htype, hbinding, hdefault, hv]

/-- The keys tell the direction, and whether there is a default. -/
theorem toJson_inj {d d' : Definition} (h : d.toJson = d'.toJson) : d = d' := by
  obtain ⟨name, type, binding, direction, default⟩ := d
  obtain ⟨name', type', binding', direction', default'⟩ := d'
  simp only [toJson, Value.object.injEq, List.cons_append, List.cons.injEq, Prod.mk.injEq,
    Value.text.injEq, List.nil_append] at h
  obtain ⟨⟨hlabel, rfl⟩, ⟨-, htype⟩, ⟨-, hbinding⟩, hdefault⟩ := h
  obtain rfl : direction = direction' := by
    cases direction <;> cases direction' <;> first | rfl | exact absurd hlabel (by decide)
  obtain rfl : default = default' := by
    cases default <;> cases default' <;> simp at hdefault ⊢
    exact hdefault
  rw [TypeTree.toJson_inj htype, Binding.toJson_inj hbinding]

/-- Types are determined by their texts and by their spellings, and definitions by their texts if
no default has doubles. -/
theorem eq_of_text :
    (∀ t t' : TypeTree, t.toJson.compact = t'.toJson.compact → t = t') ∧
    (∀ t t' : TypeTree, t.spelling = t'.spelling → t = t') ∧
    ∀ d d' : Definition, (∀ v ∈ d.default, v.hasDouble = false) →
      (∀ v ∈ d'.default, v.hasDouble = false) → d.toJson.compact = d'.toJson.compact → d = d' := by
  refine ⟨fun _ _ => TypeTree.eq_of_compact_toJson, fun _ _ => TypeTree.spelling_inj, ?_⟩
  intro d d' hd hd' h
  exact toJson_inj (Value.eq_of_compact (hasDouble_toJson hd) (hasDouble_toJson hd') h)

/-- A default that is null has another text than none. -/
theorem eq_of_text_unless_null :
    let declaration := "Int (optional, default = null)"
    let name := "task\",\x7b"
    let absent : Definition :=
      { name, type := .optional (.primitive .int),
        binding := .recordLookup (recordAttribute name), direction := .input }
    build { includeDefaults := true } .input name declaration =
        .ok { absent with default := some .null } ∧
      build { includeDefaults := false } .input name declaration = .ok absent ∧
      { absent with default := some .null }.toJson.compact ≠ absent.toJson.compact := by
  intro declaration name absent
  have hdeclaration : declaration =
      (TypeTree.primitive .int).spelling ++ " (optional, default = " ++ Value.null.compact ++
        ")" ++ "" := by decide
  have hread (settings : Settings) : interpret settings declaration = .ok absent.type := by
    rw [hdeclaration]
    exact interpret_spelling_default settings rfl (by decide) .null ""
  have hdefault : default? declaration = some .null := by
    rw [hdeclaration]
    exact default?_spelling_append (v := .null) _ trivial (by decide) (by decide)
  refine ⟨?_, ?_, fun h => ?_⟩
  · rw [build, hread]
    simp only [if_true, hdefault]
    rfl
  · rw [build, hread]
    rfl
  · have heq := eq_of_text.2.2 _ absent (by simp [Value.hasDouble]) (by simp [absent]) h
    exact absurd (congrArg (·.default) heq) (by simp [absent])

end Definition

end WorkflowParams
