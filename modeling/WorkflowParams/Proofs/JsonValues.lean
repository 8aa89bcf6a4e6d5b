import WorkflowParams.Proofs.JsonScalars
import WorkflowParams.Proofs.ValueReading

/-!
Reading undoes writing, in either layout, for values without doubles: what is written for such a
value is one of its texts.
-/

namespace WorkflowParams.Json

namespace Value

mutual

/-- The numbers in the value are integers of 64 bits, and the members of each object ascend. -/
def Exact : Value → Prop
  | .null | .boolean _ | .text _ => True
  | .integer n => Fits n
  | .double _ => False
  | .array items => ItemsExact items
  | .object members => members.Pairwise (·.1 < ·.1) ∧ MembersExact members

def ItemsExact : List Value → Prop
  | [] => True
  | item :: items => Exact item ∧ ItemsExact items

def MembersExact : List (String × Value) → Prop
  | [] => True
  | (_, value) :: members => Exact value ∧ MembersExact members

end

mutual

/-- How many containers stand inside one another. -/
def depth : Value → Nat
  | .array items => depthItems items + 1
  | .object members => depthMembers members + 1
  | _ => 0

def depthItems : List Value → Nat
  | [] => 0
  | item :: items => max (depth item) (depthItems items)

def depthMembers : List (String × Value) → Nat
  | [] => 0
  | (_, value) :: members => max (depth value) (depthMembers members)

end

end Value

theorem forall_lt_of_pairwise {before after : List (String × Value)} {member : String × Value}
    (h : (before ++ member :: after).Pairwise (·.1 < ·.1)) :
    ∀ earlier ∈ before, earlier.1 < member.1 := by
  intro earlier hearlier
  exact (List.pairwise_append.mp h).2.2 earlier hearlier member (by simp)

/-- A member with the greatest name so far goes to the end. -/
theorem insertMember_append {before : List (String × Value)} {name : String} (v : Value)
    (h : ∀ member ∈ before, member.1 < name) :
    insertMember name v before = before ++ [(name, v)] := by
  induction before with
  | nil => rfl
  | cons member before ih =>
      have hmember : member.1 < name := h member (by simp)
      have hnot : ¬ name < member.1 := String.lt_asymm hmember
      have hne : name ≠ member.1 := by
        intro heq
        rw [heq] at hmember
        exact String.lt_irrefl _ hmember
      rw [insertMember, if_neg hnot, if_neg hne, ih (fun m hm => h m (by simp [hm]))]
      rfl

theorem assemble_eq_append {before members : List (String × Value)}
    (h : (before ++ members).Pairwise (·.1 < ·.1)) : assemble before members = before ++ members := by
  induction members generalizing before with
  | nil => rw [List.append_nil]; rfl
  | cons member members ih =>
      rw [assemble, List.foldl_cons, ← assemble,
        insertMember_append member.2 (forall_lt_of_pairwise h), ih, List.append_assoc,
        List.singleton_append]
      rwa [List.append_assoc]

/-! The two layouts. -/

theorem blank_lineBreak (layout : Layout) (level : Nat) : Blank (layout.lineBreak level) := by
  intro c hc
  cases layout with
  | compact => cases hc
  | indented =>
      obtain rfl | hc := List.mem_cons.mp hc
      · rfl
      · rw [List.eq_of_mem_replicate hc]
        rfl

theorem exists_colon (layout : Layout) : ∃ after, Blank after ∧ layout.colon = ':' :: after := by
  cases layout with
  | compact => exact ⟨[], blank_nil, rfl⟩
  | indented => exact ⟨[' '], by simp [Blank, isSpace], rfl⟩

theorem spacedText_quote {before after : List Char} (hbefore : Blank before) (s : String)
    (hafter : Blank after) : SpacedText (before ++ (quote s ++ after)) s :=
  .mk hbefore (quotedText_quote s) hafter

namespace Value

/-! Compact texts, with what follows them. -/

theorem write_array_append (item : Value) (items : List Value) (level : Nat) (rest : List Char) :
    (array (item :: items)).write .compact level ++ rest =
      '[' :: (item.write .compact (level + 1) ++
        (writeItems .compact (level + 1) items ++ ']' :: rest)) := by
  simp [write, Layout.lineBreak]

theorem write_object_append (name : String) (value : Value) (members : List (String × Value))
    (level : Nat) (rest : List Char) :
    (object ((name, value) :: members)).write .compact level ++ rest =
      '{' :: (quote name ++ ':' :: (value.write .compact (level + 1) ++
        (writeMembers .compact (level + 1) members ++ '}' :: rest))) := by
  simp [write, Layout.lineBreak, Layout.colon]

theorem writeItems_append (item : Value) (items : List Value) (level : Nat) (rest : List Char) :
    writeItems .compact level (item :: items) ++ rest =
      ',' :: (item.write .compact level ++ (writeItems .compact level items ++ rest)) := by
  simp [writeItems, Layout.lineBreak]

theorem writeMembers_append (name : String) (value : Value) (members : List (String × Value))
    (level : Nat) (rest : List Char) :
    writeMembers .compact level ((name, value) :: members) ++ rest =
      ',' :: (quote name ++ ':' :: (value.write .compact level ++
        (writeMembers .compact level members ++ rest))) := by
  simp [writeMembers, Layout.lineBreak, Layout.colon]

mutual

theorem denotes_write (layout : Layout) : ∀ (v : Value) (level room : Nat), v.Exact →
    v.depth ≤ room → Denotes room (.value v) (v.write layout level)
  | .null, level, room, _, _ => by
      rw [write]
      exact .scalar .null
  | .boolean true, level, room, _, _ => by
      rw [write]
      exact .scalar .true
  | .boolean false, level, room, _, _ => by
      rw [write]
      exact .scalar .false
  | .integer n, level, room, hexact, _ => by
      rw [write]
      exact .scalar (scalarText_writeInteger hexact)
  | .double x, _, _, hexact, _ => by simp [Exact] at hexact
  | .text s, level, room, _, _ => by
      rw [write]
      exact .scalar (.text (quotedText_quote s))
  | .array [], level, room, _, hroom => by
      obtain ⟨inner, rfl⟩ := Nat.exists_eq_add_one.mpr (Nat.lt_of_lt_of_le (by decide) hroom)
      rw [write]
      exact .emptyArray blank_nil
  | .array (item :: items), level, room, hexact, hroom => by
      rw [depth, depthItems] at hroom
      obtain ⟨inner, rfl⟩ : ∃ inner, room = inner + 1 := ⟨room - 1, by omega⟩
      have hitem := denotes_write layout item (level + 1) inner hexact.1 (by omega)
      have hitems := denotes_writeItems layout items (level + 1) inner hexact.2 (by omega)
        (hitem.blank_append (blank_lineBreak layout (level + 1))) (blank_lineBreak layout level)
      rw [write]
      simpa using Denotes.array hitems
  | .object [], level, room, _, hroom => by
      obtain ⟨inner, rfl⟩ := Nat.exists_eq_add_one.mpr (Nat.lt_of_lt_of_le (by decide) hroom)
      rw [write]
      exact .emptyObject blank_nil
  | .object ((name, value) :: members), level, room, hexact, hroom => by
      rw [depth, depthMembers] at hroom
      obtain ⟨inner, rfl⟩ : ∃ inner, room = inner + 1 := ⟨room - 1, by omega⟩
      obtain ⟨hascend, hvalue, hmembers⟩ := hexact
      obtain ⟨space, hspace, hcolon⟩ := exists_colon layout
      have hfirst := denotes_write layout value (level + 1) inner hvalue (by omega)
      have hdenotes := denotes_writeMembers layout members (level + 1) inner hmembers (by omega)
        (spacedText_quote (blank_lineBreak layout (level + 1)) name blank_nil)
        (hfirst.blank_append hspace) (blank_lineBreak layout level)
      have hobject := Denotes.object hdenotes
      rw [assemble_eq_append hascend] at hobject
      rw [write, hcolon]
      simpa using hobject

theorem denotes_writeItems (layout : Layout) : ∀ (items : List Value) (level room : Nat)
    {v : Value} {first after : List Char}, ItemsExact items → depthItems items ≤ room →
    Denotes room (.value v) first → Blank after →
    Denotes room (.items (v :: items)) (first ++ (writeItems layout level items ++ after))
  | [], level, room, v, first, after, _, _, hfirst, hafter => by
      rw [writeItems, List.nil_append]
      exact .lastItem (hfirst.append_blank hafter)
  | item :: items, level, room, v, first, after, hexact, hroom, hfirst, hafter => by
      rw [depthItems] at hroom
      have hitem := denotes_write layout item level room hexact.1 (by omega)
      have hitems := denotes_writeItems layout items level room hexact.2 (by omega)
        (hitem.blank_append (blank_lineBreak layout level)) hafter
      rw [writeItems]
      simpa using Denotes.item hfirst hitems

theorem denotes_writeMembers (layout : Layout) : ∀ (members : List (String × Value))
    (level room : Nat) {s : String} {v : Value} {name first after : List Char},
    MembersExact members → depthMembers members ≤ room → SpacedText name s →
    Denotes room (.value v) first → Blank after →
    Denotes room (.members ((s, v) :: members))
      (name ++ ':' :: (first ++ (writeMembers layout level members ++ after)))
  | [], level, room, s, v, name, first, after, _, _, hname, hfirst, hafter => by
      rw [writeMembers, List.nil_append]
      exact .lastMember hname (hfirst.append_blank hafter)
  | (next, value) :: members, level, room, s, v, name, first, after, hexact, hroom, hname, hfirst,
      hafter => by
      rw [depthMembers] at hroom
      obtain ⟨space, hspace, hcolon⟩ := exists_colon layout
      have hvalue := denotes_write layout value level room hexact.1 (by omega)
      have hmembers := denotes_writeMembers layout members level room hexact.2 (by omega)
        (spacedText_quote (blank_lineBreak layout level) next blank_nil)
        (hvalue.blank_append hspace) hafter
      rw [writeMembers, hcolon]
      simpa using Denotes.member hname hfirst hmembers

end

/-- Reading undoes writing. -/
theorem read?_write {v : Value} (hexact : v.Exact) (hdepth : v.depth ≤ maxOpen) (layout : Layout) :
    read? (v.write layout 0) = some v :=
  read?_eq_some_iff.mpr (denotes_write layout v 0 maxOpen hexact hdepth)

mutual

/-- A compact text stays on one line, whatever the texts within the value are. -/
theorem newline_not_mem_write : ∀ (v : Value) (level : Nat), v.Exact →
    '\n' ∉ v.write .compact level
  | .null, _, _ => by simp [write]
  | .boolean true, _, _ => by simp [write]
  | .boolean false, _, _ => by simp [write]
  | .integer n, _, _ => newline_not_mem_writeInteger n
  | .double x, _, hexact => by simp [Exact] at hexact
  | .text s, _, _ => newline_not_mem_quote s
  | .array [], _, _ => by simp [write]
  | .array (item :: items), level, hexact => by
      have hitem := newline_not_mem_write item (level + 1) hexact.1
      have hitems := newline_not_mem_writeItems items (level + 1) hexact.2
      simp [write, Layout.lineBreak, hitem, hitems]
  | .object [], _, _ => by simp [write]
  | .object ((name, value) :: members), level, hexact => by
      have hname := newline_not_mem_quote name
      have hvalue := newline_not_mem_write value (level + 1) hexact.2.1
      have hmembers := newline_not_mem_writeMembers members (level + 1) hexact.2.2
      simp [write, Layout.lineBreak, Layout.colon, hname, hvalue, hmembers]

theorem newline_not_mem_writeItems : ∀ (items : List Value) (level : Nat), ItemsExact items →
    '\n' ∉ writeItems .compact level items
  | [], _, _ => by simp [writeItems]
  | item :: items, level, hexact => by
      have hitem := newline_not_mem_write item level hexact.1
      have hitems := newline_not_mem_writeItems items level hexact.2
      simp [writeItems, Layout.lineBreak, hitem, hitems]

theorem newline_not_mem_writeMembers : ∀ (members : List (String × Value)) (level : Nat),
    MembersExact members → '\n' ∉ writeMembers .compact level members
  | [], _, _ => by simp [writeMembers]
  | (name, value) :: members, level, hexact => by
      have hname := newline_not_mem_quote name
      have hvalue := newline_not_mem_write value level hexact.1
      have hmembers := newline_not_mem_writeMembers members level hexact.2
      simp [writeMembers, Layout.lineBreak, Layout.colon, hname, hvalue, hmembers]

end

end Value

end WorkflowParams.Json
