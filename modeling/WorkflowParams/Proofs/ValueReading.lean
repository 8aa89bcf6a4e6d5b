import WorkflowParams.Proofs.NumberReading

/-!
A text is read as a value exactly if it is one of the texts of that value. The reader keeps the open
containers in a list of frames, so what is proved of a value is that it completes itself in whatever
frames are open, with whatever follows it left to be read; and the other way round, that a reading
which succeeds has come by a value and gone on behind it.
-/

namespace WorkflowParams.Json

/-! White space. -/

theorem skipSpace_append {before : List Char} (h : Blank before) (cs : List Char) :
    skipSpace (before ++ cs) = skipSpace cs := List.dropWhile_append_of_pos h

theorem skipSpace_cons {c : Char} (h : isSpace c = false) (cs : List Char) :
    skipSpace (c :: cs) = c :: cs := by
  simp [skipSpace, h]

theorem exists_blank_append_skipSpace (cs : List Char) :
    ∃ before, Blank before ∧ cs = before ++ skipSpace cs :=
  ⟨cs.takeWhile isSpace, fun _ h => List.mem_takeWhile_imp h,
    List.takeWhile_append_dropWhile.symm⟩

theorem pastSpace_cons {c : Char} (h : isSpace c = false) (cs : List Char) :
    pastSpace (c :: cs) = ⟨c :: cs, Nat.le_refl _⟩ := pastSpace_eq (skipSpace_cons h cs)

theorem exists_blank_of_pastSpace {cs rest : List Char} {h : rest.length ≤ cs.length}
    (hpast : pastSpace cs = ⟨rest, h⟩) : ∃ before, Blank before ∧ cs = before ++ rest := by
  obtain rfl : skipSpace cs = rest := congrArg Subtype.val hpast
  exact exists_blank_append_skipSpace cs

theorem readWithin_blank {before : List Char} (h : Blank before) (frames : List Frame)
    (cs : List Char) : readWithin frames (before ++ cs) = readWithin frames cs := by
  cases hrest : skipSpace cs with
  | nil =>
      rw [readWithin, readWithin, pastSpace_eq hrest,
        pastSpace_eq ((skipSpace_append h cs).trans hrest)]
  | cons c rest =>
      rw [readWithin, readWithin, pastSpace_eq hrest,
        pastSpace_eq ((skipSpace_append h cs).trans hrest)]

theorem complete_blank {before : List Char} (h : Blank before) (frames : List Frame) (v : Value)
    (cs : List Char) : complete frames v (before ++ cs) = complete frames v cs := by
  have hskip := skipSpace_append h cs
  cases frames with
  | nil => rw [complete, complete, hskip]
  | cons frame frames =>
      cases frame <;> cases hrest : skipSpace cs <;>
        rw [complete, complete, pastSpace_eq hrest, pastSpace_eq (hskip.trans hrest)]

theorem extendsNumber_blank {before : List Char} (h : Blank before) {rest : List Char}
    (hrest : extendsNumber rest = false) : extendsNumber (before ++ rest) = false := by
  cases before with
  | nil => exact hrest
  | cons c before =>
      have hc : isSpace c = true := h c (by simp)
      simp only [isSpace, Bool.or_eq_true, decide_eq_true_eq] at hc
      obtain ((rfl | rfl) | rfl) | rfl := hc <;> rfl

/-! One step of the reader. -/

theorem readWithin_scalar (frames : List Frame) {c : Char} {cs rest : List Char} {v : Value}
    (hc : beginsScalar c = true) (h : readScalar (c :: cs) = .ok (v, rest)) :
    readWithin frames (c :: cs) = complete frames v rest := by
  simp only [beginsScalar, Bool.not_eq_true', Bool.or_eq_false_iff, decide_eq_false_iff_not] at hc
  rw [readWithin, pastSpace_cons hc.1.1.1.1 cs]
  simp only [hc.1.1.1.2, hc.1.2, if_false]
  rw [advancing_of_ok h]

theorem readWithin_emptyArray {frames : List Frame} (hroom : frames.length < maxOpen)
    {inside : List Char} (h : Blank inside) (cs : List Char) :
    readWithin frames ('[' :: (inside ++ ']' :: cs)) = complete frames (.array []) cs := by
  have hinside : skipSpace (inside ++ ']' :: cs) = ']' :: cs :=
    (skipSpace_append h _).trans (skipSpace_cons rfl cs)
  rw [readWithin, pastSpace_cons rfl _]
  simp only [if_true, hroom]
  rw [pastSpace_eq hinside]
  simp

theorem readWithin_emptyObject {frames : List Frame} (hroom : frames.length < maxOpen)
    {inside : List Char} (h : Blank inside) (cs : List Char) :
    readWithin frames ('{' :: (inside ++ '}' :: cs)) = complete frames (.object []) cs := by
  have hinside : skipSpace (inside ++ '}' :: cs) = '}' :: cs :=
    (skipSpace_append h _).trans (skipSpace_cons rfl cs)
  rw [readWithin, pastSpace_cons rfl _]
  simp only [Char.reduceEq, if_true, hroom, if_false]
  rw [pastSpace_eq hinside]
  simp

/-- A text that does not begin, but for white space, as the end of a container. -/
def BeginsPhrase (cs : List Char) : Prop :=
  ∃ c rest, skipSpace cs = c :: rest ∧ c ≠ ']' ∧ c ≠ '}'

theorem beginsPhrase_cons {c : Char} (hspace : isSpace c = false) (hc : c ≠ ']' ∧ c ≠ '}')
    (cs : List Char) : BeginsPhrase (c :: cs) := ⟨c, cs, skipSpace_cons hspace cs, hc⟩

theorem BeginsPhrase.append {cs : List Char} (h : BeginsPhrase cs) (rest : List Char) :
    BeginsPhrase (cs ++ rest) := by
  obtain ⟨c, behind, hskip, hc⟩ := h
  refine ⟨c, behind ++ rest, ?_, hc⟩
  have happend : skipSpace (cs ++ rest) = skipSpace cs ++ rest := by
    rw [skipSpace, List.dropWhile_append, ← skipSpace, hskip]
    rfl
  rw [happend, hskip, List.cons_append]

theorem BeginsPhrase.spaced {before cs : List Char} (hbefore : Blank before)
    (h : BeginsPhrase cs) : BeginsPhrase (before ++ cs) := by
  obtain ⟨c, rest, hskip, hc⟩ := h
  exact ⟨c, rest, (skipSpace_append hbefore cs).trans hskip, hc⟩

theorem readWithin_array {frames : List Frame} (hroom : frames.length < maxOpen) {cs : List Char}
    (h : BeginsPhrase cs) :
    readWithin frames ('[' :: cs) = readWithin (.items [] :: frames) cs := by
  obtain ⟨c, rest, hskip, hc, -⟩ := h
  rw [readWithin, pastSpace_cons rfl _]
  simp only [if_true, hroom]
  rw [pastSpace_eq hskip]
  simp [hc]

theorem readWithin_object {frames : List Frame} (hroom : frames.length < maxOpen) {cs : List Char}
    (h : BeginsPhrase cs) : readWithin frames ('{' :: cs) = readMember frames [] cs := by
  obtain ⟨c, rest, hskip, -, hc⟩ := h
  rw [readWithin, pastSpace_cons rfl _]
  simp only [Char.reduceEq, if_true, hroom, if_false]
  rw [pastSpace_eq hskip]
  simp [hc]

theorem skipSpace_quotedText {before text : List Char} {s : String} (hbefore : Blank before)
    (h : QuotedText text s) (rest : List Char) :
    ∃ cs, skipSpace (before ++ (text ++ rest)) = '"' :: cs ∧ readText cs = .ok (s, rest) := by
  obtain ⟨cs, hcs, hread⟩ := readText_of_quotedText h rest
  exact ⟨cs, by rw [skipSpace_append hbefore, hcs, skipSpace_cons rfl], hread⟩

theorem readMember_spacedText (frames : List Frame) (before : List (String × Value))
    {name : List Char} {s : String} (h : SpacedText name s) (rest : List Char) :
    readMember frames before (name ++ ':' :: rest) =
      readWithin (.members before s :: frames) rest := by
  obtain ⟨hbefore, hquoted, hafter⟩ := h
  obtain ⟨cs, hskip, hread⟩ := skipSpace_quotedText hbefore hquoted _
  have hcolon := (skipSpace_append hafter (':' :: rest)).trans (skipSpace_cons rfl rest)
  rw [List.append_assoc, List.append_assoc, readMember, pastSpace_eq hskip]
  simp only [if_true]
  rw [advancing_of_ok hread]
  simp only
  rw [pastSpace_eq hcolon]
  simp

theorem complete_nextItem (frames : List Frame) (before : List Value) (v : Value)
    (rest : List Char) :
    complete (.items before :: frames) v (',' :: rest) =
      readWithin (.items (v :: before) :: frames) rest := by
  rw [complete, pastSpace_cons rfl _]
  simp

theorem complete_lastItem (frames : List Frame) (before : List Value) (v : Value)
    (rest : List Char) :
    complete (.items before :: frames) v (']' :: rest) =
      complete frames (.array (v :: before).reverse) rest := by
  rw [complete, pastSpace_cons rfl _]
  simp

theorem complete_nextMember (frames : List Frame) (before : List (String × Value)) (name : String)
    (v : Value) (rest : List Char) :
    complete (.members before name :: frames) v (',' :: rest) =
      readMember frames (insertMember name v before) rest := by
  rw [complete, pastSpace_cons rfl _]
  simp

theorem complete_lastMember (frames : List Frame) (before : List (String × Value)) (name : String)
    (v : Value) (rest : List Char) :
    complete (.members before name :: frames) v ('}' :: rest) =
      complete frames (.object (insertMember name v before)) rest := by
  rw [complete, pastSpace_cons rfl _]
  simp

/-! The texts of a phrase are read as it. -/

theorem beginsPhrase_of_scalarText {cs : List Char} {v : Value} (h : ScalarText cs v) :
    BeginsPhrase cs := by
  obtain ⟨c, rest, rfl, hc⟩ := exists_cons_of_scalarText h
  simp only [beginsScalar, Bool.not_eq_true', Bool.or_eq_false_iff, decide_eq_false_iff_not] at hc
  exact beginsPhrase_cons hc.1.1.1.1 ⟨hc.1.1.2, hc.2⟩ rest

theorem beginsPhrase_of_spacedText {cs : List Char} {s : String} (h : SpacedText cs s) :
    BeginsPhrase cs := by
  obtain ⟨hbefore, hquoted, -⟩ := h
  exact ((beginsPhrase_of_scalarText (.text hquoted)).append _).spaced hbefore

theorem Denotes.beginsPhrase {room : Nat} {phrase : Phrase} {cs : List Char}
    (h : Denotes room phrase cs) : BeginsPhrase cs := by
  induction h with
  | scalar hscalar => exact beginsPhrase_of_scalarText hscalar
  | spaced hbefore _ _ ih => exact (ih.append _).spaced hbefore
  | emptyArray | array | emptyObject | object => exact beginsPhrase_cons rfl (by decide) _
  | lastItem _ ih => exact ih
  | item _ _ ih _ => exact ih.append _
  | lastMember hname _ _ => exact (beginsPhrase_of_spacedText hname).append _
  | member hname _ _ _ _ => exact (beginsPhrase_of_spacedText hname).append _

/-- That a text is read as a phrase. Items complete themselves in the frame of an array with some
items in front of them, and members that of an object. -/
def ReadAs (room : Nat) (cs : List Char) : Phrase → Prop
  | .value v => ∀ (frames : List Frame) (rest : List Char), frames.length + room ≤ maxOpen →
      extendsNumber rest = false → readWithin frames (cs ++ rest) = complete frames v rest
  | .items items => ∀ (frames : List Frame) (before : List Value) (rest : List Char),
      frames.length + 1 + room ≤ maxOpen →
      readWithin (.items before :: frames) (cs ++ ']' :: rest) =
        complete frames (.array (before.reverse ++ items)) rest
  | .members members => ∀ (frames : List Frame) (before : List (String × Value))
      (rest : List Char), frames.length + 1 + room ≤ maxOpen →
      readMember frames before (cs ++ '}' :: rest) =
        complete frames (.object (assemble before members)) rest

theorem Denotes.readAs {room : Nat} {phrase : Phrase} {cs : List Char}
    (h : Denotes room phrase cs) : ReadAs room cs phrase := by
  induction h with
  | scalar hscalar =>
      intro frames rest _ hrest
      have hread := readScalar_of_scalarText hscalar hrest
      obtain ⟨c, behind, rfl, hc⟩ := exists_cons_of_scalarText hscalar
      exact readWithin_scalar frames hc hread
  | spaced hbefore _ hafter ih =>
      intro frames rest hroom hrest
      rw [List.append_assoc, List.append_assoc, readWithin_blank hbefore,
        ih frames _ hroom (extendsNumber_blank hafter hrest), complete_blank hafter]
  | emptyArray hinside =>
      intro frames rest hroom _
      rw [List.cons_append, List.append_assoc]
      exact readWithin_emptyArray (by omega) hinside rest
  | array hitems ih =>
      intro frames rest hroom _
      rw [List.cons_append, List.append_assoc,
        readWithin_array (by omega) (hitems.beginsPhrase.append _)]
      exact ih frames [] rest (by omega)
  -- Behind an item or a member stands a comma or the end of the container, and neither goes on with
  -- a number, so the condition on what follows it holds by itself.
  | lastItem _ ih =>
      intro frames before rest hroom
      rw [ih _ _ (by rw [List.length_cons]; exact hroom) rfl, complete_lastItem, List.reverse_cons]
  | item _ _ ih ihrest =>
      intro frames before rest hroom
      rw [List.append_assoc, List.cons_append, ih _ _ (by rw [List.length_cons]; exact hroom) rfl,
        complete_nextItem, ihrest frames _ rest hroom, List.reverse_cons, List.append_assoc,
        List.singleton_append]
  | emptyObject hinside =>
      intro frames rest hroom _
      rw [List.cons_append, List.append_assoc]
      exact readWithin_emptyObject (by omega) hinside rest
  | object hmembers ih =>
      intro frames rest hroom _
      rw [List.cons_append, List.append_assoc,
        readWithin_object (by omega) (hmembers.beginsPhrase.append _)]
      exact ih frames [] rest (by omega)
  | lastMember hname _ ih =>
      intro frames before rest hroom
      rw [List.append_assoc, List.cons_append, readMember_spacedText frames before hname,
        ih _ _ (by rw [List.length_cons]; exact hroom) rfl, complete_lastMember]
      rfl
  | member hname _ _ ih ihrest =>
      intro frames before rest hroom
      rw [List.append_assoc, List.cons_append, List.append_assoc, List.cons_append,
        readMember_spacedText frames before hname,
        ih _ _ (by rw [List.length_cons]; exact hroom) rfl, complete_nextMember,
        ihrest frames _ rest hroom]
      rfl

/-! What has been read is written so: first one step back. -/

theorem of_advancing {α : Type} {cs : List Char} {reading : Except Fault (α × List Char)}
    {hshorter : ∀ a rest, reading = .ok (a, rest) → rest.length < cs.length} {a : α}
    {rest : List Char} {hrest : rest.length < cs.length}
    (h : advancing reading hshorter = .ok (a, ⟨rest, hrest⟩)) : reading = .ok (a, rest) := by
  cases reading with
  | error fault => cases h
  | ok read =>
      obtain ⟨rfl, hrest⟩ := Prod.mk.inj (Except.ok.inj h)
      obtain rfl : read.2 = rest := congrArg Subtype.val hrest
      rfl

/-- What a text begins with from which `w` is read within the frames, and how the reading goes on
behind that. -/
inductive ReadStep (frames : List Frame) (w : Value) : List Char → Prop
  | scalar {cs rest : List Char} {v : Value} (h : ScalarText cs v)
      (hrest : complete frames v rest = some w) : ReadStep frames w (cs ++ rest)
  | emptyArray {inside rest : List Char} (hroom : frames.length < maxOpen) (h : Blank inside)
      (hrest : complete frames (.array []) rest = some w) :
      ReadStep frames w ('[' :: (inside ++ ']' :: rest))
  | array {rest : List Char} (hroom : frames.length < maxOpen)
      (hrest : readWithin (.items [] :: frames) rest = some w) : ReadStep frames w ('[' :: rest)
  | emptyObject {inside rest : List Char} (hroom : frames.length < maxOpen) (h : Blank inside)
      (hrest : complete frames (.object []) rest = some w) :
      ReadStep frames w ('{' :: (inside ++ '}' :: rest))
  | object {rest : List Char} (hroom : frames.length < maxOpen)
      (hrest : readMember frames [] rest = some w) : ReadStep frames w ('{' :: rest)

theorem readStep_of_readWithin {frames : List Frame} {cs : List Char} {w : Value}
    (h : readWithin frames cs = some w) :
    ∃ before text, Blank before ∧ cs = before ++ text ∧ ReadStep frames w text := by
  rw [readWithin.eq_def] at h
  split at h
  · cases h
  · next c rest _ hpast =>
      obtain ⟨before, hbefore, rfl⟩ := exists_blank_of_pastSpace hpast
      refine ⟨before, c :: rest, hbefore, rfl, ?_⟩
      split at h
      · next hc =>
          subst hc
          split at h
          · next hroom =>
              split at h
              · cases h
              · next d behind _ hinside =>
                  obtain ⟨inside, hblank, rfl⟩ := exists_blank_of_pastSpace hinside
                  split at h
                  · next hd =>
                      subst hd
                      exact .emptyArray hroom hblank h
                  · exact .array hroom h
          · cases h
      · split at h
        · next hc =>
            subst hc
            split at h
            · next hroom =>
                split at h
                · cases h
                · next d behind _ hinside =>
                    obtain ⟨inside, hblank, rfl⟩ := exists_blank_of_pastSpace hinside
                    split at h
                    · next hd =>
                        subst hd
                        exact .emptyObject hroom hblank h
                    · exact .object hroom h
            · cases h
        · split at h
          · next hread =>
              obtain ⟨scalar, hscalar, heq⟩ := scalarText_of_readScalar (of_advancing hread)
              rw [heq]
              exact .scalar hscalar h
          · cases h

theorem of_complete_items {frames : List Frame} {before : List Value} {v w : Value}
    {cs : List Char} (h : complete (.items before :: frames) v cs = some w) :
    ∃ blank rest, Blank blank ∧
      (cs = blank ++ ',' :: rest ∧ readWithin (.items (v :: before) :: frames) rest = some w ∨
        cs = blank ++ ']' :: rest ∧
          complete frames (.array (v :: before).reverse) rest = some w) := by
  rw [complete.eq_def] at h
  simp only at h
  split at h
  · cases h
  · next c rest _ hpast =>
      obtain ⟨blank, hblank, rfl⟩ := exists_blank_of_pastSpace hpast
      refine ⟨blank, rest, hblank, ?_⟩
      split at h
      · next hc => exact .inl ⟨by rw [hc], h⟩
      · split at h
        · next hc => exact .inr ⟨by rw [hc], h⟩
        · cases h

theorem of_complete_members {frames : List Frame} {before : List (String × Value)} {name : String}
    {v w : Value} {cs : List Char} (h : complete (.members before name :: frames) v cs = some w) :
    ∃ blank rest, Blank blank ∧
      (cs = blank ++ ',' :: rest ∧
          readMember frames (insertMember name v before) rest = some w ∨
        cs = blank ++ '}' :: rest ∧
          complete frames (.object (insertMember name v before)) rest = some w) := by
  rw [complete.eq_def] at h
  simp only at h
  split at h
  · cases h
  · next c rest _ hpast =>
      obtain ⟨blank, hblank, rfl⟩ := exists_blank_of_pastSpace hpast
      refine ⟨blank, rest, hblank, ?_⟩
      split at h
      · next hc => exact .inl ⟨by rw [hc], h⟩
      · split at h
        · next hc => exact .inr ⟨by rw [hc], h⟩
        · cases h

theorem of_readMember {frames : List Frame} {before : List (String × Value)} {cs : List Char}
    {w : Value} (h : readMember frames before cs = some w) :
    ∃ name s rest, SpacedText name s ∧ cs = name ++ ':' :: rest ∧
      readWithin (.members before s :: frames) rest = some w := by
  rw [readMember.eq_def] at h
  split at h
  · cases h
  · next c rest _ hpast =>
      obtain ⟨blank, hblank, rfl⟩ := exists_blank_of_pastSpace hpast
      split at h
      · next hc =>
          subst hc
          split at h
          · next s behind _ hread =>
              obtain ⟨text, heq, htext⟩ := quotedText_of_readText (of_advancing hread)
              split at h
              · cases h
              · next d rest _ hcolon =>
                  obtain ⟨after, hafter, hbehind⟩ := exists_blank_of_pastSpace hcolon
                  split at h
                  · next hd =>
                      refine ⟨_, s, rest, .mk hblank htext hafter, ?_, h⟩
                      rw [heq, hbehind, hd]
                      simp
                  · cases h
          · cases h
      · cases h

/-! And then all the way back. The three readers call one another, each on a shorter text, since
no phrase has an empty text. -/

theorem Denotes.length_pos {room : Nat} {phrase : Phrase} {cs : List Char}
    (h : Denotes room phrase cs) : 0 < cs.length := by
  obtain ⟨c, rest, hskip, -⟩ := h.beginsPhrase
  have hlt := length_lt_of_skipSpace hskip
  omega

theorem Denotes.blank_append {room : Nat} {v : Value} {before cs : List Char}
    (hbefore : Blank before) (h : Denotes room (.value v) cs) :
    Denotes room (.value v) (before ++ cs) := by
  have hspaced := h.spaced hbefore blank_nil
  rwa [List.append_nil] at hspaced

theorem Denotes.append_blank {room : Nat} {v : Value} {cs after : List Char}
    (h : Denotes room (.value v) cs) (hafter : Blank after) :
    Denotes room (.value v) (cs ++ after) := h.spaced blank_nil hafter

/-- A reading of `w` has come by a value first, and has then gone on behind it. -/
def ValueRead (frames : List Frame) (room : Nat) (cs : List Char) (w : Value) : Prop :=
  ∃ v text rest, Denotes room (.value v) text ∧ cs = text ++ rest ∧
    complete frames v rest = some w

/-- A reading of `w` behind an item has come by the items up to the end of the array. -/
def ItemsRead (frames : List Frame) (room : Nat) (before : List Value) (v : Value)
    (cs : List Char) (w : Value) : Prop :=
  ∃ items text rest,
    (∀ first, Denotes room (.value v) first → Denotes room (.items (v :: items)) (first ++ text)) ∧
    cs = text ++ ']' :: rest ∧ complete frames (.array (before.reverse ++ v :: items)) rest = some w

/-- A reading of `w` has come by the members up to the end of the object. -/
def MembersRead (frames : List Frame) (room : Nat) (before : List (String × Value))
    (cs : List Char) (w : Value) : Prop :=
  ∃ members text rest, Denotes room (.members members) text ∧ cs = text ++ '}' :: rest ∧
    complete frames (.object (assemble before members)) rest = some w

theorem ValueRead.spaced {frames : List Frame} {room : Nat} {before cs : List Char} {w : Value}
    (hbefore : Blank before) (h : ValueRead frames room cs w) :
    ValueRead frames room (before ++ cs) w := by
  obtain ⟨v, text, rest, htext, rfl, hrest⟩ := h
  exact ⟨v, before ++ text, rest, htext.blank_append hbefore, by simp, hrest⟩

mutual

theorem valueRead_of_readWithin (frames : List Frame) (room : Nat)
    (hroom : frames.length + room = maxOpen) {cs : List Char} {w : Value}
    (h : readWithin frames cs = some w) : ValueRead frames room cs w := by
  obtain ⟨before, text, hbefore, rfl, hstep⟩ := readStep_of_readWithin h
  refine .spaced hbefore ?_
  have hinner : frames.length < maxOpen → ∃ inner, room = inner + 1 := by
    intro hopen
    exact ⟨room - 1, by omega⟩
  cases hstep with
  | scalar hscalar hrest => exact ⟨_, _, _, .scalar hscalar, rfl, hrest⟩
  | emptyArray hopen hinside hrest =>
      obtain ⟨inner, rfl⟩ := hinner hopen
      exact ⟨_, _, _, .emptyArray hinside, by simp, hrest⟩
  | array hopen hrest =>
      obtain ⟨inner, rfl⟩ := hinner hopen
      obtain ⟨v, first, behind, hfirst, rfl, hbehind⟩ :=
        valueRead_of_readWithin _ inner (by rw [List.length_cons]; omega) hrest
      obtain ⟨items, others, outside, hitems, rfl, houtside⟩ :=
        itemsRead_of_complete frames inner (by omega) hbehind
      exact ⟨_, _, outside, .array (hitems first hfirst), by simp, houtside⟩
  | emptyObject hopen hinside hrest =>
      obtain ⟨inner, rfl⟩ := hinner hopen
      exact ⟨_, _, _, .emptyObject hinside, by simp, hrest⟩
  | object hopen hrest =>
      obtain ⟨inner, rfl⟩ := hinner hopen
      obtain ⟨members, inside, outside, hmembers, rfl, houtside⟩ :=
        membersRead_of_readMember frames inner (by omega) hrest
      exact ⟨_, _, outside, .object hmembers, by simp, houtside⟩
termination_by cs.length

theorem itemsRead_of_complete (frames : List Frame) (room : Nat)
    (hroom : frames.length + 1 + room = maxOpen) {before : List Value} {v : Value}
    {cs : List Char} {w : Value} (h : complete (.items before :: frames) v cs = some w) :
    ItemsRead frames room before v cs w := by
  obtain ⟨blank, rest, hblank, ⟨rfl, hrest⟩ | ⟨rfl, hrest⟩⟩ := of_complete_items h
  · obtain ⟨next, text, behind, hnext, rfl, hbehind⟩ :=
      valueRead_of_readWithin _ room (by rw [List.length_cons]; exact hroom) hrest
    have hlength := hnext.length_pos
    obtain ⟨items, others, outside, hitems, rfl, houtside⟩ :=
      itemsRead_of_complete frames room hroom hbehind
    refine ⟨next :: items, blank ++ ',' :: (text ++ others), outside, ?_, by simp, ?_⟩
    · intro first hfirst
      rw [← List.append_assoc]
      exact .item (hfirst.append_blank hblank) (hitems text hnext)
    · simpa using houtside
  · refine ⟨[], blank, rest, ?_, rfl, ?_⟩
    · intro first hfirst
      exact .lastItem (hfirst.append_blank hblank)
    · simpa using hrest
termination_by cs.length

theorem membersRead_of_readMember (frames : List Frame) (room : Nat)
    (hroom : frames.length + 1 + room = maxOpen) {before : List (String × Value)}
    {cs : List Char} {w : Value} (h : readMember frames before cs = some w) :
    MembersRead frames room before cs w := by
  obtain ⟨name, s, rest, hname, rfl, hrest⟩ := of_readMember h
  obtain ⟨v, text, behind, htext, rfl, hbehind⟩ :=
    valueRead_of_readWithin _ room (by rw [List.length_cons]; exact hroom) hrest
  have hvalue {blank : List Char} (hblank : Blank blank) := htext.append_blank hblank
  obtain ⟨blank, others, hblank, ⟨rfl, hothers⟩ | ⟨rfl, houtside⟩⟩ := of_complete_members hbehind
  · obtain ⟨members, inside, outside, hmembers, rfl, houtside⟩ :=
      membersRead_of_readMember frames room hroom hothers
    exact ⟨_, _, outside, .member hname (hvalue hblank) hmembers, by simp, houtside⟩
  · exact ⟨_, _, others, .lastMember hname (hvalue hblank), by simp, houtside⟩
termination_by cs.length

end

theorem of_complete_nil {v w : Value} {cs : List Char} (h : complete [] v cs = some w) :
    v = w ∧ Blank cs := by
  rw [complete] at h
  split at h
  · next hempty =>
      refine ⟨Option.some.inj h, ?_⟩
      obtain ⟨before, hbefore, hcs⟩ := exists_blank_append_skipSpace cs
      rw [List.isEmpty_iff.mp hempty, List.append_nil] at hcs
      rwa [hcs]
  · cases h

/-- The reader and the grammar agree, also in what is no text of any value. -/
theorem Value.read?_eq_some_iff {cs : List Char} {v : Value} :
    read? cs = some v ↔ Denotes maxOpen (.value v) cs := by
  constructor
  · intro h
    obtain ⟨w, text, rest, htext, rfl, hrest⟩ :=
      valueRead_of_readWithin [] maxOpen (Nat.zero_add maxOpen) h
    obtain ⟨rfl, hblank⟩ := of_complete_nil hrest
    exact htext.append_blank hblank
  · intro h
    have hread := h.readAs [] [] (Nat.le_of_eq (Nat.zero_add maxOpen)) rfl
    rw [List.append_nil] at hread
    rw [read?, hread, complete]
    rfl

end WorkflowParams.Json
