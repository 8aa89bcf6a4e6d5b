import WorkflowParams.Json.Progress

/-!
Reading quoted text: the inverse of writing it, and besides that every other spelling that JSON
admits, the escaped surrogate pairs among them.
-/

namespace WorkflowParams.Json

def hexValue? (c : Char) : Option Nat :=
  if c.isDigit then some (c.toNat - '0'.toNat)
  else if 'a' ≤ c ∧ c ≤ 'f' then some (c.toNat - 'a'.toNat + 10)
  else if 'A' ≤ c ∧ c ≤ 'F' then some (c.toNat - 'A'.toNat + 10)
  else none

/-- Four hexadecimal digits. Four bytes are taken before they are looked at. -/
def readHex (cs : List Char) : Except Fault Nat :=
  if byteLength (cs.take 4) < 4 then .error (.atEnd .endInText)
  else
    match cs.take 4 |>.mapM hexValue? with
    | some digits => .ok (digits.foldl (fun n d => 16 * n + d) 0)
    | none => .error ⟨.invalidEscape, cs, 4⟩

def isLeading (unit : Nat) : Bool := 0xD800 ≤ unit && unit ≤ 0xDBFF

def isTrailing (unit : Nat) : Bool := 0xDC00 ≤ unit && unit ≤ 0xDFFF

def pairValue (leading trailing : Nat) : Nat :=
  0x10000 + 0x400 * (leading - 0xD800) + (trailing - 0xDC00)

/-- What must follow a leading surrogate: a second escape, with a trailing one. -/
def readTrailing (leading : Nat) : List Char → Except Fault Char
  | [] => .error (.atEnd .endInText)
  | '\\' :: [] => .error (.atEnd .endInText)
  | '\\' :: 'u' :: cs =>
    match readHex cs with
    | .error fault => .error fault
    | .ok unit =>
      if isTrailing unit then .ok (Char.ofNat (pairValue leading unit))
      else .error (.before .loneSurrogate (cs.drop 4))
  | '\\' :: cs => .error (.atFirst .endOfHexEscape cs)
  | cs => .error (.atFirst .endOfHexEscape cs)

/-- The character that a backslash and the characters after it stand for, and how many of them
that takes. -/
def readEscape (cs : List Char) : Except Fault (Char × Nat) :=
  match cs with
  | [] => .error (.atEnd .endInText)
  | '"' :: _ => .ok ('"', 1)
  | '\\' :: _ => .ok ('\\', 1)
  | '/' :: _ => .ok ('/', 1)
  | 'b' :: _ => .ok ('\x08', 1)
  | 'f' :: _ => .ok ('\x0c', 1)
  | 'n' :: _ => .ok ('\n', 1)
  | 'r' :: _ => .ok ('\r', 1)
  | 't' :: _ => .ok ('\t', 1)
  | 'u' :: cs =>
    match readHex cs with
    | .error fault => .error fault
    | .ok unit =>
      if isTrailing unit then .error (.before .loneSurrogate (cs.drop 4))
      else if isLeading unit then (readTrailing unit (cs.drop 4)).map (·, 11)
      else .ok (Char.ofNat unit, 5)
  | cs => .error (.atFirst .invalidEscape cs)

/-- The characters up to the closing quote, the opening one having been read. -/
def readChars (cs : List Char) : Except Fault (List Char × List Char) :=
  match cs with
  | [] => .error (.atEnd .endInText)
  | c :: cs =>
    if c = '"' then .ok ([], cs)
    else if c = '\\' then
      match readEscape cs with
      | .error fault => .error fault
      | .ok (d, extent) => (readChars (cs.drop extent)).map fun (ds, rest) => (d :: ds, rest)
    else if c.toNat < 0x20 then .error (.before .controlCharacter cs)
    else (readChars cs).map fun (ds, rest) => (c :: ds, rest)
termination_by cs.length
decreasing_by all_goals grind

theorem length_lt_of_readChars {cs characters rest : List Char}
    (h : readChars cs = .ok (characters, rest)) : rest.length < cs.length := by
  fun_induction readChars cs generalizing characters with
  | case1 => simp at h
  | case2 => simp_all
  | case3 => simp at h
  | case4 _ _ _ _ _ ih =>
      obtain ⟨⟨ds, after⟩, hread, heq⟩ := exists_of_map_eq_ok h
      cases heq
      have := ih hread
      grind
  | case5 => simp at h
  | case6 c cs _ _ _ ih =>
      obtain ⟨⟨ds, after⟩, hread, heq⟩ := exists_of_map_eq_ok h
      cases heq
      have := ih hread
      grind

def readText (cs : List Char) : Except Fault (String × List Char) :=
  (readChars cs).map fun (characters, rest) => (String.ofList characters, rest)

theorem length_lt_of_readText {cs rest : List Char} {s : String}
    (h : readText cs = .ok (s, rest)) : rest.length < cs.length := by
  obtain ⟨⟨characters, after⟩, hread, heq⟩ := exists_of_map_eq_ok h
  cases heq
  exact length_lt_of_readChars hread

end WorkflowParams.Json
