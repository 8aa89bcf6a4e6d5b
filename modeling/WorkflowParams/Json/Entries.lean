import WorkflowParams.Json.Printer
import WorkflowParams.Json.Scalar
import WorkflowParams.Text.Quoted

/-!
Reading an object all of whose values are texts. The first fault in the order of the text is the
one reported. Something else than a text is read to its end before it is refused, unless it is a
container, which is not looked into.
-/

namespace WorkflowParams.Json

open WorkflowParams.Text

/-- How a message names a value of the wrong type. -/
def Value.describe : Value → String
  | .null => "null"
  | .boolean true => "boolean `true`"
  | .boolean false => "boolean `false`"
  | .integer n => "integer `" ++ String.ofList (writeInteger n) ++ "`"
  | .double x => "floating point `" ++ String.ofList (numberStyle.write x) ++ "`"
  | .text s => "string " ++ showQuoted s
  | .array _ => "sequence"
  | .object _ => "map"

/-- The fault of a text that should have gone on with a value of another type. -/
def wrongType (expected : String) (cs : List Char) : Fault :=
  match cs with
  | '[' :: _ => .before (.wrongType "sequence" expected) cs
  | '{' :: _ => .before (.wrongType "map" expected) cs
  | cs =>
    match readScalar cs with
    | .ok (v, rest) => .before (.wrongType v.describe expected) rest
    | .error fault => fault

def readColon (cs : List Char) : Except Fault (List Char) :=
  match skipSpace cs with
  | [] => .error (.atEnd .endInObject)
  | ':' :: rest => .ok rest
  | rest => .error (.atFirst .expectedColon rest)

def readTextValue (cs : List Char) : Except Fault (String × List Char) :=
  match skipSpace cs with
  | '"' :: rest => readText rest
  | rest => .error (wrongType "a string" rest)

/-- One name with its text, the opening quote of the name having been read. -/
def readEntry (cs : List Char) : Except Fault ((String × String) × List Char) :=
  match readText cs with
  | .error fault => .error fault
  | .ok (name, rest) =>
    match readColon rest with
    | .error fault => .error fault
    | .ok rest => (readTextValue rest).map fun (text, rest) => ((name, text), rest)

theorem length_lt_of_readColon {cs rest : List Char} (h : readColon cs = .ok rest) :
    rest.length < cs.length := by
  unfold readColon at h
  split at h
  · simp at h
  · rename_i hspace
    cases h
    exact length_lt_of_skipSpace hspace
  · simp at h

theorem length_lt_of_readTextValue {cs rest : List Char} {s : String}
    (h : readTextValue cs = .ok (s, rest)) : rest.length < cs.length := by
  unfold readTextValue at h
  split at h
  · rename_i hspace
    exact Nat.lt_trans (length_lt_of_readText h) (length_lt_of_skipSpace hspace)
  · simp at h

theorem length_lt_of_readEntry {cs rest : List Char} {entry : String × String}
    (h : readEntry cs = .ok (entry, rest)) : rest.length < cs.length := by
  unfold readEntry at h
  split at h
  · simp at h
  · rename_i hname
    split at h
    · simp at h
    · rename_i hcolon
      obtain ⟨⟨text, after⟩, hvalue, heq⟩ := exists_of_map_eq_ok h
      cases heq
      have h1 := length_lt_of_readText hname
      have h2 := length_lt_of_readColon hcolon
      have h3 := length_lt_of_readTextValue hvalue
      omega

/-- The entries from one whose name has its opening quote read, to the closing brace. -/
def readEntries (cs : List Char) : Except Fault (List (String × String) × List Char) :=
  match advancing (readEntry cs) (fun _ _ => length_lt_of_readEntry) with
  | .error fault => .error fault
  | .ok (entry, ⟨rest, _⟩) =>
    match pastSpace rest with
    | ⟨[], _⟩ => .error (.atEnd .endInObject)
    | ⟨c :: rest, _⟩ =>
      if c = '}' then .ok ([entry], rest)
      else if c = ',' then
        match pastSpace rest with
        | ⟨[], _⟩ => .error (.atEnd .endInValue)
        | ⟨d :: rest, _⟩ =>
          if d = '"' then (readEntries rest).map fun (entries, rest) => (entry :: entries, rest)
          else if d = '}' then .error (.atFirst .trailingComma (d :: rest))
          else .error (.atFirst .nameNotText (d :: rest))
      else .error (.atFirst .expectedCommaOrBrace (c :: rest))
termination_by cs.length
decreasing_by grind

/-- The entries of an object, its opening brace having been read. -/
def readObject (cs : List Char) : Except Fault (List (String × String) × List Char) :=
  match skipSpace cs with
  | [] => .error (.atEnd .endInObject)
  | '}' :: rest => .ok ([], rest)
  | '"' :: rest => readEntries rest
  | rest => .error (.atFirst .nameNotText rest)

/-- The entries of a text that is one object of texts, in the order of the text. -/
def readTextObject (cs : List Char) : Except Fault (List (String × String)) :=
  match skipSpace cs with
  | '{' :: rest =>
    match readObject rest with
    | .error fault => .error fault
    | .ok (entries, rest) =>
      match skipSpace rest with
      | [] => .ok entries
      | rest => .error (.atFirst .trailingCharacters rest)
  | rest => .error (wrongType "a map" rest)

end WorkflowParams.Json
