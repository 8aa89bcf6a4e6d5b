import WorkflowParams.Json.Scalar

/-!
Reading a whole value. The containers that are open are kept as a list of frames, innermost first,
so that every step is a tail call: a value that has been read completes itself in the innermost
frame, and what follows it decides how to go on.
-/

namespace WorkflowParams.Json

/-- An open container: an array with the items read so far, last first, or an object with the
members read so far and the name of the member whose value comes next. -/
inductive Frame where
  | items (before : List Value)
  | members (before : List (String × Value)) (name : String)

/-- The number of containers that may be open at once. -/
def maxOpen : Nat := 127

mutual

/-- Reads the value that `cs` begins with and all that follows it. -/
def readWithin (frames : List Frame) (cs : List Char) : Option Value :=
  match pastSpace cs with
  | ⟨[], _⟩ => none
  | ⟨c :: rest, _⟩ =>
    if c = '[' then
      if frames.length < maxOpen then
        match pastSpace rest with
        | ⟨[], _⟩ => none
        | ⟨d :: behind, _⟩ =>
          if d = ']' then complete frames (.array []) behind
          else readWithin (.items [] :: frames) rest
      else none
    else if c = '{' then
      if frames.length < maxOpen then
        match pastSpace rest with
        | ⟨[], _⟩ => none
        | ⟨d :: behind, _⟩ =>
          if d = '}' then complete frames (.object []) behind
          else readMember frames [] rest
      else none
    else
      match advancing (readScalar (c :: rest)) (fun _ _ => length_lt_of_readScalar) with
      | .ok (v, ⟨rest, _⟩) => complete frames v rest
      | .error _ => none
termination_by cs.length
decreasing_by all_goals grind

/-- Goes on behind the value `v`, which the innermost frame was waiting for. -/
def complete (frames : List Frame) (v : Value) (cs : List Char) : Option Value :=
  match frames with
  | [] => if (skipSpace cs).isEmpty then some v else none
  | .items before :: frames =>
    match pastSpace cs with
    | ⟨[], _⟩ => none
    | ⟨c :: rest, _⟩ =>
      if c = ',' then readWithin (.items (v :: before) :: frames) rest
      else if c = ']' then complete frames (.array (v :: before).reverse) rest
      else none
  | .members before name :: frames =>
    match pastSpace cs with
    | ⟨[], _⟩ => none
    | ⟨c :: rest, _⟩ =>
      if c = ',' then readMember frames (insertMember name v before) rest
      else if c = '}' then complete frames (.object (insertMember name v before)) rest
      else none
termination_by cs.length
decreasing_by all_goals grind

/-- Reads the name of a member, its colon, and goes on with its value. -/
def readMember (frames : List Frame) (before : List (String × Value)) (cs : List Char) :
    Option Value :=
  match pastSpace cs with
  | ⟨[], _⟩ => none
  | ⟨c :: rest, _⟩ =>
    if c = '"' then
      match advancing (readText rest) (fun _ _ => length_lt_of_readText) with
      | .ok (name, ⟨rest, _⟩) =>
        match pastSpace rest with
        | ⟨[], _⟩ => none
        | ⟨d :: rest, _⟩ =>
          if d = ':' then readWithin (.members before name :: frames) rest else none
      | .error _ => none
    else none
termination_by cs.length
decreasing_by grind

end

/-- The value that a text denotes, if the whole of the text is one value. -/
def Value.read? (text : List Char) : Option Value := readWithin [] text

end WorkflowParams.Json
