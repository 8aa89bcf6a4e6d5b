import WorkflowParams.Json.Numeral
import WorkflowParams.Json.TextReader

/-!
Reading what JSON writes without brackets: the three names, numbers and text. Each reader starts
at the first character of what it reads and answers the value together with the text behind it.
-/

namespace WorkflowParams.Json

def readLetters : List Char → List Char → Except Fault (List Char)
  | [], cs => .ok cs
  | _ :: _, [] => .error (.atEnd .endInValue)
  | letter :: letters, c :: cs =>
    if c = letter then readLetters letters cs else .error (.atFirst .expectedLiteral (c :: cs))

theorem length_le_of_readLetters {letters cs rest : List Char}
    (h : readLetters letters cs = .ok rest) : rest.length ≤ cs.length := by
  fun_induction readLetters letters cs with
  | case1 => simp_all
  | case2 => simp at h
  | case3 _ _ _ ih => exact Nat.le_succ_of_le (ih h)
  | case4 => simp at h

def readScalar (cs : List Char) : Except Fault (Value × List Char) :=
  match cs with
  | [] => .error (.atEnd .endInValue)
  | 'n' :: cs => (readLetters ['u', 'l', 'l'] cs).map (.null, ·)
  | 't' :: cs => (readLetters ['r', 'u', 'e'] cs).map (.boolean true, ·)
  | 'f' :: cs => (readLetters ['a', 'l', 's', 'e'] cs).map (.boolean false, ·)
  | '"' :: cs => (readText cs).map fun (s, rest) => (.text s, rest)
  | c :: _ =>
    if c = '-' || c.isDigit then readNumber cs else .error (.atFirst .expectedValue cs)

theorem length_lt_of_readScalar {cs rest : List Char} {v : Value}
    (h : readScalar cs = .ok (v, rest)) : rest.length < cs.length := by
  unfold readScalar at h
  split at h
  · simp at h
  · obtain ⟨_, hread, heq⟩ := exists_of_map_eq_ok h
    cases heq
    exact Nat.lt_succ_of_le (length_le_of_readLetters hread)
  · obtain ⟨_, hread, heq⟩ := exists_of_map_eq_ok h
    cases heq
    exact Nat.lt_succ_of_le (length_le_of_readLetters hread)
  · obtain ⟨_, hread, heq⟩ := exists_of_map_eq_ok h
    cases heq
    exact Nat.lt_succ_of_le (length_le_of_readLetters hread)
  · obtain ⟨_, hread, heq⟩ := exists_of_map_eq_ok h
    cases heq
    exact Nat.lt_succ_of_lt (length_lt_of_readText hread)
  · split at h
    · exact length_lt_of_readNumber h
    · simp at h

end WorkflowParams.Json
