/-!
The choices that a conversion leaves to its user. None of them changes which declarations can be
converted.
-/

namespace WorkflowParams

/-- How an output parameter is bound to the record. -/
inductive OutputBinding where
  | recordUpdate
  | recordLookup
  deriving DecidableEq, Repr

/-- Where the word that marks a parameter as optional is looked for. -/
inductive OptionalScan where
  /-- Anywhere in the text of the declaration, string literals included. -/
  | wholeString
  /-- Among the tokens of the declaration, outside brackets. -/
  | bareWord
  deriving DecidableEq, Repr

/-- The shape of a document of definitions. -/
inductive Format where
  | list
  | map
  deriving DecidableEq, Repr

structure Settings where
  outputBinding : OutputBinding := .recordUpdate
  optionalScan : OptionalScan := .wholeString
  includeDefaults : Bool := false
  deriving DecidableEq, Repr

end WorkflowParams
