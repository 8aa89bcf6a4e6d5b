import WorkflowParams.Binding

/-!
Reading the arguments of the command line. They are taken strictly from left to right, and the
first one that cannot be used, or that asks for the version or for help, settles the matter.
-/

namespace WorkflowParams.CommandLine

/-- A conversion that the arguments ask for. -/
structure Invocation where
  source : String
  target : Option String
  direction : Direction
  format : Format
  settings : Settings
  noColour : Bool
  deriving DecidableEq, Repr

/-- Options that stand for themselves. -/
inductive Flag where
  | outputDef
  | includeDefaults
  | noColor
  deriving DecidableEq, Repr

/-- Options that take a value. -/
inductive Setting where
  | output
  | format
  | outputBinding
  | optionalScan
  deriving DecidableEq, Repr

def Flag.name : Flag → String
  | .outputDef => "output-def"
  | .includeDefaults => "include-defaults"
  | .noColor => "no-color"

def Setting.name : Setting → String
  | .output => "output"
  | .format => "format"
  | .outputBinding => "output-binding"
  | .optionalScan => "optional-scan"

inductive UsageError where
  | unknownOption (option : String)
  | unwantedValue (option : String)
  | missingValue (option : String)
  | badValue (option value : String)
  | repeated (option : String)
  | unexpectedArgument (argument : String)
  | emptySource
  | missingSource
  deriving DecidableEq, Repr

def UsageError.message : UsageError → String
  | .unknownOption option => "unexpected argument '" ++ option ++ "' found"
  | .unwantedValue option => "unexpected value for '" ++ option ++ "' found; no more were expected"
  | .missingValue option => "a value is required for '--" ++ option ++ "' but none was supplied"
  | .badValue option value => "invalid value '" ++ value ++ "' for '--" ++ option ++ "'"
  | .repeated option => "the argument '--" ++ option ++ "' cannot be used multiple times"
  | .unexpectedArgument argument => "unexpected argument '" ++ argument ++ "' found"
  | .emptySource => "a value is required for '<WOMTOOL_FILE>' but none was supplied"
  | .missingSource => "the following required arguments were not provided: <WOMTOOL_FILE>"

/-- What ends the reading of arguments before they are all read. -/
inductive Stop where
  | usage (error : UsageError)
  | version
  | help
  deriving DecidableEq, Repr

/-- What the arguments read so far have said. -/
structure Gathered where
  source : Option String := none
  output : Option String := none
  format : Option Format := none
  outputBinding : Option OutputBinding := none
  optionalScan : Option OptionalScan := none
  flags : List Flag := []
  deriving DecidableEq, Repr

namespace Gathered

def addSource (g : Gathered) (text : String) : Except Stop Gathered :=
  if g.source.isSome then .error (.usage (.unexpectedArgument text))
  else if text = "" then .error (.usage .emptySource)
  else .ok { g with source := some text }

def addFlag (g : Gathered) (flag : Flag) : Except Stop Gathered :=
  if flag ∈ g.flags then .error (.usage (.repeated flag.name))
  else .ok { g with flags := flag :: g.flags }

/-- Takes the value of a setting that must not have been given before. -/
def fill {α : Type} (setting : Setting) (present : Option α) (value : String)
    (meaning : Option α) (put : α → Gathered) : Except Stop Gathered :=
  if present.isSome then .error (.usage (.repeated setting.name))
  else
    match meaning with
    | some a => .ok (put a)
    | none => .error (.usage (.badValue setting.name value))

def path? (value : String) : Option String := if value = "" then none else some value

def format? : String → Option Format
  | "list" => some .list
  | "map" => some .map
  | _ => none

def outputBinding? : String → Option OutputBinding
  | "record-update" => some .recordUpdate
  | "record-lookup" => some .recordLookup
  | _ => none

def optionalScan? : String → Option OptionalScan
  | "whole-string" => some .wholeString
  | "annotation" => some .bareWord
  | _ => none

def set (g : Gathered) (setting : Setting) (value : String) : Except Stop Gathered :=
  match setting with
  | .output => fill setting g.output value (path? value) fun p => { g with output := some p }
  | .format => fill setting g.format value (format? value) fun f => { g with format := some f }
  | .outputBinding =>
    fill setting g.outputBinding value (outputBinding? value)
      fun b => { g with outputBinding := some b }
  | .optionalScan =>
    fill setting g.optionalScan value (optionalScan? value)
      fun s => { g with optionalScan := some s }

def finish (g : Gathered) : Except Stop Invocation :=
  match g.source with
  | none => .error (.usage .missingSource)
  | some source =>
    .ok
      { source
        target := g.output
        direction := if .outputDef ∈ g.flags then .output else .input
        format := g.format.getD .list
        settings :=
          { outputBinding := g.outputBinding.getD .recordUpdate
            optionalScan := g.optionalScan.getD .wholeString
            includeDefaults := .includeDefaults ∈ g.flags }
        noColour := .noColor ∈ g.flags }

end Gathered

/-- An argument by its form alone. -/
inductive Argument where
  | plain (text : String)
  | separator
  /-- The name after two dashes, and the value after an equals sign if there is one. -/
  | long (name : String) (value : Option String)
  /-- The letters after one dash. -/
  | short (letters : List Char)
  deriving DecidableEq, Repr

namespace Argument

/-- A single dash is no option. -/
def ofString (text : String) : Argument :=
  match text.toList with
  | ['-', '-'] => .separator
  | '-' :: '-' :: cs =>
    let name := String.ofList (cs.takeWhile (· ≠ '='))
    match cs.dropWhile (· ≠ '=') with
    | [] => .long name none
    | _ :: value => .long name (some (String.ofList value))
  | '-' :: c :: cs => .short (c :: cs)
  | _ => .plain text

end Argument

/-- What the name of a long option stands for. -/
inductive Meaning where
  | flag (flag : Flag)
  | setting (setting : Setting)
  | stop (stop : Stop)
  deriving DecidableEq, Repr

def meanings : List (String × Meaning) :=
  [Flag.outputDef, .includeDefaults, .noColor].map (fun flag => (flag.name, .flag flag)) ++
    [Setting.output, .format, .outputBinding, .optionalScan].map
      (fun setting => (setting.name, .setting setting)) ++
    [("version", .stop .version), ("help", .stop .help)]

namespace Gathered

/-- Takes a long option; a setting without a value awaits it. -/
def takeLong (g : Gathered) (name : String) (value : Option String) :
    Except Stop (Gathered × Option Setting) :=
  match meanings.lookup name, value with
  | some (.flag flag), none => (g.addFlag flag).map (·, none)
  | some (.setting setting), none => .ok (g, some setting)
  | some (.setting setting), some value => (g.set setting value).map (·, none)
  | some (.stop stop), none => .error stop
  | some _, some _ => .error (.usage (.unwantedValue ("--" ++ name)))
  | none, _ => .error (.usage (.unknownOption ("--" ++ name)))

/-- Takes the letters of a short option. What follows the letter of the output is its value. -/
def takeShort (g : Gathered) : List Char → Except Stop (Gathered × Option Setting)
  | 'o' :: [] => .ok (g, some .output)
  | 'o' :: '=' :: value => (g.set .output (String.ofList value)).map (·, none)
  | 'o' :: value => (g.set .output (String.ofList value)).map (·, none)
  | 'V' :: _ => .error .version
  | 'h' :: _ => .error .help
  | letters => .error (.usage (.unknownOption (String.ofList ('-' :: letters))))

/-- Behind the separator every argument stands for itself. -/
def takePlain (g : Gathered) : List String → Except Stop Gathered
  | [] => .ok g
  | text :: rest => (g.addSource text).bind fun g => g.takePlain rest

/-- Takes the arguments in turn. A setting that awaits its value takes the next argument, unless
that looks like an option. -/
def take (g : Gathered) (awaiting : Option Setting) : List String → Except Stop Gathered
  | [] =>
    match awaiting with
    | some setting => .error (.usage (.missingValue setting.name))
    | none => .ok g
  | text :: rest =>
    match awaiting, Argument.ofString text with
    | some setting, .plain value => (g.set setting value).bind fun g => g.take none rest
    | some setting, _ => .error (.usage (.missingValue setting.name))
    | none, .plain source => (g.addSource source).bind fun g => g.take none rest
    | none, .separator => g.takePlain rest
    | none, .long name value =>
      (g.takeLong name value).bind fun (g, awaiting) => g.take awaiting rest
    | none, .short letters =>
      (g.takeShort letters).bind fun (g, awaiting) => g.take awaiting rest

end Gathered

def Invocation.ofArguments (arguments : List String) : Except Stop Invocation :=
  (Gathered.take {} none arguments).bind Gathered.finish

end WorkflowParams.CommandLine
