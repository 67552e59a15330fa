import AnsiArt.Setting
import AnsiArt.Text.Integer

/-!
# Options of a command line

An option has a long name and may have a short one of a single letter. It either stands alone or
takes a value. The errors of a command line name the option that they are about by all its names.

An option is emptied by the value `--`, whatever kind of value it takes.
-/

namespace AnsiArt.CommandLine

/-- An option: what it means to its tool, what it is called, and whether a value follows it. -/
structure OptionSpec (ι : Type) where
  id : ι
  short : Option Char := none
  long : String
  takesValue : Bool := false

namespace OptionSpec

/-- The long name as it is written. -/
def longName {ι : Type} (o : OptionSpec ι) : String := "--" ++ o.long

/-- All names as they are written, the short one first. -/
def names {ι : Type} (o : OptionSpec ι) : List String :=
  (o.short.map fun c => String.ofList ['-', c]).toList ++ [o.longName]

/-- All names in one text. -/
def label {ι : Type} (o : OptionSpec ι) : String := "/".intercalate o.names

end OptionSpec

/-- Why a command line is refused. -/
inductive UsageError
  /-- A shortened name that more than one option has. -/
  | ambiguous (word : String) (names : List String)
  /-- A value given to an option that takes none. -/
  | unwantedValue (label value : String)
  /-- An option without the value that it takes. -/
  | missingValue (label : String)
  /-- A value that is no integer. -/
  | notInteger (label value : String)
  /-- A value that is none of those that the option allows. -/
  | notAllowed (label value : String) (allowed : List String)
  /-- Words that mean nothing. -/
  | unrecognized (words : List String)
  deriving DecidableEq

/-- The wording of a refused command line. -/
def UsageError.message : UsageError → String
  | ambiguous word names =>
    let names := ", ".intercalate names
    s!"ambiguous option: {word} could match {names}"
  | unwantedValue label value =>
    s!"argument {label}: ignored explicit argument {Quoted.quote value}"
  | missingValue label => s!"argument {label}: expected one argument"
  | notInteger label value => s!"argument {label}: invalid int value: {Quoted.quote value}"
  | notAllowed label value allowed =>
    let choices := ", ".intercalate (allowed.map Quoted.quote)
    s!"argument {label}: invalid choice: {Quoted.quote value} (choose from {choices})"
  | unrecognized words =>
    let words := " ".intercalate words
    s!"unrecognized arguments: {words}"

/-- An option that was given, with its value if it takes one. -/
structure Use (ι : Type) where
  option : OptionSpec ι
  value : Setting String := .void

namespace Use

variable {ι : Type}

/-- The use of an option with a value. Two hyphens stand for no value at all. -/
def ofValue (o : OptionSpec ι) (value : String) : Use ι :=
  ⟨o, if value = "--" then .void else .value value⟩

/-- The value as an integer. -/
def integer (u : Use ι) : Except UsageError (Setting Int) :=
  match u.value with
  | .void => .ok .void
  | .value text =>
    match Integer.read 10 text.toList with
    | .ok n => .ok (.value n)
    | .error _ => .error (.notInteger u.option.label text)

/-- The value, if it is one of those allowed. -/
def oneOf (u : Use ι) (allowed : List String) : Except UsageError (Setting String) :=
  match u.value with
  | .void => .ok .void
  | .value text =>
    if text ∈ allowed then .ok (.value text)
    else .error (.notAllowed u.option.label text allowed)

end Use

end AnsiArt.CommandLine
