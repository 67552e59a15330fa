import AnsiArt.CommandLine.Word
import AnsiArt.Text.LetterCase

/-!
# Command lines

A command line is read from left to right into the options that were given with their values, the
operands, and the words that mean nothing. The operands are one run of neighbouring words that no
option takes as its value; such words further on mean nothing.

The options take effect in their order, and the first one that stops the tool or has a bad value
decides. Only then does a fault of the line itself count, and words without a meaning come last.
-/

namespace AnsiArt.CommandLine

/-- A command line that was read up to its end or its first fault. -/
structure Line (ι : Type) where
  uses : List (Use ι) := []
  operands : List String := []
  leftover : List String := []
  fault : Option UsageError := none

/-- Where the reading is with regard to the run of operands. -/
inductive Phase
  | before
  | inside
  | behind
  deriving DecidableEq

/-- The phase after an option. -/
def Phase.next : Phase → Phase
  | before => before
  | inside => behind
  | behind => behind

namespace Line

variable {ι : Type}

/-! ### Reading words -/

/-- Puts uses and words without a meaning in front of a line. -/
def behind (l : Line ι) (uses : List (Use ι)) (leftover : List String) : Line ι :=
  { l with uses := uses ++ l.uses, leftover := leftover ++ l.leftover }

/-- Puts an operand in front of a line. -/
def withOperand (l : Line ι) (text : String) : Line ι := { l with operands := text :: l.operands }

/-- What one word with options comes to: the uses that are complete, and the option that still needs
its value from the next word. -/
structure Group (ι : Type) where
  uses : List (Use ι) := []
  waiting : Option (OptionSpec ι) := none

/-- The options in a row of short names that begins with the name of `o`. The first option that takes
a value has the rest of the row as its value, or the next word if nothing is left. -/
def row (specs : List (OptionSpec ι)) (o : OptionSpec ι) :
    List Char → Except UsageError (Group ι)
  | [] => .ok (if o.takesValue then { waiting := some o } else { uses := [⟨o, .void⟩] })
  | c :: rest =>
    if o.takesValue then .ok { uses := [.ofValue o (String.ofList (c :: rest))] }
    else
      match Word.short? specs c with
      | none => .error (.unwantedValue o.label (String.ofList (c :: rest)))
      | some next => do
        let g ← row specs next rest
        return { g with uses := ⟨o, .void⟩ :: g.uses }

/-- The options in one word. Text behind a long name is a value, and so is an empty text behind an
equals sign. -/
def group (specs : List (OptionSpec ι)) (o : OptionSpec ι) (short : Bool) :
    Option (List Char) → Except UsageError (Group ι)
  | none => row specs o []
  | some attached =>
    if o.takesValue then .ok { uses := [.ofValue o (String.ofList attached)] }
    else if short && !attached.isEmpty then row specs o attached
    else .error (.unwantedValue o.label (String.ofList attached))

/-- Reads words in some phase. The options of the last word may be waiting for the value of one of
them; they count only once it is there. -/
def ofWords (specs : List (OptionSpec ι)) :
    Phase → Option (List (Use ι) × OptionSpec ι) → List (Word ι) → Line ι
  | _, none, [] => {}
  | phase, some (uses, o), .operand text :: rest =>
    (ofWords specs phase none rest).behind (uses ++ [.ofValue o text]) []
  | _, some (_, o), _ => { fault := some (.missingValue o.label) }
  | phase, none, .option o short attached :: rest =>
    match group specs o short attached with
    | .error e => { fault := some e }
    | .ok ⟨uses, none⟩ => (ofWords specs phase.next none rest).behind uses []
    | .ok ⟨uses, some o⟩ => ofWords specs phase.next (some (uses, o)) rest
  | phase, none, .unknown text :: rest => (ofWords specs phase.next none rest).behind [] [text]
  | .behind, none, .operand text :: rest => (ofWords specs .behind none rest).behind [] [text]
  | .behind, none, .dashes :: rest => (ofWords specs .behind none rest).behind [] ["--"]
  | _, none, .operand text :: rest => (ofWords specs .inside none rest).withOperand text
  | _, none, .dashes :: rest => ofWords specs .inside none rest

end Line

/-! ### What a command line asks for -/

/-- Why a tool does not do its work. -/
inductive Halt
  | help
  | version
  | refused (cause : UsageError)
  deriving DecidableEq

/-- A tool's command line: its options, whether it takes operands, and what each option changes. -/
structure Interface (ι σ : Type) where
  name : String
  version : String
  options : List (OptionSpec ι)
  takesOperands : Bool
  defaults : σ
  apply : σ → Use ι → Except Halt σ

namespace Interface

variable {ι σ : Type}

/-- The settings and operands that a line asks for. -/
def settingsOf (i : Interface ι σ) (l : Line ι) : Except Halt (σ × List String) := do
  let settings ← l.uses.foldlM i.apply i.defaults
  if let some e := l.fault then throw (.refused e)
  if l.leftover ≠ [] then throw (.refused (.unrecognized l.leftover))
  return (settings, l.operands)

/-- The settings and operands that the words of a command line ask for. -/
def read (i : Interface ι σ) (args : List String) : Except Halt (σ × List String) := do
  let words ← (Word.classify i.options args).mapError .refused
  i.settingsOf (Line.ofWords i.options (if i.takesOperands then .before else .behind) none words)

/-- The line that reports a refused command line. -/
def refusal (i : Interface ι σ) (e : UsageError) : String := s!"{i.name}: error: {e.message}\n"

/-- An option in a help, with the place of its value. -/
def helpOf (o : OptionSpec ι) : String :=
  " [" ++ o.label ++ (if o.takesValue then " " ++ toUpper o.long else "") ++ "]"

/-- A short help: the tool and the names of its options. -/
def help (i : Interface ι σ) : String :=
  "usage: " ++ i.name ++ String.join (i.options.map helpOf) ++
    (if i.takesOperands then " [files ...]" else "") ++ "\n"

end Interface

end AnsiArt.CommandLine
