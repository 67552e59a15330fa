import AnsiArt.CommandLine.Line
import AnsiArt.Output.Export

/-!
# Outcomes

What a run of a tool leaves behind. A command line that asks for no work has an outcome of its own:
the help, the version, or the reason why it is refused.
-/

namespace AnsiArt.CommandLine

/-- What a run of a tool leaves: its exit status, what it printed, and the files. -/
structure Outcome where
  status : Nat := 0
  output : String := ""
  errors : String := ""
  workspace : Workspace

/-- The version of the tools. -/
def toolVersion : String := "0.1.0"

/-- The outcome of a command line that asks for no work. -/
def Interface.halted {ι σ : Type} (i : Interface ι σ) (w : Workspace) : Halt → Outcome
  | .help => { output := i.help, workspace := w }
  | .version => { output := s!"{i.name} {i.version}\n", workspace := w }
  | .refused e => { status := 2, errors := i.refusal e, workspace := w }

end AnsiArt.CommandLine
