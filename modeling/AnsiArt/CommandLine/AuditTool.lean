import AnsiArt.CommandLine.Outcome
import AnsiArt.Fonts.Audit

/-!
# The audit tool

The tool reports for each font profile which printable characters of the code page its fonts can
show. If it is strict, a missing character makes the run fail.
-/

namespace AnsiArt

open CommandLine

namespace AuditTool

/-! ### Options -/

/-- The options of the tool. -/
inductive Choice
  | help
  | profile
  | strict
  | size
  deriving DecidableEq

/-- What the options choose; without a profile, or with an emptied one, all are audited. -/
structure Settings where
  profile : Option String := none
  strict : Bool := false
  size : Setting Int := .value FontStack.defaultSize

/-- The options with their names, in the order in which they are listed. -/
def options : List (OptionSpec Choice) :=
  [{ id := .help, short := some 'h', long := "help" },
   { id := .profile, long := "profile", takesValue := true },
   { id := .strict, long := "strict" },
   { id := .size, long := "size", takesValue := true }]

/-- The effect of an option. -/
def apply (s : Settings) (u : Use Choice) : Except Halt Settings :=
  match u.option.id with
  | .help => throw .help
  | .profile => do
    let profile ← (u.oneOf FontStack.profileNames).mapError .refused
    return { s with profile := profile.toOption }
  | .strict => return { s with strict := true }
  | .size => do
    let size ← u.integer.mapError .refused
    return { s with size }

/-- The command line of the tool. -/
def interface : Interface Choice Settings :=
  { name := "glyph-audit", version := toolVersion, options, takesOperands := false, defaults := {}
    apply }

/-! ### A run -/

/-- A profile with its fonts and their audit. -/
structure Finding where
  profile : String
  fonts : FontStack
  audit : GlyphAudit

/-- The audit of the code page in the fonts of a profile. -/
def examine (system : FontSystem) (size : Setting Int) (profile : String) : Finding :=
  let fonts := FontStack.resolve system profile size
  ⟨profile, fonts, GlyphAudit.ofText (String.ofList CodePage437.repertoire) fonts⟩

/-- The lines about a profile. -/
def Finding.lines (f : Finding) : List String :=
  let a := f.audit
  let mark := if a.isClean then "✓" else "⚠"
  [s!"  {mark} {f.profile}: {f.fonts.primary.path}",
   s!"    {a.percentage.fixed 1}% ({a.covered}/{a.total}), " ++
     s!"fallbacks: {f.fonts.fallbacks.length}"]
    ++ if a.isClean then [] else [s!"    missing: {a.missingText 10}"]

/-- The last line, if there is one. -/
def verdict (strict clean : Bool) : List String :=
  if clean then ["✓ All CP437 glyphs covered"]
  else if strict then ["✗ Strict mode: missing glyphs detected"]
  else []

/-- A run with some settings: its exit status and what it prints. -/
def runWith (system : FontSystem) (s : Settings) : Nat × String :=
  let profiles := match s.profile with
    | some p => [p]
    | none => FontStack.profileNames
  let findings := profiles.map (examine system s.size)
  let clean := findings.all (·.audit.isClean)
  let lines := [s!"Glyph Audit — CP437, size: {s.size}", String.ofList (List.replicate 60 '=')]
    ++ findings.flatMap Finding.lines ++ [""] ++ verdict s.strict clean
  (if s.strict && !clean then 1 else 0, String.join (lines.map (· ++ "\n")))

/-- A run with the words of a command line. -/
def run (system : FontSystem) (w : Workspace) (args : List String) : Outcome :=
  match interface.read args with
  | .error h => interface.halted w h
  | .ok (settings, _) =>
    let (status, output) := runWith system settings
    { status, output, workspace := w }

end AuditTool

end AnsiArt
