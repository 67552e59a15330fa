import AnsiArt.CommandLine.Outcome
import AnsiArt.Fonts.Audit
import AnsiArt.Palette.Shelf

/-!
# The rendering tool

The tool renders each of its operands in turn. Texts and documents go to the standard output unless
there is a directory for them, images always go to files, and the files that were written are listed
at the end. Instead of rendering, the tool can list the palettes, or report for each operand which
of its characters the fonts can show.

The first failure ends the run; what was printed and written before it remains.
-/

namespace AnsiArt

open CommandLine

namespace RenderTool

/-! ### Options -/

/-- The options of the tool. -/
inductive Choice
  | help
  | version
  | format
  | outdir
  | stylesheet
  | width
  | height
  | noSauce
  | palette
  | fontProfile
  | fontSize
  | listPalettes
  | glyphAudit
  | verbose
  deriving DecidableEq

/-- What the options choose: the request, and what to do and to report. -/
structure Settings where
  request : RenderRequest := {}
  listPalettes : Bool := false
  glyphAudit : Bool := false
  verbosity : Nat := 0

/-- The options with their names, in the order in which they are listed. -/
def options : List (OptionSpec Choice) :=
  [{ id := .help, short := some 'h', long := "help" },
   { id := .version, long := "version" },
   { id := .format, long := "format", takesValue := true },
   { id := .outdir, long := "outdir", takesValue := true },
   { id := .stylesheet, long := "stylesheet", takesValue := true },
   { id := .width, long := "width", takesValue := true },
   { id := .height, long := "height", takesValue := true },
   { id := .noSauce, long := "no-sauce" },
   { id := .palette, long := "palette", takesValue := true },
   { id := .fontProfile, long := "font-profile", takesValue := true },
   { id := .fontSize, long := "font-size", takesValue := true },
   { id := .listPalettes, long := "list-palettes" },
   { id := .glyphAudit, long := "glyph-audit" },
   { id := .verbose, short := some 'v', long := "verbose" }]

/-- Changes the request. -/
def Settings.ask (s : Settings) (f : RenderRequest → RenderRequest) : Settings :=
  { s with request := f s.request }

/-- The effect of an option. -/
def apply (s : Settings) (u : Use Choice) : Except Halt Settings :=
  match u.option.id with
  | .help => throw .help
  | .version => throw .version
  | .format => return s.ask ({ · with format := u.value })
  | .outdir => return s.ask ({ · with outdir := some u.value })
  | .stylesheet => return s.ask ({ · with stylesheet := some u.value })
  | .width => do
    let n ← u.integer.mapError .refused
    return s.ask ({ · with width := some n })
  | .height => do
    let n ← u.integer.mapError .refused
    return s.ask ({ · with height := n })
  | .noSauce => return s.ask ({ · with useSauce := false })
  | .palette => return s.ask ({ · with palette := u.value })
  | .fontProfile => do
    let profile ← (u.oneOf FontStack.profileNames).mapError .refused
    return s.ask ({ · with fontProfile := profile })
  | .fontSize => do
    let n ← u.integer.mapError .refused
    return s.ask ({ · with fontSize := n })
  | .listPalettes => return { s with listPalettes := true }
  | .glyphAudit => return { s with glyphAudit := true }
  | .verbose => return { s with verbosity := s.verbosity + 1 }

/-- The command line of the tool. -/
def interface : Interface Choice Settings :=
  { name := "art-engine", version := toolVersion, options, takesOperands := true, defaults := {}
    apply }

/-! ### Failures -/

/-- Why a run fails. -/
inductive Failure
  | noInput
  /-- The name of the palette or of the font profile was emptied. -/
  | noName
  | config (cause : ConfigError)
  | palette (cause : PaletteError)
  | load (cause : Artwork.LoadError)
  | exportArt (cause : ExportError)

/-- The wording of a failure. -/
def Failure.message : Failure → String
  | noInput => "no input files"
  | noName => "unhashable type: 'list'"
  | config cause => cause.message
  | palette cause => cause.message
  | load cause => cause.message
  | exportArt cause => cause.message

/-! ### One operand -/

/-- What is done with each operand. -/
structure Job where
  room : Room
  config : RenderConfig
  palette : Palette
  fonts : FontStack
  glyphAudit : Bool
  threshold : Level

/-- What a run has printed and written so far, and the failure that ended it. -/
structure Session where
  workspace : Workspace
  output : String := ""
  errors : String := ""
  results : List ExportResult := []
  failure : Option Failure := none

/-- The lines for the notices that are important enough. -/
def logLines (threshold : Level) (log : List Notice) : String :=
  String.join ((log.filter fun n => threshold.rank ≤ n.level.rank).map fun n =>
    s!"{n.source}: {n.message}\n")

/-- The notice about who made a work, if its record was found. -/
def creditsOf (path : FilePath) (record : Option SauceRecord) : List Notice :=
  (record.map fun r =>
    Notice.credits path.toString r.title (if r.author.isEmpty then "unknown" else r.author)).toList

/-- The report on the characters of a work. -/
def coverage (fonts : FontStack) (path : FilePath) (art : Artwork) : String :=
  s!"▸ {path}: font {fonts.primary.path}\n" ++
    (GlyphAudit.ofText art.canvas.plainText fonts).report ++ "\n"

/-- The rendering that is printed. -/
def printed (job : Job) (art : Artwork) : String :=
  match job.config.format with
  | .text => art.canvas.plainText
  | _ => Html.document art.canvas job.palette (job.config.stylesheet.getD "")

/-- What is asked for when an operand is loaded. -/
def Job.loadOptions (job : Job) : Artwork.LoadOptions :=
  { width := job.config.width
    height := job.config.height
    palette := some job.palette
    useSauce := job.config.useSauce }

/-- Deals with one operand. -/
def Job.process (job : Job) (s : Session) (path : FilePath) : Session :=
  let loaded := Artwork.load job.room s.workspace.files path job.loadOptions
  let s := { s with errors := s.errors ++ logLines job.threshold loaded.log }
  match loaded.value with
  | .error cause => { s with failure := some (.load cause) }
  | .ok (art, record) =>
    let s := { s with errors := s.errors ++ logLines job.threshold (creditsOf path record) }
    if job.glyphAudit then { s with output := s.output ++ coverage job.fonts path art }
    else if job.config.toStandardOutput then { s with output := s.output ++ printed job art }
    else
      match s.workspace.exportAs job.config art path job.fonts (some job.palette) with
      | .error cause => { s with failure := some (.exportArt cause) }
      | .ok (workspace, result) => { s with workspace, results := s.results ++ [result] }

/-- Deals with the operands up to the first failure. -/
def Job.processAll (job : Job) (s : Session) : List FilePath → Session
  | [] => s
  | path :: rest =>
    let s := job.process s path
    if s.failure.isSome then s else job.processAll s rest

/-! ### A run -/

/-- The least important level that is reported. -/
def threshold (verbosity : Nat) : Level :=
  match verbosity with
  | 0 => .warning
  | 1 => .info
  | _ => .debug

/-- The name in a setting. -/
def nameIn : Setting String → Except Failure String
  | .value name => .ok name
  | .void => .error .noName

/-- The fonts of a run, which only images and reports on characters need. -/
def fontsFor (fonts : FontSystem) (c : RenderConfig) (glyphAudit : Bool) :
    Except Failure FontStack :=
  if c.format = .png ∨ glyphAudit then do
    return FontStack.resolve fonts (← nameIn c.fontProfile) c.fontSize
  else .ok (FontStack.resolve fonts)

/-- What is done with each operand under some settings. -/
def jobOf (room : Room) (fonts : FontSystem) (s : Settings) : Except Failure Job := do
  let config ← (RenderConfig.ofRequest s.request).mapError .config
  let palette ← (PaletteShelf.bundled.load (← nameIn config.palette)).mapError .palette
  return { room, config, palette
           fonts := ← fontsFor fonts config s.glyphAudit
           glyphAudit := s.glyphAudit
           threshold := threshold s.verbosity }

/-- The palettes, one a line. -/
def paletteList : Except Failure String := do
  let names ← PaletteShelf.bundled.names.mapError fun cause => .palette (.unreadable cause)
  return String.join ("Available palettes:\n" :: names.map fun p => s!"  {p}\n")

/-- The line that reports a failure. -/
def failureLine (f : Failure) : String := s!"✗ Error: {f.message}\n"

/-- The outcome of a session: a failure, or the list of the files that were written, if any. -/
def Session.outcome (s : Session) : Outcome :=
  let (status, ending) := match s.failure with
    | some f => (1, failureLine f)
    | none => (0, if s.results.isEmpty then "" else ExportResult.summaryOf s.results ++ "\n")
  ⟨status, s.output, s.errors ++ ending, s.workspace⟩

/-- A run with some settings and operands. -/
def runWith (room : Room) (fonts : FontSystem) (w : Workspace) (s : Settings)
    (operands : List String) : Outcome :=
  if s.listPalettes then
    match paletteList with
    | .ok output => { output, workspace := w }
    | .error f => Session.outcome { workspace := w, failure := some f }
  else if operands.isEmpty then Session.outcome { workspace := w, failure := some .noInput }
  else
    match jobOf room fonts s with
    | .error f => Session.outcome { workspace := w, failure := some f }
    | .ok job => (job.processAll { workspace := w } (operands.map FilePath.ofString)).outcome

/-- The paths that a run with the words of a command line may read or write. -/
def pathsOf (files : FileTree) (args : List String) : List FilePath :=
  match interface.read args with
  | .error _ => []
  | .ok (settings, operands) =>
    let sources := operands.map FilePath.ofString
    match RenderConfig.ofRequest settings.request with
    | .error _ => sources
    | .ok config => sources ++ sources.map (config.outputPath files)

/-- A run with the words of a command line. -/
def run (room : Room) (fonts : FontSystem) (w : Workspace) (args : List String) : Outcome :=
  match interface.read args with
  | .error h => interface.halted w h
  | .ok (settings, operands) => runWith room fonts w settings operands

end RenderTool

end AnsiArt
