import AnsiArt.Artwork
import AnsiArt.Output.Config
import AnsiArt.Render.Html
import AnsiArt.Render.Image

/-!
# Export

Renderings are written to files, and each file is reported with its size and the number of columns
and rows it shows. An image is kept beside the files as the calls that draw it. The bytes of its file
are made by an encoder, which is not part of the program but of the surroundings that it runs in.
-/

namespace AnsiArt

/-! ### Reports -/

/-- A file that was written. -/
structure ExportResult where
  format : String
  path : FilePath
  size : Int := 0
  columns : Int := 0
  rows : Int := 0

namespace ExportResult

/-- The size in units of 1024 bytes. -/
def kilobytes (r : ExportResult) : Binary64 := Binary64.divide r.size 1024

/-- Checks that the size in these units is not too large to be computed. -/
def check (r : ExportResult) : Except NumberError Unit := Binary64.checkQuotient r.size 1024

/-- A result in one line. -/
def summary (r : ExportResult) : String :=
  s!"{toUpper r.format}: {r.path.name} ({r.kilobytes.fixed 1}KB, {r.columns}x{r.rows})"

/-- Several results, one a line under a heading. -/
def summaryOf (results : List ExportResult) : String :=
  "\n".intercalate ("Export Summary:" :: results.map fun r => "  " ++ r.summary)

end ExportResult

/-- Why nothing is written. -/
inductive ExportError
  | nothingDrawn
  | file (cause : FileError)
  /-- The cells of the image have no size. -/
  | cell (cause : NumberError)

/-- The wording of a failed export. -/
def ExportError.message : ExportError → String
  | nothingDrawn => "Nothing to export: the canvas is empty"
  | file cause => cause.message
  | cell cause => cause.message

/-! ### Writing -/

/-- The files and the images that were saved, the first one first, and what makes the bytes of an
image file. Where the bytes are of no interest, an encoder that gives none stands in. -/
structure Workspace where
  files : FileTree
  images : List (FilePath × Image) := []
  encode : Image → List UInt8 := fun _ => []

namespace Workspace

/-- Makes the directory of a file. -/
def prepare (w : Workspace) (path : FilePath) : Except ExportError Workspace := do
  let files ← (w.files.ensureDirectory path.parent).mapError .file
  return { w with files }

/-- Writes a file. -/
def write (w : Workspace) (path : FilePath) (content : List UInt8) :
    Except ExportError Workspace := do
  let files ← (w.files.write path content).mapError .file
  return { w with files }

/-- The report about a file with the rendering of a canvas. -/
def resultFor (f : Format) (path : FilePath) (size : Nat) (c : Canvas) : ExportResult :=
  ⟨f.name, path, size, c.written.columns, c.written.rows⟩

/-- Writes a text as the rendering of a canvas. -/
def saveText (w : Workspace) (f : Format) (path : FilePath) (text : String) (c : Canvas) :
    Except ExportError (Workspace × ExportResult) := do
  let content := text.toUTF8.toList
  return (← (← w.prepare path).write path content, resultFor f path content.length c)

/-- Writes the plain text of a work. -/
def exportText (w : Workspace) (art : Artwork) (path : FilePath) :
    Except ExportError (Workspace × ExportResult) :=
  w.saveText .text path art.canvas.plainText art.canvas

/-- Writes the document of a work. -/
def exportHtml (w : Workspace) (art : Artwork) (path : FilePath) (palette : Option Palette := none)
    (stylesheet : Option String := none) : Except ExportError (Workspace × ExportResult) :=
  let p := Palette.orElse palette art.palette
  w.saveText .html path (Html.document art.canvas p (stylesheet.getD "")) art.canvas

/-- Saves the image of a work, which must not be empty. -/
def exportImage (w : Workspace) (art : Artwork) (path : FilePath) (fonts : FontStack)
    (palette : Option Palette := none) : Except ExportError (Workspace × ExportResult) := do
  let c := art.canvas
  if c.written.columns = 0 ∨ c.written.rows = 0 then throw .nothingDrawn
  let prepared ← w.prepare path
  fonts.checkCell.mapError .cell
  let image := Image.ofCanvas c (Palette.orElse palette art.palette) fonts
  let content := w.encode image
  let saved ← prepared.write path content
  return ({ saved with images := saved.images ++ [(path, image)] },
    resultFor .png path content.length c)

end Workspace

/-! ### Names -/

/-- The name of the file for a source: its stem with the extension of the format. -/
def outputName (source : FilePath) (f : Format) : String := s!"{source.stem}.{f.extension}"

/-- The file for a source, in the directory for the output or else in the current one. -/
def RenderConfig.outputPath (c : RenderConfig) (files : FileTree) (source : FilePath) : FilePath :=
  c.outdir.getD files.top / { parts := [outputName source c.format] }

/-- Writes the rendering of a work as a configuration asks for it. -/
def Workspace.exportAs (w : Workspace) (c : RenderConfig) (art : Artwork) (source : FilePath)
    (fonts : FontStack) (palette : Option Palette := none) :
    Except ExportError (Workspace × ExportResult) :=
  let path := c.outputPath w.files source
  match c.format with
  | .text => w.exportText art path
  | .html => w.exportHtml art path palette c.stylesheet
  | .png => w.exportImage art path fonts palette

end AnsiArt
