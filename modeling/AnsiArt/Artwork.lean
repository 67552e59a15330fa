import AnsiArt.Files.Tree
import AnsiArt.Palette.Basic
import AnsiArt.Sauce.Reader
import AnsiArt.Terminal

/-!
# Works of art

A work is what a file leaves on a terminal together with the palette to show it in. A file is loaded
without its metadata record, which decides the width of the terminal unless another is asked for.
-/

namespace AnsiArt

/-- A terminal after its input and the palette to show it in. -/
structure Artwork where
  terminal : Terminal
  palette : Palette

/-- The palette to use: an empty one counts as none. -/
def Palette.orElse (given : Option Palette) (otherwise : Palette) : Palette :=
  match given with
  | some p => if p.size = 0 then otherwise else p
  | none => otherwise

namespace Artwork

/-- The canvas of a work. -/
def canvas (a : Artwork) : Canvas := a.terminal.canvas

/-- A work with nothing drawn yet. -/
def blank (room : Room) (width height : Int) (palette : Option Palette) :
    Except SizeError Artwork :=
  (Terminal.ofSize room width height).map fun t => ⟨t, Palette.orElse palette Palette.vga⟩

/-- The work that bytes draw on a terminal of the given size. -/
def ofBytes (room : Room) (data : List UInt8) (width : Int := Terminal.defaultWidth)
    (height : Int := Terminal.defaultHeight) (palette : Option Palette := none) :
    Logged (Except SizeError Artwork) :=
  let creating := Notice.creatingCanvas width height
  match blank room width height palette with
  | .error e => ⟨.error e, [creating]⟩
  | .ok ⟨terminal, palette⟩ =>
    let p := terminal.parse room data
    let drawn := match p.shortage with
      | some s => .error (.noRoom s)
      | none => .ok ⟨p.terminal, palette⟩
    ⟨drawn, creating :: p.log⟩

/-- What can be asked for when a file is loaded. -/
structure LoadOptions where
  width : Option Int := none
  height : Int := Terminal.defaultHeight
  palette : Option Palette := none
  useSauce : Bool := true

/-- Why a file is not loaded. -/
inductive LoadError
  | file (cause : FileError)
  | size (cause : SizeError)

/-- The wording of a failed load. -/
def LoadError.message : LoadError → String
  | file cause => cause.message
  | size cause => cause.message

/-- The width that a record asks for, or else a default. -/
def canvasWidth (record : Option SauceRecord) (default : Int := Terminal.defaultWidth) : Int :=
  (record.bind (·.canvasWidth)).getD default

/-- The work in the content of a file, and the record that was found. -/
def ofContent (room : Room) (path : FilePath) (content : List UInt8) (o : LoadOptions) :
    Logged (Except SizeError (Artwork × Option SauceRecord)) :=
  let record := if o.useSauce then Sauce.read? content else none
  let missing := if o.useSauce && record.isNone then [Notice.noMetadata path.toString] else []
  let width := o.width.getD (canvasWidth record)
  let art := ofBytes room (Sauce.strip content record) width o.height o.palette
  ⟨art.value.map (·, record), missing ++ art.log⟩

/-- The work in a file, and the record that was found. -/
def load (room : Room) (files : FileTree) (path : FilePath) (o : LoadOptions) :
    Logged (Except LoadError (Artwork × Option SauceRecord)) :=
  match files.read path with
  | .error cause => ⟨.error (.file cause), []⟩
  | .ok content =>
    let loaded := ofContent room path content o
    ⟨loaded.value.mapError .size, loaded.log⟩

end Artwork

end AnsiArt
