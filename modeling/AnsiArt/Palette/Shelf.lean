import AnsiArt.Files.Tree
import AnsiArt.Palette.Bundled
import AnsiArt.Palette.Overlay
import AnsiArt.Text.Utf8
import AnsiArt.Yaml.Draft

/-!
# Shelves of palettes

A shelf is a directory with one settings file for each palette, named after it. The shelf of the
program itself also holds the built-in palette, which needs no file.
-/

namespace AnsiArt

/-- A directory of palettes, and whether the built-in palette stands beside it. -/
structure PaletteShelf where
  tree : FileTree
  directory : FilePath
  builtIn : Bool := false

/-- Why a palette cannot be loaded. -/
inductive PaletteError
  | notFound (name : String) (path : FilePath) (available : List String)
  | unreadable (cause : FileError)
  | undecodable (cause : Utf8Error)
  | invalidText (path : FilePath)
  | invalidScalar (cause : Yaml.ScalarError)
  | invalidData (path : FilePath) (faults : List PaletteFault)
  /-- A fault in the data that cannot be put into words. -/
  | unwritable
  | notBuilt (cause : OverlayError)

/-- The wording of a failed load. -/
def PaletteError.message : PaletteError → String
  | notFound name path available =>
    let names := if available.isEmpty then "none" else ", ".intercalate available
    s!"Palette '{name}' not found at {path}. Available: {names}"
  | unreadable cause => cause.message
  | undecodable cause => cause.message
  | invalidText path => s!"Invalid YAML in {path}"
  | invalidScalar cause => cause.message
  | invalidData path faults =>
    "\n  ".intercalate
      ("Palette validation failed:" :: faults.map (PaletteFault.message path.toString))
  | unwritable => Numeral.refusal ""
  | notBuilt cause => cause.message

namespace PaletteShelf

/-- The extension of settings files. -/
def extension : String := ".yaml"

/-- The names of the palettes that have a file, in order. -/
def filed (s : PaletteShelf) : Except FileError (List String) := do
  let files := (← s.tree.list s.directory).filter fun f => extension.toList.isSuffixOf f.toList
  return (files.map FilePath.stemOf).eraseDups.mergeSort

/-- The names of all palettes, in order. -/
def names (s : PaletteShelf) : Except FileError (List String) := do
  let filed ← s.filed
  return if s.builtIn then (Palette.vgaName :: filed).eraseDups.mergeSort else filed

/-- The path of the file of a palette. -/
def pathOf (s : PaletteShelf) (name : String) : FilePath :=
  s.directory / FilePath.ofString (name ++ extension)

/-- The palette that the content of a file defines. -/
def ofContent (path : FilePath) (content : List UInt8) : Except PaletteError Palette := do
  match Yaml.read (← (Utf8.decode content).mapError .undecodable) with
  | .error .invalid => throw (.invalidText path)
  | .error (.scalar cause) => throw (.invalidScalar cause)
  | .ok data =>
    match Palette.faults data with
    | [] => (Palette.ofValue data).mapError .notBuilt
    | faults =>
      if faults.all PaletteFault.isWritable then throw (.invalidData path faults)
      else throw .unwritable

/-- Loads the palette of a name. -/
def load (s : PaletteShelf) (name : String) : Except PaletteError Palette := do
  if s.builtIn && name == Palette.vgaName then return Palette.vga
  let path := s.pathOf name
  if ← (s.tree.contains path).mapError .unreadable then
    ofContent path (← (s.tree.read path).mapError .unreadable)
  else throw (.notFound name path (← s.filed.mapError .unreadable))

/-- The label of the directory of bundled palettes. -/
def bundledLabel : String := "<palettes>"

/-- The shelf of the program. -/
def bundled : PaletteShelf :=
  let file (name text : String) : List String × Entry :=
    ([name ++ extension], .file text.toUTF8.toList)
  let tree : FileTree :=
    { label := bundledLabel
      name := some "palettes"
      entries := [file "putty" Bundled.putty, file "windows" Bundled.windows,
        file "xterm" Bundled.xterm] }
  ⟨tree, tree.top, true⟩

end PaletteShelf

end AnsiArt
