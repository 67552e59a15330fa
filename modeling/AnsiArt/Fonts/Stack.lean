import AnsiArt.Fonts.Font
import AnsiArt.Fonts.Table
import AnsiArt.Setting

/-!
# Font stacks

A stack is the fonts that draw an image, in the order in which they are asked for a glyph. It is put
together from a profile, a list of preferred families, followed by families with many symbols.

The families are looked for one after another. Of the paths that are found each is tried once, and
those that cannot be loaded are left out; if nothing remains, the built-in font stands alone.
-/

namespace AnsiArt

/-- The fonts around the program: the listing of the system, what can be loaded from a path at a
size, and the built-in font. -/
structure FontSystem where
  listing : FontListing
  load : String → Setting Int → Option Font
  builtIn : Font

/-- The families of the system. -/
def FontSystem.table (s : FontSystem) : FontTable := FontTable.ofListing s.listing

/-- A font and the path it comes from. -/
structure LoadedFont where
  font : Font
  path : String

/-- How far a search for fonts has come: the paths it has tried and the fonts it has loaded. -/
structure FontSearch where
  tried : List String := []
  loaded : List LoadedFont := []

/-- Looks for a family. A path is tried once; it may be found again for another family, and it is
remembered also if there is nothing that can be loaded from it. -/
def FontSearch.look (t : FontTable) (load : String → Option Font) (f : FontSearch)
    (family : String) : FontSearch :=
  match t.pathOf? family with
  | none => f
  | some path =>
    if path = "" ∨ path ∈ f.tried then f
    else ⟨f.tried ++ [path], f.loaded ++ ((load path).map fun font => ⟨font, path⟩).toList⟩

/-- The fonts in the order in which they are asked, and the size they were loaded at. -/
structure FontStack where
  primary : LoadedFont
  fallbacks : List LoadedFont := []
  size : Setting Int

namespace FontStack

/-! ### Preferences -/

/-- The profiles with their families. -/
def profiles : List (String × List String) :=
  [("classic", ["DejaVu Sans Mono", "Liberation Mono", "Noto Sans Mono", "Cascadia Mono"]),
   ("dos", ["Px437 IBM VGA 8x16", "Px437 IBM VGA8", "Perfect DOS VGA 437", "Flexi IBM VGA True",
     "Web437 IBM VGA 8x16"])]

/-- The names of the profiles, in order. -/
def profileNames : List String := profiles.map (·.1)

/-- The profile that stands in for one that is not known. -/
def defaultProfile : String := "dos"

/-- The usual size. -/
def defaultSize : Int := 16

/-- The families with box drawing and symbols. -/
def symbolFamilies : List String := ["DejaVu Sans Mono", "Noto Sans Symbols2", "Symbola"]

/-- The families of a profile, an unknown one standing for the default. -/
def familiesOf (profile : String) : List String :=
  (profiles.lookup profile).getD ((profiles.lookup defaultProfile).getD [])

/-! ### Putting a stack together -/

/-- The path that stands for the built-in font. -/
def builtInPath : String := "<default>"

/-- The fonts that are found for a row of families, from the first family to the last. -/
def search (s : FontSystem) (size : Setting Int) (families : List String) : FontSearch :=
  let table := s.table
  families.foldl (FontSearch.look table fun path => s.load path size) {}

/-- The stack of a profile. -/
def resolve (s : FontSystem) (profile : String := defaultProfile)
    (size : Setting Int := .value defaultSize) : FontStack :=
  match (search s size (familiesOf profile ++ symbolFamilies)).loaded with
  | [] => ⟨⟨s.builtIn, builtInPath⟩, [], size⟩
  | primary :: fallbacks => ⟨primary, fallbacks, size⟩

/-! ### Using a stack -/

/-- All fonts, the primary one first. -/
def fonts (s : FontStack) : List Font := s.primary.font :: s.fallbacks.map (·.font)

/-- The first font that can show a character. -/
def fontFor? (s : FontStack) (c : Char) : Option Font := s.fonts.find? (·.canShow c)

/-- The cell of one character, which the primary font decides. -/
def cell (s : FontStack) : Extent := s.primary.font.cell

/-- Checks that the cell has a size. -/
def checkCell (s : FontStack) : Except NumberError Unit := s.primary.font.advance.checkRound

end FontStack

end AnsiArt
