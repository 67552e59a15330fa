import AnsiArt.Index
import AnsiArt.Palette.Colour
import AnsiArt.Value

/-!
# Palettes

A palette is a numbered table of colours with an identifier and a name to show. Two palettes are
built in: the sixteen colours of the old colour adapters, and their extension to 256 colours by a
cube of mixed colours and a ramp of greys.
-/

namespace AnsiArt

/-- A table of colours. The identifier is a text, perhaps one with surrogates. The name is whatever
the definition of the palette gives, usually a text. -/
structure Palette where
  id : Scalar
  colours : Array Colour
  name : Value

/-- Why there is no colour of some number. -/
inductive PaletteIndexError
  | read
  | assign
  | notIndex
  deriving DecidableEq

/-- The wording of a refused number. -/
def PaletteIndexError.message : PaletteIndexError → String
  | read => "list index out of range"
  | assign => "list assignment index out of range"
  | notIndex => notIndexMessage

namespace Palette

/-- A palette whose name, if the given one says nothing, is its identifier in capitals. -/
def named (id : Scalar) (name : Value) (colours : Array Colour) : Palette :=
  ⟨id, colours, if name.isVoid then .scalar id.capitals else name⟩

/-- The number of colours. -/
def size (p : Palette) : Nat := p.colours.size

/-- The place of a number in a table; negative numbers count from its end. -/
def place? (size : Nat) (i : Int) : Option Nat :=
  let i := if i < 0 then i + size else i
  if 0 ≤ i ∧ i < size then some i.toNat else none

/-- The colour of a number. -/
def get (p : Palette) (i : Int) : Except PaletteIndexError Colour :=
  match (place? p.size i).bind (p.colours[·]?) with
  | some c => .ok c
  | none => .error (if isIndex i then .read else .notIndex)

/-- Replaces the colour of a number. -/
def set (p : Palette) (i : Int) (c : Colour) : Except PaletteIndexError Palette :=
  match place? p.size i with
  | some k => .ok { p with colours := p.colours.setIfInBounds k c }
  | none => .error (if isIndex i then .assign else .notIndex)

/-- A palette with the same colours and name, and another identifier unless that is empty. -/
def copy (p : Palette) (id : Scalar := "") : Palette :=
  named (if id.isVoid then p.id else id) p.name p.colours

/-- The colour that a number stands for when the table is repeated in both directions, so that every
number has a colour; black if the table is empty. -/
def cyclic (p : Palette) (i : Int) : Colour :=
  (p.colours[(i % (p.size : Int)).toNat]?).getD (Colour.grey 0)

/-! ### Built-in palettes -/

/-- The sixteen colours of the old colour adapters in the order of the control sequences. -/
def cgaColours : List Colour :=
  [⟨0x00, 0x00, 0x00⟩, ⟨0xaa, 0x00, 0x00⟩, ⟨0x00, 0xaa, 0x00⟩, ⟨0xaa, 0x55, 0x00⟩,
   ⟨0x00, 0x00, 0xaa⟩, ⟨0xaa, 0x00, 0xaa⟩, ⟨0x00, 0xaa, 0xaa⟩, ⟨0xaa, 0xaa, 0xaa⟩,
   ⟨0x55, 0x55, 0x55⟩, ⟨0xff, 0x55, 0x55⟩, ⟨0x55, 0xff, 0x55⟩, ⟨0xff, 0xff, 0x55⟩,
   ⟨0x55, 0x55, 0xff⟩, ⟨0xff, 0x55, 0xff⟩, ⟨0x55, 0xff, 0xff⟩, ⟨0xff, 0xff, 0xff⟩]

/-- The sixteen-colour palette. -/
def cga : Palette := named "cga" .null cgaColours.toArray

/-- The six levels of each channel in the cube. -/
def cubeLevels : List Int := [0, 95, 135, 175, 215, 255]

/-- All mixtures of the six levels, blue changing fastest. -/
def cube : List Colour :=
  cubeLevels.flatMap fun r => cubeLevels.flatMap fun g => cubeLevels.map fun b => ⟨r, g, b⟩

/-- Greys from dark to bright, without black and white. -/
def greyRamp : List Colour := (List.range 24).map fun (i : Nat) => Colour.grey (8 + i * 10)

/-- The 256 colours. -/
def vgaColours : List Colour := cgaColours ++ cube ++ greyRamp

/-- The name under which the palette of 256 colours is found. -/
def vgaName : String := "vga"

/-- The palette of 256 colours. -/
def vga : Palette := named vgaName .null vgaColours.toArray

@[simp] theorem size_vga : vga.size = 256 := by decide +kernel

/-- Every built-in colour has channels of eight bits. -/
theorem valid_of_mem_vgaColours : ∀ c ∈ vgaColours, c.Valid := by
  unfold Colour.Valid
  decide +kernel

end Palette

end AnsiArt
