import AnsiArt.Palette.Basic

/-!
# Palettes from data

A palette can be defined by data: a map with an identifier, perhaps a name, and a list of colours in
hexadecimal form that replace the first colours of the built-in palette of 256.

`faults` lists everything that is wrong with a definition, and `ofValue` builds the palette. The
latter does not depend on the former: on a definition with faults it stops at the first one that
keeps it from going on.
-/

namespace AnsiArt

/-! ### Faults of a definition -/

/-- Something wrong with the definition of a palette. -/
inductive PaletteFault
  | notMap
  | noIdentifier
  | noColours
  | tooManyColours (count : Nat)
  | badColour (index : Nat) (value : Value)

/-- The wording of a fault in a definition from the given source. -/
def PaletteFault.message (source : String) : PaletteFault → String
  | notMap => s!"{source}: palette must be a mapping"
  | noIdentifier => s!"{source}: missing required field 'id'"
  | noColours => s!"{source}: 'colors' must be a non-empty list"
  | tooManyColours count =>
    s!"{source}: at most {Palette.vga.size} colors allowed, got {count}"
  | badColour index value =>
    s!"{source}: color {index} must be a hex string (got {value.quoted})"

/-- Whether a fault can be put into words, for which the value that is shown has to be writable. -/
def PaletteFault.isWritable : PaletteFault → Bool
  | badColour _ value => value.isWritable
  | _ => true

namespace Palette

/-- The digits that a definition may use, in either case. -/
def isHexDigit (c : Char) : Bool :=
  ('0' ≤ c && c ≤ '9') || ('a' ≤ c && c ≤ 'f') || ('A' ≤ c && c ≤ 'F')

/-- Whether characters are a mark and three or six hexadecimal digits. -/
def isHexColour : List Char → Bool
  | '#' :: digits => (digits.length == 3 || digits.length == 6) && digits.all isHexDigit
  | _ => false

/-- Whether a value is a text of that form. -/
def isColourValue : Value → Bool
  | .scalar (.text s) => isHexColour s.toList
  | _ => false

/-- The faults in a list of colours that are numbered from `first` on. -/
def colourFaults (first : Nat) : List Value → List PaletteFault
  | [] => []
  | v :: rest =>
    let more := colourFaults (first + 1) rest
    if isColourValue v then more else .badColour first v :: more

/-- Everything that is wrong with a definition. Without a list of colours nothing more is looked
at. -/
def faults : Value → List PaletteFault
  | .map entries =>
    let identifier := if (Value.get? "id" entries).isNone then [.noIdentifier] else []
    match Value.get? "colors" entries with
    | some (.list (first :: rest)) =>
      let count := rest.length + 1
      let excess := if vga.size < count then [.tooManyColours count] else []
      identifier ++ excess ++ colourFaults 0 (first :: rest)
    | _ => identifier ++ [.noColours]
  | _ => [.notMap]

end Palette

/-! ### Building the palette -/

/-- Why no palette can be built from data. -/
inductive OverlayError
  /-- The data is no map, so it has no fields. -/
  | noFields (data : Value)
  | missingField (field : String)
  /-- The identifier is not a text and cannot be written as one. -/
  | unwritable
  /-- The colours are neither a list nor anything else with members. -/
  | noMembers (colours : Value)
  /-- A colour is no text. -/
  | notText (colour : Value)
  | badColour (cause : IntegerError)
  | tooManyColours

/-- The wording of an error. -/
def OverlayError.message : OverlayError → String
  | noFields (.list _) => "list indices must be integers or slices, not str"
  | noFields (.scalar (.text _)) => "string indices must be integers, not 'str'"
  | noFields data => s!"'{data.typeName}' object is not subscriptable"
  | missingField field => Quoted.quote field
  | unwritable => Numeral.refusal ""
  | noMembers colours => s!"'{colours.typeName}' object is not iterable"
  | notText colour => s!"'{colour.typeName}' object has no attribute 'lstrip'"
  | badColour cause => cause.message
  | tooManyColours => PaletteIndexError.assign.message

namespace Palette

/-- The value of a field that must be there. -/
def field (name : String) : Value → Except OverlayError Value
  | .map entries =>
    match Value.get? name entries with
    | some v => .ok v
    | none => .error (.missingField name)
  | data => .error (.noFields data)

/-- The members of a value: the items of a list, the keys of a map, the characters of a text. -/
def members : Value → Except OverlayError (List Value)
  | .list items => .ok items
  | .map entries => .ok (entries.map fun e => .scalar e.1)
  | .scalar (.text s) => .ok (s.toList.map fun c => .text (String.ofList [c]))
  | v => .error (.noMembers v)

/-- The colour that a value spells. -/
def colourOf : Value → Except OverlayError Colour
  | .scalar (.text s) => (Colour.ofHex s).mapError .badColour
  | v => .error (.notText v)

/-- Replaces the colours from number `first` on. -/
def overlayFrom (colours : Array Colour) (first : Nat) :
    List Value → Except OverlayError (Array Colour)
  | [] => .ok colours
  | v :: rest => do
    let c ← colourOf v
    if first < colours.size then overlayFrom (colours.setIfInBounds first c) (first + 1) rest
    else .error .tooManyColours

/-- The palette that data defines. -/
def ofValue (data : Value) : Except OverlayError Palette := do
  let identifier ← field "id" data
  if !identifier.isWritable then throw .unwritable
  let given := identifier.label
  let colours ← overlayFrom vga.colours 0 (← members (← field "colors" data))
  let id := if given.isVoid then vga.id else given
  let name := match data with
    | .map entries => (Value.get? "name" entries).getD (.scalar id.capitals)
    | _ => .scalar id.capitals
  return ⟨id, colours, name⟩

end Palette

end AnsiArt
