import AnsiArt.Palette.Shelf
import AnsiArt.Proofs.Files.Places

/-!
# How many colours a loaded palette has

The data of a palette replaces the first colours of the built-in palette of 256. Replacing keeps the
number of colours, and a list that is too long is refused, so whatever a settings file says, the
palette that is loaded has 256 colours.

Main statement: `PaletteShelf.size_load`.
-/

namespace AnsiArt

namespace Palette

theorem size_overlayFrom {colours result : Array Colour} {first : Nat} {values : List Value}
    (h : overlayFrom colours first values = .ok result) : result.size = colours.size := by
  induction values generalizing colours first with
  | nil =>
    cases h
    rfl
  | cons v rest ih =>
    obtain ⟨c, -, h⟩ := exists_of_bind_eq_ok h
    split at h
    · rw [ih h, Array.size_setIfInBounds]
    · cases h

theorem size_ofValue {data : Value} {p : Palette} (h : ofValue data = .ok p) : p.size = 256 := by
  obtain ⟨identifier, -, h⟩ := exists_of_bind_eq_ok h
  dsimp only at h
  split at h
  · cases h
  obtain ⟨listed, -, h⟩ := exists_of_bind_eq_ok h
  obtain ⟨values, -, h⟩ := exists_of_bind_eq_ok h
  obtain ⟨colours, hcolours, h⟩ := exists_of_bind_eq_ok h
  cases h
  calc colours.size = vga.colours.size := size_overlayFrom hcolours
    _ = 256 := size_vga

end Palette

namespace PaletteShelf

theorem size_ofContent {path : FilePath} {content : List UInt8} {p : Palette}
    (h : ofContent path content = .ok p) : p.size = 256 := by
  obtain ⟨text, -, h⟩ := exists_of_bind_eq_ok h
  -- only data without a fault goes on to be built
  repeat' split at h
  all_goals first
    | exact Palette.size_ofValue ((mapError_eq_ok_iff ..).mp h)
    | cases h

/-- **Every palette that can be loaded has 256 colours**, from any directory and by any name. -/
theorem size_load {s : PaletteShelf} {name : String} {p : Palette} (h : s.load name = .ok p) :
    p.size = 256 := by
  unfold load at h
  split at h
  · cases h
    exact Palette.size_vga
  · obtain ⟨there, -, h⟩ := exists_of_bind_eq_ok h
    split at h
    · obtain ⟨content, -, h⟩ := exists_of_bind_eq_ok h
      exact size_ofContent h
    · obtain ⟨available, -, h⟩ := exists_of_bind_eq_ok h
      cases h

end PaletteShelf

end AnsiArt
