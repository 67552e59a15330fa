import AnsiArt.Screen.Cell
import AnsiArt.Text.Hex

/-!
# The look of a cell

How a rendition appears on the screen: the two colour numbers that remain when the flags that act on
colours are taken into account, and the style classes that a document uses for it.
-/

namespace AnsiArt

/-- The colour numbers in which a character and the ground behind it appear. -/
structure Look where
  foreground : Int
  background : Int
  deriving DecidableEq

/-- The bright variant of one of the eight basic colours; any other colour has none. -/
def brighten (colour : Int) : Int := if colour < 8 then colour + 8 else colour

namespace Rendition

/-- The look of a rendition. Bold brightens the foreground and blinking the background; then
negative exchanges the two, and at last concealing gives both the colour of the ground. -/
def look (r : Rendition) : Look :=
  let fg := if r.has .bold then brighten r.foreground else r.foreground
  let bg := if r.has .blink then brighten r.background else r.background
  let (fg, bg) := if r.has .negative then (bg, fg) else (fg, bg)
  ⟨if r.has .conceal then bg else fg, bg⟩

/-- The style classes of a rendition: two for the colours, then one for each visible effect. -/
def classes (r : Rendition) : String :=
  let fg := Hex.byte r.look.foreground
  let bg := Hex.byte r.look.background
  let effect (flag : Flag) (name : String) : List String := if r.has flag then [name] else []
  " ".intercalate
    ([s!"b{bg}", s!"f{fg}"] ++ effect .italics "i" ++ effect .underline s!"u{fg}"
      ++ effect .doubleUnderline "ud" ++ effect .crossOut "x")

end Rendition

end AnsiArt
