import AnsiArt.Palette.Basic
import AnsiArt.Render.Look
import AnsiArt.Render.PlainText
import AnsiArt.Text.CharClass

/-!
# Documents

The rendering as a document that stands alone: a style sheet with the colours of a palette and a
block of preformatted text, in which each run of cells with the same style classes is one span. A
span may reach over line ends.
-/

namespace AnsiArt.Html

/-! ### Characters -/

/-- The named reference of a character with a meaning in documents, or the character itself. -/
def escapeMarkup (c : Char) : String :=
  match c with
  | '&' => "&amp;"
  | '<' => "&lt;"
  | '>' => "&gt;"
  | '"' => "&quot;"
  | '\'' => "&#x27;"
  | c => String.ofList [c]

/-- A character of the drawing: one that is not printable is referred to by its number. -/
def escapeChar (c : Char) : String :=
  if isPrintable c then escapeMarkup c else s!"&#x{Hex.byte c.toNat};"

/-- A text inside an attribute. -/
def escapeText (text : String) : String := String.join (text.toList.map escapeMarkup)

/-! ### The style sheet -/

/-- The three rules of a numbered colour: for characters, for the ground, and for underlines. -/
def colourRules (i : Nat) (c : Colour) : String :=
  let n := Hex.byte i
  let h := c.hex
  s!".f{n}\x7bcolor:{h}\x7d .b{n}\x7bbackground-color:{h}\x7d " ++
    s!".u{n}\x7bborder-bottom:1px solid {h}\x7d"

/-- The rules of the effects that have no colour of their own. -/
def effectRules : String :=
  ".i\x7bfont-style:italic\x7d .u\x7bborder-bottom:1px solid\x7d " ++
    ".ud\x7bborder-bottom:3px double\x7d .x\x7btext-decoration:line-through\x7d"

/-- The style sheet of a palette, one line for each colour and one for the effects. -/
def stylesheet (p : Palette) : String :=
  "\n".intercalate
    ((p.colours.toList.zipIdx.map fun (c, i) => colourRules i c) ++ [effectRules])

/-! ### Spans -/

/-- The start of a span. -/
def openTag (classes : String) : String := s!"<span class=\"{classes}\">"

/-- The end of the span that is open, if there is one. -/
def closeTag (current : Option String) : String := if current.isSome then "</span>" else ""

/-- What goes in front of a cell: nothing if the open span has its classes, otherwise the end of
that span and the start of the next. -/
def switchTo (current : Option String) (classes : String) : String :=
  if current = some classes then "" else closeTag current ++ openTag classes

/-- The pieces of a row behind an open span, and the span that is open at its end. -/
def rowPieces (current : Option String) : List (Option Cell) → List String × Option String
  | [] => ([], current)
  | cell :: rest =>
    let cell := cell.getD {}
    let classes := cell.rendition.classes
    let (pieces, last) := rowPieces (some classes) rest
    (switchTo current classes :: escapeChar cell.char :: pieces, last)

/-- The pieces of the rows behind an open span, with line feeds between the rows. -/
def gridPieces (current : Option String) : List (List (Option Cell)) → List String
  | [] => [closeTag current]
  | [row] =>
    let (pieces, last) := rowPieces current row
    pieces ++ [closeTag last]
  | row :: rest =>
    let (pieces, last) := rowPieces current row
    pieces ++ "\n" :: gridPieces last rest

/-- The preformatted text of a grid. -/
def body (grid : List (List (Option Cell))) : String := String.join (gridPieces none grid)

/-! ### The document -/

/-- The link to a style sheet elsewhere. -/
def linkTag (address : String) : String :=
  s!"<link rel=\"stylesheet\" href=\"{escapeText address}\">\n"

/-- The document of a canvas, with a link to another style sheet unless its address is empty. -/
def document (c : Canvas) (p : Palette) (address : String := "") : String :=
  String.join
    ["<!doctype html>\n", if address.isEmpty then "" else linkTag address,
      "<style type=\"text/css\">\n", stylesheet p, "\n</style>\n",
      "<pre>", body c.grid, "</pre>\n"]

end AnsiArt.Html
