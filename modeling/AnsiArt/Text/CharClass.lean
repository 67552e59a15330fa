import AnsiArt.Text.Tables.Printable

/-!
# Classes of characters

A class of characters is a table of ranges of code points in increasing order. Two classes are made
from such tables here.

Blank characters leave nothing visible: spaces of all widths, tabs, and the separators of lines,
paragraphs and records. Texts are trimmed of them at both ends.

A character is printable if it may stand in a text as itself: a letter, a digit, a mark, a symbol or
the ASCII space, but no control and no other separator.
-/

namespace AnsiArt

/-- Whether a number lies in one of the ranges of an increasing table. The search ends at the first
range that begins above the number. -/
def inRanges : List (Nat × Nat) → Nat → Bool
  | [], _ => false
  | (lo, hi) :: rest, n => if n < lo then false else n ≤ hi || inRanges rest n

/-! ### Blanks -/

/-- The ranges of blank characters. -/
def blankRanges : List (Nat × Nat) :=
  [(0x09, 0x0d), (0x1c, 0x20), (0x85, 0x85), (0xa0, 0xa0), (0x1680, 0x1680), (0x2000, 0x200a),
   (0x2028, 0x2029), (0x202f, 0x202f), (0x205f, 0x205f), (0x3000, 0x3000)]

/-- Whether a character is blank. -/
def isBlank (c : Char) : Bool := inRanges blankRanges c.toNat

/-- Drops the characters with a property from both ends. -/
def trimWith (p : Char → Bool) (text : List Char) : List Char :=
  ((text.dropWhile p).reverse.dropWhile p).reverse

/-- Drops the blanks from both ends. -/
def trim (text : List Char) : List Char := trimWith isBlank text

/-! ### Printable characters -/

/-- Whether a character may stand in a text as itself. The ASCII part of the table is one range, so
it is decided without a search. -/
def isPrintable (c : Char) : Bool :=
  if c.toNat < 128 then 32 ≤ c.toNat && c.toNat ≤ 126 else inRanges Tables.printable c.toNat

end AnsiArt
