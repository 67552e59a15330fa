import AnsiArt.Decimal.Fixed
import AnsiArt.Fonts.Stack
import AnsiArt.Text.CharClass
import AnsiArt.Text.Hex

/-!
# Glyph coverage

An audit tells which characters of a text a font stack can show. It looks at each character that
leaves a mark once, in the order of their code points.
-/

namespace AnsiArt

/-- How many characters were looked at, how many can be shown, and which cannot. -/
structure GlyphAudit where
  total : Int := 0
  covered : Int := 0
  missing : List Char := []

/-- Whether a character leaves a mark that needs a glyph. -/
def needsGlyph (c : Char) : Bool := isPrintable c && !isBlank c

namespace GlyphAudit

/-- The characters of a text that need a glyph, each once and in order. -/
def alphabet (text : List Char) : List Char :=
  ((text.filter needsGlyph).mergeSort fun a b => a.toNat ≤ b.toNat).eraseReps

/-- The audit of a text. -/
def ofText (text : String) (s : FontStack) : GlyphAudit :=
  let chars := alphabet text.toList
  let (covered, missing) := chars.partition fun c => (s.fontFor? c).isSome
  ⟨chars.length, covered.length, missing⟩

/-- The share of characters that can be shown, in percent; all, if there are none. -/
def percentage (a : GlyphAudit) : Binary64 :=
  if a.total = 0 then Binary64.ofFraction false 100 1
  else (Binary64.divide a.covered a.total).scale 100

/-- Checks that the share is not too large to be computed. It never is in the audit of a text, which
covers no more characters than there are. -/
def check (a : GlyphAudit) : Except NumberError Unit :=
  if a.total = 0 then .ok () else Binary64.checkQuotient a.covered a.total

/-- Whether every character can be shown. -/
def isClean (a : GlyphAudit) : Bool := a.missing.isEmpty

/-- The first few missing characters with their code points. -/
def missingText (a : GlyphAudit) (most : Nat) : String :=
  ", ".intercalate
    ((a.missing.take most).map fun c => s!"U+{Hex.codePoint c} ({String.singleton c})")

/-- The lines of a report. -/
def reportLines (a : GlyphAudit) : List String :=
  ["Glyph Audit Report",
   s!"  Total unique chars: {a.total}",
   s!"  Covered:            {a.covered} ({a.percentage.fixed 1}%)",
   s!"  Missing:            {a.missing.length}"]
    ++ if a.missing.isEmpty then [] else [s!"  Missing chars:      {a.missingText 20}"]

/-- A report. -/
def report (a : GlyphAudit) : String := "\n".intercalate a.reportLines

end GlyphAudit

end AnsiArt
