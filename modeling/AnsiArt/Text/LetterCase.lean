import AnsiArt.Text.CharClass
import AnsiArt.Text.Tables.LetterCase

/-!
# Capital and small letters

Texts in capitals and in small letters, by the mappings of Unicode that hold for every language. A
letter may become several, and the small form of capital sigma depends on its neighbours: at the end
of a word it is another letter.
-/

namespace AnsiArt

/-- The code point that a table of ranges assigns. -/
def Tables.CaseRange.lookup (table : List Tables.CaseRange) (n : Nat) : Option Nat :=
  (table.find? fun r => r.first ≤ n && n ≤ r.last && (n - r.first) % r.step == 0).map fun r =>
    ((n : Int) + r.shift).toNat

/-- The characters that a letter becomes: several by the table of long forms, one by the table of
ranges, itself otherwise. -/
def mapCase (long : List (Nat × List Nat)) (table : List Tables.CaseRange) (c : Char) : List Char :=
  match long.lookup c.toNat with
  | some codes => codes.map Char.ofNat
  | none => [((Tables.CaseRange.lookup table c.toNat).map Char.ofNat).getD c]

/-- The capital form of a letter. -/
def upperChar (c : Char) : List Char :=
  if c.toNat < 128 then [c.toUpper] else mapCase Tables.upperLong Tables.upper c

/-- A text in capitals. -/
def toUpper (text : String) : String := String.ofList (text.toList.flatMap upperChar)

/-- Whether the nearest character that is not skipped has a case. -/
def casedNext (text : List Char) : Bool :=
  match text.dropWhile fun c => inRanges Tables.caseIgnorable c.toNat with
  | [] => false
  | c :: _ => inRanges Tables.cased c.toNat

/-- The small form of a letter between the text before it, read backwards, and the text after it. -/
def lowerChar (before : List Char) (c : Char) (after : List Char) : List Char :=
  if c.toNat < 128 then [c.toLower]
  else if c = 'Σ' then [if casedNext before && !casedNext after then 'ς' else 'σ']
  else mapCase Tables.lowerLong Tables.lower c

/-- The small forms of a text that follows another, read backwards. -/
def lowerFrom (before : List Char) : List Char → List Char
  | [] => []
  | c :: rest => lowerChar before c rest ++ lowerFrom (c :: before) rest

/-- A text in small letters. -/
def toLower (text : String) : String := String.ofList (lowerFrom [] text.toList)

end AnsiArt
