import AnsiArt.Text.CharClass
import AnsiArt.Text.CodePoint
import AnsiArt.Text.Hex

/-!
# Quoted texts

How a text is shown inside a message: between quotes, with everything that is not printable written
as an escape. Single quotes are used unless the text has a single quote and no double one.
-/

namespace AnsiArt.Quoted

/-- The quote that surrounds a text. -/
def quoteFor (text : List Char) : Char :=
  if text.contains '\'' && !text.contains '"' then '"' else '\''

/-- A character between the given quotes. -/
def escape (quote c : Char) : List Char :=
  if c = quote ∨ c = '\\' then ['\\', c]
  else if c = '\t' then ['\\', 't']
  else if c = '\n' then ['\\', 'n']
  else if c = '\r' then ['\\', 'r']
  else if isPrintable c then [c]
  else if c.toNat < 0x100 then '\\' :: 'x' :: Hex.natDigits 2 c.toNat
  else if c.toNat < 0x10000 then '\\' :: 'u' :: Hex.natDigits 4 c.toNat
  else '\\' :: 'U' :: Hex.natDigits 8 c.toNat

/-- A code point between the given quotes; a surrogate is not printable. -/
def escapeCode (quote : Char) (n : Nat) : List Char :=
  match CodePoint.char? n with
  | some c => escape quote c
  | none => '\\' :: 'u' :: Hex.natDigits 4 n

/-- A text as it is shown in messages. -/
def quote (text : String) : String :=
  let q := quoteFor text.toList
  String.ofList (q :: text.toList.flatMap (escape q) ++ [q])

/-- A text of code points as it is shown in messages. -/
def quoteCodes (codes : List Nat) : String :=
  let q := quoteFor (codes.filterMap CodePoint.char?)
  String.ofList (q :: codes.flatMap (escapeCode q) ++ [q])

end AnsiArt.Quoted
