/-!
# Code page 437

The character set of the art files: every byte is one character. The lower half is ASCII with its
control characters, the upper half holds accented letters, box drawing and symbols.

Main statement: `CodePage437.encode?_decode`, no two bytes mean the same character, so encoding
undoes decoding.
-/

namespace AnsiArt.CodePage437

/-- The characters of the bytes from 128 on. -/
def upperHalf : Vector Char 128 :=
  #v[
    'Ç', 'ü', 'é', 'â', 'ä', 'à', 'å', 'ç',
    'ê', 'ë', 'è', 'ï', 'î', 'ì', 'Ä', 'Å',
    'É', 'æ', 'Æ', 'ô', 'ö', 'ò', 'û', 'ù',
    'ÿ', 'Ö', 'Ü', '¢', '£', '¥', '₧', 'ƒ',
    'á', 'í', 'ó', 'ú', 'ñ', 'Ñ', 'ª', 'º',
    '¿', '⌐', '¬', '½', '¼', '¡', '«', '»',
    '░', '▒', '▓', '│', '┤', '╡', '╢', '╖',
    '╕', '╣', '║', '╗', '╝', '╜', '╛', '┐',
    '└', '┴', '┬', '├', '─', '┼', '╞', '╟',
    '╚', '╔', '╩', '╦', '╠', '═', '╬', '╧',
    '╨', '╤', '╥', '╙', '╘', '╒', '╓', '╫',
    '╪', '┘', '┌', '█', '▄', '▌', '▐', '▀',
    'α', 'ß', 'Γ', 'π', 'Σ', 'σ', 'µ', 'τ',
    'Φ', 'Θ', 'Ω', 'δ', '∞', 'φ', 'ε', '∩',
    '≡', '±', '≥', '≤', '⌠', '⌡', '÷', '≈',
    '°', '∙', '·', '√', 'ⁿ', '²', '■', '\u00a0']

/-- The character of a byte. -/
def decode (b : UInt8) : Char :=
  if h : b.toNat < 128 then Char.ofNat b.toNat
  else upperHalf.get ⟨b.toNat - 128, by have := b.toNat_lt; omega⟩

/-- The byte of a character, if the code page has it. -/
def encode? (c : Char) : Option UInt8 :=
  if c.toNat < 128 then some (UInt8.ofNat c.toNat)
  else (upperHalf.toList.idxOf? c).map fun i => UInt8.ofNat (i + 128)

/-- The text of a byte string. -/
def decodeAll (bytes : List UInt8) : List Char := bytes.map decode

/-- The whole repertoire in the order of its bytes. -/
def repertoire : List Char := (List.range 256).map fun i => decode (UInt8.ofNat i)

/-- Encoding undoes decoding. -/
theorem encode?_decode (b : UInt8) : encode? (decode b) = some b := by
  have all : ∀ i : Fin 256, encode? (decode (UInt8.ofNat i.val)) = some (UInt8.ofNat i.val) := by
    decide +kernel
  have := all ⟨b.toNat, b.toNat_lt⟩
  simpa using this

end AnsiArt.CodePage437
