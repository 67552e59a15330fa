/-!
# Text with positions

The characters still to be read together with the line and the column of the next one. Beyond the
last character stands an end mark, which no readable text contains.
-/

namespace AnsiArt.Yaml

/-- The unread characters, the number of characters of the whole text, and where the unread ones
stand. The whole length bounds every loop over the rest, so that the rest need not be counted. -/
structure Source where
  rest : List Char
  size : Nat
  index : Nat := 0
  line : Nat := 0
  column : Nat := 0

/-- The character that stands for the end of the text. -/
def endMark : Char := '\x00'

/-- The characters that end a line. -/
def isBreak (c : Char) : Bool :=
  c == '\n' || c == '\r' || c == '\u0085' || c == '\u2028' || c == '\u2029'

/-- The characters that end a word: blanks, tabs, line ends, and the end of the text. -/
def isGap (c : Char) : Bool := c == endMark || c == ' ' || c == '\t' || isBreak c

namespace Source

/-- The character `n` places ahead. -/
def peek (s : Source) (n : Nat := 0) : Char := s.rest.getD n endMark

/-- Whether all is read. -/
def atEnd (s : Source) : Bool := s.rest.isEmpty

/-- A text of which nothing is read. -/
def ofChars (text : List Char) : Source := { rest := text, size := text.length }

/-- The source behind the next character. -/
def next (s : Source) : Source :=
  match s.rest with
  | [] => s
  | c :: rest =>
    if isBreak c && !(c == '\r' && rest.head? == some '\n') then
      ⟨rest, s.size, s.index + 1, s.line + 1, 0⟩
    else ⟨rest, s.size, s.index + 1, s.line, if c == '\ufeff' then s.column else s.column + 1⟩

/-- The source behind the next `n` characters. -/
def skip (s : Source) : Nat → Source
  | 0 => s
  | n + 1 => s.next.skip n

/-- The source behind all next characters with a property. -/
def skipWhile (s : Source) (p : Char → Bool) : Source := s.skip (s.rest.takeWhile p).length

/-- The next line end, as it counts in a text, and the source behind it. Most line ends count as a
line feed. -/
def lineBreak? (s : Source) : Option (Char × Source) :=
  match s.rest with
  | '\r' :: '\n' :: _ => some ('\n', s.skip 2)
  | c :: _ =>
    if c == '\u2028' || c == '\u2029' then some (c, s.next)
    else if isBreak c then some ('\n', s.next)
    else none
  | [] => none

/-- Whether the given three characters stand next, with a gap behind them. -/
def hasMarker (s : Source) (c : Char) : Bool :=
  s.rest.take 3 == [c, c, c] && isGap (s.peek 3)

/-- Whether the next characters separate documents. -/
def hasSeparator (s : Source) : Bool := s.hasMarker '-' || s.hasMarker '.'

/-- The line ends among the next characters and the source behind them and the characters between
them, which have property `p`. Ends early in front of a separator of documents, which the flag
tells. -/
def breaks (p : Char → Bool) : Source → Nat → List Char × Source × Bool
  | s, 0 => ([], s, false)
  | s, fuel + 1 =>
    if s.hasSeparator then ([], s, true)
    else
      let s := s.skipWhile p
      match s.lineBreak? with
      | none => ([], s, false)
      | some (c, s) =>
        let (cs, behind, stopped) := breaks p s fuel
        (c :: cs, behind, stopped)

/-- What a line end and the line ends behind it count as inside a text: a single one is a blank, and
of several the first is dropped. -/
def folded (first : Char) (more : List Char) : List Char :=
  if first ≠ '\n' then first :: more else if more = [] then [' '] else more

end Source

end AnsiArt.Yaml
