import AnsiArt.Text.CodePoint
import AnsiArt.Text.Numeral
import AnsiArt.Yaml.Source

/-!
# Tokens of a settings file

The tokens of the YAML format: scalars, the brackets and commas of the flow style, and for the block
style the starts and ends that the indentation implies.

A scalar becomes the key of a map only when the colon behind it is found, so the places of scalars
that may still turn out to be keys are remembered, one for each level of flow brackets.

Aliases, anchors, tags, directives and literal blocks are not read; a text with one of them is
refused. A quoted scalar that spells a number beyond the code points is refused for that reason,
and then the tokens in front of it still matter, because one of them may be at fault itself. Only
those count that no key can come in front of any more, judged where the last of them ends: what is
behind the first possible key waits for the next token.
-/

namespace AnsiArt.Yaml

/-- A token. A quoted scalar is given by its code points. -/
inductive Token
  | documentStart
  | documentEnd
  | blockSequence
  | blockMapping
  | blockEnd
  | flowSequence
  | flowSequenceEnd
  | flowMapping
  | flowMappingEnd
  | blockEntry
  | flowEntry
  | key
  | value
  | plain (text : List Char)
  | quoted (codes : List Nat)
  deriving DecidableEq

/-- The place of a scalar or a flow collection that may turn out to be a key. A **required** one
must, because its line can be nothing but an entry of the map around it. -/
structure KeyPlace where
  token : Nat
  required : Bool
  index : Nat
  line : Nat
  column : Nat

/-- The state of the reading: the rest of the text, the columns of the open blocks from the
innermost outwards, the possible keys on each level of flow brackets from the innermost outwards,
whether a key may begin here, the tokens so far, and how many of them were settled at the end of the
last one. -/
structure Lexer where
  source : Source
  indents : List Int := [-1]
  keys : List (Option KeyPlace) := [none]
  keyAllowed : Bool := true
  tokens : Array Token := #[]
  settled : Nat := 0

/-- Why the reading of tokens stops early. -/
inductive TokenError
  | invalid
  /-- A number that is no code point, behind some settled tokens. -/
  | codePoint (cause : CodePointError) (tokens : List Token)

namespace Lexer

/-- The number of open flow brackets. -/
def depth (l : Lexer) : Nat := l.keys.length - 1

/-- Whether a flow bracket is open. -/
def inFlow (l : Lexer) : Bool := l.depth != 0

/-- The column of the innermost block. -/
def indent (l : Lexer) : Int := l.indents.headD (-1)

/-- Adds a token. -/
def push (l : Lexer) (t : Token) : Lexer := { l with tokens := l.tokens.push t }

/-- Moves on by `n` characters. -/
def skip (l : Lexer) (n : Nat) : Lexer := { l with source := l.source.skip n }

/-! ### Blocks -/

/-- Closes the blocks that begin right of a column. -/
def closeBlocks (l : Lexer) (column : Int) : Lexer :=
  if l.inFlow then l
  else
    let closed := l.indents.takeWhile (column < ·)
    { l with
      indents := l.indents.drop closed.length
      tokens := l.tokens ++ closed.map fun _ => Token.blockEnd }

/-- Opens a block at a column, unless the innermost block begins there or further right. The token
that starts the block is inserted at a place among the tokens. -/
def openBlock (l : Lexer) (column : Nat) (start : Token) (place : Nat) : Lexer :=
  if l.indent < column then
    { l with
      indents := (column : Int) :: l.indents
      tokens := l.tokens.insertIdxIfInBounds place start }
  else l

/-! ### Possible keys -/

/-- The possible key on the innermost level. -/
def possibleKey (l : Lexer) : Option KeyPlace := l.keys.headD none

/-- Replaces the possible key on the innermost level. -/
def setKey (l : Lexer) (k : Option KeyPlace) : Lexer := { l with keys := k :: l.keys.drop 1 }

/-- Gives up the possible key on the innermost level. -/
def dropKey (l : Lexer) : Option Lexer :=
  match l.possibleKey with
  | some k => if k.required then none else some (l.setKey none)
  | none => some l

/-- The longest text between the start of a key and its colon. -/
def maxKeyLength : Nat := 1024

/-- Whether a possible key is out of reach of a colon at the current position. -/
def isStale (l : Lexer) (k : KeyPlace) : Bool :=
  k.line != l.source.line || l.source.index - k.index > maxKeyLength

/-- Gives up all possible keys that are out of reach. -/
def dropStaleKeys (l : Lexer) : Option Lexer :=
  let stale (k : KeyPlace) : Bool := l.isStale k
  if l.keys.any fun k => k.any fun k => stale k && k.required then none
  else some { l with keys := l.keys.map fun k => k.filter fun k => !stale k }

/-- Settles the tokens in front of the first one that may turn out to be a key and is in reach of a
colon at the current position. -/
def settle (l : Lexer) : Lexer :=
  let places := l.keys.filterMap fun k => (k.filter fun k => !l.isStale k).map (·.token)
  { l with settled := places.foldl min l.tokens.size }

/-- The settled tokens. -/
def settledTokens (l : Lexer) : List Token := l.tokens.toList.take l.settled

/-- Remembers that what begins here may be a key. -/
def saveKey (l : Lexer) : Option Lexer :=
  if l.keyAllowed then do
    let l ← l.dropKey
    let required := !l.inFlow && l.indent == l.source.column
    return l.setKey (some ⟨l.tokens.size, required, l.source.index, l.source.line, l.source.column⟩)
  else some l

/-! ### Blanks and comments -/

/-- Moves on to the next token. In the block style a key may begin on each new line. -/
def skipBlanks (l : Lexer) : Nat → Lexer
  | 0 => l
  | fuel + 1 =>
    let s := l.source.skipWhile (· == ' ')
    let s := if s.peek == '#' then s.skipWhile fun c => !isBreak c else s
    match s.lineBreak? with
    | some (_, s) =>
      skipBlanks { l with source := s, keyAllowed := l.keyAllowed || !l.inFlow } fuel
    | none => { l with source := s }

/-! ### Scalars -/

/-- The longest run of characters of a plain scalar. A colon ends it if a gap follows; in the flow
style the characters of that style end it too. -/
def plainRun (flow : Bool) : List Char → List Char
  | [] => []
  | c :: rest =>
    let behind := rest.headD endMark
    if isGap c then []
    else if c == ':' && (isGap behind || flow && [',', '[', ']', '{', '}'].contains behind) then []
    else if flow && [',', '?', '[', ']', '{', '}'].contains c then []
    else c :: plainRun flow rest

/-- What stands between two runs of a plain scalar, the source behind it, and whether a line ends
in it. -/
def plainGap (s : Source) : List Char × Source × Bool :=
  let blanks := s.rest.takeWhile (· == ' ')
  let s := s.skip blanks.length
  match s.lineBreak? with
  | none => (blanks, s, false)
  | some (first, s) =>
    let (more, s, stopped) := Source.breaks (· == ' ') s s.size
    (if stopped then [] else Source.folded first more, s, true)

/-- A plain scalar, which ends at a comment, at a token, or at a line that begins left of `indent`.
The result is the text, the source behind it, and whether a line ended behind its last run. -/
def plainScalar (flow : Bool) (indent : Int) : Source → Nat → List Char × Source × Bool
  | s, 0 => ([], s, false)
  | s, fuel + 1 =>
    let run := plainRun flow s.rest
    let (gap, behind, broken) := plainGap (s.skip run.length)
    let more :=
      !gap.isEmpty && behind.peek != '#' && (flow || indent ≤ behind.column)
        && !(plainRun flow behind.rest).isEmpty
    if more then
      let (text, s, broken) := plainScalar flow indent behind fuel
      (run ++ gap ++ text, s, broken)
    else (run, behind, broken)

/-- The characters that a letter behind a backslash stands for. -/
def escapes : List (Char × Char) :=
  [('0', '\x00'), ('a', '\x07'), ('b', '\x08'), ('t', '\t'), ('\t', '\t'), ('n', '\n'),
   ('v', '\x0b'), ('f', '\x0c'), ('r', '\r'), ('e', '\x1b'), (' ', ' '), ('"', '"'), ('\\', '\\'),
   ('/', '/'), ('N', '\u0085'), ('_', '\u00a0'), ('L', '\u2028'), ('P', '\u2029')]

/-- The number of hexadecimal digits behind a letter that introduces a code point. -/
def codeLength : Char → Option Nat
  | 'x' => some 2
  | 'u' => some 4
  | 'U' => some 8
  | _ => none

/-- The value of a hexadecimal digit. -/
def hexDigit? (c : Char) : Option Nat :=
  if '0' ≤ c ∧ c ≤ '9' then some (c.toNat - 48)
  else if 'a' ≤ c ∧ c ≤ 'f' then some (c.toNat - 87)
  else if 'A' ≤ c ∧ c ≤ 'F' then some (c.toNat - 55)
  else none

/-- The number that hexadecimal digits spell. -/
def codeNumber? (digits : List Char) : Option Nat := do
  return Numeral.ofDigits 16 (← digits.mapM hexDigit?)

/-- Why a quoted scalar cannot be read. -/
inductive QuoteError
  | invalid
  | codePoint (cause : CodePointError)

/-- The code points of a quoted scalar behind its opening quote and the source behind the closing
quote. -/
def quotedScalar (double : Bool) : Source → Nat → Except QuoteError (List Nat × Source)
  | _, 0 => .error .invalid
  | s, fuel + 1 =>
    let quote := if double then '"' else '\''
    let continueWith (codes : List Nat) (s : Source) : Except QuoteError (List Nat × Source) := do
      let (more, s) ← quotedScalar double s fuel
      return (codes ++ more, s)
    let continueLine (text : List Char) (s : Source) : Except QuoteError (List Nat × Source) :=
      continueWith (text.map Char.toNat) s
    let isBlank (c : Char) : Bool := c == ' ' || c == '\t'
    match s.rest with
    | [] => .error .invalid
    | c :: rest =>
      if c = quote then
        if !double && rest.head? == some quote then continueLine [quote] (s.skip 2)
        else .ok ([], s.next)
      else if double && c = '\\' then
        match rest with
        | [] => .error .invalid
        | e :: digits =>
          if let some c := escapes.lookup e then continueLine [c] (s.skip 2)
          else if let some n := codeLength e then
            let digits := digits.take n
            match if digits.length = n then codeNumber? digits else none with
            | some number => do
              continueWith [← (CodePoint.ofNat number).mapError .codePoint] (s.skip (2 + n))
            | none => .error .invalid
          else
            match s.next.lineBreak? with
            | some (_, s) =>
              let (more, s, stopped) := Source.breaks isBlank s s.size
              if stopped then .error .invalid else continueLine more s
            | none => .error .invalid
      else if isBlank c || isBreak c then
        let blanks := s.rest.takeWhile isBlank
        let s := s.skip blanks.length
        match s.lineBreak? with
        | none => continueLine blanks s
        | some (first, s) =>
          let (more, s, stopped) := Source.breaks isBlank s s.size
          if stopped then .error .invalid else continueLine (Source.folded first more) s
      else continueLine [c] s.next

/-! ### One token -/

/-- A mark of a document, which ends all blocks. -/
def documentMark (l : Lexer) (t : Token) : Option Lexer := do
  let l ← (l.closeBlocks (-1)).dropKey
  return ({ l with keyAllowed := false }.skip 3).push t

/-- An opening flow bracket. -/
def openFlow (l : Lexer) (t : Token) : Option Lexer := do
  let l ← l.saveKey
  return ({ l with keys := none :: l.keys, keyAllowed := true }.skip 1).push t

/-- A closing flow bracket. One that closes nothing is left to the reader of the tokens. -/
def closeFlow (l : Lexer) (t : Token) : Option Lexer := do
  guard l.inFlow
  let l ← l.dropKey
  return ({ l with keys := l.keys.drop 1, keyAllowed := false }.skip 1).push t

/-- A comma between entries in the flow style. -/
def flowComma (l : Lexer) : Option Lexer := do
  let l ← { l with keyAllowed := true }.dropKey
  return (l.skip 1).push .flowEntry

/-- A hyphen in front of an entry in the block style. -/
def blockHyphen (l : Lexer) : Option Lexer := do
  guard (l.inFlow || l.keyAllowed)
  let l := if l.inFlow then l else l.openBlock l.source.column .blockSequence l.tokens.size
  let l ← { l with keyAllowed := true }.dropKey
  return (l.skip 1).push .blockEntry

/-- A question mark in front of a key. -/
def explicitKey (l : Lexer) : Option Lexer := do
  guard (l.inFlow || l.keyAllowed)
  let l := if l.inFlow then l else l.openBlock l.source.column .blockMapping l.tokens.size
  let l ← { l with keyAllowed := !l.inFlow }.dropKey
  return (l.skip 1).push .key

/-- A colon: the possible key, if there is one, is a key, and its value follows. -/
def colon (l : Lexer) : Option Lexer :=
  match l.possibleKey with
  | some k =>
    let l := l.setKey none
    let l := { l with tokens := l.tokens.insertIdxIfInBounds k.token .key }
    let l := if l.inFlow then l else l.openBlock k.column .blockMapping k.token
    some (({ l with keyAllowed := false }.skip 1).push .value)
  | none => do
    guard (l.inFlow || l.keyAllowed)
    let l := if l.inFlow then l else l.openBlock l.source.column .blockMapping l.tokens.size
    let l ← { l with keyAllowed := !l.inFlow }.dropKey
    return (l.skip 1).push .value

/-- A reading that fails for no reason of its own. -/
def orInvalid {α : Type} (r : Option α) : Except TokenError α := r.elim (.error .invalid) .ok

/-- A quoted scalar. -/
def quoted (l : Lexer) (double : Bool) : Except TokenError Lexer := do
  let l ← orInvalid l.saveKey
  match quotedScalar double l.source.next l.source.size with
  | .ok (codes, s) => .ok ({ l with source := s, keyAllowed := false }.push (.quoted codes))
  | .error .invalid => .error .invalid
  | .error (.codePoint cause) => .error (.codePoint cause l.settledTokens)

/-- A plain scalar. -/
def plain (l : Lexer) : Option Lexer := do
  let l ← l.saveKey
  let (text, s, broken) := plainScalar l.inFlow (l.indent + 1) l.source l.source.size
  return { l with source := s, keyAllowed := broken }.push (.plain text)

/-- Whether a plain scalar begins here. -/
def plainBegins (l : Lexer) : Bool :=
  let c := l.source.peek
  !(isGap c) && !"-?:,[]\x7b\x7d#&*!|>'\"%@`".toList.contains c ||
    !(isGap (l.source.peek 1)) && (c == '-' || !l.inFlow && (c == '?' || c == ':'))

/-- Reads one token other than a quoted scalar at a position that is not the end of the text. -/
def unquoted (l : Lexer) : Option Lexer :=
  let c := l.source.peek
  let gapFollows := isGap (l.source.peek 1)
  let lineStart := l.source.column == 0
  if c == '%' && lineStart then none
  else if lineStart && l.source.hasMarker '-' then l.documentMark .documentStart
  else if lineStart && l.source.hasMarker '.' then l.documentMark .documentEnd
  else if c == '[' then l.openFlow .flowSequence
  else if c == '{' then l.openFlow .flowMapping
  else if c == ']' then l.closeFlow .flowSequenceEnd
  else if c == '}' then l.closeFlow .flowMappingEnd
  else if c == ',' then l.flowComma
  else if c == '-' && gapFollows then l.blockHyphen
  else if c == '?' && (l.inFlow || gapFollows) then l.explicitKey
  else if c == ':' && (l.inFlow || gapFollows) then l.colon
  else if l.plainBegins then l.plain
  else none

/-- Reads one token at a position that is not the end of the text. -/
def token (l : Lexer) : Except TokenError Lexer :=
  if l.source.peek == '\'' then l.quoted false
  else if l.source.peek == '"' then l.quoted true
  else orInvalid l.unquoted

/-- Reads all tokens. -/
def run (l : Lexer) : Nat → Except TokenError (Array Token)
  | 0 => .error .invalid
  | fuel + 1 => do
    let l ← orInvalid (l.settle.skipBlanks (l.source.size + 1)).dropStaleKeys
    let l := l.closeBlocks l.source.column
    if l.source.atEnd then
      let l ← orInvalid (l.closeBlocks (-1)).dropKey
      return l.tokens
    else (← l.token).run fuel

end Lexer

/-- The tokens of a text. Each token takes at least one character. -/
def tokens (text : List Char) : Except TokenError (List Token) :=
  let text := if text.head? == some '\ufeff' then text.drop 1 else text
  (({ source := Source.ofChars text } : Lexer).run (text.length + 1)).map Array.toList

end AnsiArt.Yaml
