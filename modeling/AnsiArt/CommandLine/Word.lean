import AnsiArt.CommandLine.Option
import AnsiArt.Text.Split

/-!
# Words of a command line

Each word is put into a class before any option takes effect. A word is an option if it is the name
of one, if what is in front of its first equals sign is, if it begins with a short name, or if it is
the beginning of exactly one long name. Whatever else begins with a hyphen is an option that nobody
knows, unless it is a lone hyphen, a negative number or has a space in it; such words and all others
are operands. Two hyphens make operands of all words behind them.
-/

namespace AnsiArt.CommandLine

/-- A word of a command line. An option is known by its long or its short name, and more text may
follow the name in the same word, either directly or behind an equals sign. -/
inductive Word (ι : Type)
  | option (spec : OptionSpec ι) (short : Bool) (attached : Option (List Char))
  | unknown (text : String)
  | operand (text : String)
  | dashes

namespace Word

variable {ι : Type}

/-! ### Names -/

/-- The option with a name. -/
def named? (specs : List (OptionSpec ι)) (name : List Char) : Option (OptionSpec ι) :=
  specs.find? fun o => o.names.contains (String.ofList name)

/-- The option with a short name. -/
def short? (specs : List (OptionSpec ι)) (c : Char) : Option (OptionSpec ι) :=
  specs.find? fun o => o.short == some c

/-- The options whose long name begins with a text. -/
def beginningWith (specs : List (OptionSpec ι)) (text : List Char) : List (OptionSpec ι) :=
  specs.filter fun o => text.isPrefixOf o.longName.toList

/-! ### Numbers -/

/-- Whether a text is a row of at least one digit. -/
def isDigits (text : List Char) : Bool :=
  !text.isEmpty && text.all fun c => (decimalDigit? c).isSome

/-- Whether a text is the absolute value of a number, with or without a decimal point. -/
def isMagnitude (text : List Char) : Bool :=
  match cutFirst '.' text with
  | none => isDigits text
  | some (front, behind) => (front.isEmpty || isDigits front) && isDigits behind

/-- Whether the text behind a hyphen makes a negative number of it; a line feed may end it. -/
def isNegative (behind : List Char) : Bool :=
  isMagnitude (if behind.getLast? = some '\n' then behind.dropLast else behind)

/-! ### Classes -/

/-- The class of a word that begins with a hyphen and names no option. -/
def ofUnnamed (behind : List Char) : Word ι :=
  let text := String.ofList ('-' :: behind)
  if behind.isEmpty || isNegative behind || behind.contains ' ' then .operand text
  else .unknown text

/-- The text behind the equals sign that a text begins with; without a text there is none. -/
def behindSign : List Char → Option (List Char)
  | [] => none
  | _ :: value => some value

/-- The class of a word that begins with two hyphens and has no full name in front. The sign that
ends the name, and what is behind it, are in `rest`. -/
def ofLong (specs : List (OptionSpec ι)) (name rest : List Char) : Except UsageError (Word ι) :=
  match beginningWith specs name with
  | [] => .ok (ofUnnamed ((name ++ rest).drop 1))
  | [o] => .ok (.option o false (behindSign rest))
  | os => .error (.ambiguous (String.ofList (name ++ rest)) (os.map OptionSpec.longName))

/-- The class of a word that begins with one hyphen and has no full name in front. -/
def ofShort (specs : List (OptionSpec ι)) : List Char → Word ι
  | [] => ofUnnamed []
  | c :: rest =>
    match short? specs c with
    | some o => .option o true (if rest.isEmpty then none else some rest)
    | none => ofUnnamed (c :: rest)

/-- The class of a word other than two hyphens. -/
def ofText (specs : List (OptionSpec ι)) (text : List Char) : Except UsageError (Word ι) :=
  match text with
  | '-' :: behind =>
    let name := text.takeWhile (· ≠ '=')
    let rest := text.dropWhile (· ≠ '=')
    let long := behind.head? = some '-'
    match named? specs name with
    | some o => .ok (.option o (!long) (behindSign rest))
    | none => if long then ofLong specs name rest else .ok (ofShort specs behind)
  | _ => .ok (.operand (String.ofList text))

/-- The classes of all words. -/
def classify (specs : List (OptionSpec ι)) : List String → Except UsageError (List (Word ι))
  | [] => .ok []
  | text :: rest =>
    if text = "--" then .ok (.dashes :: rest.map .operand)
    else do
      let word ← ofText specs text.toList
      return word :: (← classify specs rest)

end Word

end AnsiArt.CommandLine
