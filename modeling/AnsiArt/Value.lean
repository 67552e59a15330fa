import AnsiArt.Calendar
import AnsiArt.Decimal.Shortest
import AnsiArt.Text.LetterCase
import AnsiArt.Text.Numeral
import AnsiArt.Text.Quoted

/-!
# Values

Structured data as settings files hold it: scalars, lists, and maps whose entries keep the order in
which their keys first appeared. `Value.quoted` is how a value is shown in messages, and
`Value.label` what it is where a text is wanted.
-/

namespace AnsiArt

/-- A value without parts. -/
inductive Scalar
  | null
  | bool (b : Bool)
  | int (n : Int)
  | float (x : Binary64)
  | text (s : String)
  /-- A text with surrogates, by its code points. -/
  | codes (cs : List Nat)
  | date (d : Date)
  | moment (m : Moment)
  deriving DecidableEq, Inhabited

/-- A scalar, a list or a map. -/
inductive Value
  | scalar (s : Scalar)
  | list (items : List Value)
  | map (entries : List (Scalar × Value))
  deriving Inhabited

/-- A text can stand where a scalar is wanted. -/
instance : Coe String Scalar := ⟨.text⟩

namespace Scalar

/-- A scalar as it is shown in messages. -/
def quoted : Scalar → String
  | null => "None"
  | bool true => "True"
  | bool false => "False"
  | int n => toString n
  | float x => x.shortest
  | text s => Quoted.quote s
  | codes cs => Quoted.quoteCodes cs
  | date d => d.quoted
  | moment m => m.quoted

/-- A scalar as a plain text. A surrogate is written as the replacement character. -/
def display : Scalar → String
  | text s => s
  | codes cs => String.ofList (cs.map fun n => (CodePoint.char? n).getD '\ufffd')
  | date d => d.text
  | moment m => m.text
  | s => s.quoted

/-- The text of a row of code points. -/
def ofCodes (cs : List Nat) : Scalar :=
  match cs.mapM CodePoint.char? with
  | some chars => text (String.ofList chars)
  | none => codes cs

/-- A text in capitals. A surrogate has no other form. -/
def capitals : Scalar → Scalar
  | text s => text (toUpper s)
  | codes cs => codes (cs.flatMap fun n =>
      (CodePoint.char? n).elim [n] fun c => (upperChar c).map Char.toNat)
  | s => s

/-- Whether a scalar can be written. -/
def isWritable : Scalar → Bool
  | int n => Numeral.isWritable n
  | _ => true

/-- The name of the type of a scalar. -/
def typeName : Scalar → String
  | null => "NoneType"
  | bool _ => "bool"
  | int _ => "int"
  | float _ => "float"
  | text _ => "str"
  | codes _ => "str"
  | date _ => "datetime.date"
  | moment _ => "datetime.datetime"

/-- What tells most keys apart: a truth value is the same key as the number 0 or 1, and a whole
number is the same key in either kind of number. -/
def key : Scalar → Scalar
  | bool b => int (if b then 1 else 0)
  | float x => (x.whole?.map int).getD (float x)
  | s => s

/-- Whether two scalars are the same key. -/
def isSameKey : Scalar → Scalar → Bool
  | moment a, moment b => a.isSame b
  | a, b => a.key == b.key

/-- Whether a scalar says nothing: no value, a falsehood, zero, or the empty text. -/
def isVoid : Scalar → Bool
  | null => true
  | bool b => !b
  | int n => n == 0
  | float x => x.whole? == some 0
  | text s => s.isEmpty
  | _ => false

end Scalar

namespace Value

/-- A text. -/
def text (s : String) : Value := scalar (.text s)

/-- No value. -/
def null : Value := scalar .null

/-- The name of the type of a value. -/
def typeName : Value → String
  | scalar s => s.typeName
  | list _ => "list"
  | map _ => "dict"

/-- Whether a value says nothing: a scalar that says nothing, or a list or map without members. -/
def isVoid : Value → Bool
  | scalar s => s.isVoid
  | list items => items.isEmpty
  | map entries => entries.isEmpty

/-! ### Maps -/

/-- Puts an entry into a map. A key that is there already keeps its place and its spelling. -/
def insert (key : Scalar) (value : Value) : List (Scalar × Value) → List (Scalar × Value)
  | [] => [(key, value)]
  | (k, v) :: rest =>
    if k.isSameKey key then (k, value) :: rest else (k, v) :: insert key value rest

/-- The map of a list of entries, of which a later one replaces an earlier one of the same key. -/
def ofEntries (entries : List (Scalar × Value)) : Value :=
  map (entries.foldl (fun m e => insert e.1 e.2 m) [])

/-- The value of a key that is a text. -/
def get? (field : String) (entries : List (Scalar × Value)) : Option Value :=
  (entries.find? fun e => e.1 = .text field).map (·.2)

/-! ### Showing values -/

mutual

/-- A value as it is shown in messages. -/
def quoted : Value → String
  | scalar s => s.quoted
  | list items => "[" ++ ", ".intercalate (quotedItems items) ++ "]"
  | map entries => "\x7b" ++ ", ".intercalate (quotedEntries entries) ++ "\x7d"

/-- The items of a list, each as it is shown in messages. -/
def quotedItems : List Value → List String
  | [] => []
  | v :: rest => quoted v :: quotedItems rest

/-- The entries of a map, each as it is shown in messages. -/
def quotedEntries : List (Scalar × Value) → List String
  | [] => []
  | (k, v) :: rest => (k.quoted ++ ": " ++ quoted v) :: quotedEntries rest

end

mutual

/-- Whether a value can be written, that is, whether no integer in it is too long. -/
def isWritable : Value → Bool
  | scalar s => s.isWritable
  | list items => areWritable items
  | map entries => areEntriesWritable entries

/-- Whether all items of a list can be written. -/
def areWritable : List Value → Bool
  | [] => true
  | v :: rest => isWritable v && areWritable rest

/-- Whether all entries of a map can be written. -/
def areEntriesWritable : List (Scalar × Value) → Bool
  | [] => true
  | (k, v) :: rest => k.isWritable && isWritable v && areEntriesWritable rest

end

/-- The text of a value: a text itself, another scalar as it is written, anything else as it is
shown in messages. -/
def label : Value → Scalar
  | scalar (.codes cs) => .codes cs
  | scalar s => s.display
  | v => v.quoted

end Value

end AnsiArt
