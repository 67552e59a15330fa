import AnsiArt.Text.CharClass
import AnsiArt.Text.LetterCase
import AnsiArt.Text.Split

/-!
# The fonts of the system

The system lists its fonts of fixed width, one file a line: the path, a colon, and the names of the
font's families separated by commas. The table keeps for each family the path of the last line that
names it, in the order in which the families appear first.

A family is looked up by its name; failing that, the first family is taken whose name contains the
given one, whatever the letter case.
-/

namespace AnsiArt

/-- What comes of asking the system for its fonts. -/
inductive FontListing
  | text (listing : String)
  | timeout
  | missing
  deriving DecidableEq

/-- The families with the paths of their fonts. -/
abbrev FontTable := List (String × String)

namespace FontTable

/-- The question put to the system. -/
def query : List String := ["fc-list", ":spacing=100", "family", "file"]

/-- How many seconds to wait for the answer. -/
def querySeconds : Nat := 5

/-- Enters a family. One that is there already keeps its place. -/
def insert (family path : String) : FontTable → FontTable
  | [] => [(family, path)]
  | (f, p) :: rest => if f = family then (f, path) :: rest else (f, p) :: insert family path rest

/-- The families and the path in a line; none in a line without a colon or without a path. -/
def entriesOf (line : List Char) : List (String × String) :=
  match cutFirst ':' line with
  | none => []
  | some (front, behind) =>
    let path := trim front
    let families := ((splitAll ',' (trim behind)).map trim).filter (· ≠ [])
    if path = [] then [] else families.map fun f => (String.ofList f, String.ofList path)

/-- The table of a list of entries. -/
def ofEntries (entries : List (String × String)) : FontTable :=
  entries.foldl (fun t e => insert e.1 e.2 t) []

/-- The table that a listing gives. -/
def ofText (listing : String) : FontTable :=
  ofEntries ((splitAll '\n' (trim listing.toList)).flatMap entriesOf)

/-- The table that comes of asking; empty if there is no answer. -/
def ofListing : FontListing → FontTable
  | .text listing => ofText listing
  | .timeout => []
  | .missing => []

/-- Whether a text contains another. -/
def containsText (part : List Char) : List Char → Bool
  | [] => part.isEmpty
  | c :: rest => part.isPrefixOf (c :: rest) || containsText part rest

/-- The path of a family. -/
def pathOf? (t : FontTable) (family : String) : Option String :=
  match List.lookup family t with
  | some path => some path
  | none =>
    let small := (toLower family).toList
    (List.find? (fun e => containsText small (toLower e.1).toList) t).map (·.2)

end FontTable

end AnsiArt
