import AnsiArt.Text.Split

/-!
# Paths

A path is a place to start from and the names of the steps from there. Steps that lead nowhere, the
empty one and the single dot, are left out when a path is read; the double dot is kept, because
where it leads depends on the files.
-/

namespace AnsiArt

/-- Where a path starts. A **place** is a directory known by a label that stands for its path. -/
inductive PathStart
  | here
  | root
  | doubleRoot
  | place (label : String)
  deriving DecidableEq

/-- A start and the steps from it. -/
structure FilePath where
  start : PathStart := .here
  parts : List String := []
  deriving DecidableEq

namespace FilePath

/-- Reads a path. Exactly two leading slashes are a start of their own. -/
def ofString (text : String) : FilePath :=
  let cs := text.toList
  let start := match cs with
    | '/' :: '/' :: '/' :: _ => .root
    | '/' :: '/' :: _ => .doubleRoot
    | '/' :: _ => .root
    | _ => .here
  ⟨start, ((splitAll '/' cs).map String.ofList).filter fun p => p ≠ "" ∧ p ≠ "."⟩

/-- A path as text; the path without steps from here is a dot. -/
def toString (p : FilePath) : String :=
  let steps := "/".intercalate p.parts
  match p.start with
  | .here => if p.parts = [] then "." else steps
  | .root => "/" ++ steps
  | .doubleRoot => "//" ++ steps
  | .place label => if p.parts = [] then label else label ++ "/" ++ steps

instance : ToString FilePath := ⟨toString⟩

/-- The last step, empty if there is none. -/
def name (p : FilePath) : String := p.parts.getLastD ""

/-- A name without its last extension. A dot at the start or at the end of the name begins no
extension. -/
def stemOf (name : String) : String :=
  match cutLast '.' name.toList with
  | some (front, behind) =>
    if front = [] ∨ behind = [] then name else String.ofList front
  | none => name

/-- The last step without its extension. -/
def stem (p : FilePath) : String := stemOf p.name

/-- The path without its last step. -/
def parent (p : FilePath) : FilePath := { p with parts := p.parts.dropLast }

/-- The directories on the way to a path, from its start on, and the path itself. -/
def way (p : FilePath) : List FilePath :=
  (List.range p.parts.length).map fun i => { p with parts := p.parts.take (i + 1) }

/-- The second path taken from the first: a path with a start of its own replaces the first. -/
def join (p q : FilePath) : FilePath :=
  if q.start = .here then { p with parts := p.parts ++ q.parts } else q

instance : Div FilePath := ⟨join⟩

end FilePath

end AnsiArt
