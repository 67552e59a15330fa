import AnsiArt.Files.Path
import AnsiArt.Text.Quoted

/-!
# Trees of files

The files that the program reads and writes, as a value: a table from places to their contents. A
place is the list of names that lead to it from one directory, which paths from here start in, and
whose label starts paths that name it. The directories above that one are the places made of double
dots only, and the root is a place of its own.

A tree knows the name of its own directory, but not where that directory stands. A path that climbs
out of it by one level and comes back by this name leads to where it set out from. Nothing ties the
root or names further up to it: a path from the root, and one that comes back from two levels up,
leads to a place of its own, as if it named another file. A tree is therefore the value of a file
system only for paths that name each file in one way. Links are not followed.

Every step of a path but the last has to be a directory, and the two ways in which that fails give
different errors. Names and paths have a greatest length, and no path holds the null character.
-/

namespace AnsiArt

/-- What is at a place. -/
inductive Entry
  | file (content : List UInt8)
  | directory
  deriving DecidableEq

/-- The entries below a directory, each at the list of the names that lead to it, and the name of
that directory in the one above it, if it is known. -/
structure FileTree where
  label : String
  entries : List (List String × Entry) := []
  name : Option String := none

/-- What keeps an operation on files from succeeding. -/
inductive FileObstacle
  | missing
  | present
  | notDirectory
  | isDirectory
  | tooLong
  | nullCharacter
  deriving DecidableEq

/-- An obstacle and the path at which it was met. -/
structure FileError where
  obstacle : FileObstacle
  path : FilePath
  deriving DecidableEq

/-- The wording of a failed operation. -/
def FileError.message (e : FileError) : String :=
  let at_ (what : String) : String := s!"{what}: {Quoted.quote e.path.toString}"
  match e.obstacle with
  | .missing => at_ "[Errno 2] No such file or directory"
  | .present => at_ "[Errno 17] File exists"
  | .notDirectory => at_ "[Errno 20] Not a directory"
  | .isDirectory => at_ "[Errno 21] Is a directory"
  | .tooLong => at_ "[Errno 36] File name too long"
  | .nullCharacter => "embedded null byte"

namespace FileTree

/-! ### Places -/

/-- The place of the root. -/
def root : List String := ["/"]

/-- Whether a place is the directory to start from or one above it. -/
def isAncestor (place : List String) : Bool := place.all (· == "..")

/-- What is at a place; the root, the place to start from and those above it are directories. -/
def entry? (t : FileTree) (place : List String) : Option Entry :=
  if isAncestor place ∨ place = root then some .directory else t.entries.lookup place

/-- Puts an entry at a place. -/
def put (t : FileTree) (place : List String) (e : Entry) : FileTree :=
  let rec go : List (List String × Entry) → List (List String × Entry)
    | [] => [(place, e)]
    | (p, old) :: rest => if p = place then (p, e) :: rest else (p, old) :: go rest
  { t with entries := go t.entries }

/-- The directory above a place; above the root there is only the root. -/
def above (place : List String) : List String :=
  if isAncestor place then place ++ [".."] else if place = root then root else place.dropLast

/-- The place that a name leads to; from the directory above, the name of the tree leads back. -/
def below (t : FileTree) (place : List String) (name : String) : List String :=
  if place = [".."] ∧ t.name = some name then [] else place ++ [name]

/-- The greatest length of a name in bytes. -/
def longestName : Nat := 255

/-- The greatest length of a path in bytes. -/
def longestPath : Nat := 4095

/-- Follows steps from a directory. A name that is too long is noticed when its turn comes. -/
def follow (t : FileTree) (place : List String) : List String → Except FileObstacle (List String)
  | [] => .ok place
  | step :: rest =>
    let next := if step = ".." then above place else t.below place step
    if longestName < step.utf8ByteSize then .error .tooLong
    else if rest = [] then .ok next
    else
      match t.entry? next with
      | some .directory => t.follow next rest
      | some (.file _) => .error .notDirectory
      | none => .error .missing

/-- The place that a path leads to, whether or not there is something. The label is compared as a
whole: a path from the root is not looked through for the directory of the tree. -/
def locate (t : FileTree) (p : FilePath) : Except FileError (List String) :=
  let steps (place : List String) := (t.follow place p.parts).mapError (⟨·, p⟩)
  if p.parts.any (·.toList.contains '\x00') then .error ⟨.nullCharacter, p⟩
  else if longestPath < p.toString.utf8ByteSize then .error ⟨.tooLong, p⟩
  else match p.start with
  | .here => steps []
  | .place label => if label = t.label then steps [] else .error ⟨.missing, p⟩
  | .root => steps root
  | .doubleRoot => steps root

/-- What a path leads to. -/
def at? (t : FileTree) (p : FilePath) : Option Entry :=
  match t.locate p with
  | .ok place => t.entry? place
  | .error _ => none

/-- Whether a path leads to something. Of the ways in which a path leads nowhere, only its length
keeps the question from being answered. -/
def contains (t : FileTree) (p : FilePath) : Except FileError Bool :=
  match t.locate p with
  | .ok place => .ok (t.entry? place).isSome
  | .error e => if e.obstacle = .tooLong then .error e else .ok false

/-- The directory of the tree as a path with a start of its own. -/
def top (t : FileTree) : FilePath := { start := .place t.label }

/-! ### Reading and writing -/

/-- The content of a file. -/
def read (t : FileTree) (p : FilePath) : Except FileError (List UInt8) := do
  match t.entry? (← t.locate p) with
  | some (.file content) => return content
  | some .directory => throw ⟨.isDirectory, p⟩
  | none => throw ⟨.missing, p⟩

/-- Writes a file, replacing its content if it is there. -/
def write (t : FileTree) (p : FilePath) (content : List UInt8) : Except FileError FileTree := do
  let place ← t.locate p
  match t.entry? place with
  | some .directory => throw ⟨.isDirectory, p⟩
  | _ =>
    if t.entry? place.dropLast = some .directory then return t.put place (.file content)
    else throw ⟨.missing, p⟩

/-- The names in a directory; none if the path leads to no directory. -/
def list (t : FileTree) (p : FilePath) : Except FileError (List String) :=
  match t.locate p with
  | .error e => if e.obstacle = .tooLong then .error e else .ok []
  | .ok place =>
    .ok (t.entries.filterMap fun (q, _) => if q.dropLast = place then q.getLast? else none)

/-! ### Making directories -/

/-- Makes one directory in a directory that is there. -/
def makeOne (t : FileTree) (p : FilePath) : Except FileError FileTree := do
  let place ← t.locate p
  if (t.entry? place).isSome then throw ⟨.present, p⟩
  else if t.entry? place.dropLast = some .directory then return t.put place .directory
  else throw ⟨.missing, p⟩

/-- Makes a directory unless it is there already. -/
def ensureOne (t : FileTree) (p : FilePath) : Except FileError FileTree :=
  match t.makeOne p with
  | .ok t => .ok t
  | .error e => if t.at? p = some .directory then .ok t else .error e

/-- Makes the directory of a start and steps, and those that lead to it where they are missing. -/
def ensureSteps (t : FileTree) (start : PathStart) : List String → Nat →
    Except FileError FileTree
  | parts, 0 => t.ensureOne ⟨start, parts⟩
  | parts, depth + 1 =>
    match t.ensureOne ⟨start, parts⟩ with
    | .ok t => .ok t
    | .error e =>
      if e.obstacle = .missing then do
        (← t.ensureSteps start parts.dropLast depth).ensureOne ⟨start, parts⟩
      else .error e

/-- Makes a directory and the missing directories that lead to it. A directory that is there already
is no obstacle; a file is one. -/
def ensureDirectory (t : FileTree) (p : FilePath) : Except FileError FileTree :=
  t.ensureSteps p.start p.parts p.parts.length

end FileTree

end AnsiArt
