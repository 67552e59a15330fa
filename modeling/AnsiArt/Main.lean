import AnsiArt.CommandLine.AuditTool
import AnsiArt.CommandLine.RenderTool

/-!
# The program

Reads the files that a run may touch into a tree, runs the tool on the tree, and carries the changes
out. Only a built-in font is at hand, and no encoder of images.
-/

namespace AnsiArt.Program

open CommandLine

/-- A font with one cell size for all ASCII characters. -/
def builtInFont : Font where
  label := FontStack.builtInPath
  advance := Binary64.divide 8 1
  letterBox := ⟨0, 0, 8, 16⟩
  glyphSize := fun c => if c.toNat < 128 then some ⟨8, 16⟩ else some ⟨0, 0⟩

/-- Surroundings without any other font. -/
def fonts : FontSystem where
  listing := .missing
  load := fun _ _ => none
  builtIn := builtInFont

/-- What is at a path in the file system. -/
def look (path : String) : IO (Option Entry) := do
  try
    return some (.file (← IO.FS.readBinFile path).toList)
  catch
    | .noFileOrDirectory .. => return none
    | .inappropriateType .. => return some .directory
    | _ => return some .directory

/-- Enters what a path leads to into a tree, and the directories on the way. -/
def survey (t : FileTree) (p : FilePath) : IO FileTree :=
  p.way.foldlM (fun t step => do
    match t.locate step with
    | .error _ => return t
    | .ok place =>
      if (t.entry? place).isSome then return t
      match ← look step.toString with
      | some e => return t.put place e
      | none => return t) t

/-- A place as the text of a path. -/
def textOf (place : List String) : String :=
  match place with
  | "/" :: rest => "/" ++ "/".intercalate rest
  | _ => "/".intercalate place

/-- Carries out the changes from one tree to another. -/
def carryOut (before after : FileTree) : IO Unit :=
  after.entries.forM fun (place, e) => do
    if before.entry? place = some e then return
    match e with
    | .directory => IO.FS.createDir (textOf place)
    | .file content => IO.FS.writeBinFile (textOf place) ⟨content.toArray⟩

/-- Runs a tool on the files at some paths. -/
def run (tool : FontSystem → Workspace → List String → Outcome)
    (pathsOf : FileTree → List String → List FilePath) (args : List String) : IO UInt32 := do
  let here := toString (← IO.currentDir)
  let empty : FileTree := { label := here, name := some (FilePath.ofString here).name }
  let files ← (pathsOf empty args).foldlM survey empty
  let o := tool fonts { files } args
  carryOut files o.workspace.files
  IO.print o.output
  IO.eprint o.errors
  return o.status.toUInt32

/-- The program that audits fonts. -/
def auditFonts : List String → IO UInt32 := run AuditTool.run fun _ _ => []

end AnsiArt.Program

/-- The program that renders files. -/
def main : List String → IO UInt32 :=
  AnsiArt.Program.run (AnsiArt.RenderTool.run .standard) AnsiArt.RenderTool.pathsOf
