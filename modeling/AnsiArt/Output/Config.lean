import AnsiArt.Files.Path
import AnsiArt.Fonts.Stack
import AnsiArt.Terminal
import AnsiArt.Text.Quoted

/-!
# Configurations

What a rendering is asked for: a format, a size, a palette, fonts and a place for the output. A
configuration is checked when it is made, so that whoever holds one need not check again.
-/

namespace AnsiArt

/-- The formats of the output. -/
inductive Format
  | html
  | text
  | png
  deriving DecidableEq

namespace Format

/-- All formats in the order in which they are listed. -/
def all : List Format := [html, text, png]

/-- The name of a format. -/
def name : Format → String
  | html => "html"
  | text => "text"
  | png => "png"

/-- The extension of files in a format. -/
def extension : Format → String
  | html => "html"
  | text => "txt"
  | png => "png"

/-- The format of a name. -/
def ofName? (name : String) : Option Format := all.find? (·.name == name)

theorem ofName?_name (f : Format) : ofName? f.name = some f := by cases f <;> rfl

end Format

/-- What is asked for. -/
structure RenderRequest where
  format : Setting String := .value Format.html.name
  outdir : Option (Setting String) := none
  stylesheet : Option (Setting String) := none
  width : Option (Setting Int) := none
  height : Setting Int := .value Terminal.defaultHeight
  useSauce : Bool := true
  palette : Setting String := .value "vga"
  fontProfile : Setting String := .value FontStack.defaultProfile
  fontSize : Setting Int := .value FontStack.defaultSize
  deriving DecidableEq

/-- Why a request is refused. -/
inductive ConfigError
  | unknownSetting (name : String)
  | unknownFormat (name : Setting String)
  | noWidth
  | widthNotPositive (width : Int)
  | noHeight
  | heightNegative (height : Int)
  | noDirectory
  deriving DecidableEq

/-- The wording of a refused request. -/
def ConfigError.message : ConfigError → String
  | unknownSetting name => s!"Unknown setting {Quoted.quote name}"
  | unknownFormat name =>
    let names := ", ".intercalate (Format.all.map Format.name)
    let given := match name with
      | .value name => Quoted.quote name
      | .void => name.toString
    s!"Unknown format {given}. Available: {names}"
  | noWidth => "'<=' not supported between instances of 'list' and 'int'"
  | widthNotPositive width => s!"Width must be positive, got {width}"
  | noHeight => "'<' not supported between instances of 'list' and 'int'"
  | heightNegative height => s!"Height must not be negative, got {height}"
  | noDirectory => "expected str, bytes or os.PathLike object, not list"

/-- A request that was checked. An emptied stylesheet is none; the palette and the fonts are looked
at only when they are needed. -/
structure RenderConfig where
  format : Format
  outdir : Option FilePath
  stylesheet : Option String
  width : Option Int
  height : Int
  useSauce : Bool
  palette : Setting String
  fontProfile : Setting String
  fontSize : Setting Int
  width_pos : ∀ w ∈ width, 0 < w
  height_nonneg : 0 ≤ height

namespace RenderConfig

/-- The names of the settings. -/
def settingNames : List String :=
  ["format", "outdir", "stylesheet", "width", "height", "use_sauce", "palette", "font_profile",
   "font_size"]

/-- Refuses the first name that is no setting. -/
def checkNames (names : List String) : Except ConfigError Unit :=
  match names.find? fun n => !settingNames.contains n with
  | some n => .error (.unknownSetting n)
  | none => .ok ()

/-- The format of a request. -/
def checkFormat (name : Setting String) : Except ConfigError Format :=
  match name.toOption.bind Format.ofName? with
  | some format => .ok format
  | none => .error (.unknownFormat name)

/-- The width of a request, which is positive if it is given. -/
def checkWidth : Option (Setting Int) → Except ConfigError { w : Option Int // ∀ n ∈ w, 0 < n }
  | none => .ok ⟨none, by simp⟩
  | some .void => .error .noWidth
  | some (.value n) =>
    if h : 0 < n then .ok ⟨some n, by simpa using h⟩ else .error (.widthNotPositive n)

/-- The height of a request, which is not negative. -/
def checkHeight : Setting Int → Except ConfigError { n : Int // 0 ≤ n }
  | .void => .error .noHeight
  | .value n => if h : 0 ≤ n then .ok ⟨n, h⟩ else .error (.heightNegative n)

/-- The directory of a request. -/
def checkDirectory : Option (Setting String) → Except ConfigError (Option FilePath)
  | none => .ok none
  | some .void => .error .noDirectory
  | some (.value path) => .ok (some (FilePath.ofString path))

/-- Checks a request: first the format, then the width, the height and the directory. -/
def ofRequest (r : RenderRequest) : Except ConfigError RenderConfig := do
  let format ← checkFormat r.format
  let width ← checkWidth r.width
  let height ← checkHeight r.height
  let outdir ← checkDirectory r.outdir
  return {
    format, outdir
    stylesheet := r.stylesheet.bind Setting.toOption
    width := width.val
    height := height.val
    useSauce := r.useSauce
    palette := r.palette
    fontProfile := r.fontProfile
    fontSize := r.fontSize
    width_pos := width.property
    height_nonneg := height.property }

/-- Texts are printed unless there is a directory for the output; images never are. -/
def toStandardOutput (c : RenderConfig) : Bool := c.outdir.isNone && c.format ≠ .png

end RenderConfig

end AnsiArt
