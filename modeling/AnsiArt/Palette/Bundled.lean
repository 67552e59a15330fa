/-!
# Bundled palettes

The settings files of the palettes that come with the program: those of three well-known terminals.
-/

namespace AnsiArt.Bundled

/-- A settings file with an identifier, a name and colours without their marks. -/
def settings (id name : String) (colours : List String) : String :=
  String.join
    (["id: ", id, "\nname: ", name, "\ncolors:\n"]
      ++ colours.map fun c => "  - \"#" ++ c ++ "\"\n")

/-- The colours of PuTTY. -/
def putty : String :=
  settings "putty" "PuTTY"
    ["000000", "bb0000", "00bb00", "bbbb00", "0000bb", "bb00bb", "00bbbb", "bbbbbb",
     "555555", "ff5555", "55ff55", "ffff55", "5555ff", "ff55ff", "55ffff", "ffffff"]

/-- The colours of the old Windows console. -/
def windows : String :=
  settings "windows" "Windows Console"
    ["000000", "800000", "008000", "808000", "000080", "800080", "008080", "c0c0c0",
     "808080", "ff0000", "00ff00", "ffff00", "0000ff", "ff00ff", "00ffff", "ffffff"]

/-- The colours of XTerm. -/
def xterm : String :=
  settings "xterm" "XTerm"
    ["000000", "cd0000", "00cd00", "cdcd00", "0000ee", "cd00cd", "00cdcd", "e5e5e5",
     "7f7f7f", "ff0000", "00ff00", "ffff00", "5c5cff", "ff00ff", "00ffff", "ffffff"]

end AnsiArt.Bundled
