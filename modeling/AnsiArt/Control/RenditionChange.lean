import AnsiArt.Screen.Cell

/-!
# Selecting a rendition

Each number of a "select graphic rendition" sequence changes one aspect of the rendition: it resets
everything, switches flags on and off, or chooses a colour or a font. `ofCode?` is the table of
these numbers, and a list of numbers is applied from left to right.
-/

namespace AnsiArt

/-- What one number of a rendition sequence does. -/
inductive RenditionChange
  | reset
  | flags (on off : List Flag)
  | foreground (colour : Int)
  | background (colour : Int)
  | font (font : Int)

namespace RenditionChange

/-- The numbers that switch flags, each with the flags that it switches on and off. The two
underlines exclude each other, so each switches the other off. -/
def flagTable : List (Int × List Flag × List Flag) :=
  [(1, [.bold], []),
   (2, [.faint], []),
   (3, [.italics], []),
   (4, [.underline], [.doubleUnderline]),
   (5, [.blink], []),
   (6, [.blink], []),
   (7, [.negative], []),
   (8, [.conceal], []),
   (9, [.crossOut], []),
   (20, [.gothic], []),
   (21, [.doubleUnderline], [.underline]),
   (22, [], [.bold, .faint]),
   (23, [], [.italics, .gothic]),
   (24, [], [.underline, .doubleUnderline]),
   (25, [], [.blink]),
   (27, [], [.negative]),
   (28, [], [.conceal]),
   (29, [], [.crossOut]),
   (51, [.frame], []),
   (52, [.encircle], []),
   (53, [.overline], []),
   (54, [], [.frame, .encircle]),
   (55, [], [.overline]),
   (60, [.ideogramUnderline], []),
   (61, [.ideogramDoubleUnderline], []),
   (62, [.ideogramOverline], []),
   (63, [.ideogramDoubleOverline], []),
   (64, [.ideogramStress], []),
   (65, [], [.ideogramUnderline, .ideogramDoubleUnderline, .ideogramOverline,
     .ideogramDoubleOverline, .ideogramStress])]

/-- The change that a number stands for; `none` for a number without a meaning here. -/
def ofCode? (n : Int) : Option RenditionChange :=
  if n = 0 then some .reset
  else
    match flagTable.lookup n with
    | some (on, off) => some (.flags on off)
    | none =>
      if 10 ≤ n ∧ n ≤ 19 then some (.font (n - 10))
      else if 30 ≤ n ∧ n ≤ 37 then some (.foreground (n - 30))
      else if n = 39 then some (.foreground ({} : Rendition).foreground)
      else if 40 ≤ n ∧ n ≤ 47 then some (.background (n - 40))
      else if n = 49 then some (.background ({} : Rendition).background)
      else if 90 ≤ n ∧ n ≤ 97 then some (.foreground (n - 90))
      else if 100 ≤ n ∧ n ≤ 107 then some (.background (n - 100))
      else none

/-- Carries out a change. -/
def apply (r : Rendition) : RenditionChange → Rendition
  | reset => {}
  | flags on off => { r with flags := (r.flags.without off).union (.ofList on) }
  | foreground colour => { r with foreground := colour }
  | background colour => { r with background := colour }
  | font n => { r with font := n }

end RenditionChange

/-- Applies one number, which has no effect if it has no meaning. -/
def Rendition.select (r : Rendition) (n : Int) : Rendition :=
  ((RenditionChange.ofCode? n).map (RenditionChange.apply r)).getD r

/-- Applies a list of numbers from left to right. -/
def Rendition.selectAll (r : Rendition) (codes : List Int) : Rendition := codes.foldl select r

end AnsiArt
