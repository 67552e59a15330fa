import AnsiArt.Control.Command
import AnsiArt.Proofs.Screen.Extension
import AnsiArt.Proofs.Screen.Pages
import AnsiArt.Render.Html
import AnsiArt.Render.Image

/-!
# Canvases that differ in their empty slots at the end

A canvas that was made higher has more empty slots. Writes grow the slots on demand, erasing empties
what there is, and the renderings look at the bounds, so nothing tells the two apart, with one
exception: inserting lines moves the cursor onto the canvas first, and there the number of slots
matters.

Main statements:

* `Canvas.SameScreen.run` — every command but the insertion of lines keeps canvases the same;
* `Canvas.SameScreen.grid_eq` — canvases that are the same have the same grid.
-/

namespace AnsiArt.Canvas

/-- Canvases that differ at most in how many empty slots stand at their end. -/
structure SameScreen (c d : Canvas) : Prop where
  width_eq : c.width = d.width
  cursor_eq : c.cursor = d.cursor
  reached_eq : c.reached = d.reached
  written_eq : c.written = d.written
  slot?_eq (o : Nat) : c.slot? o = d.slot? o

namespace SameScreen

variable {c d : Canvas}

theorem blank {width : Nat} (h : 0 < width) (m n : Nat) :
    (Canvas.blank width m h).SameScreen (Canvas.blank width n h) where
  width_eq := rfl
  cursor_eq := rfl
  reached_eq := rfl
  written_eq := rfl
  slot?_eq o := by rw [slot?_blank, slot?_blank]

/-! ### Commands -/

theorem move (h : c.SameScreen d) (f : Cursor → Cursor) : (c.move f).SameScreen (d.move f) where
  width_eq := h.width_eq
  cursor_eq := congrArg f h.cursor_eq
  reached_eq := h.reached_eq
  written_eq := h.written_eq
  slot?_eq := h.slot?_eq

theorem setChar (h : c.SameScreen d) (ch : Char) : (c.setChar ch).SameScreen (d.setChar ch) :=
  h.move (·.setChar ch)

theorem write (h : c.SameScreen d) (ch : Char) : (c.write ch).SameScreen (d.write ch) := by
  have hoffset : c.cursor.offset c.width = d.cursor.offset d.width := by
    rw [h.width_eq, h.cursor_eq]
  by_cases hslot : 0 ≤ c.cursor.offset c.width
  · have hslot' : 0 ≤ d.cursor.offset d.width := hoffset ▸ hslot
    refine ⟨?_, ?_, ?_, ?_, fun o => ?_⟩
    · rw [write_eq hslot, write_eq hslot']
      exact h.width_eq
    · rw [write_eq hslot, write_eq hslot']
      simp only [h.width_eq, h.cursor_eq]
    · rw [write_eq hslot, write_eq hslot']
      simp only [h.width_eq, h.cursor_eq, h.reached_eq]
    · rw [write_eq hslot, write_eq hslot']
      simp only [h.cursor_eq, h.written_eq]
    · -- both are grown up to the slot that is written, from wherever they ended
      rw [slot?_write, slot?_write, hoffset, h.cursor_eq, h.slot?_eq]
  · have hneg : c.cursor.offset c.width < 0 := Int.not_le.mp hslot
    rw [write_of_neg c ch hneg, write_of_neg d ch (hoffset ▸ hneg)]
    exact h.setChar ch

theorem writeBlanks (h : c.SameScreen d) (n : Nat) :
    (c.writeBlanks n).SameScreen (d.writeBlanks n) := by
  induction n generalizing c d with
  | zero => exact h
  | succ n ih => exact ih (h.write ' ')

theorem clearRange (h : c.SameScreen d) (start stop : Int) :
    (c.clearRange start stop).SameScreen (d.clearRange start stop) where
  width_eq := h.width_eq
  cursor_eq := h.cursor_eq
  reached_eq := h.reached_eq
  written_eq := h.written_eq
  slot?_eq o := by rw [slot?_clearRange, slot?_clearRange, h.slot?_eq]

theorem erasePage (h : c.SameScreen d) (region : Region) :
    (c.erasePage region).SameScreen (d.erasePage region) := by
  have hc := empties_erasePage c region
  have hd := empties_erasePage d region
  refine ⟨?_, ?_, ?_, ?_, fun o => ?_⟩
  · exact hc.width_eq.trans (h.width_eq.trans hd.width_eq.symm)
  · exact hc.cursor_eq.trans (h.cursor_eq.trans hd.cursor_eq.symm)
  · exact hc.reached_eq.trans (h.reached_eq.trans hd.reached_eq.symm)
  · exact hc.written_eq.trans (h.written_eq.trans hd.written_eq.symm)
  · -- the cursor alone decides what is emptied, wherever the slots end
    rw [slot?_erasePage, slot?_erasePage, h.width_eq, h.cursor_eq, h.slot?_eq]

theorem eraseLine (h : c.SameScreen d) (region : Region) :
    (c.eraseLine region).SameScreen (d.eraseLine region) := by
  have hoffset : ∀ x y : Int, d.offset x y = c.offset x y := by
    intro x y
    rw [offset, offset, h.width_eq]
  cases region <;>
  · simp only [Canvas.eraseLine, hoffset, ← h.cursor_eq]
    exact h.clearRange _ _

/-- **Every command but the insertion of lines does the same to canvases that are the same.** -/
theorem run (h : c.SameScreen d) {command : Command} (hc : ∀ n, command ≠ .insertLines n) :
    (command.run c).SameScreen (command.run d) := by
  cases command with
  | write ch => exact h.write ch
  | tab =>
    have hblanks := h.writeBlanks (tabBlanks c.cursor.x)
    rwa [show Command.tab.run d = d.writeBlanks (tabBlanks c.cursor.x) by rw [h.cursor_eq]; rfl]
  | erasePage region => exact h.erasePage region
  | eraseLine region => exact h.eraseLine region
  | insertLines n => exact absurd rfl (hc n)
  | lineFeed => exact h.move fun k => { k with y := k.y + 1 }
  | carriageReturn => exact h.move fun k => { k with x := 0 }
  | up n => exact h.move (·.up n)
  | down n => exact h.move (·.down n)
  | left n => exact h.move (·.left n)
  | right n => exact h.move (·.right n)
  | toColumn x => exact h.move (·.toColumn x)
  | goto x y => exact h.move (·.goto x y)
  | select codes => exact h.move fun k => k.setRendition (k.pen.rendition.selectAll codes)

theorem runAll (h : c.SameScreen d) {commands : List Command}
    (hc : ∀ n, Command.insertLines n ∉ commands) :
    (c.runAll commands).SameScreen (d.runAll commands) := by
  induction commands generalizing c d with
  | nil => exact h
  | cons command rest ih =>
    refine ih (h.run fun n heq => hc n ?_) fun n hmem => hc n (List.mem_cons_of_mem _ hmem)
    exact heq ▸ List.mem_cons_self

/-! ### Looking at the canvas -/

theorem cellAt_eq (h : c.SameScreen d) (x y : Int) : c.cellAt x y = d.cellAt x y := by
  rw [cellAt, cellAt, offset, offset, h.width_eq, h.slot?_eq]

/-- **Canvases that are the same have the same grid.** -/
theorem grid_eq (h : c.SameScreen d) : c.grid = d.grid := by
  have hrow : c.gridRow = d.gridRow := by
    funext y
    simp only [gridRow, h.written_eq, h.cellAt_eq]
  rw [grid, grid, h.written_eq, hrow]

theorem plainText_eq (h : c.SameScreen d) : c.plainText = d.plainText := by
  rw [plainText, plainText, plainChars, plainChars, h.grid_eq]

theorem document_eq (h : c.SameScreen d) (p : Palette) (address : String) :
    Html.document c p address = Html.document d p address := by
  rw [Html.document, Html.document, h.grid_eq]

theorem image_eq (h : c.SameScreen d) (p : Palette) (fonts : FontStack) :
    Image.ofCanvas c p fonts = Image.ofCanvas d p fonts := by
  rw [Image.ofCanvas, Image.ofCanvas, h.grid_eq, h.written_eq]

end SameScreen

end AnsiArt.Canvas
