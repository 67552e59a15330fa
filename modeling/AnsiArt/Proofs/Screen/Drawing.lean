import AnsiArt.Proofs.Control.Decimals
import AnsiArt.Proofs.Screen.Extension
import AnsiArt.Proofs.Stream.Script
import AnsiArt.Render.Html
import AnsiArt.Render.Image
import Mathlib.Data.List.Basic
import Mathlib.Data.List.Find
import Mathlib.Data.List.Induction

/-!
# Drawing by position

A **draw** is one character at a row and a column, both counted from 1. Draws on an empty canvas make
a map from positions to characters in which the last draw at a position counts: nothing of the
cursor's way is left, not even of the wrap behind the last column. So the order of the draws shows in
no rendering, except for draws at one position.

Main statements:

* `Canvas.slot?_drawAll` — a slot holds the last cell drawn there;
* `Canvas.drawAll_congr` — the order of draws does not matter, except at one position;
* `Canvas.showsDraws_drawAll_blank` — what draws leave on an empty canvas.
-/

namespace AnsiArt

open Decoder

/-! ### Draws -/

/-- One character at a row and a column. Both numbers may be written with zeros in front, as far as
numbers are read. -/
structure Draw where
  row : Nat
  column : Nat
  byte : UInt8
  rowZeros : Nat := 0
  columnZeros : Nat := 0
  row_pos : 1 ≤ row
  column_pos : 1 ≤ column
  isCharacter : IsCharacter byte
  row_readable : (Parameters.decimal rowZeros row).length ≤ 4300
  column_readable : (Parameters.decimal columnZeros column).length ≤ 4300

namespace Draw

/-- The cell that a draw leaves. -/
def cell (d : Draw) : Cell := ⟨CodePage437.decode d.byte, {}⟩

/-- The slot of a draw when rows of `width` cells are numbered one after another. -/
def slot (width : Nat) (d : Draw) : Nat := (d.row - 1) * width + (d.column - 1)

/-- The last draw at a column and a row, both counted from 0. -/
def lastAt (draws : List Draw) (x y : Int) : Option Draw :=
  draws.reverse.find? fun d => d.column = x + 1 ∧ d.row = y + 1

end Draw

/-! ### Drawing on a canvas -/

namespace Canvas

/-- Draws one cell. -/
def draw (c : Canvas) (d : Draw) : Canvas :=
  (c.move (·.goto (d.column - 1) (d.row - 1))).write (CodePage437.decode d.byte)

/-- Draws cells one after another. -/
def drawAll (c : Canvas) (draws : List Draw) : Canvas := draws.foldl draw c

@[simp] theorem drawAll_append_singleton (c : Canvas) (draws : List Draw) (d : Draw) :
    c.drawAll (draws ++ [d]) = (c.drawAll draws).draw d := by
  simp [drawAll]

variable (c : Canvas)

/-- The motion of a draw leads to its column and its row, counted from 0. -/
theorem goto_draw_eq (d : Draw) (k : Cursor) :
    k.goto (d.column - 1) (d.row - 1) =
      { k with x := ((d.column - 1 : Nat) : Int), y := ((d.row - 1 : Nat) : Int) } := by
  have hcolumn := d.column_pos
  have hrow := d.row_pos
  rw [Cursor.goto, Int.max_eq_right (by omega), Int.max_eq_right (by omega)]
  simp only [Int.natCast_sub hcolumn, Int.natCast_sub hrow, Int.natCast_one]

/-- Behind the motion of a draw, the cursor stands at the draw's slot. -/
theorem offset_goto_draw (d : Draw) (k : Cursor) (w : Nat) :
    (k.goto (d.column - 1) (d.row - 1)).offset w = d.slot w := by
  rw [goto_draw_eq]
  simp only [Cursor.offset, Draw.slot, Int.natCast_add, Int.natCast_mul]

theorem offset_move_draw_nonneg (d : Draw) :
    0 ≤ (c.move (·.goto (d.column - 1) (d.row - 1))).cursor.offset c.width := by
  show 0 ≤ (c.cursor.goto (d.column - 1) (d.row - 1)).offset c.width
  rw [offset_goto_draw]
  exact Int.natCast_nonneg _

theorem draw_eq (d : Draw) :
    (c.draw d).width = c.width ∧
      (c.draw d).cursor.pen.rendition = c.cursor.pen.rendition ∧
      (c.draw d).written = c.written.cover d.column d.row := by
  have hcolumn := d.column_pos
  have hrow := d.row_pos
  rw [draw, write_eq (c.offset_move_draw_nonneg d)]
  refine ⟨rfl, ?_, ?_⟩
  · simp only [Cursor.wrap]
    split <;> rfl
  · simp only [move, goto_draw_eq, Bounds.cover]
    congr 2 <;> omega

theorem slot?_draw (d : Draw) (o : Nat) (hpen : c.cursor.pen.rendition = {}) :
    (c.draw d).slot? o = if d.slot c.width = o then some d.cell else c.slot? o := by
  have hoffset := offset_goto_draw d c.cursor c.width
  rw [draw, slot?_write]
  show (if (o : Int) = (c.cursor.goto (d.column - 1) (d.row - 1)).offset c.width then
    some ⟨CodePage437.decode d.byte, c.cursor.pen.rendition⟩ else c.slot? o) = _
  rw [hoffset, hpen]
  simp only [Int.natCast_inj, eq_comm, Draw.cell]

theorem size_draw (d : Draw) : (c.draw d).size = max c.size (d.slot c.width + 1) := by
  have hoffset := offset_goto_draw d c.cursor c.width
  rw [draw, size_write]
  show max c.size ((c.cursor.goto (d.column - 1) (d.row - 1)).offset c.width + 1).toNat = _
  rw [hoffset]
  rfl

/-! ### What draws leave -/

variable (draws : List Draw)

theorem drawAll_eq :
    (c.drawAll draws).width = c.width ∧
      (c.drawAll draws).cursor.pen.rendition = c.cursor.pen.rendition := by
  induction draws using List.reverseRecOn with
  | nil => exact ⟨rfl, rfl⟩
  | append_singleton draws d ih =>
    obtain ⟨hwidth, hpen, -⟩ := draw_eq (c.drawAll draws) d
    rw [drawAll_append_singleton]
    exact ⟨hwidth.trans ih.1, hpen.trans ih.2⟩

/-- **A slot holds the last cell drawn there**, and what was there before if none was. -/
theorem slot?_drawAll (hpen : c.cursor.pen.rendition = {}) (o : Nat) :
    (c.drawAll draws).slot? o =
      ((draws.reverse.find? fun d => d.slot c.width = o).map Draw.cell).or (c.slot? o) := by
  -- induction from the last draw on, which is the first one to be looked for
  induction draws using List.reverseRecOn with
  | nil => rfl
  | append_singleton draws d ih =>
    obtain ⟨hwidth, hrendition⟩ := c.drawAll_eq draws
    rw [drawAll_append_singleton, slot?_draw _ _ _ (hrendition.trans hpen), hwidth,
      List.reverse_append, List.reverse_singleton, List.singleton_append, List.find?_cons]
    by_cases hslot : d.slot c.width = o
    · simp [hslot]
    · simp [hslot, ih]

/-- The bounds cover the columns and the rows of all draws. -/
theorem written_drawAll :
    (c.drawAll draws).written =
      ⟨(draws.map Draw.column).foldl max c.written.columns,
        (draws.map Draw.row).foldl max c.written.rows⟩ := by
  induction draws using List.reverseRecOn with
  | nil => rfl
  | append_singleton draws d ih =>
    rw [drawAll_append_singleton, (draw_eq _ d).2.2, ih]
    simp [Bounds.cover]

/-- The slots reach to the last one drawn. -/
theorem size_drawAll :
    (c.drawAll draws).size = (draws.map fun d => d.slot c.width + 1).foldl max c.size := by
  induction draws using List.reverseRecOn with
  | nil => rfl
  | append_singleton draws d ih =>
    rw [drawAll_append_singleton, size_draw, ih, (c.drawAll_eq draws).1]
    simp

end Canvas

/-! ### Positions and slots -/

namespace Draw

variable {draws draws' : List Draw} {w : Nat}

/-- Up to the last column, different positions have different slots. -/
theorem slot_eq_iff {d : Draw} (hd : d.column ≤ w) {x y : Nat} (hx : x < w) :
    d.slot w = y * w + x ↔ d.column = x + 1 ∧ d.row = y + 1 := by
  have hcolumn := d.column_pos
  have hrow := d.row_pos
  have hw : 0 < w := Nat.lt_of_le_of_lt (Nat.zero_le x) hx
  have hlt : d.column - 1 < w := by omega
  constructor
  · intro h
    rw [slot, Nat.add_comm _ (d.column - 1), Nat.add_comm _ x] at h
    -- the column is the remainder, the row the quotient
    have hmod := congrArg (· % w) h
    have hdiv := congrArg (· / w) h
    simp only [Nat.add_mul_mod_self_right, Nat.mod_eq_of_lt hlt, Nat.mod_eq_of_lt hx] at hmod
    simp only [Nat.add_mul_div_right _ _ hw, Nat.div_eq_of_lt hlt, Nat.div_eq_of_lt hx,
      Nat.zero_add] at hdiv
    omega
  · rintro ⟨hx', hy'⟩
    rw [slot, hx', hy', Nat.add_sub_cancel, Nat.add_sub_cancel]

/-- Up to the last column, the last draw at a position is the last one at its slot. -/
theorem find?_slot_eq_lastAt (h : ∀ d ∈ draws, d.column ≤ w) {x y : Nat} (hx : x < w) :
    (draws.reverse.find? fun d => d.slot w = y * w + x) = lastAt draws x y := by
  refine List.find?_congr fun d hd => ?_
  have hiff := slot_eq_iff (h d (List.mem_reverse.mp hd)) hx (y := y)
  have hcast : ((d.column : Int) = x + 1 ∧ (d.row : Int) = y + 1) ↔
      d.column = x + 1 ∧ d.row = y + 1 := by omega
  rw [decide_eq_decide, hiff, hcast]

/-- Nothing is drawn left of the first column, above the first row, or behind the last column. -/
theorem lastAt_eq_none (h : ∀ d ∈ draws, d.column ≤ w) {x y : Int}
    (hout : ¬ (0 ≤ x ∧ x < w ∧ 0 ≤ y)) : lastAt draws x y = none := by
  refine List.find?_eq_none.mpr fun d hd => ?_
  have hcolumn := d.column_pos
  have hrow := d.row_pos
  have hle := h d (List.mem_reverse.mp hd)
  rw [decide_eq_true_eq]
  omega

/-- There is a last draw at a position exactly if there is a draw. -/
theorem isSome_lastAt_iff {x y : Int} :
    (lastAt draws x y).isSome ↔ ∃ d ∈ draws, d.column = x + 1 ∧ d.row = y + 1 := by
  simp [lastAt]

/-- Draws with the same last draw everywhere are at the same positions. -/
theorem exists_mem_of_lastAt_eq
    (h : ∀ x y : Int, (lastAt draws x y).map byte = (lastAt draws' x y).map byte) :
    ∀ d ∈ draws, ∃ d' ∈ draws', d'.column = d.column ∧ d'.row = d.row := by
  intro d hd
  have hsome : (lastAt draws (d.column - 1) (d.row - 1)).isSome :=
    isSome_lastAt_iff.mpr ⟨d, hd, by omega, by omega⟩
  have hsome' : (lastAt draws' (d.column - 1) (d.row - 1)).isSome := by
    rw [← Option.isSome_map (f := byte), ← h, Option.isSome_map]
    exact hsome
  obtain ⟨d', hd', hcolumn, hrow⟩ := isSome_lastAt_iff.mp hsome'
  exact ⟨d', hd', by omega, by omega⟩

end Draw

theorem foldl_max_le_iff {ns : List Nat} {b n : Nat} :
    ns.foldl max b ≤ n ↔ b ≤ n ∧ ∀ a ∈ ns, a ≤ n := by
  induction ns generalizing b with
  | nil => simp
  | cons a ns ih => rw [List.foldl_cons, ih, Nat.max_le, List.forall_mem_cons, and_assoc]

/-- The maximum of a quantity that depends on positions only is the same for draws at the same
positions. -/
theorem Draw.foldl_max_congr {draws draws' : List Draw} (f : Nat → Nat → Nat) (b : Nat)
    (h : ∀ d ∈ draws, ∃ d' ∈ draws', d'.column = d.column ∧ d'.row = d.row)
    (h' : ∀ d ∈ draws', ∃ d' ∈ draws, d'.column = d.column ∧ d'.row = d.row) :
    (draws.map fun d => f d.column d.row).foldl max b =
      (draws'.map fun d => f d.column d.row).foldl max b := by
  -- each maximum bounds the quantities of both rows of draws
  have hle {ds ds' : List Draw}
      (hds : ∀ d ∈ ds, ∃ d' ∈ ds', d'.column = d.column ∧ d'.row = d.row) :
      (ds.map fun d => f d.column d.row).foldl max b ≤
        (ds'.map fun d => f d.column d.row).foldl max b := by
    obtain ⟨hb, hbound⟩ := foldl_max_le_iff.mp
      (Nat.le_refl ((ds'.map fun d => f d.column d.row).foldl max b))
    refine foldl_max_le_iff.mpr ⟨hb, fun a ha => ?_⟩
    obtain ⟨d, hd, rfl⟩ := List.mem_map.mp ha
    obtain ⟨d', hd', hcolumn, hrow⟩ := hds d hd
    rw [← hcolumn, ← hrow]
    exact hbound _ (List.mem_map_of_mem hd')
  exact Nat.le_antisymm (hle h) (hle h')

/-! ### Drawing on an empty canvas -/

namespace Canvas

variable {c : Canvas} {draws draws' : List Draw}

/-- On a canvas without cells, the cell at a position is the last one drawn there. -/
theorem cellAt_drawAll (hempty : ∀ o, c.slot? o = none) (hpen : c.cursor.pen.rendition = {})
    (h : ∀ d ∈ draws, d.column ≤ c.width) (x y : Int) :
    (c.drawAll draws).cellAt x y = (Draw.lastAt draws x y).map Draw.cell := by
  have hwidth := (c.drawAll_eq draws).1
  rw [cellAt, offset, hwidth]
  by_cases hin : 0 ≤ x ∧ x < c.width ∧ 0 ≤ y
  · obtain ⟨hx, hxw, hy⟩ := hin
    obtain ⟨x, rfl⟩ := Int.eq_ofNat_of_zero_le hx
    obtain ⟨y, rfl⟩ := Int.eq_ofNat_of_zero_le hy
    have hoffset : ((y : Int) * c.width + x).toNat = y * c.width + x := by omega
    rw [if_pos ⟨hx, hxw, by omega⟩, hoffset, slot?_drawAll c draws hpen,
      Draw.find?_slot_eq_lastAt h (by omega), hempty, Option.or_none]
  · rw [Draw.lastAt_eq_none h hin, Option.map_none]
    split
    · next hpos =>
      obtain ⟨hx, hxw, hoffset⟩ := hpos
      -- inside the columns, only a negative row is out of bounds, and it has no slot
      have hy : y ≤ -1 := by
        by_contra hy
        exact hin ⟨hx, hxw, by omega⟩
      have hrow : y * c.width ≤ -1 * c.width :=
        Int.mul_le_mul_of_nonneg_right hy (Int.natCast_nonneg _)
      omega
    · rfl

/-- **The order of draws does not matter**, as long as the last one at each position is the same. -/
theorem drawAll_congr (hpen : c.cursor.pen.rendition = {})
    (h : ∀ d ∈ draws, d.column ≤ c.width) (h' : ∀ d ∈ draws', d.column ≤ c.width)
    (hlast : ∀ x y : Int,
      (Draw.lastAt draws x y).map Draw.byte = (Draw.lastAt draws' x y).map Draw.byte) :
    (c.drawAll draws).slots = (c.drawAll draws').slots ∧
      (c.drawAll draws).written = (c.drawAll draws').written := by
  have hat := Draw.exists_mem_of_lastAt_eq hlast
  have hat' := Draw.exists_mem_of_lastAt_eq fun x y => (hlast x y).symm
  have hcell (x y : Int) :
      (Draw.lastAt draws x y).map Draw.cell = (Draw.lastAt draws' x y).map Draw.cell := by
    have hbyte := congrArg (Option.map fun b => (⟨CodePage437.decode b, {}⟩ : Cell)) (hlast x y)
    rwa [Option.map_map, Option.map_map] at hbyte
  refine ⟨slots_eq_of_slot? ?_ fun o => ?_, ?_⟩
  · rw [size_drawAll, size_drawAll]
    exact Draw.foldl_max_congr (fun column row => (row - 1) * c.width + (column - 1) + 1) _ hat hat'
  · -- a slot is the one of its own column and row
    have ho : o = o / c.width * c.width + o % c.width := (Nat.div_add_mod' o c.width).symm
    have hx : o % c.width < c.width := Nat.mod_lt o c.width_pos
    rw [slot?_drawAll c draws hpen, slot?_drawAll c draws' hpen, ho, Draw.find?_slot_eq_lastAt h hx,
      Draw.find?_slot_eq_lastAt h' hx, hcell]
  · rw [written_drawAll, written_drawAll]
    congr 1
    · exact Draw.foldl_max_congr (fun column _ => column) _ hat hat'
    · exact Draw.foldl_max_congr (fun _ row => row) _ hat hat'

/-- All renderings show the grid, which depends on the width, the slots and the bounds only. -/
theorem grid_congr {d : Canvas} (hwidth : c.width = d.width) (hslots : c.slots = d.slots)
    (hwritten : c.written = d.written) : c.grid = d.grid := by
  obtain ⟨w, _, slots, _, _, written⟩ := c
  obtain ⟨w', _, slots', _, _, written'⟩ := d
  obtain rfl : w = w' := hwidth
  obtain rfl : slots = slots' := hslots
  obtain rfl : written = written' := hwritten
  rfl

/-- A canvas that holds the cells of draws and no other: at each position the last one drawn there.
The bounds are the greatest column and the greatest row, and the slots are those of the requested
size, or more if a draw is behind them. -/
structure ShowsDraws (c : Canvas) (width height : Int) (draws : List Draw) : Prop where
  width_eq : (c.width : Int) = width
  cellAt_eq (x y : Int) : c.cellAt x y = (Draw.lastAt draws x y).map Draw.cell
  written_eq :
    c.written = ⟨(draws.map Draw.column).foldl max 0, (draws.map Draw.row).foldl max 0⟩
  size_eq :
    c.size = (draws.map fun d => d.slot c.width + 1).foldl max (width * height).toNat

/-- Canvases with the same slots that no rendering tells apart. -/
structure Alike (c d : Canvas) : Prop where
  slots_eq : c.slots = d.slots
  plainText_eq : c.plainText = d.plainText
  document_eq (p : Palette) (address : String) : Html.document c p address = Html.document d p address
  image_eq (p : Palette) (fonts : FontStack) : Image.ofCanvas c p fonts = Image.ofCanvas d p fonts

theorem showsDraws_drawAll_blank {w n : Nat} (hw : 0 < w) (h : ∀ d ∈ draws, d.column ≤ w) :
    ((blank w n hw).drawAll draws).ShowsDraws w n draws := by
  have hwidth : ((blank w n hw).drawAll draws).width = w := (drawAll_eq _ draws).1
  refine ⟨congrArg Nat.cast hwidth, ?_, written_drawAll _ draws, ?_⟩
  · exact cellAt_drawAll (slot?_blank w n hw) rfl h
  · have hsize : (blank w n hw).size = ((w : Int) * n).toNat := by
      simp only [size, blank, Array.size_replicate, ← Int.natCast_mul, Int.toNat_natCast]
    rw [size_drawAll, hsize, hwidth]
    rfl

theorem alike_drawAll (hpen : c.cursor.pen.rendition = {}) (h : ∀ d ∈ draws, d.column ≤ c.width)
    (h' : ∀ d ∈ draws', d.column ≤ c.width)
    (hlast : ∀ x y : Int,
      (Draw.lastAt draws x y).map Draw.byte = (Draw.lastAt draws' x y).map Draw.byte) :
    (c.drawAll draws).Alike (c.drawAll draws') := by
  obtain ⟨hslots, hwritten⟩ := drawAll_congr hpen h h' hlast
  have hwidth : (c.drawAll draws).width = (c.drawAll draws').width := by
    rw [(c.drawAll_eq draws).1, (c.drawAll_eq draws').1]
  have hgrid := grid_congr hwidth hslots hwritten
  refine ⟨hslots, ?_, fun p address => ?_, fun p fonts => ?_⟩
  · rw [plainText, plainText, plainChars, plainChars, hgrid]
  · rw [Html.document, Html.document, hgrid]
  · rw [Image.ofCanvas, Image.ofCanvas, hgrid, hwritten]

end Canvas

end AnsiArt
