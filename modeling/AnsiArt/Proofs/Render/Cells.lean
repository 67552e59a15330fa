import AnsiArt.Proofs.Render.Glyphs

/-!
# The cells of an image

An image is divided into one cell of the font for each position of the grid, and what is drawn for a
position should stay in its cell: a call that leaves it would paint over a neighbour that is drawn
already, or outside the image.

Rectangles and texts do so, and so does the line below a character, since it is drawn along the
lower side. But the upper one of the two lines of a double underline is drawn two units above the
lower side, whatever the height of the cell is. In a cell of height 1 or 2 there is no room for that
(`Image.forall_within_cellBox_iff`).

Main statements:

* `Image.calls_eq_flatMap_placed` — the calls of an image, cell by cell;
* `Image.holds_cellBox_iff` — the points of a cell;
* `Image.keepsToCells` — what is drawn for a cell, where, and when it stays there.
-/

namespace AnsiArt

/-! ### Points -/

/-- Whether a point belongs to a box, the sides of which belong to it. -/
def Box.Holds (b : Box) (u v : Int) : Prop := (b.left ≤ u ∧ u ≤ b.right) ∧ b.top ≤ v ∧ v ≤ b.bottom

/-- Two boxes without a common point. -/
def Box.Disjoint (a b : Box) : Prop := ∀ u v, ¬ (a.Holds u v ∧ b.Holds u v)

/-- A call that keeps to a box: a rectangle or a line with both ends in the box, or a text that is
anchored in its upper left corner. -/
def DrawCall.Within (b : Box) : DrawCall → Prop
  | rectangle box _ => b.Holds box.left box.top ∧ b.Holds box.right box.bottom
  | text left top _ _ _ => left = b.left ∧ top = b.top
  | line x₀ y₀ x₁ y₁ _ => b.Holds x₀ y₀ ∧ b.Holds x₁ y₁

/-- The box that a call fills, if it fills one. -/
def DrawCall.filled? : DrawCall → Option Box
  | rectangle box _ => some box
  | _ => none

theorem FontStack.one_le_cell (s : FontStack) : 1 ≤ s.cell.width ∧ 1 ≤ s.cell.height :=
  ⟨Int.le_max_left .., Int.le_max_left ..⟩

/-! ### The cells of the grid -/

/-- The cells of the grid with their columns and rows, row after row. -/
def Canvas.placed (c : Canvas) : List (Nat × Nat × Cell) :=
  (List.range c.written.rows).flatMap fun (y : Nat) =>
    (List.range c.written.columns).filterMap fun (x : Nat) =>
      (c.cellAt x y).map fun cell => (x, y, cell)

theorem Canvas.mem_placed_iff {c : Canvas} {x y : Nat} {cell : Cell} :
    (x, y, cell) ∈ c.placed ↔ c.Shows x y cell := by
  simp only [placed, List.mem_flatMap, List.mem_filterMap, List.mem_range, Option.map_eq_some_iff,
    Prod.mk.injEq, Shows]
  constructor
  · rintro ⟨y', hy, x', hx, cell', hcell, rfl, rfl, rfl⟩
    exact ⟨hx, hy, hcell⟩
  · rintro ⟨hx, hy, hcell⟩
    exact ⟨y, hy, x, hx, cell, hcell, rfl, rfl, rfl⟩

/-- The order of reading: a cell is in front of those to its right and of those further down. -/
def Canvas.Before (i j : Nat × Nat × Cell) : Prop := i.2.1 < j.2.1 ∨ i.2.1 = j.2.1 ∧ i.1 < j.1

theorem Canvas.pairwise_placed (c : Canvas) : c.placed.Pairwise Before := by
  rw [placed, List.pairwise_flatMap]
  constructor
  · intro y _
    -- in a row, the columns grow
    rw [List.pairwise_filterMap]
    refine List.pairwise_lt_range.imp fun {x x'} hlt => ?_
    rintro i hi j hj
    obtain ⟨cell, -, rfl⟩ := Option.map_eq_some_iff.mp hi
    obtain ⟨cell', -, rfl⟩ := Option.map_eq_some_iff.mp hj
    exact .inr ⟨rfl, hlt⟩
  · refine List.pairwise_lt_range.imp fun {y y'} hlt => ?_
    intro i hi j hj
    obtain ⟨x, -, hx⟩ := List.mem_filterMap.mp hi
    obtain ⟨x', -, hx'⟩ := List.mem_filterMap.mp hj
    obtain ⟨cell, -, rfl⟩ := Option.map_eq_some_iff.mp hx
    obtain ⟨cell', -, rfl⟩ := Option.map_eq_some_iff.mp hx'
    exact .inl hlt

namespace Image

/-! ### The box of a cell -/

variable {e : Extent} {x y x' y' : Nat}

/-- **The points of a cell**: its columns are the next `width` ones behind those of the cells to its
left, and its rows the next `height` ones below those of the cells above. -/
theorem holds_cellBox_iff {u v : Int} :
    (cellBox e x y).Holds u v ↔
      (x * e.width ≤ u ∧ u < (x + 1) * e.width) ∧ y * e.height ≤ v ∧ v < (y + 1) * e.height := by
  simp only [Box.Holds, cellBox, Int.add_mul, Int.one_mul]
  omega

/-- A point lies in only one place of a row of equal pieces. -/
theorem eq_of_mem_piece {n m : Nat} {size u : Int} (hsize : 1 ≤ size)
    (hn : n * size ≤ u ∧ u < (n + 1) * size) (hm : m * size ≤ u ∧ u < (m + 1) * size) : n = m := by
  have hpos : 0 < size := by omega
  have hlt {i j : Nat} (hi : i * size ≤ u) (hj : u < (j + 1) * size) : i ≤ j := by
    have hij : (i : Int) < j + 1 := Int.lt_of_mul_lt_mul_right (Int.lt_of_le_of_lt hi hj) (by omega)
    omega
  exact Nat.le_antisymm (hlt hn.1 hm.2) (hlt hm.1 hn.2)

/-- Cells at different positions have no point in common. -/
theorem disjoint_cellBox (hw : 1 ≤ e.width) (hh : 1 ≤ e.height) (h : x ≠ x' ∨ y ≠ y') :
    (cellBox e x y).Disjoint (cellBox e x' y') := by
  rintro u v ⟨hin, hin'⟩
  obtain ⟨hu, hv⟩ := holds_cellBox_iff.mp hin
  obtain ⟨hu', hv'⟩ := holds_cellBox_iff.mp hin'
  rcases h with h | h
  · exact h (eq_of_mem_piece hw hu hu')
  · exact h (eq_of_mem_piece hh hv hv')

/-! ### The calls for a cell -/

variable (p : Palette) (s : FontStack) (c : Canvas) {cell : Cell}

/-- **An image is drawn cell by cell**, row after row. -/
theorem calls_eq_flatMap_placed :
    (ofCanvas c p s).calls = c.placed.flatMap fun i => cellCalls p s i.1 i.2.1 i.2.2 := by
  have hrow (y : Nat) (columns : List Nat) :
      (columns.flatMap fun x => callsAt p s c x y) =
        (columns.filterMap fun (x : Nat) => (c.cellAt x y).map fun cell => (x, y, cell)).flatMap
          fun i => cellCalls p s i.1 i.2.1 i.2.2 := by
    induction columns with
    | nil => rfl
    | cons x columns ih =>
      -- where there is no cell, neither side has anything
      rw [List.flatMap_cons, ih, callsAt]
      cases hcell : c.cellAt x y with
      | none => simp [hcell]
      | some cell => simp [hcell]
  rw [calls_ofCanvas, Canvas.placed, List.flatMap_assoc]
  simp only [hrow]

/-- One box is filled for a cell, that of the cell. -/
theorem filterMap_filled?_cellCalls (x y : Nat) (cell : Cell) :
    (cellCalls p s x y cell).filterMap DrawCall.filled? = [cellBox s.cell x y] := by
  obtain ⟨marks, hcalls, hmarks⟩ := exists_cellCalls_eq p s x y cell
  have hnone : marks.filterMap DrawCall.filled? = [] := by
    refine List.filterMap_eq_nil_iff.mpr fun call hcall => ?_
    cases call with
    | rectangle box fill => exact absurd (hmarks _ hcall).1 id
    | text | line => rfl
  rw [hcalls, List.filterMap_cons, hnone]
  rfl

/-- **One rectangle is drawn for each cell of the grid**, in the order of reading. -/
theorem filterMap_filled?_calls :
    (ofCanvas c p s).calls.filterMap DrawCall.filled? =
      c.placed.map fun i => cellBox s.cell i.1 i.2.1 := by
  rw [calls_eq_flatMap_placed, List.filterMap_flatMap]
  simp only [filterMap_filled?_cellCalls]
  exact List.flatMap_pure_eq_map _ _

/-- The calls for a cell: its ground, its character, and the lines below it. -/
theorem mem_cellCalls_iff {call : DrawCall} :
    call ∈ cellCalls p s x y cell ↔
      call = .rectangle (cellBox s.cell x y) (p.cyclic cell.rendition.look.background) ∨
      (needsGlyph cell.char = true ∧
        call = textCall p s x y cell (glyphFor s cell.char).1 (glyphFor s cell.char).2) ∨
      ((cell.rendition.has .underline || cell.rendition.has .doubleUnderline) = true ∧
        call = lineAt (cellBox s.cell x y) (cellBox s.cell x y).bottom
          (p.cyclic cell.rendition.look.foreground)) ∨
      (cell.rendition.has .doubleUnderline = true ∧
        call = lineAt (cellBox s.cell x y) ((cellBox s.cell x y).bottom - 2)
          (p.cyclic cell.rendition.look.foreground)) := by
  have hite {b : Bool} {call' : DrawCall} :
      (call ∈ if b then [call'] else []) ↔ b = true ∧ call = call' := by
    cases b <;> simp
  simp only [cellCalls, List.mem_cons, List.mem_append, or_assoc]
  rw [hite, hite, hite]
  rfl

/-! ### What stays in its cell -/

/-- A line along a cell keeps to the cell exactly if its height does. -/
theorem within_lineAt_iff (hw : 1 ≤ e.width) {v : Int} {ink : Colour} :
    (lineAt (cellBox e x y) v ink).Within (cellBox e x y) ↔
      (cellBox e x y).top ≤ v ∧ v ≤ (cellBox e x y).bottom := by
  have hside : (cellBox e x y).left ≤ (cellBox e x y).right := by
    simp only [cellBox]
    omega
  simp only [lineAt, DrawCall.Within, Box.Holds]
  omega

/-- **All but one of the calls for a cell keep to it**: only the upper line of a double underline can
leave, and it does so in a cell that is less than three units high. -/
theorem within_or_of_mem_cellCalls {call : DrawCall} (h : call ∈ cellCalls p s x y cell) :
    call.Within (cellBox s.cell x y) ∨
      cell.rendition.has .doubleUnderline = true ∧ s.cell.height < 3 ∧
        call = lineAt (cellBox s.cell x y) ((cellBox s.cell x y).bottom - 2)
          (p.cyclic cell.rendition.look.foreground) := by
  obtain ⟨hw, hh⟩ := s.one_le_cell
  have hheight : (cellBox s.cell x y).bottom = (cellBox s.cell x y).top + s.cell.height - 1 := rfl
  rcases (mem_cellCalls_iff p s).mp h with rfl | ⟨-, rfl⟩ | ⟨-, rfl⟩ | ⟨hdouble, rfl⟩
  · -- both corners of the box belong to it
    refine .inl ?_
    simp only [DrawCall.Within, Box.Holds, cellBox]
    omega
  · exact .inl ⟨rfl, rfl⟩
  · exact .inl ((within_lineAt_iff hw).mpr (by omega))
  · by_cases hlow : s.cell.height < 3
    · exact .inr ⟨hdouble, hlow, rfl⟩
    · exact .inl ((within_lineAt_iff hw).mpr (by omega))

/-- **The calls for a cell keep to it exactly if** it has no double underline or is at least three
units high. -/
theorem forall_within_cellBox_iff :
    (∀ call ∈ cellCalls p s x y cell, call.Within (cellBox s.cell x y)) ↔
      (cell.rendition.has .doubleUnderline = true → 3 ≤ s.cell.height) := by
  obtain ⟨hw, -⟩ := s.one_le_cell
  constructor
  · intro h hdouble
    have hupper := h _ ((mem_cellCalls_iff p s).mpr (.inr (.inr (.inr ⟨hdouble, rfl⟩))))
    have htop := ((within_lineAt_iff hw).mp hupper).1
    simp only [cellBox] at htop
    omega
  · intro h call hcall
    rcases within_or_of_mem_cellCalls p s hcall with hin | ⟨hdouble, hlow, -⟩
    · exact hin
    · exact absurd (h hdouble) (Int.not_le.mpr hlow)

/-! ### The whole image -/

/-- No point of a cell of the grid lies outside the image. -/
theorem lt_size_of_holds (h : c.Shows x y cell) {u v : Int}
    (hin : (cellBox s.cell x y).Holds u v) :
    (0 ≤ u ∧ u < (ofCanvas c p s).size.width) ∧ 0 ≤ v ∧ v < (ofCanvas c p s).size.height := by
  obtain ⟨hx, hy, -⟩ := h
  obtain ⟨hw, hh⟩ := s.one_le_cell
  obtain ⟨⟨hleft, hright⟩, htop, hbottom⟩ := holds_cellBox_iff.mp hin
  -- cell after cell, the last one ends where the image does
  have hbound {n m : Nat} {size w : Int} (hn : n < m) (hsize : 1 ≤ size)
      (hw : n * size ≤ w ∧ w < (n + 1) * size) : 0 ≤ w ∧ w < max 1 (m * size) := by
    have hfront : 0 ≤ (n : Int) * size := Int.mul_nonneg (by omega) (by omega)
    have hbehind : ((n : Int) + 1) * size ≤ m * size :=
      Int.mul_le_mul_of_nonneg_right (by omega) (by omega)
    omega
  exact ⟨hbound hx hw ⟨hleft, hright⟩, hbound hy hh ⟨htop, hbottom⟩⟩

/-- What is drawn for the cells of a canvas, and where. -/
structure KeepsToCells : Prop where
  /-- The image has a cell of the font for each position, and at least one point. -/
  size : (ofCanvas c p s).size =
    ⟨max 1 (c.written.columns * s.cell.width), max 1 (c.written.rows * s.cell.height)⟩
  /-- The cell of a position is as wide and as high as one of the font. -/
  points : ∀ (x y : Nat) (u v : Int), (cellBox s.cell x y).Holds u v ↔
    (x * s.cell.width ≤ u ∧ u < (x + 1) * s.cell.width) ∧
      y * s.cell.height ≤ v ∧ v < (y + 1) * s.cell.height
  /-- The cells of the grid are drawn in the order of reading. -/
  calls : (ofCanvas c p s).calls = c.placed.flatMap fun i => cellCalls p s i.1 i.2.1 i.2.2
  mem_placed : ∀ x y cell, (x, y, cell) ∈ c.placed ↔ c.Shows x y cell
  ordered : c.placed.Pairwise Canvas.Before
  /-- One rectangle is drawn for each of them, which is its cell of the image. -/
  rectangles : (ofCanvas c p s).calls.filterMap DrawCall.filled? =
    c.placed.map fun i => cellBox s.cell i.1 i.2.1
  disjoint : ((ofCanvas c p s).calls.filterMap DrawCall.filled?).Pairwise Box.Disjoint
  inside : ∀ box ∈ (ofCanvas c p s).calls.filterMap DrawCall.filled?, ∀ u v, box.Holds u v →
    (0 ≤ u ∧ u < (ofCanvas c p s).size.width) ∧ 0 ≤ v ∧ v < (ofCanvas c p s).size.height
  /-- At most one text is drawn for each. -/
  texts : ∀ x y cell, c.Shows x y cell →
    ((cellCalls p s x y cell).filter DrawCall.isText).length ≤ 1
  /-- Whatever is drawn for a cell keeps to it, but for the upper line of a double underline in a low
  cell. -/
  within : ∀ x y cell, c.Shows x y cell → ∀ call ∈ cellCalls p s x y cell,
    call.Within (cellBox s.cell x y) ∨
      cell.rendition.has .doubleUnderline = true ∧ s.cell.height < 3 ∧
        call = lineAt (cellBox s.cell x y) ((cellBox s.cell x y).bottom - 2)
          (p.cyclic cell.rendition.look.foreground)
  within_iff : ∀ x y cell, c.Shows x y cell →
    ((∀ call ∈ cellCalls p s x y cell, call.Within (cellBox s.cell x y)) ↔
      (cell.rendition.has .doubleUnderline = true → 3 ≤ s.cell.height))

/-- **When what is drawn for a cell stays in the cell.** Whatever the canvas, the palette and the
fonts: one rectangle is drawn for each cell of the grid, these are disjoint and inside the image, and
rectangles, texts and lines keep to their cells, except that the upper line of a double underline
leaves a cell that is less than three units high. -/
theorem keepsToCells : KeepsToCells p s c where
  size := rfl
  points _ _ _ _ := holds_cellBox_iff
  calls := calls_eq_flatMap_placed p s c
  mem_placed _ _ _ := Canvas.mem_placed_iff
  ordered := c.pairwise_placed
  rectangles := filterMap_filled?_calls p s c
  disjoint := by
    obtain ⟨hw, hh⟩ := s.one_le_cell
    rw [filterMap_filled?_calls, List.pairwise_map]
    refine c.pairwise_placed.imp fun {i j} hbefore => disjoint_cellBox hw hh ?_
    rcases hbefore with hrow | ⟨-, hcolumn⟩
    · exact .inr (Nat.ne_of_lt hrow)
    · exact .inl (Nat.ne_of_lt hcolumn)
  inside := by
    rw [filterMap_filled?_calls]
    intro box hbox u v hin
    obtain ⟨⟨x, y, cell⟩, hi, rfl⟩ := List.mem_map.mp hbox
    exact lt_size_of_holds p s c (Canvas.mem_placed_iff.mp hi) hin
  texts x y cell h := by
    have htexts := textsAt_of_cellAt p s h.2.2
    rw [textsAt, callsAt, h.2.2, Option.map_some, Option.getD_some] at htexts
    rw [htexts]
    split
    · exact Nat.le_refl 1
    · exact Nat.zero_le 1
  within _ _ _ _ _ hcall := within_or_of_mem_cellCalls p s hcall
  within_iff _ _ _ _ := forall_within_cellBox_iff p s

/-- In cells that are two units high, the upper line of a double underline in the second row is drawn
over the letter in the first one. -/
theorem not_keepsToCells_low_cell :
    ∃ (start t : Terminal) (font : Font) (cell : Cell) (call : DrawCall),
      Terminal.ofSize .unlimited 2 2 = .ok start ∧
      t = (start.feed .unlimited
        [0x41, 0x0d, 0x0a, 0x1b, 0x5b, 0x32, 0x31, 0x6d, 0x42]).terminal ∧
      font.metrics = some ⟨1, 1⟩ ∧ t.canvas.Shows 0 1 cell ∧
      call ∈ cellCalls Palette.vga ⟨⟨font, ""⟩, [], .value 1⟩ 0 1 cell ∧
      ¬ call.Within (cellBox font.cell 0 1) ∧ call.Within (cellBox font.cell 0 0) := by
  let start : Terminal := ⟨{}, .blank 2 2 (by decide)⟩
  let font : Font :=
    { label := "", advance := .ofNat 8, letterBox := ⟨0, 0, 8, 2⟩, metrics := some ⟨1, 1⟩
      glyphSize := fun _ => some ⟨8, 2⟩ }
  let cell : Cell := ⟨'B', { flags := .ofList [.doubleUnderline] }⟩
  have hcell : font.cell = ⟨8, 2⟩ := by decide +kernel
  refine ⟨start, _, font, cell, .line 0 1 7 1 ⟨0xaa, 0xaa, 0xaa⟩, rfl, rfl, rfl, ?_, ?_, ?_, ?_⟩
  · exact ⟨by decide +kernel, by decide +kernel, by decide +kernel⟩
  · refine (mem_cellCalls_iff _ _).mpr (.inr (.inr (.inr ⟨by decide +kernel, ?_⟩)))
    decide +kernel
  · rw [hcell]
    exact fun h => absurd h.1.2.1 (by decide)
  · rw [hcell]
    exact ⟨⟨by decide, by decide⟩, by decide, by decide⟩

end Image

end AnsiArt
