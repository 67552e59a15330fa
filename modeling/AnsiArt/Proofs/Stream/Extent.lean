import AnsiArt.Proofs.Stream.Strokes
import AnsiArt.Render.Grid
import Mathlib.Data.List.Basic

/-!
# Which written cells are drawn

The renderings walk the grid that the recorded bounds span. A write records the position of the
cursor, but fills the slot that the position stands for: past the last column, that is the slot of a
cell further down. So the cell of a write is sure to be drawn as long as no write was made from past
the last column, and not longer: from the first such write on, the bounds have more columns than the
canvas (`Terminal.covers_slot_iff`).
-/

namespace AnsiArt

/-! ### Slots inside the grid -/

/-- Slot `o` lies inside the recorded bounds, and these are no wider than the canvas. -/
structure Canvas.Covers (c : Canvas) (o : Int) : Prop where
  column_lt : o % c.width < c.written.columns
  row_lt : o / c.width < c.written.rows
  columns_le : c.written.columns ≤ c.width

/-- The grid shows the cell of a slot that is covered. -/
theorem Canvas.Covers.grid_eq {c : Canvas} {o : Int} (h : c.Covers o) (ho : 0 ≤ o) :
    (c.grid[(o / c.width).toNat]?.bind (·[(o % c.width).toNat]?)) = some (c.slot? o.toNat) := by
  obtain ⟨hcolumn, hrow, -⟩ := h
  have hw : (0 : Int) < c.width := Int.natCast_pos.mpr c.width_pos
  have hx : 0 ≤ o % c.width := Int.emod_nonneg o (Int.ne_of_gt hw)
  have hxw : o % c.width < c.width := Int.emod_lt_of_pos o hw
  have hy : 0 ≤ o / c.width := Int.ediv_nonneg ho (Int.le_of_lt hw)
  have hoffset : c.offset (o % c.width) (o / c.width) = o := by
    rw [Canvas.offset, Int.mul_comm]
    exact Int.mul_ediv_add_emod o c.width
  rw [c.getElem?_grid (by omega) (by omega), Canvas.cellAt, Int.toNat_of_nonneg hx,
    Int.toNat_of_nonneg hy, hoffset, if_pos ⟨hx, hxw, ho⟩]

/-! ### Recorded bounds and cells -/

namespace Stroke

/-- Bounds widened by the cell that a stroke fills. -/
def coverCell (b : Bounds) (s : Stroke) : Bounds :=
  b.cover (s.slot % s.before.width + 1).toNat (s.slot / s.before.width + 1).toNat

/-- The least bounds of the cells that strokes fill. -/
def cellBounds (strokes : List Stroke) : Bounds := strokes.foldl coverCell {}

variable {s : Stroke}

/-- Up to the last column, the slot of a stroke is the one at its cursor's position. -/
theorem slot_emod_ediv (hx : 0 ≤ s.before.cursor.x) (hw : s.before.cursor.x < s.before.width) :
    s.slot % s.before.width = s.before.cursor.x ∧ s.slot / s.before.width = s.before.cursor.y := by
  have hpos : (s.before.width : Int) ≠ 0 := by
    have := s.before.width_pos
    omega
  -- the column is less than the width, so it is what the rows in front leave over
  rw [slot, Cursor.offset, Int.add_comm]
  constructor
  · rw [Int.add_mul_emod_self_right, Int.emod_eq_of_lt hx hw]
  · rw [Int.add_mul_ediv_right _ _ hpos, Int.ediv_eq_zero_of_lt hx hw, Int.zero_add]

theorem columns_foldl_record_le_iff {strokes : List Stroke} {b : Bounds} {n : Nat} :
    (strokes.foldl record b).columns ≤ n ↔
      b.columns ≤ n ∧ ∀ s ∈ strokes, s.before.cursor.x + 1 ≤ n := by
  induction strokes generalizing b with
  | nil => simp
  | cons s strokes ih =>
    have hs : (record b s).columns ≤ n ↔ b.columns ≤ n ∧ s.before.cursor.x + 1 ≤ n := by
      simp only [record, Bounds.cover]
      omega
    rw [List.foldl_cons, ih, List.forall_mem_cons, hs, and_assoc]

/-- Strokes from no past the last column record exactly the bounds of their cells. -/
theorem foldl_record_eq_cellBounds {strokes : List Stroke}
    (h : ∀ s ∈ strokes, 0 ≤ s.before.cursor.x ∧ s.before.cursor.x < s.before.width) :
    strokes.foldl record {} = cellBounds strokes := by
  -- position and cell agree stroke by stroke
  refine List.foldl_ext _ _ _ fun b s hs => ?_
  obtain ⟨hx, hw⟩ := h s hs
  obtain ⟨hcolumn, hrow⟩ := slot_emod_ediv hx hw
  rw [record, coverCell, hcolumn, hrow]

/-- The slot of a completed stroke holds the pen with the stroke's character. -/
theorem slot?_attempt {room : Room} {after : Canvas} (h : s.attempt room = ⟨after, none⟩) :
    0 ≤ s.slot ∧ after.slot? s.slot.toNat = some ⟨s.char, s.before.cursor.pen.rendition⟩ := by
  obtain ⟨hslot, rfl⟩ := attempt_eq_none h
  refine ⟨hslot, ?_⟩
  rw [Canvas.slot?_write, if_pos]
  exact Int.toNat_of_nonneg hslot

/-- A completed stroke from no past the last column is covered, if the columns are. -/
theorem covers_attempt {room : Room} {after : Canvas} (h : s.attempt room = ⟨after, none⟩)
    (hx : 0 ≤ s.before.cursor.x) (hw : s.before.cursor.x < s.before.width)
    (hcolumns : after.written.columns ≤ after.width) : after.Covers s.slot := by
  obtain ⟨hcolumn, hrow⟩ := slot_emod_ediv hx hw
  have hwidth : after.width = s.before.width := width_attempt h
  have hx' : (s.before.cursor.x + 1).toNat ≤ after.written.columns := by
    rw [written_attempt h]
    exact Nat.le_max_right ..
  have hy' : (s.before.cursor.y + 1).toNat ≤ after.written.rows := by
    rw [written_attempt h]
    exact Nat.le_max_right ..
  refine ⟨?_, ?_, hcolumns⟩
  · rw [hwidth, hcolumn]
    omega
  · rw [hwidth, hrow]
    omega

end Stroke

/-! ### Every stroke of a stream -/

namespace Terminal

variable {room : Room} {width height : Int} {start : Terminal} {bytes : List UInt8}
  {earlier later : List Stroke} {s : Stroke} {after : Canvas}

/-- **A written cell lies in the grid exactly if no write up to it was made from past the last
column.** As long as that holds, the grid shows the cell, and it spans the cells written so far. -/
theorem covers_slot_iff (hstart : ofSize room width height = .ok start)
    (hstrokes : start.strokes room bytes = earlier ++ s :: later)
    (hafter : s.attempt room = ⟨after, none⟩) :
    (after.width : Int) = width ∧
    (after.Covers s.slot ↔ ∀ e ∈ earlier ++ [s], e.before.cursor.x < width) ∧
    ((∀ e ∈ earlier ++ [s], e.before.cursor.x < width) →
      after.written = Stroke.cellBounds (earlier ++ [s]) ∧
      (after.grid[(s.slot / width).toNat]?.bind (·[(s.slot % width).toNat]?)) =
        some (some ⟨s.char, s.before.cursor.pen.rendition⟩)) := by
  -- the strokes up to `s` all stand on extensions of the fresh canvas
  obtain ⟨-, hwidth, hcursor, hwritten⟩ := ofSize_eq_ok hstart
  have htrail := trail_feed room start bytes
  rw [hstrokes] at htrail
  have hextends (e : Stroke) (he : e ∈ earlier ++ [s]) : start.canvas.Extends e.before :=
    htrail.extends_before (List.append_cons earlier s later ▸ List.mem_append_left later he)
  have hx (e : Stroke) (he : e ∈ earlier ++ [s]) : 0 ≤ e.before.cursor.x :=
    ((hextends e he).nonneg (hcursor ▸ ⟨Int.le_refl 0, Int.le_refl 0⟩)).x_nonneg
  have hcolumns (e : Stroke) (he : e ∈ earlier ++ [s]) : (e.before.width : Int) = width := by
    rw [(hextends e he).width_eq, hwidth]
  have hrecord : after.written = (earlier ++ [s]).foldl Stroke.record {} :=
    hwritten ▸ htrail.written_after hafter
  have hs : s ∈ earlier ++ [s] := List.mem_append_right _ List.mem_cons_self
  have hafterWidth : (after.width : Int) = width := by
    rw [← hcolumns s hs, ← Stroke.width_attempt hafter]
  -- the bounds are no wider than the canvas exactly if no recorded column is past the last one
  have hiff : after.written.columns ≤ after.width ↔
      ∀ e ∈ earlier ++ [s], e.before.cursor.x < width := by
    rw [hrecord, Stroke.columns_foldl_record_le_iff, hafterWidth]
    constructor
    · exact fun h e he => Int.lt_of_add_one_le (h.2 e he)
    · exact fun h => ⟨Nat.zero_le _, fun e he => Int.add_one_le_of_lt (h e he)⟩
  have hcovers (h : ∀ e ∈ earlier ++ [s], e.before.cursor.x < width) : after.Covers s.slot :=
    Stroke.covers_attempt hafter (hx s hs) (hcolumns s hs ▸ h s hs) (hiff.mpr h)
  refine ⟨hafterWidth, ⟨fun h => hiff.mp h.columns_le, hcovers⟩, fun h => ⟨?_, ?_⟩⟩
  · rw [hrecord, Stroke.foldl_record_eq_cellBounds]
    intro e he
    exact ⟨hx e he, hcolumns e he ▸ h e he⟩
  · obtain ⟨hslot, hcell⟩ := Stroke.slot?_attempt hafter
    rw [← hafterWidth, (hcovers h).grid_eq hslot, hcell]

/-- The second of two letters on a fresh screen is covered. -/
theorem covers_slot_second_letter :
    ∃ (start : Terminal) (e s : Stroke) (after : Canvas),
      ofSize .unlimited 4 2 = .ok start ∧ start.strokes .unlimited [0x41, 0x42] = [e] ++ s :: [] ∧
        s.attempt .unlimited = ⟨after, none⟩ ∧ after.Covers s.slot := by
  have hstart : ofSize .unlimited 4 2 = .ok ⟨{}, .blank 4 2 (by decide)⟩ := rfl
  have hstrokes : strokes .unlimited ⟨{}, .blank 4 2 (by decide)⟩ [0x41, 0x42] =
      [⟨.blank 4 2 (by decide), CodePage437.decode 0x41⟩] ++
        ⟨(Canvas.blank 4 2 (by decide)).write (CodePage437.decode 0x41),
          CodePage437.decode 0x42⟩ :: [] := rfl
  have hafter : Stroke.attempt .unlimited
      ⟨(Canvas.blank 4 2 (by decide)).write (CodePage437.decode 0x41), CodePage437.decode 0x42⟩ =
        ⟨_, none⟩ := Canvas.tryWrite_unlimited (by decide)
  exact ⟨_, _, _, _, hstart, hstrokes, hafter,
    (covers_slot_iff hstart hstrokes hafter).2.1.mpr (by decide)⟩

/-- A letter written ten columns right of the start of a screen of four columns is stored in the
third row, but recorded in the first one and past the last column. -/
theorem not_covers_slot_past_last_column :
    let start : Terminal := ⟨{}, .blank 4 2 (by decide)⟩
    let s : Stroke := ⟨start.canvas.move (·.right 10), 'X'⟩
    ofSize .unlimited 4 2 = .ok start ∧
      start.strokes .unlimited [0x1b, 0x5b, 0x31, 0x30, 0x43, 0x58] = [s] ∧
      s.attempt .unlimited = ⟨s.before.write 'X', none⟩ ∧ s.slot = 10 ∧
      (s.before.write 'X').written = ⟨11, 1⟩ ∧ ¬ (s.before.write 'X').Covers s.slot :=
  ⟨rfl, rfl, rfl, rfl, rfl, fun h => absurd h.columns_le (by decide)⟩

end Terminal

end AnsiArt
