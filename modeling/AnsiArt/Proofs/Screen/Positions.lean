import AnsiArt.Screen.Canvas

/-!
# Positions and slots

The slots of row `r` are those from the start of row `r` up to the start of row `r + 1`. So the slot
of a position lies behind the start of a row exactly if the row of the position does, as long as its
column is one that the canvas has.

Main statements:

* `Canvas.offset_le_offset_iff`, `Canvas.offset_lt_offset_iff` — slots and the starts of rows;
* `Canvas.offset_add_rows` — the same column some rows further down;
* `Canvas.cellAt_eq_slot?` — the cell at a position is the one in its slot.
-/

namespace AnsiArt.Canvas

variable {c : Canvas} {x y r : Int}

/-- The slot of a position lies behind the start of a row exactly if its row does. -/
theorem offset_le_offset_iff (hx : 0 ≤ x) (hw : x < c.width) :
    c.offset 0 r ≤ c.offset x y ↔ r ≤ y := by
  simp only [offset]
  constructor
  · intro h
    -- a row further up ends in front of the start of row `r`
    refine Int.not_lt.mp fun hlt => ?_
    have hrow : (y + 1) * (c.width : Int) ≤ r * c.width :=
      Int.mul_le_mul_of_nonneg_right (by omega) (by omega)
    rw [Int.add_mul, Int.one_mul] at hrow
    omega
  · intro h
    have hrow : r * (c.width : Int) ≤ y * c.width := Int.mul_le_mul_of_nonneg_right h (by omega)
    omega

/-- The slot of a position lies in front of the start of a row exactly if its row does. -/
theorem offset_lt_offset_iff (hx : 0 ≤ x) (hw : x < c.width) :
    c.offset x y < c.offset 0 r ↔ y < r := by
  have h := offset_le_offset_iff (y := y) (r := r) hx hw
  omega

/-- The slot of the same column some rows further down. -/
theorem offset_add_rows (c : Canvas) (x y n : Int) :
    c.offset x (y + n) = c.offset x y + n * c.width := by
  simp only [offset, Int.add_mul]
  omega

theorem offset_nonneg (hx : 0 ≤ x) (hy : 0 ≤ y) : 0 ≤ c.offset x y :=
  Int.add_nonneg (Int.mul_nonneg hy (Int.natCast_nonneg _)) hx

/-- The cell at a position of the canvas, or below it, is the one in its slot. -/
theorem cellAt_eq_slot? (hx : 0 ≤ x) (hw : x < c.width) (hy : 0 ≤ y) :
    c.cellAt x y = c.slot? (c.offset x y).toNat :=
  if_pos ⟨hx, hw, offset_nonneg hx hy⟩

/-- Beside the canvas there is no cell. -/
theorem cellAt_eq_none (h : ¬ (0 ≤ x ∧ x < c.width)) : c.cellAt x y = none :=
  if_neg fun hin => h ⟨hin.1, hin.2.1⟩

end AnsiArt.Canvas
