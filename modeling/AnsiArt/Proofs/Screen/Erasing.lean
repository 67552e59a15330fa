import AnsiArt.Control.Command
import AnsiArt.Proofs.Screen.Extension
import AnsiArt.Proofs.Screen.Positions

/-!
# Erasing in a line

The part of the cursor's line that is erased is a range of slots. Two of its three kinds end with the
line at the latest. But the part up to the cursor ends with the slot of the cursor, wherever that is:
a cursor past the last column stands at the slot of a cell further down, and everything up to that
cell is erased.

So an erasure stays in the line if the cursor is at a column of the canvas, and otherwise as long as
there is nothing to erase below the line.

Main statements:

* `Canvas.mem_lineRange_iff`, `Canvas.erases_eraseLine` — the positions that are erased;
* `Canvas.erases_onLine_iff` — when an erasure stays in the line.
-/

namespace AnsiArt

/-! ### Parts of a line -/

namespace Region

/-- The positions of a part of the cursor's line. -/
def OnLine (region : Region) (k : Cursor) (x y : Int) : Prop :=
  match region with
  | fromCursor => y = k.y ∧ k.x ≤ x
  | toCursor => y = k.y ∧ x ≤ k.x
  | whole => y = k.y

/-- The part of a line that a mode of erasing stands for. -/
def ofLineMode? (mode : Int) : Option Region :=
  if mode = 0 then some fromCursor
  else if mode = 1 then some toCursor
  else if mode = 2 then some whole
  else none

theorem eq_row_of_onLine {region : Region} {k : Cursor} {x y : Int} (h : region.OnLine k x y) :
    y = k.y := by
  cases region with
  | fromCursor => exact h.1
  | toCursor => exact h.1
  | whole => exact h

end Region

namespace Canvas

/-- What erasing some positions of `c` comes to: on `d` they are empty, and all others are what they
are on `c`. -/
structure Erases (c d : Canvas) (P : Int → Int → Prop) : Prop where
  erased : ∀ x y : Int, 0 ≤ x → x < c.width → 0 ≤ y → P x y → d.cellAt x y = none
  kept : ∀ x y : Int, 0 ≤ x → x < c.width → 0 ≤ y → ¬P x y → d.cellAt x y = c.cellAt x y

/-- A position below the cursor's line, though the cursor's slot lies no further up. -/
structure Overrun (c : Canvas) (x y : Int) : Prop where
  x_nonneg : 0 ≤ x
  x_lt : x < c.width
  below : c.cursor.y < y
  le_cursor : c.offset x y ≤ c.offset c.cursor.x c.cursor.y

variable {c : Canvas} {x y : Int}

/-- Up to the last column there is nothing to overrun. -/
theorem Overrun.width_le (h : c.Overrun x y) : c.width ≤ c.cursor.x := by
  refine Int.not_lt.mp fun hlt => ?_
  have hend : c.offset c.cursor.x c.cursor.y < c.offset 0 (c.cursor.y + 1) := by
    simp only [offset, Int.add_mul]
    omega
  have hbegin : c.offset 0 (c.cursor.y + 1) ≤ c.offset x y :=
    (offset_le_offset_iff h.x_nonneg h.x_lt).mpr h.below
  exact absurd h.le_cursor (by omega)

/-! ### Ranges of slots -/

theorem cellAt_clearRange (c : Canvas) (start stop x y : Int) :
    (c.clearRange start stop).cellAt x y =
      if start ≤ c.offset x y ∧ c.offset x y < stop then none else c.cellAt x y := by
  by_cases h : 0 ≤ x ∧ x < c.width ∧ 0 ≤ c.offset x y
  · have hoffset : ((c.offset x y).toNat : Int) = c.offset x y := Int.toNat_of_nonneg h.2.2
    have hcell : (c.clearRange start stop).cellAt x y =
        (c.clearRange start stop).slot? (c.offset x y).toNat := if_pos h
    rw [hcell, slot?_clearRange, hoffset, cellAt, if_pos h]
  · have hcell : (c.clearRange start stop).cellAt x y = none := if_neg h
    rw [hcell, cellAt, if_neg h, ite_self]

/-- Clearing a range of slots erases the positions whose slots are in it. -/
theorem erases_clearRange (c : Canvas) (start stop : Int) :
    c.Erases (c.clearRange start stop) fun x y =>
      start ≤ c.offset x y ∧ c.offset x y < stop where
  erased x y _ _ _ h := by rw [cellAt_clearRange, if_pos h]
  kept x y _ _ _ h := by rw [cellAt_clearRange, if_neg h]

/-- The same positions may be described in another way. -/
theorem Erases.congr {d : Canvas} {P Q : Int → Int → Prop} (h : c.Erases d P)
    (hiff : ∀ x y : Int, 0 ≤ x → x < c.width → 0 ≤ y → (P x y ↔ Q x y)) : c.Erases d Q where
  erased x y hx hw hy hq := h.erased x y hx hw hy ((hiff x y hx hw hy).mpr hq)
  kept x y hx hw hy hq := h.kept x y hx hw hy fun hp => hq ((hiff x y hx hw hy).mp hp)

/-! ### Erasing a part of the line -/

/-- The slots of a part of the cursor's line, from the first up to the one behind the last. -/
def lineRange (c : Canvas) : Region → Int × Int
  | .fromCursor => (c.offset c.cursor.x c.cursor.y, c.offset 0 (c.cursor.y + 1))
  | .toCursor => (c.offset 0 c.cursor.y, c.offset c.cursor.x c.cursor.y + 1)
  | .whole => (c.offset 0 c.cursor.y, c.offset 0 (c.cursor.y + 1))

theorem eraseLine_eq_clearRange (c : Canvas) (region : Region) :
    c.eraseLine region = c.clearRange (c.lineRange region).1 (c.lineRange region).2 := by
  cases region <;> rfl

theorem cursor_eraseLine (c : Canvas) (region : Region) :
    (c.eraseLine region).cursor = c.cursor := by
  rw [eraseLine_eq_clearRange]
  rfl

theorem size_eraseLine (c : Canvas) (region : Region) : (c.eraseLine region).size = c.size := by
  rw [eraseLine_eq_clearRange, size_clearRange]

/-- A slot is one of those of a part of the line if its position is, and up to the cursor also if its
position is overrun. -/
theorem mem_lineRange_iff (h : 0 ≤ c.cursor.x) (hx : 0 ≤ x) (hw : x < c.width) (region : Region) :
    (c.lineRange region).1 ≤ c.offset x y ∧ c.offset x y < (c.lineRange region).2 ↔
      region.OnLine c.cursor x y ∨ region = .toCursor ∧ c.Overrun x y := by
  have hbegin := offset_le_offset_iff (y := y) (r := c.cursor.y) hx hw
  have hend := offset_lt_offset_iff (y := y) (r := c.cursor.y + 1) hx hw
  -- the start of the line, the cursor and a position of the line, from left to right
  have hcursor : c.offset c.cursor.x c.cursor.y = c.offset 0 c.cursor.y + c.cursor.x := by
    simp only [offset]
    omega
  have hline : y = c.cursor.y → c.offset x y = c.offset 0 c.cursor.y + x := by
    rintro rfl
    simp only [offset]
    omega
  have hoverrun : c.Overrun x y ↔
      c.cursor.y < y ∧ c.offset x y ≤ c.offset c.cursor.x c.cursor.y :=
    ⟨fun h => ⟨h.below, h.le_cursor⟩, fun h => ⟨hx, hw, h.1, h.2⟩⟩
  cases region with
  | fromCursor =>
    simp only [lineRange, Region.OnLine, reduceCtorEq, false_and, or_false]
    omega
  | toCursor =>
    simp only [lineRange, Region.OnLine, true_and, hoverrun]
    omega
  | whole =>
    simp only [lineRange, Region.OnLine, reduceCtorEq, false_and, or_false]
    omega

/-- **What erasing a part of the line erases**: the positions of that part, and up to the cursor also
those that are overrun. -/
theorem erases_eraseLine (h : 0 ≤ c.cursor.x) (region : Region) :
    c.Erases (c.eraseLine region) fun x y =>
      region.OnLine c.cursor x y ∨ region = .toCursor ∧ c.Overrun x y := by
  rw [eraseLine_eq_clearRange]
  exact (erases_clearRange c _ _).congr fun x y hx hw _ => mem_lineRange_iff h hx hw region

/-- **When erasing a part of the line stays in the line**: if it is not the part up to the cursor, or
if there is no cell to overrun. -/
theorem erases_onLine_iff (h : c.cursor.Nonneg) (region : Region) :
    c.Erases (c.eraseLine region) (region.OnLine c.cursor) ↔
      (region = .toCursor → ∀ x y : Int, c.Overrun x y → c.cellAt x y = none) := by
  obtain ⟨herased, hkept⟩ := erases_eraseLine h.x_nonneg region
  constructor
  · intro hline hregion x y hover
    have hy : 0 ≤ y := Int.le_of_lt (Int.lt_of_le_of_lt h.y_nonneg hover.below)
    have hoff : ¬region.OnLine c.cursor x y := fun hon =>
      absurd (Region.eq_row_of_onLine hon) (Int.ne_of_gt hover.below)
    -- off the line the cell should be what it was, but it is gone
    rw [← hline.kept x y hover.x_nonneg hover.x_lt hy hoff]
    exact herased x y hover.x_nonneg hover.x_lt hy (.inr ⟨hregion, hover⟩)
  · intro hnone
    refine ⟨fun x y hx hw hy hon => herased x y hx hw hy (.inl hon), fun x y hx hw hy hoff => ?_⟩
    by_cases hover : region = .toCursor ∧ c.Overrun x y
    · rw [herased x y hx hw hy (.inr hover), hnone hover.1 x y hover.2]
    · exact hkept x y hx hw hy fun hor => hor.elim hoff hover

end Canvas

end AnsiArt
