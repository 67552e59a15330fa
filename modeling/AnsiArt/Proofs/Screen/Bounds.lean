import AnsiArt.Proofs.Screen.Extension
import Mathlib.Data.Nat.Basic
import Mathlib.Order.Basic

/-!
# The two bounds of a canvas

A write records two positions: `written` takes in the one that it starts from, `reached` the one at
which the cursor stands behind it. In front of the last column, the cursor moves on in its row: both
take in the same columns, but `reached` is a row short. From the last column on, it wraps: both take
in the same rows, but `reached` takes in no column.

So the two bounds are never far apart, and up to the last column they have the same columns
(`Canvas.Tracks`).

Main statements:

* `Canvas.grows_write` — a write makes neither of them less;
* `Canvas.Tracks.write` — a write keeps them together, from whatever position it is made.
-/

namespace AnsiArt

/-! ### Bounds inside bounds -/

/-- Bounds are ordered by their columns and their rows, both at once. -/
instance : PartialOrder Bounds :=
  PartialOrder.lift (fun b => (b.columns, b.rows)) fun b b' h => by
    obtain ⟨hcolumns, hrows⟩ := Prod.mk.inj h
    cases b
    cases b'
    subst hcolumns hrows
    rfl

theorem Bounds.le_iff {b b' : Bounds} : b ≤ b' ↔ b.columns ≤ b'.columns ∧ b.rows ≤ b'.rows :=
  Iff.rfl

theorem Bounds.le_cover (b : Bounds) (columns rows : Nat) : b ≤ b.cover columns rows :=
  Bounds.le_iff.mpr ⟨Nat.le_max_left .., Nat.le_max_left ..⟩

namespace Canvas

variable {c d e : Canvas} {ch : Char}

/-- No bound of `d` is less than it was in `c`. -/
structure Grows (c d : Canvas) : Prop where
  reached_le : c.reached ≤ d.reached
  written_le : c.written ≤ d.written

theorem Grows.refl (c : Canvas) : c.Grows c := ⟨le_refl _, le_refl _⟩

theorem Grows.trans (h₁ : c.Grows d) (h₂ : d.Grows e) : c.Grows e :=
  ⟨h₁.reached_le.trans h₂.reached_le, h₁.written_le.trans h₂.written_le⟩

theorem Quiet.grows (h : c.Quiet d) : c.Grows d :=
  ⟨le_of_eq h.reached_eq.symm, le_of_eq h.written_eq.symm⟩

/-- How far the bounds of a canvas are apart. -/
structure Tracks (c : Canvas) : Prop where
  /-- The cursor never stands past the last column behind a write. -/
  reached_lt_width : c.reached.columns < c.width
  columns_le : c.reached.columns ≤ c.written.columns
  /-- Up to the last column, the columns are the same. -/
  columns_eq : c.written.columns < c.width → c.reached.columns = c.written.columns
  rows_le : c.reached.rows ≤ c.written.rows
  /-- At most the last row is missing. -/
  rows_le_succ : c.written.rows ≤ c.reached.rows + 1

theorem tracks_blank {width : Nat} (hw : 0 < width) (height : Nat) :
    (blank width height hw).Tracks where
  reached_lt_width := hw
  columns_le := Nat.le_refl 0
  columns_eq _ := rfl
  rows_le := Nat.le_refl 0
  rows_le_succ := Nat.zero_le 1

/-- What writes nothing leaves the bounds as far apart as they were. -/
theorem Tracks.quiet (h : c.Tracks) (hd : c.Quiet d) : d.Tracks := by
  obtain ⟨⟨hwidth, -, -⟩, hwritten, hreached⟩ := hd
  obtain ⟨hlt, hcolumns, heq, hrows, hsucc⟩ := h
  constructor <;> rw [hreached] <;> simpa only [hwidth, hwritten]

/-! ### Writing -/

theorem written_write (h : 0 ≤ c.cursor.offset c.width) :
    (c.write ch).written = c.written.cover (c.cursor.x + 1).toNat (c.cursor.y + 1).toNat := by
  rw [write_eq h]

/-- Behind a write in front of the last column, the cursor stands in the next one. -/
theorem reached_write_of_lt (h : 0 ≤ c.cursor.offset c.width)
    (hx : c.cursor.x + 1 < c.width) :
    (c.write ch).reached = c.reached.cover (c.cursor.x + 1).toNat c.cursor.y.toNat := by
  rw [write_eq h, Cursor.wrap, if_neg (Int.not_le.mpr hx)]
  rfl

/-- Behind a write in the last column or past it, the cursor stands at the start of the next row. -/
theorem reached_write_of_le (h : 0 ≤ c.cursor.offset c.width)
    (hx : c.width ≤ c.cursor.x + 1) :
    (c.write ch).reached = c.reached.cover 0 (c.cursor.y + 1).toNat := by
  rw [write_eq h, Cursor.wrap, if_pos hx]
  rfl

/-- **A write makes no bound less.** -/
theorem grows_write (h : 0 ≤ c.cursor.offset c.width) : c.Grows (c.write ch) := by
  refine ⟨?_, ?_⟩
  · rw [write_eq h]
    exact Bounds.le_cover ..
  · rw [written_write h]
    exact Bounds.le_cover ..

/-- **A write keeps the bounds together.** -/
theorem Tracks.write (hc : c.Tracks) (h : 0 ≤ c.cursor.offset c.width) : (c.write ch).Tracks := by
  have hwidth : (c.write ch).width = c.width := (extends_write c ch).width_eq
  have hpos := c.width_pos
  obtain ⟨hlt, hcolumns, heq, hrows, hsucc⟩ := hc
  -- whether the cursor wraps is the only thing that the two bounds see differently
  rcases Int.lt_or_le (c.cursor.x + 1) c.width with hx | hx
  · constructor <;> simp only [hwidth, written_write h, reached_write_of_lt h hx, Bounds.cover] <;>
      omega
  · constructor <;> simp only [hwidth, written_write h, reached_write_of_le h hx, Bounds.cover] <;>
      omega

/-- A write from no negative position leaves no bound of the cells at zero. -/
theorem written_write_pos (ch : Char) (h : c.cursor.Nonneg) :
    0 < (c.write ch).written.columns ∧ 0 < (c.write ch).written.rows := by
  obtain ⟨hx, hy⟩ := h
  rw [written_write (Cursor.Nonneg.offset ⟨hx, hy⟩ c.width)]
  simp only [Bounds.cover]
  omega

end Canvas

end AnsiArt
