import AnsiArt.Proofs.Control.Atomicity
import AnsiArt.Proofs.Screen.Positions

/-!
# Inserting lines

Lines are inserted one after another, each as a gap of one row in the list of slots. As the gap begins
where a row begins and is as long as a row, the slots behind it keep their columns, also those of a
last row that is there in part only. So all of it comes to pushing the rows from the cursor's on down
(`Canvas.PushesRows`), of which one gap is one step.

Main statements:

* `Canvas.pushesRows_insertBlank` — a gap of one row pushes the rows below it down by one;
* `Canvas.pushesRows_insertRows` — rows that are inserted one after another push down by their number;
* `Canvas.tryInsertLines_pushesRows` — so do inserted lines, if there is room for them.
-/

namespace AnsiArt.Canvas

/-! ### Cells and their columns -/

/-- The cells in a row of slots with their columns, the first slot having number `start`. -/
def columnsFrom (width start : Nat) (slots : List (Option Cell)) : List (Nat × Cell) :=
  (slots.zipIdx start).filterMap fun (slot, o) => slot.map fun cell => (o % width, cell)

/-- All cells of a canvas with their columns, in the order of their slots. -/
def columnCells (c : Canvas) : List (Nat × Cell) := columnsFrom c.width 0 c.slots.toList

theorem columnsFrom_append (width start : Nat) (slots more : List (Option Cell)) :
    columnsFrom width start (slots ++ more) =
      columnsFrom width start slots ++ columnsFrom width (start + slots.length) more := by
  rw [columnsFrom, List.zipIdx_append, List.filterMap_append]
  rfl

theorem columnsFrom_replicate_none (width start n : Nat) :
    columnsFrom width start (List.replicate n none) = [] := by
  refine List.filterMap_eq_nil_iff.mpr fun (slot, o) hp => ?_
  have hslot : slot ∈ List.replicate n none := List.fst_mem_of_mem_zipIdx hp
  rw [List.eq_of_mem_replicate hslot]
  rfl

/-- One row further down is the same column. -/
theorem columnsFrom_add_width (width start : Nat) (slots : List (Option Cell)) :
    columnsFrom width (start + width) slots = columnsFrom width start slots := by
  induction slots generalizing start with
  | nil => rfl
  | cons slot slots ih =>
    have hnext := ih (start + 1)
    rw [Nat.add_right_comm] at hnext
    simp only [columnsFrom, List.zipIdx_cons, List.filterMap_cons, Nat.add_mod_right] at hnext ⊢
    rw [hnext]

/-! ### Pushing rows down -/

/-- What pushing the rows from row `y` on down by `n` rows comes to: an empty row in each of the `n`
places that become free, and every cell as it was, in its column and in its order. -/
structure PushesRows (c d : Canvas) (y : Int) (n : Nat) : Prop where
  width_eq : d.width = c.width
  size_eq : d.size = c.size + n * c.width
  above : ∀ x r : Int, 0 ≤ r → r < y → d.cellAt x r = c.cellAt x r
  between : ∀ x r : Int, y ≤ r → r < y + n → d.cellAt x r = none
  below : ∀ x r : Int, y + n ≤ r → d.cellAt x r = c.cellAt x (r - n)
  columnCells_eq : d.columnCells = c.columnCells

variable {c d e : Canvas} {y : Int} {m n : Nat} {room : Room}

theorem PushesRows.refl (c : Canvas) (y : Int) : c.PushesRows c y 0 where
  width_eq := rfl
  size_eq := by rw [Nat.zero_mul, Nat.add_zero]
  above _ _ _ _ := rfl
  between _ _ _ _ := by omega
  below x r _ := by rw [Int.natCast_zero, Int.sub_zero]
  columnCells_eq := rfl

/-- Pushing rows down by some rows and then by some more. -/
theorem PushesRows.trans (h₁ : c.PushesRows d y m) (h₂ : d.PushesRows e y n) :
    c.PushesRows e y (m + n) where
  width_eq := h₂.width_eq.trans h₁.width_eq
  size_eq := by rw [h₂.size_eq, h₁.size_eq, h₁.width_eq, Nat.add_mul, Nat.add_assoc]
  above x r hr hy := (h₂.above x r hr hy).trans (h₁.above x r hr hy)
  between x r hy hn := by
    by_cases hlast : r < y + n
    · exact h₂.between x r hy hlast
    · rw [h₂.below x r (by omega)]
      exact h₁.between x (r - n) (by omega) (by omega)
  below x r hr := by
    rw [h₂.below x r (by omega), h₁.below x (r - n) (by omega)]
    congr 1
    omega
  columnCells_eq := h₂.columnCells_eq.trans h₁.columnCells_eq

/-! ### One row -/

theorem toList_slots_insertBlank {o : Nat} (h : o ≤ c.size) (n : Nat) :
    (c.insertBlank o n).slots.toList =
      c.slots.toList.take o ++ List.replicate n none ++ c.slots.toList.drop o := by
  have hgrow : o - c.slots.size = 0 := Nat.sub_eq_zero_of_le h
  have hall : (c.slots.toList.drop o).take (c.slots.size - o) = c.slots.toList.drop o :=
    List.take_of_length_le (by simp)
  simp only [insertBlank, Int.toNat_natCast, hgrow, Array.replicate_zero, Array.append_empty,
    Array.toList_append, Array.toList_extract, Array.toList_replicate, List.extract_eq_take_drop,
    Nat.sub_zero, List.drop_zero, hall]

theorem cellAt_insertRow (hy : 0 ≤ y) (x r : Int) (hr : 0 ≤ r) :
    (c.insertBlank (y * c.width) c.width).cellAt x r =
      if r < y then c.cellAt x r else if r < y + 1 then none else c.cellAt x (r - 1) := by
  by_cases h : 0 ≤ x ∧ x < c.width
  · obtain ⟨hx, hw⟩ := h
    have hbegin := offset_lt_offset_iff (y := r) (r := y) hx hw
    have hend := offset_lt_offset_iff (y := r) (r := y + 1) hx hw
    have hslot := offset_nonneg (c := c) hx hr
    have hrow := c.offset_add_rows 0 y 1
    have hup := c.offset_add_rows x (r - 1) 1
    rw [Int.sub_add_cancel, Int.one_mul] at hup
    have hgap : (y * (c.width : Int)) = c.offset 0 y := by simp [offset]
    have hstart : 0 ≤ c.offset 0 y := offset_nonneg (Int.le_refl 0) hy
    have hcell : (c.insertBlank (y * c.width) c.width).cellAt x r =
        (c.insertBlank (y * c.width) c.width).slot? (c.offset x r).toNat :=
      cellAt_eq_slot? hx hw hr
    rw [hcell, slot?_insertBlank, hgap]
    by_cases habove : r < y
    · rw [if_pos habove, if_pos (by omega), cellAt_eq_slot? hx hw hr]
    · rw [if_neg habove, if_neg (by omega)]
      by_cases hin : r < y + 1
      · rw [if_pos hin, if_pos (by omega)]
      · rw [if_neg hin, if_neg (by omega), cellAt_eq_slot? hx hw (by omega)]
        congr 1
        omega
  · rw [cellAt_eq_none h, cellAt_eq_none h]
    have hbeside : (c.insertBlank (y * c.width) c.width).cellAt x r = none := cellAt_eq_none h
    simp only [hbeside, ite_self]

/-- **A gap of one row at the start of a row pushes the rows from there on down by one.** -/
theorem pushesRows_insertBlank (hy : 0 ≤ y) (h : y * c.width ≤ c.size) :
    c.PushesRows (c.insertBlank (y * c.width) c.width) y 1 where
  width_eq := rfl
  size_eq := by
    rw [size_insertBlank, Int.toNat_natCast]
    omega
  above x r hr hlt := by rw [cellAt_insertRow hy x r hr, if_pos hlt]
  between x r hle hlt := by
    rw [cellAt_insertRow hy x r (by omega), if_neg (by omega), if_pos (by omega)]
  below x r hle := by
    rw [cellAt_insertRow hy x r (by omega), if_neg (by omega), if_neg (by omega)]
    rfl
  columnCells_eq := by
    obtain ⟨k, rfl⟩ := Int.eq_ofNat_of_zero_le hy
    have hk : k * c.width ≤ c.size := by exact_mod_cast h
    have hlist := toList_slots_insertBlank hk c.width
    rw [Int.natCast_mul] at hlist
    have htake : (c.slots.toList.take (k * c.width)).length = k * c.width := by
      rw [List.length_take, Array.length_toList]
      exact Nat.min_eq_left hk
    -- behind the gap everything is one row further down
    rw [columnCells, hlist, columnCells]
    show columnsFrom c.width 0 _ = _
    rw [List.append_assoc, columnsFrom_append, columnsFrom_append, columnsFrom_replicate_none,
      List.length_replicate, List.nil_append, columnsFrom_add_width, ← columnsFrom_append,
      List.take_append_drop]

/-! ### Many rows -/

/-- **Inserted rows push down what is below them.** -/
theorem pushesRows_insertRows (hy : 0 ≤ y) (h : y * c.width ≤ c.size) (n : Nat) :
    c.PushesRows (c.insertRows y n) y n := by
  induction n generalizing c with
  | zero => exact .refl c y
  | succ n ih =>
    have hfirst := pushesRows_insertBlank hy h
    -- the canvas has only grown, so the next gap begins on it as well
    have hnext : y * (c.insertBlank (y * c.width) c.width).width ≤
        (c.insertBlank (y * c.width) c.width).size := by
      rw [hfirst.size_eq, hfirst.width_eq]
      omega
    have hall := hfirst.trans (ih hnext)
    rwa [Nat.add_comm] at hall

theorem cursor_insertRows (c : Canvas) (y : Int) (n : Nat) :
    (c.insertRows y n).cursor = c.cursor := by
  induction n generalizing c with
  | zero => rfl
  | succ n ih => exact ih _

/-- If there is room for all rows, an attempt to insert them inserts them. -/
theorem tryInsertRows_of_room (h : (c.tryInsertRows room y n).shortage = none) :
    (c.tryInsertRows room y n).canvas = c.insertRows y n := by
  induction n generalizing c with
  | zero => rfl
  | succ n ih =>
    have hrow : (c.tryInsertBlank room (y * c.width) c.width).shortage = none →
        (c.tryInsertBlank room (y * c.width) c.width).canvas =
          c.insertBlank (y * c.width) c.width := by
      simp only [tryInsertBlank]
      repeat' split
      all_goals simp
    simp only [tryInsertRows] at h ⊢
    split at h
    · next d heq =>
      rw [heq] at hrow
      obtain rfl := hrow rfl
      exact ih h
    · cases h

/-- **Inserted lines push down the rows from the cursor's on**, once it was moved onto the canvas. -/
theorem tryInsertLines_pushesRows (c : Canvas) {n : Int}
    (h : (c.tryInsertLines room n).shortage = none) :
    c.PushesRows (c.tryInsertLines room n).canvas c.normalize.cursor.y n.toNat ∧
      (c.tryInsertLines room n).canvas.cursor = c.normalize.cursor := by
  have hcanvas : (c.tryInsertLines room n).canvas =
      c.normalize.insertRows c.normalize.cursor.y n.toNat := tryInsertRows_of_room h
  have hy : 0 ≤ c.normalize.cursor.y := (Cursor.nonneg_clamp c.cursor c.width c.rows).y_nonneg
  -- moving the cursor has changed no slot
  have hpushes := pushesRows_insertRows (c := c.normalize) hy (normalize_offset_le c) n.toNat
  rw [hcanvas]
  exact ⟨⟨hpushes.width_eq, hpushes.size_eq, hpushes.above, hpushes.between, hpushes.below,
    hpushes.columnCells_eq⟩, cursor_insertRows ..⟩

end AnsiArt.Canvas
