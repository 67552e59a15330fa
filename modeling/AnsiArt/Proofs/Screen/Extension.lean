import AnsiArt.Control.Attempt

/-!
# How a canvas changes

Whatever is asked of a canvas, the new canvas **extends** the old one: it has the same width and at
least as many slots, and if the cursor stood at no negative column or row, it still does not. The
last clause is what a write needs: from such a position its slot exists once the canvas is grown.

Everything but a write is **quiet** in addition: it leaves both bounds as they were.

Main statements:

* `Canvas.tryWrite_cases` — a write finds no room, or no slot, or it is completed;
* `Canvas.write_eq` — what a completed write leaves besides the slots;
* `Canvas.extends_tryWrite`, and `Canvas.quiet_*` for every other operation.
-/

namespace AnsiArt

/-! ### Positions -/

namespace Cursor

/-- A cursor at no negative column or row. -/
structure Nonneg (k : Cursor) : Prop where
  x_nonneg : 0 ≤ k.x
  y_nonneg : 0 ≤ k.y

variable {k : Cursor}

theorem Nonneg.up (h : k.Nonneg) (n : Int) : (k.up n).Nonneg := ⟨h.1, Int.le_max_left ..⟩

theorem Nonneg.down (h : k.Nonneg) (n : Int) : (k.down n).Nonneg := ⟨h.1, Int.le_max_left ..⟩

theorem Nonneg.left (h : k.Nonneg) (n : Int) : (k.left n).Nonneg := ⟨Int.le_max_left .., h.2⟩

theorem Nonneg.right (h : k.Nonneg) (n : Int) : (k.right n).Nonneg := ⟨Int.le_max_left .., h.2⟩

theorem Nonneg.toColumn (h : k.Nonneg) (x : Int) : (k.toColumn x).Nonneg :=
  ⟨Int.le_max_left .., h.2⟩

theorem nonneg_goto (k : Cursor) (x y : Int) : (k.goto x y).Nonneg :=
  ⟨Int.le_max_left .., Int.le_max_left ..⟩

theorem nonneg_clamp (k : Cursor) (w h : Int) : (k.clamp w h).Nonneg :=
  ⟨Int.le_max_left .., Int.le_max_left ..⟩

theorem Nonneg.wrap (h : k.Nonneg) (w : Int) : (k.wrap w).Nonneg := by
  obtain ⟨hx, hy⟩ := h
  unfold Cursor.wrap
  split
  · exact ⟨Int.le_refl 0, Int.add_nonneg hy (by decide)⟩
  · exact ⟨hx, hy⟩

/-- A position that is not negative has a slot. -/
theorem Nonneg.offset (h : k.Nonneg) (w : Nat) : 0 ≤ k.offset w :=
  Int.add_nonneg (Int.mul_nonneg h.2 (Int.natCast_nonneg w)) h.1

end Cursor

theorem Canvas.nonneg_blank {width : Nat} (hw : 0 < width) (height : Nat) :
    (blank width height hw).cursor.Nonneg :=
  ⟨Int.le_refl 0, Int.le_refl 0⟩

/-! ### Extensions -/

namespace Canvas

/-- What `d` keeps of `c` if it comes from `c` by any operation. -/
structure Extends (c d : Canvas) : Prop where
  width_eq : d.width = c.width
  size_le : c.size ≤ d.size
  nonneg : c.cursor.Nonneg → d.cursor.Nonneg

/-- What `d` keeps of `c` if it comes from `c` without a write. -/
structure Quiet (c d : Canvas) : Prop extends Extends c d where
  written_eq : d.written = c.written
  reached_eq : d.reached = c.reached

variable {c d e : Canvas}

theorem Extends.refl (c : Canvas) : c.Extends c := ⟨rfl, Nat.le_refl _, id⟩

theorem Extends.trans (h₁ : c.Extends d) (h₂ : d.Extends e) : c.Extends e :=
  ⟨h₂.width_eq.trans h₁.width_eq, Nat.le_trans h₁.size_le h₂.size_le, h₂.nonneg ∘ h₁.nonneg⟩

theorem Quiet.refl (c : Canvas) : c.Quiet c := ⟨.refl c, rfl, rfl⟩

theorem Quiet.trans (h₁ : c.Quiet d) (h₂ : d.Quiet e) : c.Quiet e :=
  ⟨h₁.toExtends.trans h₂.toExtends, h₂.written_eq.trans h₁.written_eq,
    h₂.reached_eq.trans h₁.reached_eq⟩

/-! ### Rows of attempts

A row of attempts ends with the first that finds no room. What each attempt keeps, the row keeps,
wherever it ends.
-/

section Rows

variable {P : Canvas → Prop} {room : Room}

theorem tryBlanks_induction (hstep : ∀ c, P c → P (c.tryWrite room ' ').canvas) (hc : P c) (n : Nat) :
    P (c.tryBlanks room n).canvas := by
  induction n generalizing c with
  | zero => exact hc
  | succ n ih =>
    have hfirst := hstep c hc
    unfold tryBlanks
    split
    · next heq =>
      rw [heq] at hfirst
      exact ih hfirst
    · next heq => rwa [heq] at hfirst

theorem tryInsertRows_induction {y : Int}
    (hstep : ∀ c, P c → P (c.tryInsertBlank room (y * c.width) c.width).canvas) (hc : P c) (n : Nat) :
    P (c.tryInsertRows room y n).canvas := by
  induction n generalizing c with
  | zero => exact hc
  | succ n ih =>
    have hfirst := hstep c hc
    unfold tryInsertRows
    split
    · next heq =>
      rw [heq] at hfirst
      exact ih hfirst
    · next heq => rwa [heq] at hfirst

theorem attemptAll_induction {commands : List Command}
    (hstep : ∀ command ∈ commands, ∀ c, P c → P (command.attempt room c).canvas) (hc : P c) :
    P (c.attemptAll room commands).canvas := by
  induction commands generalizing c with
  | nil => exact hc
  | cons command rest ih =>
    obtain ⟨hcommand, hrest⟩ := List.forall_mem_cons.mp hstep
    have hfirst := hcommand c hc
    unfold attemptAll
    split
    · next heq =>
      rw [heq] at hfirst
      exact ih hrest hfirst
    · next heq => rwa [heq] at hfirst

end Rows

/-! ### Operations that write nothing -/

theorem quiet_move (c : Canvas) (f : Cursor → Cursor) (h : c.cursor.Nonneg → (f c.cursor).Nonneg) :
    c.Quiet (c.move f) :=
  ⟨⟨rfl, Nat.le_refl _, h⟩, rfl, rfl⟩

theorem quiet_setChar (c : Canvas) (ch : Char) : c.Quiet (c.setChar ch) :=
  quiet_move c (·.setChar ch) fun hk => ⟨hk.1, hk.2⟩

theorem quiet_normalize (c : Canvas) : c.Quiet c.normalize :=
  quiet_move c (·.clamp c.width c.rows) fun _ => Cursor.nonneg_clamp ..

theorem quiet_clearRange (c : Canvas) (start stop : Int) : c.Quiet (c.clearRange start stop) :=
  ⟨⟨rfl, Nat.le_of_eq (size_clearRange c start stop).symm, id⟩, rfl, rfl⟩

theorem quiet_clear (c : Canvas) : c.Quiet c.clear :=
  ⟨⟨rfl, by simp [size, clear], id⟩, rfl, rfl⟩

theorem quiet_expand (c : Canvas) (o : Int) : c.Quiet (c.expand o) :=
  ⟨⟨rfl, by rw [size_expand]; exact Nat.le_max_left .., id⟩, rfl, rfl⟩

theorem quiet_occupy (c : Canvas) (o : Int) : c.Quiet (c.occupy o).1 := by
  have hsize := size_occupy c o
  rw [occupy_eq] at hsize ⊢
  exact ⟨⟨rfl, Nat.le_of_eq hsize.symm, id⟩, rfl, rfl⟩

theorem size_insertBlank (c : Canvas) (o n : Int) :
    (c.insertBlank o n).size = max c.size o.toNat + n.toNat := by
  simp only [size, insertBlank, Array.size_append, Array.size_extract, Array.size_replicate]
  omega

theorem quiet_insertBlank (c : Canvas) (o n : Int) : c.Quiet (c.insertBlank o n) :=
  ⟨⟨rfl, by rw [size_insertBlank]; omega, id⟩, rfl, rfl⟩

theorem quiet_erasePage (c : Canvas) (region : Region) : c.Quiet (c.erasePage region) := by
  cases region with
  | fromCursor => exact quiet_clearRange ..
  | toCursor => exact quiet_clearRange ..
  | whole => exact quiet_clear c

theorem quiet_eraseLine (c : Canvas) (region : Region) : c.Quiet (c.eraseLine region) := by
  cases region <;> exact quiet_clearRange ..

theorem quiet_tryExpand (room : Room) (c : Canvas) (o : Int) :
    c.Quiet (c.tryExpand room o).canvas := by
  unfold tryExpand
  split
  · exact .refl c
  · exact quiet_expand c o

theorem quiet_tryInsertBlank (room : Room) (c : Canvas) (o n : Int) :
    c.Quiet (c.tryInsertBlank room o n).canvas := by
  simp only [tryInsertBlank]
  split
  · exact .refl c
  · split <;> exact quiet_insertBlank ..

theorem quiet_tryInsertRows (room : Room) (c : Canvas) (y : Int) (n : Nat) :
    c.Quiet (c.tryInsertRows room y n).canvas :=
  tryInsertRows_induction (fun d hd => hd.trans (quiet_tryInsertBlank room d _ _)) (.refl c) n

/-! ### Writing -/

/-- **A write finds no room for its slot, or no slot, or is completed.** In the first two cases only
the pen has taken the character. -/
theorem tryWrite_cases (room : Room) (c : Canvas) (ch : Char) :
    (∃ s, c.tryWrite room ch = ⟨c.setChar ch, some s⟩) ∨
      0 ≤ c.cursor.offset c.width ∧ c.tryWrite room ch = ⟨c.write ch, none⟩ := by
  simp only [tryWrite, tryExpand]
  cases room.shortage? (c.setChar ch).size
      (max 0 (c.cursor.offset c.width + 1 - (c.setChar ch).size)) with
  | some s => exact .inl ⟨s, rfl⟩
  | none =>
    by_cases h : 0 ≤ c.cursor.offset c.width
    · -- growing has made the slot, so there is one to occupy
      have hsome := isSome_occupy_expand (c.setChar ch) (c.cursor.offset c.width)
      rw [decide_eq_true h] at hsome
      refine .inr ⟨h, ?_⟩
      rw [write_of_nonneg c ch h]
      cases heq : ((c.setChar ch).expand (c.cursor.offset c.width)).occupy
          (c.cursor.offset c.width) with
      | mk d cell => cases cell <;> simp_all
    · exact .inl ⟨.noSlot, by simp only [occupy_expand_of_neg _ (Int.not_le.mp h)]⟩

/-- Without a limit, a write from a position that has a slot is completed. -/
theorem tryWrite_unlimited {ch : Char} (h : 0 ≤ c.cursor.offset c.width) :
    c.tryWrite .unlimited ch = ⟨c.write ch, none⟩ := by
  have hsome := isSome_occupy_expand (c.setChar ch) (c.cursor.offset c.width)
  rw [decide_eq_true h] at hsome
  simp only [tryWrite, tryExpand, Room.shortage?_unlimited, write_of_nonneg c ch h]
  cases heq : ((c.setChar ch).expand (c.cursor.offset c.width)).occupy
      (c.cursor.offset c.width) with
  | mk d cell => cases cell <;> simp_all

/-- What a completed write leaves besides the slots. -/
theorem write_eq {ch : Char} (h : 0 ≤ c.cursor.offset c.width) :
    c.write ch =
      { c with
        slots := (c.write ch).slots
        cursor := ({ c.cursor.setChar ch with x := c.cursor.x + 1 } : Cursor).wrap c.width
        reached := c.reached.cover
          (({ c.cursor.setChar ch with x := c.cursor.x + 1 } : Cursor).wrap c.width).x.toNat
          (({ c.cursor.setChar ch with x := c.cursor.x + 1 } : Cursor).wrap c.width).y.toNat
        written := c.written.cover (c.cursor.x + 1).toNat (c.cursor.y + 1).toNat } := by
  rw [write_of_nonneg c ch h, occupy_eq]
  rfl

theorem extends_write (c : Canvas) (ch : Char) : c.Extends (c.write ch) := by
  have hsize : c.size ≤ (c.write ch).size := by rw [size_write]; exact Nat.le_max_left ..
  by_cases h : 0 ≤ c.cursor.offset c.width
  · refine ⟨by rw [write_eq h], hsize, fun hk => ?_⟩
    have hx : 0 ≤ c.cursor.x + 1 := Int.le_trans hk.1 (by omega)
    rw [write_eq h]
    -- the position that wraps is the one behind the character
    exact Cursor.Nonneg.wrap (k := { c.cursor.setChar ch with x := c.cursor.x + 1 }) ⟨hx, hk.2⟩
      c.width
  · rw [write_of_neg c ch (by omega)]
    exact (quiet_setChar c ch).toExtends

theorem extends_tryWrite (room : Room) (c : Canvas) (ch : Char) :
    c.Extends (c.tryWrite room ch).canvas := by
  rcases tryWrite_cases room c ch with ⟨s, h⟩ | ⟨-, h⟩
  · rw [h]
    exact (quiet_setChar c ch).toExtends
  · rw [h]
    exact extends_write c ch

end Canvas

end AnsiArt
