import AnsiArt.Screen.Cursor
import AnsiArt.Screen.Room

/-!
# The canvas

A canvas has a fixed number of columns and grows downwards on demand. Its cells are numbered row by
row, and slot `o` holds the cell of column `o % width` and row `o / width`, or nothing while that
cell is empty.

Two pairs of bounds are kept beside the slots and never shrink: `written` spans the positions that
were written to, `reached` the positions at which the cursor stood after a write.

Every operation on the slots is described by one lemma about the view `slot?`:

* `slot?_clearRange` — clearing empties exactly a range of slots;
* `slot?_expand` — growing adds empty slots only;
* `slot?_insertBlank` — inserting moves the slots behind the place of insertion and leaves a gap;
* `slot?_write` — writing fills the cursor's slot only.
-/

namespace AnsiArt

/-- A number of columns and a number of rows. -/
structure Bounds where
  columns : Nat := 0
  rows : Nat := 0
  deriving DecidableEq

/-- The least bounds that cover both. -/
def Bounds.cover (b : Bounds) (columns rows : Nat) : Bounds :=
  ⟨max b.columns columns, max b.rows rows⟩

/-- A screen of `width` columns with its cursor. -/
structure Canvas where
  width : Nat
  width_pos : 0 < width
  slots : Array (Option Cell)
  cursor : Cursor := {}
  reached : Bounds := {}
  written : Bounds := {}

/-- Why a canvas of the requested size cannot be made. -/
inductive SizeError
  | widthNotPositive (width : Int)
  | heightNegative (height : Int)
  | noRoom (cause : Shortage)
  deriving DecidableEq

/-- The wording of a refused size. -/
def SizeError.message : SizeError → String
  | widthNotPositive width => s!"Buffer width must be positive, got {width}"
  | heightNegative height => s!"Buffer height must not be negative, got {height}"
  | noRoom cause => cause.message

namespace Canvas

/-! ### Making a canvas -/

/-- The empty canvas of `height` rows of `width` cells. -/
def blank (width height : Nat) (h : 0 < width) : Canvas where
  width := width
  width_pos := h
  slots := Array.replicate (width * height) none

/-- The empty canvas of a requested size, which needs a column but no row. -/
def ofSize (room : Room) (width height : Int) : Except SizeError Canvas :=
  if h : 0 < width then
    if height < 0 then .error (.heightNegative height)
    else
      match room.shortage? 0 (width * height) with
      | some cause => .error (.noRoom cause)
      | none => .ok (blank width.toNat height.toNat (by omega))
  else .error (.widthNotPositive width)

/-! ### Looking at cells -/

/-- The number of slots. -/
def size (c : Canvas) : Nat := c.slots.size

/-- The cell in slot `o`; `none` while it is empty and past the last slot. -/
def slot? (c : Canvas) (o : Nat) : Option Cell := c.slots[o]?.join

/-- The slot number of column `x` and row `y`. -/
def offset (c : Canvas) (x y : Int) : Int := y * c.width + x

/-- The cell at column `x` and row `y`; `none` while it is empty and outside the canvas. -/
def cellAt (c : Canvas) (x y : Int) : Option Cell :=
  if 0 ≤ x ∧ x < c.width ∧ 0 ≤ c.offset x y then c.slot? (c.offset x y).toNat else none

/-- The number of rows that the slots fill, the last one perhaps in part. -/
def rows (c : Canvas) : Nat := (c.size + (c.width - 1)) / c.width

/-! ### Growing -/

/-- Grows the canvas so that slot `o` exists. -/
def expand (c : Canvas) (o : Int) : Canvas :=
  { c with slots := c.slots ++ Array.replicate (o + 1 - c.slots.size).toNat none }

/-- Splits the slots at `o` and puts `n` empty ones in between, growing the canvas first so that `o`
is not past its end. -/
def insertBlank (c : Canvas) (o n : Int) : Canvas :=
  let slots := c.slots ++ Array.replicate (o.toNat - c.slots.size) none
  { c with
    slots := slots.extract 0 o.toNat ++ Array.replicate n.toNat none
      ++ slots.extract o.toNat slots.size }

/-- Moves the cursor onto the canvas. -/
def normalize (c : Canvas) : Canvas :=
  { c with cursor := c.cursor.clamp c.width c.rows }

/-! ### Writing -/

/-- Makes sure that slot `o` holds a cell, a default one if it was empty; past the last slot and
before the first there is none. -/
def occupy (c : Canvas) (o : Int) : Canvas × Option Cell :=
  if 0 ≤ o ∧ o < c.slots.size then
    let cell := (c.slot? o.toNat).getD {}
    ({ c with slots := c.slots.setIfInBounds o.toNat (some cell) }, some cell)
  else (c, none)

/-- Makes `ch` the character of the pen. -/
def setChar (c : Canvas) (ch : Char) : Canvas := { c with cursor := c.cursor.setChar ch }

/-- Fills slot `o` with the pen and moves the cursor one column right, to the next row if that passes
the last column. The bounds are taken from the cursor, not from the slot. -/
def stamp (c : Canvas) (o : Int) : Canvas :=
  let k := c.cursor
  let cursor := ({ k with x := k.x + 1 } : Cursor).wrap c.width
  let reached := c.reached.cover cursor.x.toNat cursor.y.toNat
  let written := c.written.cover (k.x + 1).toNat (k.y + 1).toNat
  { c with slots := c.slots.setIfInBounds o.toNat (some k.pen), cursor, reached, written }

/-- Writes `ch` in the cursor's rendition at the cursor's slot, growing the canvas up to it. If there
is no such slot, which is to say before the first one, only the pen takes the character. -/
def write (c : Canvas) (ch : Char) : Canvas :=
  let o := c.cursor.offset c.width
  match ((c.setChar ch).expand o).occupy o with
  | (c, none) => c
  | (c, some _) => c.stamp o

/-! ### Clearing -/

/-- Empties `n` slots from slot `start` on, as far as they exist. -/
def clearSlots (slots : Array (Option Cell)) (start : Nat) : Nat → Array (Option Cell)
  | 0 => slots
  | n + 1 => clearSlots (slots.setIfInBounds start none) (start + 1) n

/-- Empties the slots from `start` up to, but not including, `stop`. -/
def clearRange (c : Canvas) (start stop : Int) : Canvas :=
  { c with
    slots := clearSlots c.slots start.toNat ((min stop c.slots.size).toNat - start.toNat) }

/-- Empties every slot. -/
def clear (c : Canvas) : Canvas := { c with slots := Array.replicate c.slots.size none }

/-- Empties one slot, if it exists. -/
def clearAt (c : Canvas) (o : Int) : Canvas := c.clearRange o (if 0 ≤ o then o + 1 else 0)

/-- Empties slot `o` and all behind it. -/
def clearFrom (c : Canvas) (o : Int) : Canvas := c.clearRange o c.slots.size

/-- Empties all slots up to and including `o`. -/
def clearTo (c : Canvas) (o : Int) : Canvas := c.clearRange 0 (o + 1)

/-! ### The view of the slots -/

theorem slot?_eq_none_of_le {c : Canvas} {i : Nat} (h : c.size ≤ i) : c.slot? i = none := by
  rw [slot?, Array.getElem?_eq_none h]
  rfl

/-- Canvases with as many slots have the same slots if they look the same. -/
theorem slots_eq_of_slot? {c d : Canvas} (hsize : d.size = c.size)
    (h : ∀ i, d.slot? i = c.slot? i) : d.slots = c.slots := by
  refine Array.ext hsize fun i hd hc => ?_
  have hi := h i
  rw [slot?, slot?, Array.getElem?_eq_getElem hd, Array.getElem?_eq_getElem hc] at hi
  exact hi

/-! ### The slots after each operation -/

theorem slot?_blank (width height : Nat) (h : 0 < width) (i : Nat) :
    (blank width height h).slot? i = none := by
  simp only [slot?, blank, Array.getElem?_replicate]
  split <;> rfl

@[simp] theorem size_clearSlots (slots : Array (Option Cell)) (start n : Nat) :
    (clearSlots slots start n).size = slots.size := by
  induction n generalizing slots start with
  | zero => rfl
  | succ n ih => simp [clearSlots, ih]

theorem getElem?_clearSlots (slots : Array (Option Cell)) (start n i : Nat) :
    (clearSlots slots start n)[i]? =
      if start ≤ i ∧ i < start + n then slots[i]?.map (fun _ => none) else slots[i]? := by
  induction n generalizing slots start with
  | zero => simp only [clearSlots]; split <;> first | rfl | omega
  | succ n ih =>
    rw [clearSlots, ih, Array.getElem?_setIfInBounds]
    by_cases hi : start = i
    · subst hi
      rw [if_neg (by omega), if_pos rfl,
        if_pos (show start ≤ start ∧ start < start + (n + 1) by omega)]
      by_cases hs : start < slots.size <;> simp [hs]
    · simp only [if_neg hi]
      by_cases h : start ≤ i ∧ i < start + (n + 1)
      · rw [if_pos (by omega), if_pos h]
      · rw [if_neg (by omega), if_neg h]

/-- Clearing empties exactly the slots of the range. -/
theorem slot?_clearRange (c : Canvas) (start stop : Int) (i : Nat) :
    (c.clearRange start stop).slot? i = if start ≤ i ∧ i < stop then none else c.slot? i := by
  simp only [slot?, clearRange, getElem?_clearSlots]
  by_cases hi : i < c.slots.size
  · by_cases h : start ≤ i ∧ i < stop
    · rw [if_pos (by omega), if_pos h]
      cases c.slots[i]? <;> rfl
    · rw [if_neg (by omega), if_neg h]
  · have : c.slots[i]? = none := by simp; omega
    simp [this]

@[simp] theorem size_clearRange (c : Canvas) (start stop : Int) :
    (c.clearRange start stop).size = c.size := by
  simp [size, clearRange]

/-- Growing adds empty slots only. -/
theorem slot?_expand (c : Canvas) (o : Int) (i : Nat) : (c.expand o).slot? i = c.slot? i := by
  simp only [slot?, expand, Array.getElem?_append]
  split
  · rfl
  · rename_i h
    have : c.slots[i]? = none := by simp; omega
    rw [this, Array.getElem?_replicate]
    split <;> rfl

theorem size_expand (c : Canvas) (o : Int) :
    (c.expand o).size = max c.size (o + 1).toNat := by
  simp only [size, expand, Array.size_append, Array.size_replicate]
  omega

/-- Inserting leaves a gap of empty slots and moves the slots behind it. -/
theorem slot?_insertBlank (c : Canvas) (o n : Int) (i : Nat) :
    (c.insertBlank o n).slot? i =
      if i < o.toNat then c.slot? i
      else if i < o.toNat + n.toNat then none
      else c.slot? (i - n.toNat) := by
  have view : ∀ j : Nat,
      (c.slots ++ Array.replicate (o.toNat - c.slots.size) none)[j]?.join = c.slots[j]?.join := by
    intro j
    rw [Array.getElem?_append]
    split
    · rfl
    · rename_i h
      have : c.slots[j]? = none := by simp; omega
      rw [this, Array.getElem?_replicate]
      split <;> rfl
  have hsize : o.toNat ≤ (c.slots ++ Array.replicate (o.toNat - c.slots.size) none).size := by
    simp only [Array.size_append, Array.size_replicate]
    omega
  simp only [slot?, insertBlank, ← view]
  generalize c.slots ++ Array.replicate (o.toNat - c.slots.size) none = slots at hsize ⊢
  simp only [Array.getElem?_append, Array.size_append, Array.size_extract, Array.size_replicate,
    Array.getElem?_extract, Array.getElem?_replicate, Nat.sub_zero, Nat.min_eq_left hsize,
    Nat.min_self, Nat.zero_add]
  by_cases h₁ : i < o.toNat
  · rw [if_pos (by omega), if_pos h₁, if_pos h₁]
    simp [h₁]
  · by_cases h₂ : i < o.toNat + n.toNat
    · rw [if_pos h₂, if_neg h₁, if_pos (by omega), if_neg h₁, if_pos h₂]
      rfl
    · rw [if_neg h₂, if_neg h₁, if_neg h₂]
      by_cases h₃ : i - (o.toNat + n.toNat) < slots.size - o.toNat
      · rw [if_pos h₃]
        congr 2
        omega
      · rw [if_neg h₃]
        have : slots[i - n.toNat]? = none := by simp; omega
        rw [this]

/-- Occupying a slot adds a default cell where there was none. -/
theorem slot?_occupy (c : Canvas) (o : Int) (i : Nat) :
    (c.occupy o).1.slot? i =
      if (i : Int) = o ∧ i < c.slots.size then some ((c.slot? i).getD {}) else c.slot? i := by
  unfold occupy
  split
  · next h =>
    simp only [slot?, Array.getElem?_setIfInBounds]
    by_cases hi : (i : Int) = o
    · have : o.toNat = i := by omega
      rw [if_pos this, if_pos (by omega), if_pos ⟨hi, by omega⟩, this]
      rfl
    · rw [if_neg (by omega), if_neg (fun e => hi e.1)]
  · next h => rw [if_neg (by omega)]

@[simp] theorem size_occupy (c : Canvas) (o : Int) : (c.occupy o).1.size = c.size := by
  unfold occupy
  split <;> simp [size]

/-- A slot up to which the canvas was grown is there, unless it lies before the first one. -/
theorem isSome_occupy_expand (c : Canvas) (o : Int) :
    ((c.expand o).occupy o).2.isSome = decide (0 ≤ o) := by
  have hsize := size_expand c o
  simp only [size] at hsize
  unfold occupy
  split
  · next h => simp [h.1]
  · next h =>
    have : ¬ 0 ≤ o := by omega
    simp [this]

/-- There is nothing to grow or to occupy before the first slot. -/
theorem occupy_expand_of_neg (c : Canvas) {o : Int} (h : o < 0) :
    (c.expand o).occupy o = (c, none) := by
  have hexpand : c.expand o = c := by
    rw [expand, Int.toNat_of_nonpos (by omega)]
    simp
  rw [hexpand, occupy, if_neg (by omega)]

/-- A write from a position that has a slot. -/
theorem write_of_nonneg (c : Canvas) (ch : Char) (h : 0 ≤ c.cursor.offset c.width) :
    c.write ch =
      (((c.setChar ch).expand (c.cursor.offset c.width)).occupy
        (c.cursor.offset c.width)).1.stamp (c.cursor.offset c.width) := by
  have hsome := isSome_occupy_expand (c.setChar ch) (c.cursor.offset c.width)
  rw [decide_eq_true h] at hsome
  simp only [write]
  split
  · next heq => simp [heq] at hsome
  · next heq => simp [heq]

/-- A write from a position before the first slot. -/
theorem write_of_neg (c : Canvas) (ch : Char) (h : c.cursor.offset c.width < 0) :
    c.write ch = c.setChar ch := by
  simp only [write, occupy_expand_of_neg _ h]

/-- Occupying a slot changes the slots only. -/
theorem occupy_eq (c : Canvas) (o : Int) :
    (c.occupy o).1 = { c with slots := (c.occupy o).1.slots } := by
  unfold occupy
  split <;> rfl

/-- Writing fills the cursor's slot and leaves all others as they were. -/
theorem slot?_write (c : Canvas) (ch : Char) (i : Nat) :
    (c.write ch).slot? i =
      if (i : Int) = c.cursor.offset c.width then some ⟨ch, c.cursor.pen.rendition⟩
      else c.slot? i := by
  by_cases h : 0 ≤ c.cursor.offset c.width
  · rw [write_of_nonneg c ch h]
    generalize ho : c.cursor.offset c.width = o at h
    have hocc := slot?_occupy ((c.setChar ch).expand o) o i
    have hexp := slot?_expand (c.setChar ch) o i
    have hsize : (((c.setChar ch).expand o).occupy o).1.size = max c.size (o + 1).toNat := by
      rw [size_occupy, size_expand]
      rfl
    have hpen : (((c.setChar ch).expand o).occupy o).1.cursor = c.cursor.setChar ch := by
      rw [occupy_eq]
      rfl
    simp only [slot?, size] at hocc hexp hsize ⊢
    simp only [stamp, Array.getElem?_setIfInBounds, hpen]
    by_cases hi : (i : Int) = o
    · rw [if_pos hi, if_pos (by omega), if_pos (by omega)]
      rfl
    · rw [if_neg hi, if_neg (by omega), hocc, if_neg (fun e => hi e.1), hexp]
      rfl
  · rw [write_of_neg c ch (by omega), if_neg (by omega)]
    rfl

theorem size_write (c : Canvas) (ch : Char) :
    (c.write ch).size = max c.size (c.cursor.offset c.width + 1).toNat := by
  by_cases h : 0 ≤ c.cursor.offset c.width
  · rw [write_of_nonneg c ch h]
    have hsize : (((c.setChar ch).expand (c.cursor.offset c.width)).occupy
        (c.cursor.offset c.width)).1.size = max c.size (c.cursor.offset c.width + 1).toNat := by
      rw [size_occupy, size_expand]
      rfl
    simp only [size, stamp, Array.size_setIfInBounds] at hsize ⊢
    exact hsize
  · rw [write_of_neg c ch (by omega)]
    simp only [size, setChar]
    omega

end Canvas

end AnsiArt
