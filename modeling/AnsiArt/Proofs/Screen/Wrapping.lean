import AnsiArt.Proofs.Screen.Extension
import AnsiArt.Render.PlainText
import Mathlib.Data.List.DropRight
import Mathlib.Data.List.Induction

/-!
# Text that wraps

The slots of a canvas are numbered row by row, and behind the last column a write leaves the cursor
in the first column of the next row. So a text that is written from some slot on fills one slot
after another (`Canvas.slot?_writeText`), and the cursor always stands at the slot behind the last
one filled (`Canvas.standsAt_writeText`).

Read row by row that is a text cut into pieces of the width of the canvas (`wrapLine`). The wrap is
made as soon as the last column is filled, so a line that fills its last row has an empty row behind
it.

Main statements:

* `charAt_wrapLine` — the character in a row and a column of a wrapped line;
* `Canvas.LaidOut.writeLine` — a line that is written and ended adds its rows to those before;
* `Canvas.showsLines_writeText` — what the last line leaves.
-/

namespace AnsiArt

/-! ### The rows of a text -/

/-- The rows of a line: its pieces of `width` characters, and behind the last whole piece a row with
what remains, even if nothing does. -/
def wrapLine (width : Nat) (line : List Char) : List (List Char) :=
  (List.range (line.length / width + 1)).map fun k => (line.drop (k * width)).take width

/-- The rows of lines, one line below the other. -/
def wrapLines (width : Nat) (lines : List (List Char)) : List (List Char) :=
  lines.flatMap (wrapLine width)

/-- The length of the longest line. -/
def longest (lines : List (List Char)) : Nat := (lines.map List.length).foldl max 0

/-- The character in row `y` and column `x`. -/
def charAt (rows : List (List Char)) (x y : Nat) : Option Char := rows[y]?.bind (·[x]?)

@[simp] theorem length_wrapLine (width : Nat) (line : List Char) :
    (wrapLine width line).length = line.length / width + 1 := by
  simp [wrapLine]

@[simp] theorem wrapLines_append_singleton (width : Nat) (lines : List (List Char))
    (line : List Char) :
    wrapLines width (lines ++ [line]) = wrapLines width lines ++ wrapLine width line := by
  simp [wrapLines]

@[simp] theorem longest_append_singleton (lines : List (List Char)) (line : List Char) :
    longest (lines ++ [line]) = max (longest lines) line.length := by
  simp [longest]

theorem length_le_longest {lines : List (List Char)} {line : List Char} (h : line ∈ lines) :
    line.length ≤ longest lines := by
  induction lines using List.reverseRecOn with
  | nil => cases h
  | append_singleton lines last ih =>
    rw [longest_append_singleton]
    rcases List.mem_append.mp h with h | h
    · exact Nat.le_trans (ih h) (Nat.le_max_left ..)
    · rw [List.mem_singleton.mp h]
      exact Nat.le_max_right ..

/-- A row is cut off a line. -/
theorem length_le_of_mem_wrapLine {width : Nat} {line row : List Char}
    (h : row ∈ wrapLine width line) : row.length ≤ min width line.length := by
  obtain ⟨k, -, rfl⟩ := List.mem_map.mp h
  rw [List.length_take, List.length_drop]
  omega

/-- No row is longer than the columns that the longest line takes. -/
theorem length_le_of_mem_wrapLines {width : Nat} {lines : List (List Char)} {row : List Char}
    (h : row ∈ wrapLines width lines) : row.length ≤ min width (longest lines) := by
  obtain ⟨line, hline, hrow⟩ := List.mem_flatMap.mp h
  have hlong := length_le_longest hline
  have hshort := length_le_of_mem_wrapLine hrow
  omega

/-- The character in row `k` and column `x` of a wrapped line. -/
theorem charAt_wrapLine {width : Nat} (text : List Char) {x : Nat} (hx : x < width) (k : Nat) :
    charAt (wrapLine width text) x k = text[k * width + x]? := by
  rw [charAt, wrapLine, List.getElem?_map]
  by_cases hk : k < text.length / width + 1
  · rw [List.getElem?_range hk, Option.map_some, Option.bind_some, List.getElem?_take, if_pos hx,
      List.getElem?_drop]
  · -- behind the last row there is nothing left of the line
    have hrow : (text.length / width + 1) * width ≤ k * width :=
      Nat.mul_le_mul_right width (Nat.not_lt.mp hk)
    have hall : text.length < (text.length / width + 1) * width := by
      rw [Nat.mul_comm]
      exact Nat.lt_mul_div_succ text.length (Nat.lt_of_le_of_lt (Nat.zero_le x) hx)
    have hbehind : text.length ≤ k * width + x := by omega
    rw [List.getElem?_eq_none (by simpa using Nat.not_lt.mp hk), List.getElem?_eq_none hbehind]
    rfl

theorem charAt_append (rows more : List (List Char)) (x y : Nat) :
    charAt (rows ++ more) x y =
      if y < rows.length then charAt rows x y else charAt more x (y - rows.length) := by
  rw [charAt, List.getElem?_append]
  split <;> rfl

/-- Rows without the empty ones at their end are the rows up to the last one that is not empty. -/
theorem rdropWhile_isEmpty_eq_take {rows : List (List Char)} {row : List Char} {n : Nat}
    (hlast : rows[n]? = some row) (hrow : row ≠ [])
    (hbehind : ∀ r ∈ rows.drop (n + 1), r = []) :
    rows.rdropWhile List.isEmpty = rows.take (n + 1) := by
  have htake : rows.take (n + 1) = rows.take n ++ [row] := by
    rw [List.take_add_one, hlast, Option.toList_some]
  have hempty : ∀ r ∈ (rows.drop (n + 1)).reverse, r.isEmpty = true := by
    intro r hr
    rw [hbehind r (List.mem_reverse.mp hr)]
    rfl
  calc rows.rdropWhile List.isEmpty
      = (rows.take (n + 1) ++ rows.drop (n + 1)).rdropWhile List.isEmpty := by
        rw [List.take_append_drop]
    _ = (rows.take (n + 1)).rdropWhile List.isEmpty := by
        rw [List.rdropWhile, List.reverse_append, List.dropWhile_append_of_pos hempty,
          List.rdropWhile]
    _ = rows.take (n + 1) := by
        rw [htake, List.rdropWhile_concat_neg]
        simpa using hrow

/-- The rows of a line that is not empty, without the empty one that may be behind them: the last of
them is the row of its last character. -/
theorem rdropWhile_append_wrapLine {width : Nat} (hw : 0 < width) (rows : List (List Char))
    {line : List Char} (hline : line ≠ []) :
    (rows ++ wrapLine width line).rdropWhile List.isEmpty =
      (rows ++ wrapLine width line).take (rows.length + (line.length - 1) / width + 1) := by
  have hpos : 0 < line.length := List.length_pos_iff.mpr hline
  have hfull : (line.length - 1) / width * width ≤ line.length - 1 := Nat.div_mul_le_self _ _
  have hnext : line.length - 1 < ((line.length - 1) / width + 1) * width := by
    rw [Nat.mul_comm]
    exact Nat.lt_mul_div_succ _ hw
  have hle : (line.length - 1) / width ≤ line.length / width :=
    Nat.div_le_div_right (Nat.sub_le _ _)
  generalize (line.length - 1) / width = q at hfull hnext hle ⊢
  have hlast : (rows ++ wrapLine width line)[rows.length + q]? =
      some ((line.drop (q * width)).take width) := by
    rw [List.getElem?_append_right (Nat.le_add_right ..), Nat.add_sub_cancel_left, wrapLine,
      List.getElem?_map, List.getElem?_range (Nat.lt_succ_of_le hle), Option.map_some]
  refine rdropWhile_isEmpty_eq_take hlast ?_ ?_
  · rw [← List.length_pos_iff, List.length_take, List.length_drop]
    omega
  · -- only rows behind the last character are left
    intro r hr
    obtain ⟨i, hi⟩ := List.mem_iff_getElem?.mp hr
    rw [List.getElem?_drop, List.getElem?_append_right (by omega), wrapLine, List.getElem?_map]
      at hi
    obtain ⟨k, hk, rfl⟩ := Option.map_eq_some_iff.mp hi
    have hk' : q + 1 ≤ k := by
      obtain ⟨hlt, hget⟩ := List.getElem?_eq_some_iff.mp hk
      rw [List.getElem_range] at hget
      omega
    have hbehind : (q + 1) * width ≤ k * width :=
      Nat.mul_le_mul_right width hk'
    rw [List.drop_eq_nil_of_le (by omega), List.take_nil]

/-! ### Writing a text -/

/-- The slot behind slot `o` is in the next column, or, if there is none, in the first column of the
next row. -/
theorem succ_mod_succ_div {width : Nat} (hw : 0 < width) (o : Nat) :
    ((o + 1) % width, (o + 1) / width) =
      if o % width + 1 = width then (0, o / width + 1) else (o % width + 1, o / width) := by
  have hlt : o % width < width := Nat.mod_lt o hw
  have hsplit : o + 1 = width * (o / width) + (o % width + 1) := by
    rw [← Nat.add_assoc, Nat.div_add_mod]
  rw [hsplit, Nat.mul_add_mod, Nat.mul_add_div hw]
  split
  · next hfull => rw [hfull, Nat.mod_self, Nat.div_self hw]
  · next hroom =>
    have hin : o % width + 1 < width := by omega
    rw [Nat.mod_eq_of_lt hin, Nat.div_eq_of_lt hin]
    rfl

/-- A cursor at slot `o` of a canvas of `width` columns, in the column and the row of that slot. -/
structure Cursor.StandsAt (width o : Nat) (k : Cursor) : Prop where
  x_eq : k.x = (o % width : Nat)
  y_eq : k.y = (o / width : Nat)

/-- The column and the row of the slot behind `row` rows and `n` slots more. -/
theorem Cursor.standsAt_row_iff {width row n : Nat} {k : Cursor} (hw : 0 < width) :
    k.StandsAt width (row * width + n) ↔
      k.x = (n % width : Nat) ∧ k.y = (row + n / width : Nat) := by
  have hmod : (row * width + n) % width = n % width := Nat.mul_add_mod' ..
  have hdiv : (row * width + n) / width = row + n / width := by
    rw [Nat.mul_comm, Nat.mul_add_div hw]
  constructor
  · rintro ⟨hx, hy⟩
    exact ⟨hmod ▸ hx, hdiv ▸ hy⟩
  · rintro ⟨hx, hy⟩
    exact ⟨hmod.symm ▸ hx, hdiv.symm ▸ hy⟩

/-- One column further on, and wrapped behind the last column, a cursor stands at the next slot. -/
theorem Cursor.StandsAt.next {width o : Nat} {k : Cursor} (hw : 0 < width)
    (h : k.StandsAt width o) :
    (({ k with x := k.x + 1 } : Cursor).wrap width).StandsAt width (o + 1) := by
  obtain ⟨hx, hy⟩ := h
  have hnext := succ_mod_succ_div hw o
  have hlt : o % width < width := Nat.mod_lt o hw
  have hx' : k.x + 1 = (o % width + 1 : Nat) := by rw [hx]; rfl
  rw [Cursor.wrap, hx']
  -- the cursor wraps exactly if the slot is in the last column
  split at hnext
  · next hlast =>
    obtain ⟨hmod, hdiv⟩ := Prod.mk.inj hnext
    rw [if_pos (Int.ofNat_le.mpr (Nat.le_of_eq hlast.symm))]
    exact ⟨by rw [hmod]; rfl, by rw [hdiv]; exact congrArg (· + 1) hy⟩
  · next hin =>
    obtain ⟨hmod, hdiv⟩ := Prod.mk.inj hnext
    rw [if_neg (fun hle => hin (by have := Int.ofNat_le.mp hle; omega))]
    exact ⟨by rw [hmod], by rw [hdiv, ← hy]⟩

namespace Canvas

/-- Writes a text, character by character. -/
def writeText (c : Canvas) (text : List Char) : Canvas := text.foldl write c

@[simp] theorem writeText_append_singleton (c : Canvas) (text : List Char) (ch : Char) :
    c.writeText (text ++ [ch]) = (c.writeText text).write ch := by
  simp [writeText]

variable {c : Canvas} {o : Nat}

theorem offset_of_standsAt (h : c.cursor.StandsAt c.width o) : c.cursor.offset c.width = o := by
  rw [Cursor.offset, h.x_eq, h.y_eq, ← Int.natCast_mul, ← Int.natCast_add, Nat.div_add_mod']

/-- What a write from a slot leaves: the cursor at the next slot, and bounds that reach to the
column and the row of the slot written to. -/
theorem write_of_standsAt (h : c.cursor.StandsAt c.width o) (ch : Char) :
    (c.write ch).width = c.width ∧
      (c.write ch).cursor.StandsAt c.width (o + 1) ∧
      (c.write ch).cursor.pen.rendition = c.cursor.pen.rendition ∧
      (c.write ch).written = c.written.cover (o % c.width + 1) (o / c.width + 1) := by
  have hnext : Cursor.StandsAt c.width o (c.cursor.setChar ch) := ⟨h.x_eq, h.y_eq⟩
  rw [write_eq (by rw [offset_of_standsAt h]; exact Int.natCast_nonneg o)]
  refine ⟨rfl, hnext.next c.width_pos, ?_, ?_⟩
  · simp only [Cursor.wrap]
    split <;> rfl
  · simp only [h.x_eq, h.y_eq]
    rfl

theorem slot?_write_of_standsAt (h : c.cursor.StandsAt c.width o) (ch : Char) (i : Nat) :
    (c.write ch).slot? i = if i = o then some ⟨ch, c.cursor.pen.rendition⟩ else c.slot? i := by
  rw [slot?_write, offset_of_standsAt h]
  simp only [Int.natCast_inj]

variable (text : List Char)

/-- **A text leaves the cursor at the slot behind it**, and the rendition as it was. -/
theorem standsAt_writeText (h : c.cursor.StandsAt c.width o) :
    (c.writeText text).width = c.width ∧
      (c.writeText text).cursor.StandsAt c.width (o + text.length) ∧
      (c.writeText text).cursor.pen.rendition = c.cursor.pen.rendition := by
  induction text using List.reverseRecOn with
  | nil => exact ⟨rfl, h, rfl⟩
  | append_singleton text ch ih =>
    obtain ⟨hwidth, hcursor, hpen⟩ := ih
    rw [← hwidth] at hcursor
    obtain ⟨hwidth', hcursor', hpen', -⟩ := write_of_standsAt hcursor ch
    rw [writeText_append_singleton, List.length_append, List.length_singleton, ← Nat.add_assoc]
    exact ⟨hwidth'.trans hwidth, hwidth ▸ hcursor', hpen'.trans hpen⟩

/-- **A text fills one slot after another.** -/
theorem slot?_writeText (h : c.cursor.StandsAt c.width o) (i : Nat) :
    (c.writeText text).slot? i =
      if o ≤ i ∧ i < o + text.length then
        text[i - o]?.map (⟨·, c.cursor.pen.rendition⟩)
      else c.slot? i := by
  induction text using List.reverseRecOn with
  | nil =>
    rw [if_neg (by simp)]
    rfl
  | append_singleton text ch ih =>
    obtain ⟨hwidth, hcursor, hpen⟩ := standsAt_writeText text h
    rw [← hwidth] at hcursor
    rw [writeText_append_singleton, slot?_write_of_standsAt hcursor, ih, hpen, List.length_append,
      List.length_singleton]
    by_cases hi : i = o + text.length
    · -- the slot of the last character
      rw [if_pos hi, if_pos (by omega), hi, Nat.add_sub_cancel_left, List.getElem?_concat_length]
      rfl
    · rw [if_neg hi]
      by_cases hin : o ≤ i ∧ i < o + text.length
      · rw [if_pos hin, if_pos (by omega), List.getElem?_append_left (by omega)]
      · rw [if_neg hin, if_neg (by omega)]

/-- The column behind the last of `n + 1` characters, which is the first `n` characters' as well
unless it is a new one. -/
theorem max_min_mod {width : Nat} (hw : 0 < width) (n : Nat) :
    max (min width n) (n % width + 1) = min width (n + 1) := by
  have hlt : n % width < width := Nat.mod_lt n hw
  rcases Nat.lt_or_ge n width with hn | hn
  · rw [Nat.mod_eq_of_lt hn]
    omega
  · omega

/-- From the first column of a row on, a text spans the columns and the rows of its wrapped line, an
empty row behind it not counted. -/
theorem written_writeText {row : Nat} (h : c.cursor.StandsAt c.width (row * c.width)) :
    (c.writeText text).written =
      if text = [] then c.written
      else c.written.cover (min c.width text.length) (row + (text.length - 1) / c.width + 1) := by
  induction text using List.reverseRecOn with
  | nil => rfl
  | append_singleton text ch ih =>
    obtain ⟨hwidth, hcursor, -⟩ := standsAt_writeText text h
    have hstep := (write_of_standsAt (hwidth ▸ hcursor) ch).2.2.2
    rw [hwidth, Nat.mul_add_mod', Nat.mul_comm, Nat.mul_add_div c.width_pos, ih] at hstep
    have hsome : text ++ [ch] ≠ [] := by simp
    rw [writeText_append_singleton, hstep, if_neg hsome, List.length_append,
      List.length_singleton, Nat.add_sub_cancel]
    by_cases hempty : text = []
    · -- the first character is in the first column
      rw [if_pos hempty, hempty, List.length_nil, Nat.zero_mod, Nat.zero_div,
        Nat.min_eq_right c.width_pos]
    · have hrows : (text.length - 1) / c.width ≤ text.length / c.width :=
        Nat.div_le_div_right (Nat.sub_le _ _)
      have hcolumns := max_min_mod c.width_pos text.length
      rw [if_neg hempty]
      simp only [Bounds.cover, Nat.max_assoc, hcolumns]
      congr 2
      omega

/-! ### Lines -/

/-- A canvas with whole lines laid out on it and nothing else: each character in the row and the
column that it has when the lines are wrapped, the cursor in the row behind them. -/
structure LaidOut (lines : List (List Char)) (c : Canvas) : Prop where
  slot?_eq (x y : Nat) (hx : x < c.width) :
    c.slot? (y * c.width + x) = (charAt (wrapLines c.width lines) x y).map (⟨·, {}⟩)
  standsAt : c.cursor.StandsAt c.width ((wrapLines c.width lines).length * c.width)
  rendition_eq : c.cursor.pen.rendition = {}
  columns_eq : c.written.columns = min c.width (longest lines)
  rows_le : c.written.rows ≤ (wrapLines c.width lines).length

/-- Writes a line and ends it. -/
def writeLine (c : Canvas) (line : List Char) : Canvas :=
  (c.writeText line).runAll [.carriageReturn, .lineFeed]

theorem laidOut_blank (width height : Nat) (h : 0 < width) : (blank width height h).LaidOut [] where
  slot?_eq x y _ := by
    rw [slot?_blank]
    rfl
  standsAt := ⟨by simp [blank, wrapLines], by simp [blank, wrapLines]⟩
  rendition_eq := rfl
  columns_eq := by simp [blank, longest]
  rows_le := Nat.zero_le _

namespace LaidOut

variable {lines : List (List Char)} (line : List Char)

/-- A further line puts its characters into the rows behind those of the lines before. -/
theorem slot?_writeText (h : c.LaidOut lines) (x y : Nat) (hx : x < c.width) :
    (c.writeText line).slot? (y * c.width + x) =
      (charAt (wrapLines c.width (lines ++ [line])) x y).map (⟨·, {}⟩) := by
  have hbefore := h.slot?_eq x y hx
  rw [Canvas.slot?_writeText line h.standsAt, wrapLines_append_singleton, charAt_append,
    h.rendition_eq, hbefore]
  by_cases hy : y < (wrapLines c.width lines).length
  · -- a row of the lines before is left alone
    have hrow : (y + 1) * c.width ≤ (wrapLines c.width lines).length * c.width :=
      Nat.mul_le_mul_right c.width hy
    rw [Nat.succ_mul] at hrow
    rw [if_pos hy, if_neg (by omega)]
  · obtain ⟨k, rfl⟩ := Nat.exists_eq_add_of_le (Nat.not_lt.mp hy)
    have hnone :
        charAt (wrapLines c.width lines) x ((wrapLines c.width lines).length + k) = none := by
      rw [charAt, List.getElem?_eq_none (Nat.le_add_right ..)]
      rfl
    rw [if_neg hy, Nat.add_sub_cancel_left, charAt_wrapLine line hx, hnone, Nat.add_mul,
      Nat.add_assoc, Nat.add_sub_cancel_left]
    split
    · rfl
    · next hout => rw [List.getElem?_eq_none (by omega)]

/-- With a further line, the columns reach as far as the longest line does. -/
theorem columns_writeText (h : c.LaidOut lines) :
    (c.writeText line).written.columns = min c.width (longest (lines ++ [line])) := by
  have hcolumns := h.columns_eq
  rw [written_writeText line h.standsAt, longest_append_singleton]
  split
  · next hline =>
    rw [hcolumns, hline, List.length_nil, Nat.max_zero]
  · show max c.written.columns (min c.width line.length) = _
    rw [hcolumns]
    omega

/-- With a further line, the rows reach as far as its last character. -/
theorem rows_writeText (h : c.LaidOut lines) (hline : line ≠ []) :
    (c.writeText line).written.rows =
      (wrapLines c.width lines).length + (line.length - 1) / c.width + 1 := by
  have hrows := h.rows_le
  rw [written_writeText line h.standsAt, if_neg hline]
  refine Nat.max_eq_right (Nat.le_trans hrows ?_)
  rw [Nat.add_assoc]
  exact Nat.le_add_right ..

/-- **A line that is written and ended is laid out behind the lines before.** -/
theorem writeLine (h : c.LaidOut lines) : (c.writeLine line).LaidOut (lines ++ [line]) := by
  obtain ⟨hwidth, hcursor, hpen⟩ := standsAt_writeText line h.standsAt
  have hw := c.width_pos
  have hsum : (wrapLines c.width (lines ++ [line])).length =
      (wrapLines c.width lines).length + line.length / c.width + 1 := by
    rw [wrapLines_append_singleton, List.length_append, length_wrapLine, Nat.add_assoc]
  -- the end of the line moves the cursor only
  have hline : c.writeLine line =
      { c.writeText line with
        cursor :=
          { (c.writeText line).cursor with x := 0, y := (c.writeText line).cursor.y + 1 } } :=
    rfl
  rw [hline]
  refine ⟨fun x y hx => ?_, ?_, hpen.trans h.rendition_eq, ?_, ?_⟩
  · simp only [hwidth] at hx ⊢
    exact h.slot?_writeText line x y hx
  · obtain ⟨-, hy⟩ := (Cursor.standsAt_row_iff hw).mp hcursor
    simp only [hwidth]
    rw [← Nat.add_zero (_ * _), Cursor.standsAt_row_iff hw, hsum]
    simp only [hy, Nat.zero_mod, Nat.zero_div]
    exact ⟨rfl, rfl⟩
  · simp only [hwidth]
    exact h.columns_writeText line
  · simp only [hwidth]
    by_cases hempty : line = []
    · rw [written_writeText line h.standsAt, if_pos hempty, hsum]
      rw [Nat.add_assoc]
      exact Nat.le_trans h.rows_le (Nat.le_add_right ..)
    · rw [h.rows_writeText line hempty, hsum]
      exact Nat.succ_le_succ (Nat.add_le_add_left (Nat.div_le_div_right (Nat.sub_le _ _)) _)

end LaidOut

/-- Lines that are written and ended one after another are laid out. -/
theorem laidOut_foldl_writeLine (width height : Nat) (h : 0 < width) (lines : List (List Char)) :
    (lines.foldl writeLine (blank width height h)).LaidOut lines ∧
      (lines.foldl writeLine (blank width height h)).width = width := by
  induction lines using List.reverseRecOn with
  | nil => exact ⟨laidOut_blank width height h, rfl⟩
  | append_singleton lines line ih =>
    obtain ⟨hlines, hwidth⟩ := ih
    rw [List.foldl_append]
    refine ⟨hlines.writeLine line, ?_⟩
    exact (standsAt_writeText line hlines.standsAt).1.trans hwidth

/-! ### What the lines show -/

theorem cellAt_natCast (c : Canvas) {x y : Nat} (hx : x < c.width) :
    c.cellAt x y = c.slot? (y * c.width + x) := by
  have hoffset : c.offset x y = (y * c.width + x : Nat) := by
    rw [offset, Int.natCast_add, Int.natCast_mul]
  rw [cellAt, hoffset, if_pos ⟨Int.natCast_nonneg x, Int.ofNat_lt.mpr hx, Int.natCast_nonneg _⟩,
    Int.toNat_natCast]

/-- A row of the grid that holds the characters of a text is shown as that text, filled up with
blanks. -/
theorem textRow_gridRow {row : List Char} {y : Nat} (hlength : row.length ≤ c.written.columns)
    (hcell : ∀ x : Nat, c.cellAt x y = row[x]?.map (⟨·, {}⟩)) :
    textRow (c.gridRow y) = row.rightpad c.written.columns ' ' := by
  apply List.ext_getElem?
  intro x
  rw [textRow, gridRow, List.map_map, List.getElem?_map, List.rightpad, List.getElem?_append]
  by_cases hx : x < c.written.columns
  · rw [List.getElem?_range hx, Option.map_some, Function.comp_apply, hcell]
    by_cases hrow : x < row.length
    · rw [if_pos hrow, List.getElem?_eq_getElem hrow]
      rfl
    · -- behind the text there is no cell, and a blank is shown
      rw [if_neg hrow, List.getElem?_eq_none (Nat.not_lt.mp hrow), List.getElem?_replicate,
        if_pos (by omega)]
      rfl
  · rw [List.getElem?_eq_none (by simpa using hx), if_neg (by omega), List.getElem?_replicate,
      if_neg (by omega)]
    rfl

/-- A canvas that shows lines, of which the last one has not been ended. Each line takes rows of its
own, and nothing else is on the canvas. The plain text shows all rows but the empty one that may be
behind the last character, each filled up to the columns that the longest line takes. The cursor
stands behind the last character. -/
structure ShowsLines (front : List (List Char)) (last : List Char) (c : Canvas) : Prop where
  cellAt_eq (x y : Nat) :
    c.cellAt x y = (charAt (wrapLines c.width (front ++ [last])) x y).map (⟨·, {}⟩)
  plainText_eq :
    c.plainText = String.ofList (((wrapLines c.width (front ++ [last])).rdropWhile
      List.isEmpty).flatMap fun row =>
        row.rightpad (min c.width (longest (front ++ [last]))) ' ' ++ ['\n'])
  x_eq : c.cursor.x = (last.length % c.width : Nat)
  y_eq : c.cursor.y = ((wrapLines c.width front).length + last.length / c.width : Nat)

/-- Behind the last column of a canvas there is neither a cell nor a character of a row. -/
theorem LaidOut.cellAt_writeText {lines : List (List Char)} (h : c.LaidOut lines)
    (line : List Char) (x y : Nat) :
    (c.writeText line).cellAt x y =
      (charAt (wrapLines c.width (lines ++ [line])) x y).map (⟨·, {}⟩) := by
  obtain ⟨hwidth, -, -⟩ := standsAt_writeText line h.standsAt
  by_cases hx : x < c.width
  · rw [cellAt_natCast _ (hwidth ▸ hx), hwidth, h.slot?_writeText line x y hx]
  · have hnone : charAt (wrapLines c.width (lines ++ [line])) x y = none := by
      rw [charAt, Option.bind_eq_none_iff]
      intro row hrow
      have := length_le_of_mem_wrapLines (List.mem_of_getElem? hrow)
      exact List.getElem?_eq_none (by omega)
    rw [hnone, cellAt, if_neg (by rw [hwidth]; omega)]
    rfl

/-- **What the last line leaves**, behind lines that are laid out. -/
theorem showsLines_writeText {front : List (List Char)} {last : List Char} (h : c.LaidOut front)
    (hlast : last ≠ []) : (c.writeText last).ShowsLines front last := by
  obtain ⟨hwidth, hcursor, -⟩ := standsAt_writeText last h.standsAt
  obtain ⟨hx, hy⟩ := (Cursor.standsAt_row_iff c.width_pos).mp hcursor
  have hcells := h.cellAt_writeText last
  have hcolumns := h.columns_writeText last
  have hrows := h.rows_writeText last hlast
  have hshown := rdropWhile_append_wrapLine c.width_pos (wrapLines c.width front) hlast
  rw [← wrapLines_append_singleton, ← hrows] at hshown
  refine ⟨by rw [hwidth]; exact hcells, ?_, by rw [hwidth]; exact hx, by rw [hwidth]; exact hy⟩
  -- row by row, the grid shows the rows up to the one of the last character
  have hgrid : (c.writeText last).grid.map textRow =
      ((wrapLines c.width (front ++ [last])).take (c.writeText last).written.rows).map
        (List.rightpad (c.writeText last).written.columns ' ') := by
    apply List.ext_getElem?
    intro y
    rw [List.getElem?_map, List.getElem?_map, grid, List.getElem?_map, List.getElem?_take]
    by_cases hin : y < (c.writeText last).written.rows
    · have hlength : y < (wrapLines c.width (front ++ [last])).length := by
        have hle := Nat.div_le_div_right (c := c.width) (Nat.sub_le last.length 1)
        rw [wrapLines_append_singleton, List.length_append, length_wrapLine]
        rw [hrows] at hin
        exact Nat.lt_of_lt_of_le hin (Nat.succ_le_succ (Nat.add_le_add_left hle _))
      have hrow := List.getElem?_eq_getElem hlength
      rw [List.getElem?_range hin, if_pos hin, hrow, Option.map_some, Option.map_some,
        Option.map_some]
      refine congrArg some (textRow_gridRow ?_ fun x => ?_)
      · rw [hcolumns]
        exact length_le_of_mem_wrapLines (List.getElem_mem hlength)
      · rw [hcells, charAt, hrow]
        rfl
    · rw [if_neg hin, List.getElem?_eq_none (by simpa using hin)]
      rfl
  rw [hwidth, hshown, ← hcolumns, plainText, plainChars]
  refine congrArg String.ofList ?_
  calc (c.writeText last).grid.flatMap (fun row => textRow row ++ ['\n'])
      = ((c.writeText last).grid.map textRow).flatMap (· ++ ['\n']) := by
        rw [List.flatMap_map]
    _ = _ := by rw [hgrid, List.flatMap_map]

end Canvas

end AnsiArt
