import AnsiArt.Proofs.Render.Markup
import Mathlib.Data.List.Destutter

/-!
# The spans of a grid

The writer of documents carries the open span from cell to cell and over the ends of rows. A reader
that reads its pieces beside it is always in the span that the writer has open, and passes the cells
one by one. So it finds the characters of all positions, each inside a span with the style classes of
its cell, and the spans it has entered are those of the cells so far, each run of equal classes once.

Main statements:

* `Markup.reads_gridPieces` — what is written for a grid takes a reader past its rows;
* `Markup.Reader.getElem?_text_rows` — where the character of a cell is found, and in which span;
* `Markup.Reader.Entered.rows` — which spans are entered.
-/

namespace AnsiArt

open Html

/-- The style classes at a position of the grid. -/
def cellClasses (cell : Option Cell) : String := (cell.getD {}).rendition.classes

namespace Markup

/-! ### What class lists are made of -/

/-- A list of names that is there or not, depending on a flag. -/
theorem eq_of_mem_ite_singleton {p : Prop} [Decidable p] {name s : String}
    (h : s ∈ if p then [name] else []) : s = name := by
  split at h
  · exact List.mem_singleton.mp h
  · cases h

/-- Style classes are made of letters, digits, signs and blanks. -/
theorem not_mem_classes {c : Char} (hother : c ∉ [' ', '-', 'i', 'u', 'x'])
    (hdigit : Hex.digit? c = none) (r : Rendition) : c ∉ r.classes.toList := by
  have hbyte (n : Int) : c ∉ (Hex.byte n).toList := by
    refine Hex.not_mem_byte ?_ hdigit n
    rintro rfl
    exact hother (by decide)
  -- `b`, `f` and `d` are digits themselves
  have hb : c ≠ 'b' := by rintro rfl; cases hdigit
  have hf : c ≠ 'f' := by rintro rfl; cases hdigit
  have hd : c ≠ 'd' := by rintro rfl; cases hdigit
  simp only [List.mem_cons, not_or, List.not_mem_nil, not_false_eq_true, and_true] at hother
  obtain ⟨hblank, -, hi, hu, hx⟩ := hother
  intro h
  rw [Rendition.classes, String.toList_intercalate] at h
  rcases mem_of_mem_intercalate h with h | ⟨piece, hpiece, h⟩
  · exact hblank (List.mem_singleton.mp h)
  · obtain ⟨s, hs, rfl⟩ := List.mem_map.mp hpiece
    simp only [List.mem_append, List.mem_cons, List.not_mem_nil, or_false] at hs
    rcases hs with (((((rfl | rfl) | hs) | hs) | hs) | hs)
    · simp [toString, hb, hbyte] at h
    · simp [toString, hf, hbyte] at h
    · rw [eq_of_mem_ite_singleton hs] at h
      simp [hi] at h
    · rw [eq_of_mem_ite_singleton hs] at h
      simp [toString, hu, hbyte] at h
    · rw [eq_of_mem_ite_singleton hs] at h
      simp [hu, hd] at h
    · rw [eq_of_mem_ite_singleton hs] at h
      simp [hx] at h

theorem unmarked_classes (r : Rendition) : Unmarked r.classes.toList :=
  have hclasses {c : Char} (hother : c ∉ [' ', '-', 'i', 'u', 'x']) (hdigit : Hex.digit? c = none) :=
    not_mem_classes hother hdigit r
  unmarked_of_not_mem (hclasses (by decide) (by decide)) (hclasses (by decide) (by decide))
    (hclasses (by decide) (by decide)) (hclasses (by decide) (by decide))

/-! ### Reading what is written for the grid -/

namespace Reader

/-- Finds the character of a cell inside a span with its classes. -/
def cell (r : Reader) (cell : Option Cell) : Reader :=
  (r.enter (cellClasses cell)).character (shownChar cell)

/-- Finds the cells of a row. -/
def row (r : Reader) (row : List (Option Cell)) : Reader := row.foldl cell r

/-- Finds the rows of a grid, with line feeds between them. -/
def rows (r : Reader) : List (List (Option Cell)) → Reader
  | [] => r
  | [row] => r.row row
  | row :: rest => ((r.row row).character '\n').rows rest

@[simp] theorem row_nil (r : Reader) : r.row [] = r := rfl

@[simp] theorem rows_nil (r : Reader) : r.rows [] = r := rfl

@[simp] theorem rows_singleton (r : Reader) (row : List (Option Cell)) :
    r.rows [row] = r.row row := rfl

@[simp] theorem span_cell (r : Reader) (cell : Option Cell) :
    (r.cell cell).span = some (cellClasses cell) := r.span_enter _

@[simp] theorem text_cell (r : Reader) (cell : Option Cell) :
    (r.cell cell).text = r.text ++ [(some (cellClasses cell), shownChar cell)] := by
  simp [Reader.cell, character]

end Reader

/-- What is written for a cell takes a reader past the cell. -/
theorem reads_cell (r : Reader) (cell : Option Cell) :
    Reads r ((switchTo r.span (cellClasses cell)).toList ++ (escapeChar (shownChar cell)).toList)
      (r.cell cell) := by
  have hquote : '"' ∉ (cellClasses cell).toList := not_mem_classes (by decide) (by decide) _
  exact (reads_switchTo r (unmarked_classes _) hquote).append (reads_escapeChar _ _)

/-- What is written for a row takes a reader past the row, and the reader and the writer agree on
the span that is open then. -/
theorem reads_rowPieces (r : Reader) (row : List (Option Cell)) :
    Reads r ((rowPieces r.span row).1.flatMap String.toList) (r.row row) ∧
      (rowPieces r.span row).2 = (r.row row).span := by
  induction row generalizing r with
  | nil => exact ⟨Reads.nil r, rfl⟩
  | cons cell rest ih =>
    obtain ⟨hread, hspan⟩ := ih (r.cell cell)
    rw [Reader.span_cell] at hread hspan
    refine ⟨?_, hspan⟩
    have hpieces : (rowPieces r.span (cell :: rest)).1 =
        switchTo r.span (cellClasses cell) :: escapeChar (shownChar cell) ::
          (rowPieces (some (cellClasses cell)) rest).1 := rfl
    rw [hpieces, List.flatMap_cons, List.flatMap_cons, ← List.append_assoc]
    exact (reads_cell r cell).append hread

/-- **What is written for the grid takes a reader past its rows and out of the last span.** -/
theorem reads_gridPieces (r : Reader) (grid : List (List (Option Cell))) :
    Reads r ((gridPieces r.span grid).flatMap String.toList) (r.rows grid).leave := by
  induction grid generalizing r with
  | nil => simpa [gridPieces] using reads_closeTag r
  | cons row rest ih =>
    obtain ⟨hrow, hspan⟩ := reads_rowPieces r row
    cases rest with
    | nil =>
      have hpieces : gridPieces r.span [row] =
          (rowPieces r.span row).1 ++ [closeTag (r.row row).span] := by
        rw [← hspan]
        rfl
      rw [hpieces, List.flatMap_append]
      refine hrow.append ?_
      simpa using reads_closeTag (r.row row)
    | cons row' rest =>
      have hpieces : gridPieces r.span (row :: row' :: rest) =
          (rowPieces r.span row).1 ++ "\n" :: gridPieces (r.row row).span (row' :: rest) := by
        rw [← hspan]
        rfl
      rw [hpieces, List.flatMap_append, List.flatMap_cons]
      -- the line feed stands for itself and leaves the span as it is
      have hfeed : Reads (r.row row) "\n".toList ((r.row row).character '\n') :=
        reads_plain _ (by decide) (by decide)
      exact hrow.append (hfeed.append (ih ((r.row row).character '\n')))

/-! ### The characters found -/

namespace Reader

theorem text_row (r : Reader) (row : List (Option Cell)) :
    (r.row row).text = r.text ++ row.map fun cell => (some (cellClasses cell), shownChar cell) := by
  induction row generalizing r with
  | nil => simp [Reader.row]
  | cons cell rest ih =>
    have hrest := ih (r.cell cell)
    rw [text_cell, List.append_assoc] at hrest
    exact hrest

theorem chars_row (r : Reader) (row : List (Option Cell)) :
    (r.row row).text.map Prod.snd = r.text.map Prod.snd ++ Canvas.textRow row := by
  rw [text_row, List.map_append, List.map_map]
  rfl

/-- The characters found are those of the rows, with line feeds between the rows. -/
theorem chars_rows (r : Reader) (grid : List (List (Option Cell))) :
    (r.rows grid).text.map Prod.snd =
      r.text.map Prod.snd ++ ['\n'].intercalate (grid.map Canvas.textRow) := by
  induction grid generalizing r with
  | nil => simp [rows]
  | cons row rest ih =>
    cases rest with
    | nil => simp [chars_row]
    | cons row' rest =>
      have hfeed : ((r.row row).character '\n').text.map Prod.snd =
          r.text.map Prod.snd ++ (Canvas.textRow row ++ ['\n']) := by
        rw [character, List.map_append, chars_row, List.append_assoc]
        rfl
      have hlines : ['\n'].intercalate ((row :: row' :: rest).map Canvas.textRow) =
          Canvas.textRow row ++ ['\n'] ++
            ['\n'].intercalate ((row' :: rest).map Canvas.textRow) :=
        List.intercalate_cons_cons
      calc (((r.row row).character '\n').rows (row' :: rest)).text.map Prod.snd
        _ = ((r.row row).character '\n').text.map Prod.snd ++
              ['\n'].intercalate ((row' :: rest).map Canvas.textRow) := ih _
        _ = r.text.map Prod.snd ++
              ['\n'].intercalate ((row :: row' :: rest).map Canvas.textRow) := by
            rw [hfeed, hlines, List.append_assoc]

/-- What was found in the first row is kept. -/
theorem text_row_prefix_rows (r : Reader) (row : List (Option Cell))
    (rest : List (List (Option Cell))) : (r.row row).text <+: (r.rows (row :: rest)).text := by
  induction rest generalizing r row with
  | nil => exact List.prefix_refl _
  | cons row' rest ih =>
    have hfeed : (r.row row).text <+: ((r.row row).character '\n').text := List.prefix_append _ _
    have hrow : ((r.row row).character '\n').text <+:
        (((r.row row).character '\n').row row').text := by
      rw [text_row _ row']
      exact List.prefix_append _ _
    exact (hfeed.trans hrow).trans (ih _ row')

/-- The cell at row `y` and column `x` of a grid with rows of `n` cells is found `y * (n + 1) + x`
characters behind the start, inside a span with its classes. -/
theorem getElem?_text_rows (r : Reader) {grid : List (List (Option Cell))} {n : Nat}
    (hlength : ∀ row ∈ grid, row.length = n) {x y : Nat} {cell : Option Cell}
    (hcell : (grid[y]?.bind (·[x]?)) = some cell) :
    (r.rows grid).text[r.text.length + (y * (n + 1) + x)]? =
      some (some (cellClasses cell), shownChar cell) := by
  induction grid generalizing r y with
  | nil => simp at hcell
  | cons row rest ih =>
    have hrow : row.length = n := hlength row List.mem_cons_self
    cases y with
    | zero =>
      -- the first row follows at once, and what comes later does not move it
      have hx : row[x]? = some cell := by simpa using hcell
      have hfound : (r.row row).text[r.text.length + x]? =
          some (some (cellClasses cell), shownChar cell) := by
        rw [text_row, List.getElem?_append_right (by omega), Nat.add_sub_cancel_left,
          List.getElem?_map, hx, Option.map_some]
      obtain ⟨later, hlater⟩ := text_row_prefix_rows r row rest
      rw [Nat.zero_mul, Nat.zero_add, ← hlater,
        List.getElem?_append_left (List.getElem?_eq_some_iff.mp hfound).1]
      exact hfound
    | succ y =>
      have hcell' : (rest[y]?.bind (·[x]?)) = some cell := by simpa using hcell
      cases rest with
      | nil => simp at hcell'
      | cons row' rest =>
        have hfound := ih ((r.row row).character '\n')
          (fun row hmem => hlength row (List.mem_cons_of_mem _ hmem)) hcell'
        have hskip : ((r.row row).character '\n').text.length = r.text.length + (n + 1) := by
          simp [character, text_row, hrow]
        rw [hskip] at hfound
        have hindex : r.text.length + ((y + 1) * (n + 1) + x) =
            r.text.length + (n + 1) + (y * (n + 1) + x) := by
          rw [Nat.succ_mul]
          omega
        rw [hindex]
        exact hfound

end Reader

/-! ### The spans entered -/

/-- Behind a list without repetitions, a last element is kept unless it repeats the one in front. -/
theorem destutter_append_singleton {α : Type} [DecidableEq α] (ks : List α) (k : α) :
    (ks ++ [k]).destutter (· ≠ ·) =
      if ks.getLast? = some k then ks.destutter (· ≠ ·) else ks.destutter (· ≠ ·) ++ [k] := by
  have hcons (a : α) (ks : List α) : (ks ++ [k]).destutter' (· ≠ ·) a =
      if (a :: ks).getLast? = some k then ks.destutter' (· ≠ ·) a
      else ks.destutter' (· ≠ ·) a ++ [k] := by
    induction ks generalizing a with
    | nil => by_cases h : a = k <;> simp [h]
    | cons b ks ih =>
      have hlast : (a :: b :: ks).getLast? = (b :: ks).getLast? := List.getLast?_cons_cons
      rw [hlast, List.cons_append]
      by_cases h : a = b
      · subst h
        rw [List.destutter'_cons_neg _ (by simp), List.destutter'_cons_neg _ (by simp), ih]
      · rw [List.destutter'_cons_pos _ h, List.destutter'_cons_pos _ h, ih]
        split <;> rfl
  cases ks with
  | nil => simp
  | cons a ks => exact hcons a ks

/-- A reader that has met cells with the given classes: its spans are theirs, each run of equal
classes once, and it is inside the span of the last cell. -/
structure Reader.Entered (r : Reader) (classes : List String) : Prop where
  spans : r.spans = classes.destutter (· ≠ ·)
  span : r.span = classes.getLast?

namespace Reader.Entered

variable {r : Reader} {classes : List String}

/-- Meeting one more cell. -/
theorem cell (h : r.Entered classes) (cell : Option Cell) :
    (r.cell cell).Entered (classes ++ [cellClasses cell]) := by
  refine ⟨?_, by simp⟩
  rw [destutter_append_singleton, ← h.span, ← h.spans]
  -- the span is kept exactly if the last cell had these classes
  unfold Reader.cell Reader.enter
  split <;> rfl

/-- Line feeds do not count. -/
theorem character (h : r.Entered classes) (c : Char) : (r.character c).Entered classes :=
  ⟨h.spans, h.span⟩

theorem row (h : r.Entered classes) (row : List (Option Cell)) :
    (r.row row).Entered (classes ++ row.map cellClasses) := by
  induction row generalizing r classes with
  | nil => simpa using h
  | cons cell rest ih =>
    have hrest := ih (h.cell cell)
    rw [List.append_assoc] at hrest
    exact hrest

/-- **The spans of a grid** are those of its cells in order, row after row. -/
theorem rows (h : r.Entered classes) (grid : List (List (Option Cell))) :
    (r.rows grid).Entered (classes ++ grid.flatten.map cellClasses) := by
  induction grid generalizing r classes with
  | nil => simpa using h
  | cons row rest ih =>
    have hrow := h.row row
    rw [List.flatten_cons, List.map_append, ← List.append_assoc]
    cases rest with
    | nil => simpa using hrow
    | cons row' rest => exact ih (hrow.character '\n')

end Reader.Entered

end Markup

end AnsiArt
