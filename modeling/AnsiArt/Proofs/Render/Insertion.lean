import AnsiArt.Proofs.Screen.Insertion
import AnsiArt.Render.PlainText

/-!
# Inserted lines in the plain text

The plain text shows the rows that were written to, and an insertion of lines writes nothing. So the
text has as many lines as before: the blank lines are there, but as many lines as were inserted are
pushed behind the end and not shown any more, though their cells are all on the canvas.

Main statements:

* `Canvas.PushesRows.lines_eq` — the lines that are shown;
* `Canvas.PushesRows.plainText_eq_iff` — all lines are shown only if nothing was inserted.
-/

namespace AnsiArt.Canvas

variable {c d : Canvas} {n : Nat}

/-! ### The lines of text -/

/-- The rows of the grid as lines of text. -/
def lines (c : Canvas) : List (List Char) := c.grid.map textRow

/-- Lines as one text, each ended by a line feed. -/
def textOfLines (lines : List (List Char)) : String :=
  String.ofList (lines.flatMap fun line => line ++ ['\n'])

theorem plainText_eq_textOfLines (c : Canvas) : c.plainText = textOfLines c.lines := by
  rw [plainText, plainChars, textOfLines, lines, List.flatMap_map]

/-- The length of a text of lines that are all of the same length. -/
theorem length_textOfLines {lines : List (List Char)} {columns : Nat}
    (h : ∀ line ∈ lines, line.length = columns) :
    (textOfLines lines).toList.length = lines.length * (columns + 1) := by
  rw [textOfLines, String.toList_ofList]
  induction lines with
  | nil => simp
  | cons line lines ih =>
    obtain ⟨hline, hlines⟩ := List.forall_mem_cons.mp h
    rw [List.flatMap_cons, List.length_append, ih hlines, List.length_append, hline,
      List.length_singleton, List.length_cons, Nat.succ_mul, Nat.add_comm]

@[simp] theorem length_lines (c : Canvas) : c.lines.length = c.written.rows := by simp [lines]

theorem length_of_mem_lines {line : List Char} (h : line ∈ c.lines) :
    line.length = c.written.columns := by
  obtain ⟨row, hrow, rfl⟩ := List.mem_map.mp h
  obtain ⟨y, -, rfl⟩ := List.mem_map.mp hrow
  simp [textRow]

/-- A line shows the cells of its row, up to the last column written to. -/
theorem getElem?_lines (c : Canvas) {r : Nat} (hr : r < c.written.rows) :
    c.lines[r]? =
      some ((List.range c.written.columns).map fun x => shownChar (c.cellAt (x : Nat) r)) := by
  simp [lines, grid, textRow, gridRow, hr]

/-- Lines of text with `n` blank lines of a given length in front of line `k`. -/
def insertBlankLines (k n columns : Nat) (lines : List (List Char)) : List (List Char) :=
  lines.take k ++ List.replicate n (List.replicate columns ' ') ++ lines.drop k

theorem length_insertBlankLines {k : Nat} (n columns : Nat) {lines : List (List Char)}
    (h : k ≤ lines.length) :
    (insertBlankLines k n columns lines).length = lines.length + n := by
  simp only [insertBlankLines, List.length_append, List.length_take, List.length_replicate,
    List.length_drop]
  omega

theorem getElem?_insertBlankLines {k : Nat} (n columns : Nat) {lines : List (List Char)}
    (h : k ≤ lines.length) (r : Nat) :
    (insertBlankLines k n columns lines)[r]? =
      if r < k then lines[r]?
      else if r < k + n then some (List.replicate columns ' ') else lines[r - n]? := by
  have htake : (lines.take k).length = k := List.length_take_of_le h
  rw [insertBlankLines, List.append_assoc, List.getElem?_append, htake, List.getElem?_append,
    List.length_replicate]
  by_cases habove : r < k
  · rw [if_pos habove, if_pos habove, List.getElem?_take_of_lt habove]
  · rw [if_neg habove, if_neg habove]
    by_cases hin : r < k + n
    · rw [if_pos (by omega), if_pos hin, List.getElem?_replicate, if_pos (by omega)]
    · rw [if_neg (by omega), if_neg hin, List.getElem?_drop]
      congr 1
      omega

theorem length_of_mem_insertBlankLines {k n columns : Nat} {lines : List (List Char)}
    (h : ∀ line ∈ lines, line.length = columns) {line : List Char}
    (hline : line ∈ insertBlankLines k n columns lines) : line.length = columns := by
  simp only [insertBlankLines, List.mem_append] at hline
  rcases hline with (hline | hline) | hline
  · exact h line (List.mem_of_mem_take hline)
  · rw [List.eq_of_mem_replicate hline, List.length_replicate]
  · exact h line (List.mem_of_mem_drop hline)

/-- **Pushing rows down inserts blank lines, but no more lines are shown than before**, so as many
as were inserted are not shown any more. -/
theorem PushesRows.lines_eq {k : Nat} (h : c.PushesRows d k n) (hwritten : d.written = c.written)
    (hk : k ≤ c.written.rows) :
    d.lines = (insertBlankLines k n c.written.columns c.lines).take c.written.rows := by
  have hk' : k ≤ c.lines.length := by rwa [length_lines]
  refine List.ext_getElem? fun r => ?_
  rw [List.getElem?_take]
  by_cases hr : r < c.written.rows
  · rw [if_pos hr, getElem?_insertBlankLines n _ hk', getElem?_lines d (by rwa [hwritten]), hwritten]
    by_cases habove : r < k
    · rw [if_pos habove, getElem?_lines c hr]
      simp only [h.above _ r (by omega) (by omega)]
    · rw [if_neg habove]
      by_cases hin : r < k + n
      · rw [if_pos hin]
        simp only [h.between _ r (by omega) (by omega)]
        simp [shownChar, List.map_const']
      · rw [if_neg hin, getElem?_lines c (by omega)]
        simp only [h.below _ r (by omega), Int.natCast_sub (show n ≤ r by omega)]
  · rw [if_neg hr]
    exact List.getElem?_eq_none (by rw [length_lines, hwritten]; exact Nat.not_lt.mp hr)

/-- The text is the one with all of the blank lines and all of the old lines only if no row was
pushed down: there is no line more than before. -/
theorem PushesRows.plainText_eq_iff {k : Nat} (h : c.PushesRows d k n)
    (hwritten : d.written = c.written) (hk : k ≤ c.written.rows) :
    d.plainText = textOfLines (insertBlankLines k n c.written.columns c.lines) ↔ n = 0 := by
  have hk' : k ≤ c.lines.length := by rwa [length_lines]
  have hlength (line : List Char) (hline : line ∈ insertBlankLines k n c.written.columns c.lines) :
      line.length = c.written.columns :=
    length_of_mem_insertBlankLines (fun _ => length_of_mem_lines) hline
  constructor
  · intro heq
    have hcount := congrArg (fun text => text.toList.length) heq
    simp only [plainText_eq_textOfLines] at hcount
    rw [length_textOfLines fun _ => length_of_mem_lines, length_textOfLines hlength,
      length_insertBlankLines n _ hk', length_lines, length_lines, hwritten,
      Nat.mul_right_cancel_iff (Nat.succ_pos _)] at hcount
    omega
  · rintro rfl
    rw [plainText_eq_textOfLines, h.lines_eq hwritten hk, List.take_of_length_le]
    rw [length_insertBlankLines 0 _ hk', length_lines]
    exact Nat.le_refl _

end AnsiArt.Canvas
