import AnsiArt.Sauce.Reader

/-!
# The trailer of a file

A file may end with a trailer: the byte that ends the text, a block of comment lines if there are
any, and a record that begins with its mark and counts the lines. The record is found at the end,
and the lines are found from there backwards, so it does not matter what is in front of the trailer:
the work itself may hold a byte that ends the text, or bytes that look like a record or like a block.

A trailer without lines has no block. An empty block would not be found, since a count of zero
announces none.

Main statements:

* `Sauce.read?_append_trailer` — the record that is read from a file with a trailer;
* `Sauce.strip_append_trailer` — without its trailer a file is the work.
-/

namespace AnsiArt.Sauce

/-- A trailer as it is stored: comment lines, and a record that counts them. -/
structure Trailer where
  lines : List (Vector UInt8 lineSize)
  record : Vector UInt8 recordSize
  marked : recordMark <+: record.toList
  count_eq : record[104].toNat = lines.length

namespace Trailer

/-- The bytes of the comment lines. -/
def body (t : Trailer) : List UInt8 := t.lines.flatMap (·.toList)

/-- The block of comments, which is there if there are lines. -/
def block (t : Trailer) : List UInt8 := if t.lines = [] then [] else commentMark ++ t.body

/-- The bytes of a trailer. -/
def bytes (t : Trailer) : List UInt8 := endOfText :: (t.block ++ t.record.toList)

variable (t : Trailer)

theorem length_body : t.body.length = t.lines.length * lineSize := by
  rw [body]
  induction t.lines with
  | nil => rfl
  | cons line lines ih =>
    rw [List.flatMap_cons, List.length_append, ih, Vector.length_toList, List.length_cons,
      Nat.add_mul, Nat.one_mul, Nat.add_comm]

theorem length_block (h : t.lines ≠ []) : t.block.length = blockSize t.lines.length := by
  rw [block, if_neg h, List.length_append, length_body, blockSize]

end Trailer

/-! ### The comment lines -/

/-- Lines that are laid end to end are cut where they meet. -/
theorem linesOf_flatMap (lines : List (Vector UInt8 lineSize)) :
    linesOf lines.length (lines.flatMap (·.toList)) = lines.map (·.toList) := by
  induction lines with
  | nil => rfl
  | cons line lines ih =>
    have hsize : line.toList.length = lineSize := Vector.length_toList
    rw [List.length_cons, linesOf, List.flatMap_cons, List.take_left' hsize,
      List.drop_left' hsize, ih, List.map_cons]

/-- The comment lines in front of a record are those of its trailer, whatever is before them. -/
theorem commentLines_append_block (front : List UInt8) (t : Trailer) :
    commentLines (front ++ t.block) t.lines.length = t.lines.map (fieldText ·.toList) := by
  by_cases hlines : t.lines = []
  · rw [hlines]
    rfl
  · -- the block is exactly what the count announces, so it is what is cut off the end
    have hcount : t.lines.length ≠ 0 := mt List.length_eq_zero_iff.mp hlines
    have hsize : (front ++ t.block).length = front.length + blockSize t.lines.length := by
      rw [List.length_append, t.length_block hlines]
    have hroom : ¬ (t.lines.length = 0 ∨ (front ++ t.block).length < blockSize t.lines.length) := by
      omega
    have hblock : (front ++ t.block).drop ((front ++ t.block).length - blockSize t.lines.length) =
        commentMark ++ t.body := by
      rw [hsize, Nat.add_sub_cancel, List.drop_left, Trailer.block, if_neg hlines]
    have hmark : commentMark.isPrefixOf (commentMark ++ t.body) = true :=
      List.isPrefixOf_iff_prefix.mpr (List.prefix_append _ _)
    rw [commentLines, if_neg hroom]
    simp only [hblock]
    rw [if_pos hmark, List.drop_left, Trailer.body, linesOf_flatMap, List.map_map]
    rfl

/-! ### The record -/

/-- A record is found at the end, whatever is in front of it. -/
theorem read?_append_record (front : List UInt8) (t : Trailer) :
    read? (front ++ t.record.toList) = some (recordOf front t.record.toList) := by
  have hsize : t.record.toList.length = recordSize := Vector.length_toList
  have hlength : (front ++ t.record.toList).length = front.length + recordSize := by
    rw [List.length_append, hsize]
  have hroom : ¬ (front ++ t.record.toList).length < recordSize := by omega
  rw [read?, if_neg hroom]
  simp only [hlength, Nat.add_sub_cancel, List.drop_left, List.take_left]
  rw [if_pos (List.isPrefixOf_iff_prefix.mpr t.marked)]

/-- The field of one byte holds that byte. -/
theorem fieldNumber_byte (record : Vector UInt8 recordSize) {i : Nat} (h : i < recordSize) :
    fieldNumber ((record.toList.drop i).take 1) = record[i].toNat := by
  have hsize : i < record.toList.length := by rwa [Vector.length_toList]
  rw [List.drop_eq_getElem_cons hsize, List.take_succ_cons, List.take_zero, Vector.getElem_toList]
  rfl

/-- **Reading a trailer**: the record, with the comment lines of the trailer. -/
theorem read?_append_trailer (art : List UInt8) (t : Trailer) :
    read? (art ++ t.bytes) =
      some (recordOf (art ++ endOfText :: t.block) t.record.toList) ∧
      (recordOf (art ++ endOfText :: t.block) t.record.toList).commentLines =
        t.lines.map (fieldText ·.toList) := by
  constructor
  · rw [Trailer.bytes, ← List.cons_append, ← List.append_assoc]
    exact read?_append_record _ t
  · -- the count that is read is the number of lines
    show commentLines _ (fieldNumber ((t.record.toList.drop 104).take 1)) = _
    rw [fieldNumber_byte t.record (by decide), t.count_eq, List.append_cons]
    exact commentLines_append_block _ t

/-! ### The work -/

theorem dropEndOfText_concat (art : List UInt8) : dropEndOfText (art ++ [endOfText]) = art := by
  rw [dropEndOfText, if_pos List.getLast?_concat, List.dropLast_concat]

/-- What is stripped is a record and as many bytes in front of it as its lines take up. -/
theorem strip_append {front block raw : List UInt8} {r : SauceRecord}
    (hraw : raw.length = recordSize)
    (hblock : block.length = if r.commentLines = [] then 0 else blockSize r.commentLines.length) :
    strip (front ++ (block ++ raw)) (some r) = dropEndOfText front := by
  have hlength : (front ++ (block ++ raw)).length = front.length + (recordSize + block.length) := by
    rw [List.length_append, List.length_append, hraw, Nat.add_comm block.length]
  rw [strip]
  simp only [← hblock]
  rw [hlength, Nat.add_sub_cancel, List.take_left]

/-- **Without its trailer a file is the work**, also if the work ends like a trailer begins. -/
theorem strip_append_trailer (art : List UInt8) (t : Trailer) :
    strip (art ++ t.bytes) (read? (art ++ t.bytes)) = art := by
  obtain ⟨hread, hlines⟩ := read?_append_trailer art t
  -- as many bytes are taken away for the lines as the block has, also if there is none
  have hblock : t.block.length = if t.lines.map (fieldText ·.toList) = [] then 0
      else blockSize (t.lines.map (fieldText ·.toList)).length := by
    by_cases h : t.lines = []
    · rw [Trailer.block, if_pos h, h]
      rfl
    · rw [if_neg (mt List.map_eq_nil_iff.mp h), List.length_map, t.length_block h]
  rw [← hlines] at hblock
  rw [hread, Trailer.bytes, List.append_cons, strip_append Vector.length_toList hblock,
    dropEndOfText_concat]

end AnsiArt.Sauce
