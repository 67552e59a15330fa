import AnsiArt.Proofs.Sauce.Trailer
import Mathlib.Data.List.Basic

/-!
# Stripping takes away the trailer and nothing else

Whatever bytes a file is made of, it is the stripped file with the parts behind it that were taken
away: the byte that ends the text, if it is there, the block of the comment lines, if lines were
read, and the record. That holds without a word about how the file was made, so the record may count
more lines than there is room for, or lines without their mark; then none is read, and the bytes
that might have been a block stay with the work.

Main statements:

* `Sauce.commentLines_cases` — either no line is read, or the whole block is there;
* `Sauce.read?_reassembles` — which files hold a record, and their parts.
-/

namespace AnsiArt.Sauce

variable {data front block raw : List UInt8} {r : SauceRecord}

/-! ### The comment lines -/

theorem length_linesOf (count : Nat) (bytes : List UInt8) :
    (linesOf count bytes).length = count := by
  induction count generalizing bytes with
  | zero => rfl
  | succ count ih => rw [linesOf, List.length_cons, ih]

/-- **Either no comment line is read, or the whole block is there** and every line that is counted is
read. -/
theorem commentLines_cases (front : List UInt8) (count : Nat) :
    commentLines front count = [] ∨
      (commentLines front count).length = count ∧
        ∃ before block, front = before ++ block ∧ block.length = blockSize count ∧
          commentMark <+: block := by
  rw [commentLines]
  split
  · exact .inl rfl
  · next hroom =>
    obtain ⟨-, hsize⟩ := not_or.mp hroom
    simp only
    split
    · next hmark =>
      -- the block is the end of what is in front of the record
      refine .inr ⟨by rw [List.length_map, length_linesOf], _, _, (List.take_append_drop _ front).symm,
        ?_, List.isPrefixOf_iff_prefix.mp hmark⟩
      rw [List.length_drop]
      omega
    · exact .inl rfl

/-! ### The record -/

theorem read?_eq_some_iff :
    read? data = some r ↔
      recordSize ≤ data.length ∧ recordMark <+: data.drop (data.length - recordSize) ∧
        recordOf (data.take (data.length - recordSize)) (data.drop (data.length - recordSize)) = r := by
  rw [read?]
  split
  · next hshort =>
    constructor
    · intro h
      cases h
    · intro h
      exact absurd h.1 (Nat.not_le.mpr hshort)
  · next hroom =>
    simp only [Option.ite_none_right_eq_some, List.isPrefixOf_iff_prefix, Option.some.injEq]
    exact ⟨fun h => ⟨Nat.not_lt.mp hroom, h⟩, And.right⟩

/-! ### The parts -/

/-- The byte that ends the text, if it is the last one of what is in front of the other parts. -/
def ending (front : List UInt8) : List UInt8 :=
  if front.getLast? = some endOfText then [endOfText] else []

theorem dropEndOfText_append_ending (front : List UInt8) :
    dropEndOfText front ++ ending front = front := by
  rw [dropEndOfText, ending]
  split
  · next hlast => exact List.dropLast_append_getLast? _ hlast
  · exact List.append_nil front

/-- A file with a record, cut into what is in front of the trailer, the block of the comment lines and
the record. What is stripped is all of it but the front, and the byte that ends the text there. -/
structure Reassembles (data : List UInt8) (r : SauceRecord) (front block raw : List UInt8) :
    Prop where
  data_eq : data = front ++ block ++ raw
  stripped : data = strip data (some r) ++ ending front ++ block ++ raw
  length_raw : raw.length = 128
  block_of_no_lines : r.commentLines = [] → block = []
  block_of_lines : r.commentLines ≠ [] →
    (block.length : Int) = 5 + 64 * r.comments ∧ commentMark <+: block

theorem blockSize_eq (count : Nat) : (blockSize count : Int) = 5 + 64 * count := by
  have hmark : commentMark.length = 5 := by decide +kernel
  rw [blockSize, hmark, lineSize]
  omega

theorem stripped_of_parts (hdata : data = front ++ block ++ raw) (hraw : raw.length = recordSize)
    (hblock : block.length = if r.commentLines = [] then 0 else blockSize r.commentLines.length) :
    data = strip data (some r) ++ ending front ++ block ++ raw := by
  have hstrip : strip data (some r) = dropEndOfText front := by
    rw [hdata, List.append_assoc, strip_append hraw hblock]
  rw [hstrip, dropEndOfText_append_ending, hdata]

/-- **A record that was read comes with no line or with all that it counts, and the file is the
stripped file with the trailer behind it.** -/
theorem reassembles_of_read? (h : read? data = some r) :
    (r.commentLines = [] ∨ (r.commentLines.length : Int) = r.comments) ∧
      ∃ front block raw, Reassembles data r front block raw := by
  obtain ⟨hroom, -, rfl⟩ := read?_eq_some_iff.mp h
  generalize hfront : data.take (data.length - recordSize) = front
  generalize hraw : data.drop (data.length - recordSize) = raw
  have hdata : data = front ++ raw := by rw [← hfront, ← hraw, List.take_append_drop]
  have hsize : raw.length = recordSize := by
    rw [← hraw, List.length_drop]
    omega
  by_cases hnone : (recordOf front raw).commentLines = []
  · refine ⟨.inl hnone, front, [], raw, ?_, ?_, hsize, fun _ => rfl, fun hlines => ?_⟩
    · rw [List.append_nil, hdata]
    · exact stripped_of_parts (by rw [List.append_nil, hdata]) hsize (by rw [if_pos hnone]; rfl)
    · exact absurd hnone hlines
  · -- the lines were read, so their block is in front of the record
    obtain ⟨hcount, before, block, hbefore, hblock, hmark⟩ :=
      (commentLines_cases front (fieldNumber ((raw.drop 104).take 1))).resolve_left hnone
    have hlines : (recordOf front raw).commentLines.length = fieldNumber ((raw.drop 104).take 1) :=
      hcount
    have hparts : data = before ++ block ++ raw := by rw [hdata, hbefore]
    refine ⟨.inr (congrArg Nat.cast hlines), before, block, raw, hparts, ?_, hsize,
      fun hnil => absurd hnil hnone, fun _ => ⟨?_, hmark⟩⟩
    · exact stripped_of_parts hparts hsize (by rw [if_neg hnone, hlines, hblock])
    · rw [hblock, blockSize_eq]
      rfl

/-- **Stripping takes away the trailer and nothing else.** A file holds a record exactly if it has
128 bytes at least and the last 128 begin with the mark. The comment lines of a record that was read
are none or as many as it counts; the file is the stripped file, the byte that ends the text if it
stands in front of the rest, the block of the lines if there are lines, and the record. -/
theorem read?_reassembles (data : List UInt8) :
    ((read? data).isSome ↔ 128 ≤ data.length ∧ recordMark <+: data.drop (data.length - 128)) ∧
      ∀ r, read? data = some r →
        (r.commentLines = [] ∨ (r.commentLines.length : Int) = r.comments) ∧
          ∃ front block raw, Reassembles data r front block raw := by
  refine ⟨?_, fun r h => reassembles_of_read? h⟩
  rw [Option.isSome_iff_exists]
  constructor
  · rintro ⟨r, h⟩
    obtain ⟨hroom, hmark, -⟩ := read?_eq_some_iff.mp h
    exact ⟨hroom, hmark⟩
  · rintro ⟨hroom, hmark⟩
    exact ⟨_, read?_eq_some_iff.mpr ⟨hroom, hmark, rfl⟩⟩

/-- A letter, the byte that ends the text, a line of dots, and a record that counts it. -/
theorem read?_reassembles_one_line :
    ∃ (data : List UInt8) (r : SauceRecord),
      data = 0x41 :: 0x1a :: (commentMark ++ List.replicate 64 0x2e ++
        (recordMark ++ List.replicate 99 0x20 ++ [0x01] ++ List.replicate 23 0x00)) ∧
      read? data = some r ∧ r.commentLines ≠ [] ∧ (r.commentLines.length : Int) = 1 ∧
      ∃ front block raw, Reassembles data r front block raw ∧ (block.length : Int) = 69 := by
  let data : List UInt8 := 0x41 :: 0x1a :: (commentMark ++ List.replicate 64 0x2e ++
    (recordMark ++ List.replicate 99 0x20 ++ [0x01] ++ List.replicate 23 0x00))
  obtain ⟨hread, hparts⟩ := read?_reassembles data
  have hsome : (read? data).isSome := hread.mpr ⟨by decide +kernel, by decide +kernel⟩
  obtain ⟨r, hr⟩ := Option.isSome_iff_exists.mp hsome
  have hr' : (read? data).map (fun r => (r.comments, decide (r.commentLines = []))) =
      some (1, false) := by decide +kernel
  rw [hr] at hr'
  obtain ⟨hcomments, hlines⟩ := Prod.mk.inj (Option.some.inj hr')
  have hne : r.commentLines ≠ [] := of_decide_eq_false hlines
  obtain ⟨hcount, front, block, raw, hwhole⟩ := hparts r hr
  refine ⟨data, r, rfl, hr, hne, ?_, front, block, raw, hwhole, ?_⟩
  · rw [hcount.resolve_left hne, hcomments]
  · rw [(hwhole.block_of_lines hne).1, hcomments]
    rfl

end AnsiArt.Sauce
