import AnsiArt.Proofs.Sauce.Trailer
import Mathlib.Algebra.BigOperators.Group.List.Basic
import Mathlib.Data.List.DropRight

/-!
# What a trailer says

A record is made of sixteen parts of fixed widths, laid end to end. Texts are padded on the right
with spaces and zero bytes, numbers begin with their least byte. Reading a part undoes laying it
out: of a text (`Sauce.fieldText_bytes`) if the text itself does not end like its padding, and of a
number (`Sauce.fieldNumber_littleEndian`) if it fits into its bytes. Where a part begins is the sum
of the widths in front of it (`Sauce.Contents.field`), and that is the only thing said about places.

Main statement: `Sauce.read?_strip_contents` — whatever was laid out behind a work is read again,
and what is left is the work.
-/

namespace AnsiArt

namespace CodePage437

/-- Decoding undoes encoding. -/
theorem decode_of_encode? {c : Char} {b : UInt8} (h : encode? c = some b) : decode b = c := by
  rw [encode?] at h
  split at h
  · next hlow =>
    obtain rfl := Option.some.inj h
    have hb : (UInt8.ofNat c.toNat).toNat = c.toNat :=
      UInt8.toNat_ofNat_of_lt (Nat.lt_trans hlow (by decide))
    rw [decode, dif_pos (by rwa [hb]), hb, Char.ofNat_toNat]
  · obtain ⟨i, hi, rfl⟩ := Option.map_eq_some_iff.mp h
    obtain ⟨hlt, hget⟩ := List.idxOf?_eq_some_iff.mp hi
    have hsize : i < 128 := by simpa using hlt
    have hb : (UInt8.ofNat (i + 128)).toNat = i + 128 :=
      UInt8.toNat_ofNat_of_lt (Nat.add_lt_add_right hsize 128)
    rw [decode, dif_neg (by omega)]
    simp only [hb, Nat.add_sub_cancel]
    exact hget.1

/-- A text made of characters of the code page is decoded from its bytes. -/
theorem decodeAll_filterMap_encode? {cs : List Char} (h : ∀ c ∈ cs, (encode? c).isSome) :
    decodeAll (cs.filterMap encode?) = cs := by
  induction cs with
  | nil => rfl
  | cons c cs ih =>
    obtain ⟨hc, hcs⟩ := List.forall_mem_cons.mp h
    obtain ⟨b, hb⟩ := Option.isSome_iff_exists.mp hc
    rw [List.filterMap_cons_some hb, decodeAll, List.map_cons, decode_of_encode? hb]
    rw [show (cs.filterMap encode?).map decode = cs from ih hcs]

theorem length_filterMap_encode? {cs : List Char} (h : ∀ c ∈ cs, (encode? c).isSome) :
    (cs.filterMap encode?).length = cs.length := by
  rw [← congrArg List.length (decodeAll_filterMap_encode? h), decodeAll, List.length_map]

end CodePage437

namespace Sauce

open CodePage437

/-! ### Texts -/

/-- A text that fits into a field, and the bytes that fill the field behind it: any mix of spaces
and zero bytes, of which the text itself has none at its end. -/
structure PaddedText (size : Nat) where
  text : String
  padding : List UInt8
  size_eq : text.toList.length + padding.length = size
  encodable : ∀ c ∈ text.toList, (encode? c).isSome
  blank : ∀ b ∈ padding, b = 0x20 ∨ b = 0x00
  trimmed : ∀ c ∈ text.toList.getLast?, isPadding c = false

/-- Whether a text and the padding behind it fill a field. -/
def fills (size : Nat) (text : String) (padding : List UInt8) : Bool :=
  text.toList.length + padding.length == size && text.toList.all (fun c => (encode? c).isSome) &&
    padding.all (fun b => b == 0x20 || b == 0x00) &&
    text.toList.getLast?.all (fun c => !isPadding c)

theorem fills_iff {size : Nat} {text : String} {padding : List UInt8} :
    fills size text padding = true ↔
      text.toList.length + padding.length = size ∧ (∀ c ∈ text.toList, (encode? c).isSome) ∧
        (∀ b ∈ padding, b = 0x20 ∨ b = 0x00) ∧ ∀ c ∈ text.toList.getLast?, isPadding c = false := by
  simp only [fills, Bool.and_eq_true, beq_iff_eq, List.all_eq_true, Bool.or_eq_true,
    Option.all_eq_true, Bool.not_eq_true', and_assoc, Option.mem_def]

/-- A text and the padding behind it, which were checked to fill a field. -/
def PaddedText.ofFills {size : Nat} (text : String) (padding : List UInt8)
    (h : fills size text padding = true) : PaddedText size where
  text := text
  padding := padding
  size_eq := (fills_iff.mp h).1
  encodable := (fills_iff.mp h).2.1
  blank := (fills_iff.mp h).2.2.1
  trimmed := (fills_iff.mp h).2.2.2

/-- The bytes of a padded text. -/
def PaddedText.bytes {size : Nat} (p : PaddedText size) : Vector UInt8 size where
  toArray := (p.text.toList.filterMap encode? ++ p.padding).toArray
  size_toArray := by
    rw [List.size_toArray, List.length_append, length_filterMap_encode? p.encodable, p.size_eq]

/-- What is padding is dropped from the right, up to a text that does not end like that. -/
theorem rdropWhile_append {α : Type} {p : α → Bool} {xs padding : List α}
    (hpadding : ∀ x ∈ padding, p x = true) (hlast : ∀ x ∈ xs.getLast?, p x = false) :
    (xs ++ padding).rdropWhile p = xs := by
  induction padding using List.reverseRecOn with
  | nil =>
    rw [List.append_nil, List.rdropWhile_eq_self_iff]
    intro hne
    rw [hlast _ (List.getLast?_eq_some_getLast hne)]
    decide
  | append_singleton padding x ih =>
    rw [List.forall_mem_append] at hpadding
    obtain ⟨hpadding, hx⟩ := hpadding
    rw [← List.append_assoc, List.rdropWhile_concat_pos _ _ _ (hx x List.mem_cons_self)]
    exact ih hpadding

/-- **Reading undoes padding.** -/
theorem fieldText_bytes {size : Nat} (p : PaddedText size) : fieldText p.bytes.toList = p.text := by
  have hbytes : decodeAll p.bytes.toList = p.text.toList ++ decodeAll p.padding := by
    show decodeAll (p.text.toList.filterMap encode? ++ p.padding) = _
    rw [decodeAll, List.map_append]
    exact congrArg (· ++ _) (decodeAll_filterMap_encode? p.encodable)
  have hpadding : ∀ c ∈ decodeAll p.padding, isPadding c = true := by
    intro c hc
    obtain ⟨b, hb, rfl⟩ := List.mem_map.mp hc
    rcases p.blank b hb with rfl | rfl <;> decide
  show String.ofList ((decodeAll p.bytes.toList).rdropWhile isPadding) = p.text
  rw [hbytes, rdropWhile_append hpadding p.trimmed, String.ofList_toList]

-- a zero byte is padding behind a text, but not inside it
example : fieldText [0x41, 0x00, 0x42, 0x20, 0x00] = "A\x00B" := by decide +kernel

/-! ### Numbers -/

/-- A number in the given count of bytes, the least byte first. -/
def littleEndian : Nat → Nat → List UInt8
  | 0, _ => []
  | k + 1, n => UInt8.ofNat (n % 256) :: littleEndian k (n / 256)

@[simp]
theorem length_littleEndian (k n : Nat) : (littleEndian k n).length = k := by
  induction k generalizing n with
  | zero => rfl
  | succ k ih => rw [littleEndian, List.length_cons, ih]

/-- **Reading undoes writing**, if the number fits. -/
theorem fieldNumber_littleEndian {k n : Nat} (h : n < 256 ^ k) :
    fieldNumber (littleEndian k n) = n := by
  induction k generalizing n with
  | zero =>
    rw [Nat.pow_zero, Nat.lt_one_iff] at h
    exact h.symm
  | succ k ih =>
    -- what is left for the higher bytes fits into them
    have hrest : n / 256 < 256 ^ k := Nat.div_lt_of_lt_mul (by rwa [← Nat.pow_succ'])
    have hleast : (UInt8.ofNat (n % 256)).toNat = n % 256 :=
      UInt8.toNat_ofNat_of_lt (Nat.mod_lt n (by decide))
    calc fieldNumber (littleEndian (k + 1) n)
      _ = (UInt8.ofNat (n % 256)).toNat + 256 * fieldNumber (littleEndian k (n / 256)) := rfl
      _ = n % 256 + 256 * (n / 256) := by rw [hleast, ih hrest]
      _ = n := Nat.mod_add_div n 256

/-! ### Records -/

/-- What a trailer says, with the padding of its texts. -/
structure Contents where
  version : PaddedText 2
  title : PaddedText 35
  author : PaddedText 20
  group : PaddedText 20
  date : PaddedText 8
  fileSize : UInt32
  dataType : UInt8
  fileType : UInt8
  typeInfo1 : UInt16
  typeInfo2 : UInt16
  typeInfo3 : UInt16
  typeInfo4 : UInt16
  flags : UInt8
  typeInfoText : PaddedText 22
  comments : List (PaddedText lineSize)
  length_comments : comments.length ≤ 255

theorem length_recordMark : recordMark.length = 5 := by decide +kernel

namespace Contents

/-- The record that means these contents. -/
def toRecord (c : Contents) : SauceRecord where
  version := c.version.text
  title := c.title.text
  author := c.author.text
  group := c.group.text
  date := c.date.text
  fileSize := c.fileSize.toNat
  dataType := c.dataType.toNat
  fileType := c.fileType.toNat
  typeInfo1 := c.typeInfo1.toNat
  typeInfo2 := c.typeInfo2.toNat
  typeInfo3 := c.typeInfo3.toNat
  typeInfo4 := c.typeInfo4.toNat
  comments := c.comments.length
  flags := c.flags.toNat
  typeInfoText := c.typeInfoText.text
  commentLines := c.comments.map (·.text)

/-- The parts of a record in their order. -/
def parts (c : Contents) : List (List UInt8) :=
  [recordMark, c.version.bytes.toList, c.title.bytes.toList, c.author.bytes.toList,
    c.group.bytes.toList, c.date.bytes.toList, littleEndian 4 c.fileSize.toNat,
    littleEndian 1 c.dataType.toNat, littleEndian 1 c.fileType.toNat,
    littleEndian 2 c.typeInfo1.toNat, littleEndian 2 c.typeInfo2.toNat,
    littleEndian 2 c.typeInfo3.toNat, littleEndian 2 c.typeInfo4.toNat,
    littleEndian 1 c.comments.length, littleEndian 1 c.flags.toNat, c.typeInfoText.bytes.toList]

/-- The widths of the parts of a record. -/
def widths : List Nat := [5, 2, 35, 20, 20, 8, 4, 1, 1, 2, 2, 2, 2, 1, 1, 22]

/-- Where a part of a record begins: behind the parts in front of it. -/
def start (i : Nat) : Nat := (widths.take i).foldr (· + ·) 0

variable (c : Contents)

theorem map_length_parts : c.parts.map List.length = widths := by
  simp only [parts, List.map_cons, List.map_nil, Vector.length_toList, length_littleEndian,
    length_recordMark, widths]

/-- Each part is found where the widths in front of it end. -/
theorem field (i : Nat) {part : List UInt8} {width : Nat} (hpart : c.parts[i]? = some part)
    (hwidth : widths[i]? = some width) : (c.parts.flatten.drop (start i)).take width = part := by
  obtain ⟨hi, rfl⟩ := List.getElem?_eq_some_iff.mp hpart
  -- the width of a part is its length, and its start the length of the parts before
  obtain rfl : c.parts[i].length = width := by
    rw [← map_length_parts c, List.getElem?_map, hpart] at hwidth
    exact Option.some.inj hwidth
  have hstart : start i = ((c.parts.map List.length).take i).sum := by
    rw [map_length_parts]
    rfl
  rw [hstart, List.drop_sum_flatten, List.drop_eq_getElem_cons hi, List.flatten_cons,
    List.take_left]

/-- A text is read from its part. -/
theorem text_field (i : Nat) {width : Nat} {p : PaddedText width}
    (hpart : c.parts[i]? = some p.bytes.toList) (hwidth : widths[i]? = some width) :
    fieldText ((c.parts.flatten.drop (start i)).take width) = p.text := by
  rw [c.field i hpart hwidth, fieldText_bytes]

/-- A number is read from its part. -/
theorem number_field (i : Nat) {width n : Nat} (hpart : c.parts[i]? = some (littleEndian width n))
    (hwidth : widths[i]? = some width) (hn : n < 256 ^ width) :
    fieldNumber ((c.parts.flatten.drop (start i)).take width) = n := by
  rw [c.field i hpart hwidth, fieldNumber_littleEndian hn]

theorem count_field :
    fieldNumber ((c.parts.flatten.drop 104).take 1) = c.comments.length :=
  c.number_field 13 rfl rfl (Nat.lt_succ_of_le c.length_comments)

/-- The parts of a record make up its bytes. -/
def record : Vector UInt8 recordSize where
  toArray := c.parts.flatten.toArray
  size_toArray := by
    rw [List.size_toArray, List.length_flatten, map_length_parts]
    rfl

/-- The trailer that says these contents. -/
def trailer : Trailer where
  lines := c.comments.map (·.bytes)
  record := c.record
  marked := List.prefix_append _ _
  count_eq := by
    rw [← fieldNumber_byte c.record (by decide), List.length_map]
    exact c.count_field

/-- The record that is read from the parts, with the comment lines in front of them. -/
theorem recordOf_parts {front : List UInt8}
    (hlines : commentLines front c.comments.length = c.comments.map (·.text)) :
    recordOf front c.parts.flatten = c.toRecord := by
  rw [recordOf, toRecord, SauceRecord.mk.injEq]
  -- field by field in the order of the parts, of which the mark is the first
  refine ⟨c.text_field 1 rfl rfl, c.text_field 2 rfl rfl, c.text_field 3 rfl rfl,
    c.text_field 4 rfl rfl, c.text_field 5 rfl rfl,
    congrArg Nat.cast (c.number_field 6 rfl rfl c.fileSize.toNat_lt),
    congrArg Nat.cast (c.number_field 7 rfl rfl c.dataType.toNat_lt),
    congrArg Nat.cast (c.number_field 8 rfl rfl c.fileType.toNat_lt),
    congrArg Nat.cast (c.number_field 9 rfl rfl c.typeInfo1.toNat_lt),
    congrArg Nat.cast (c.number_field 10 rfl rfl c.typeInfo2.toNat_lt),
    congrArg Nat.cast (c.number_field 11 rfl rfl c.typeInfo3.toNat_lt),
    congrArg Nat.cast (c.number_field 12 rfl rfl c.typeInfo4.toNat_lt),
    congrArg Nat.cast c.count_field,
    congrArg Nat.cast (c.number_field 14 rfl rfl c.flags.toNat_lt), c.text_field 15 rfl rfl, ?_⟩
  rw [c.count_field, hlines]

end Contents

/-- **What was laid out is read again**: behind any work, a trailer gives the record that it was
made for, and without it the file is the work. -/
theorem read?_strip_contents (art : List UInt8) (c : Contents) :
    read? (art ++ c.trailer.bytes) = some c.toRecord ∧
      strip (art ++ c.trailer.bytes) (read? (art ++ c.trailer.bytes)) = art := by
  refine ⟨?_, strip_append_trailer art c.trailer⟩
  have hlines : commentLines (art ++ endOfText :: c.trailer.block) c.comments.length =
      c.comments.map (·.text) := by
    -- to the comment lines, the byte that ends the text is part of the work
    have hblock := commentLines_append_block (art ++ [endOfText]) c.trailer
    rw [← List.append_cons, Contents.trailer, List.length_map, List.map_map] at hblock
    exact hblock.trans (List.map_congr_left fun p _ => fieldText_bytes p)
  rw [(read?_append_trailer art c.trailer).1]
  exact congrArg some (c.recordOf_parts hlines)

/-- Contents with texts that are padded with spaces, with zero bytes, with both, or not at all, and
two comments. One text holds a zero byte that is no padding, and one is nothing but padding. -/
def harbour : Contents where
  version := .ofFills "00" [] (by decide +kernel)
  title := .ofFills "Harbour\x00Night" (.replicate 22 0x20) (by decide +kernel)
  author := .ofFills "café" ([0x20, 0x00, 0x20] ++ .replicate 13 0x00) (by decide +kernel)
  group := .ofFills "" ([0x00, 0x20] ++ .replicate 18 0x00) (by decide +kernel)
  date := .ofFills "19960401" [] (by decide +kernel)
  fileSize := 70000
  dataType := 1
  fileType := 1
  typeInfo1 := 300
  typeInfo2 := 25
  typeInfo3 := 0
  typeInfo4 := 0
  flags := 2
  typeInfoText := .ofFills "IBM VGA" (.replicate 15 0x00) (by decide +kernel)
  comments :=
    [.ofFills " to be seen at 300 columns" (.replicate 37 0x20 ++ [0x00]) (by decide +kernel),
      .ofFills "" (.replicate 64 0x20) (by decide +kernel)]
  length_comments := by decide

/-- Behind a work that itself ends in the byte that ends a text, these contents are read again. -/
theorem read?_strip_contents_harbour :
    read? ([0x41, 0x0a, endOfText] ++ harbour.trailer.bytes) =
        some { version := "00", title := "Harbour\x00Night", author := "café", group := ""
               date := "19960401", fileSize := 70000, dataType := 1, fileType := 1
               typeInfo1 := 300, typeInfo2 := 25, comments := 2, flags := 2
               typeInfoText := "IBM VGA"
               commentLines := [" to be seen at 300 columns", ""] } ∧
      strip ([0x41, 0x0a, endOfText] ++ harbour.trailer.bytes)
          (read? ([0x41, 0x0a, endOfText] ++ harbour.trailer.bytes)) =
        [0x41, 0x0a, endOfText] :=
  read?_strip_contents [0x41, 0x0a, endOfText] harbour

end Sauce

end AnsiArt
