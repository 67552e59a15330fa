import AnsiArt.Artwork
import AnsiArt.Proofs.Sauce.Trailer
import AnsiArt.Proofs.Stream.Chunks
import AnsiArt.Proofs.Stream.Totality

/-!
# Loading a file with a trailer

Two things keep a trailer off the screen. If metadata is asked for, the bytes of the trailer are
taken away, as many as its count says. If it is not, the trailer is parsed with the work, but it
begins with SUB, and that ends the text unless the work stops inside a control sequence or behind an
escape.

The record of the trailer gives the width if it is there to be read, unless a width is asked for.

Main statements:

* `Artwork.value_ofContent_strip` and `Artwork.value_ofContent_whole` — the two ways a file with a
  trailer is loaded;
* `Artwork.exists_ofContent_unlimited` — given room, every content is loaded;
* `Artwork.hidesTrailer_load` — all of this for the file at a path.
-/

namespace AnsiArt

/-! ### The width that a trailer asks for -/

namespace Sauce

namespace Trailer

/-- The first number that describes the work. -/
def typeInfo1 (t : Trailer) : Nat := t.record[96].toNat + 256 * t.record[97].toNat

/-- The width of the canvas for a work with this trailer: of characters, plain or escaped, the first
number, if it is not zero; otherwise the usual width. -/
def width (t : Trailer) : Int :=
  if t.record[94] = 1 ∧ (t.record[95] = 0 ∨ t.record[95] = 1) ∧ 0 < t.typeInfo1 then t.typeInfo1
  else 80

end Trailer

/-- The field of two bytes begins with the lower one. -/
theorem fieldNumber_word (record : Vector UInt8 recordSize) {i : Nat} (h : i + 1 < recordSize) :
    fieldNumber ((record.toList.drop i).take 2) =
      record[i].toNat + 256 * record[i + 1].toNat := by
  have hi : i < record.toList.length := by rw [Vector.length_toList]; omega
  have hnext : i + 1 < record.toList.length := by rwa [Vector.length_toList]
  rw [List.drop_eq_getElem_cons hi, List.drop_eq_getElem_cons hnext, List.take_succ_cons,
    List.take_succ_cons, List.take_zero, Vector.getElem_toList, Vector.getElem_toList]
  rfl

theorem canvasWidth_recordOf (front : List UInt8) (t : Trailer) :
    Artwork.canvasWidth (some (recordOf front t.record.toList)) = t.width := by
  have hdata : (recordOf front t.record.toList).dataType = t.record[94].toNat :=
    congrArg Nat.cast (fieldNumber_byte t.record (by decide))
  have hfile : (recordOf front t.record.toList).fileType = t.record[95].toNat :=
    congrArg Nat.cast (fieldNumber_byte t.record (by decide))
  have hnumber : (recordOf front t.record.toList).typeInfo1 = t.typeInfo1 :=
    congrArg Nat.cast (fieldNumber_word t.record (by decide))
  have hcondition : ((recordOf front t.record.toList).isText &&
      decide (0 < (recordOf front t.record.toList).typeInfo1)) = true ↔
        t.record[94] = 1 ∧ (t.record[95] = 0 ∨ t.record[95] = 1) ∧ 0 < t.typeInfo1 := by
    -- the fields of the record are numbers, and the bytes of the trailer are compared as such
    rw [SauceRecord.isText, SauceRecord.isCharacter, hdata, hfile, hnumber]
    simp only [← UInt8.toNat_inj, Bool.and_eq_true, Bool.or_eq_true, beq_iff_eq, decide_eq_true_eq,
      and_assoc]
    norm_cast
  rw [Artwork.canvasWidth, Option.bind_some, SauceRecord.canvasWidth, Trailer.width]
  by_cases h : t.record[94] = 1 ∧ (t.record[95] = 0 ∨ t.record[95] = 1) ∧ 0 < t.typeInfo1
  · rw [if_pos h, if_pos (hcondition.mpr h), hnumber]
    rfl
  · rw [if_neg h, if_neg (mt hcondition.mp h)]
    rfl

end Sauce

namespace Artwork

open Decoder Sauce

variable {room : Room} {files : FileTree} {path : FilePath} {o : LoadOptions}

/-- What is loaded if a work is drawn on a canvas of the given width and a record was found. -/
def loaded (room : Room) (art : List UInt8) (width : Int) (o : LoadOptions)
    (record : Option SauceRecord) : Except SizeError (Artwork × Option SauceRecord) :=
  (ofBytes room art width o.height o.palette).value.map (·, record)

/-! ### Drawing -/

theorem value_ofBytes {width height : Int} {start : Terminal}
    (h : Terminal.ofSize room width height = .ok start) (data : List UInt8)
    (palette : Option Palette) :
    (ofBytes room data width height palette).value =
      match (start.parse room data).shortage with
      | some s => .error (.noRoom s)
      | none => .ok ⟨(start.parse room data).terminal, Palette.orElse palette Palette.vga⟩ := by
  rw [ofBytes, blank, h]
  rfl

theorem value_ofBytes_of_error {width height : Int} {e : SizeError}
    (h : Terminal.ofSize room width height = .error e) (data : List UInt8)
    (palette : Option Palette) :
    (ofBytes room data width height palette).value = .error e := by
  rw [ofBytes, blank, h]
  rfl

/-- What is behind SUB is not drawn, if SUB ends the text or the text has ended before. -/
theorem value_ofBytes_append_substitute {art : List UInt8} {width height : Int}
    (h : ∀ start, Terminal.ofSize room width height = .ok start → start.TakesSubstitute room art)
    (behind : List UInt8) (palette : Option Palette) :
    (ofBytes room (art ++ byteSUB :: behind) width height palette).value =
      (ofBytes room art width height palette).value := by
  cases hstart : Terminal.ofSize room width height with
  | error e => rw [value_ofBytes_of_error hstart, value_ofBytes_of_error hstart]
  | ok start =>
    obtain ⟨hterminal, hshortage⟩ := Terminal.parse_append_substitute (h start hstart) behind
    rw [value_ofBytes hstart, value_ofBytes hstart, hterminal, hshortage]

/-- **Given room, every byte string draws something.** -/
theorem exists_ofBytes_unlimited {width height : Int} (hw : 0 < width) (hh : 0 ≤ height)
    (data : List UInt8) (palette : Option Palette) :
    ∃ art, (ofBytes .unlimited data width height palette).value = .ok art := by
  obtain ⟨start, hstart, hsound⟩ := Terminal.exists_ofSize_unlimited hw hh
  have hnonneg : start.canvas.cursor.Nonneg := ⟨hsound.x_nonneg, hsound.y_nonneg⟩
  rw [value_ofBytes hstart, (Terminal.parse_unlimited hnonneg data).2]
  exact ⟨_, rfl⟩

/-! ### The content of a file -/

/-- With metadata, a file with a trailer is loaded as its work, on a canvas of the width that the
trailer asks for. -/
theorem value_ofContent_strip (art : List UInt8) (t : Trailer) (h : o.useSauce = true) :
    (ofContent room path (art ++ t.bytes) o).value =
      loaded room art (o.width.getD t.width) o (read? (art ++ t.bytes)) := by
  have hwidth : canvasWidth (read? (art ++ t.bytes)) = t.width := by
    rw [(read?_append_trailer art t).1, canvasWidth_recordOf]
  rw [ofContent]
  simp only [h, if_true, strip_append_trailer, hwidth]
  rfl

/-- Without metadata, a file with a trailer is loaded as its work if SUB is taken for the end. -/
theorem value_ofContent_whole {art : List UInt8} (t : Trailer) (h : o.useSauce = false)
    (hart : ∀ start, Terminal.ofSize room (o.width.getD 80) o.height = .ok start →
      start.TakesSubstitute room art) :
    (ofContent room path (art ++ t.bytes) o).value = loaded room art (o.width.getD 80) o none := by
  rw [ofContent]
  simp only [h]
  -- no record was looked for, so nothing is taken away, and the trailer begins with SUB
  show (ofBytes room (art ++ byteSUB :: (t.block ++ t.record.toList)) (o.width.getD 80) o.height
    o.palette).value.map (·, none) = _
  rw [value_ofBytes_append_substitute hart, loaded]

/-- The width that a record asks for is positive, and so is the usual one. -/
theorem canvasWidth_pos (record : Option SauceRecord) : 0 < canvasWidth record := by
  cases record with
  | none => decide
  | some r =>
    rw [canvasWidth, Option.bind_some, SauceRecord.canvasWidth]
    split
    · next h =>
      rw [Bool.and_eq_true, decide_eq_true_eq] at h
      exact h.2
    · decide

/-- **Given room, every content is loaded.** -/
theorem exists_ofContent_unlimited (hw : ∀ w ∈ o.width, 0 < w) (hh : 0 ≤ o.height)
    (content : List UInt8) :
    ∃ work, (ofContent .unlimited path content o).value = .ok work := by
  -- whichever record is found, the width is positive
  have hwidth : ∀ record, 0 < o.width.getD (canvasWidth record) := by
    intro record
    cases h : o.width with
    | none => exact canvasWidth_pos record
    | some w => exact hw w h
  rw [ofContent]
  generalize (if o.useSauce = true then read? content else none) = record
  obtain ⟨art, hart⟩ := exists_ofBytes_unlimited (hwidth record) hh (strip content record) o.palette
  exact ⟨(art, record), congrArg (Except.map (·, record)) hart⟩

/-! ### The file at a path -/

/-- **A trailer is hidden when a file is loaded**, and given room, a file is always loaded. With
metadata, the terminal is the one on which the work alone is drawn, of the width that is asked for
or else the one of the trailer. Without, it is the same of the usual width, if the work leaves a
state in which SUB is the end. -/
theorem hidesTrailer_load {content : List UInt8} (hread : files.read path = .ok content)
    (room : Room) (o : LoadOptions) :
    (∀ art (t : Trailer), content = art ++ t.bytes →
      (o.useSauce = true → (load room files path o).value =
        (loaded room art (o.width.getD t.width) o (read? content)).mapError .size) ∧
      (o.useSauce = false →
        (∀ start, Terminal.ofSize room (o.width.getD 80) o.height = .ok start →
          start.TakesSubstitute room art) →
        (load room files path o).value =
          (loaded room art (o.width.getD 80) o none).mapError .size)) ∧
      ((∀ w ∈ o.width, 0 < w) → 0 ≤ o.height →
        ∃ work, (load .unlimited files path o).value = .ok work) := by
  have hload : ∀ room, (load room files path o).value =
      (ofContent room path content o).value.mapError .size := by
    intro room
    rw [load, hread]
  refine ⟨?_, ?_⟩
  · rintro art t rfl
    rw [hload]
    refine ⟨fun h => ?_, fun h hart => ?_⟩
    · rw [value_ofContent_strip art t h]
    · rw [value_ofContent_whole t h hart]
  · intro hw hh
    obtain ⟨work, hwork⟩ := exists_ofContent_unlimited hw hh content
    rw [hload, hwork]
    exact ⟨work, rfl⟩

/-- A trailer of one blank comment line and a record of escaped text of three columns. -/
def threeColumns : Trailer where
  lines := [Vector.replicate lineSize 0x20]
  record := ⟨(recordMark ++ List.replicate 89 0x20 ++ [0x01, 0x01, 0x03, 0x00] ++
    List.replicate 6 0x00 ++ 0x01 :: List.replicate 23 0x00).toArray, by decide +kernel⟩
  marked := by decide +kernel
  count_eq := by decide +kernel

/-- Four letters and a trailer that asks for three columns, loaded with metadata and without. -/
theorem hidesTrailer_load_three_columns :
    let content : List UInt8 := [0x41, 0x42, 0x43, 0x44] ++ threeColumns.bytes
    let files : FileTree := { label := "", entries := [(["work"], .file content)] }
    let path : FilePath := { parts := ["work"] }
    files.read path = .ok content ∧
      (load .unlimited files path {}).value =
        (loaded .unlimited [0x41, 0x42, 0x43, 0x44] 3 {} (read? content)).mapError .size ∧
      (load .unlimited files path { useSauce := false }).value =
        (loaded .unlimited [0x41, 0x42, 0x43, 0x44] 80 { useSauce := false } none).mapError .size ∧
      ∃ work, (load .unlimited files path {}).value = .ok work := by
  intro content files path
  have hread : files.read path = .ok content := rfl
  have hwidth : threeColumns.width = 3 := by decide +kernel
  have hart : ∀ start, Terminal.ofSize .unlimited 80 25 = .ok start →
      start.TakesSubstitute .unlimited [0x41, 0x42, 0x43, 0x44] := by
    intro start hstart
    obtain rfl := Except.ok.inj ((Terminal.ofSize_unlimited (by decide) 25).symm.trans hstart)
    rw [Terminal.TakesSubstitute, Terminal.feed_unlimited (Canvas.nonneg_blank _ 25)]
    exact .inl rfl
  obtain ⟨hwith, hroom⟩ := hidesTrailer_load hread .unlimited {}
  obtain ⟨hwithout, -⟩ := hidesTrailer_load hread .unlimited { useSauce := false }
  refine ⟨hread, ?_, (hwithout _ _ rfl).2 rfl hart, hroom (by simp) (by decide)⟩
  rw [(hwith _ _ rfl).1 rfl, ← hwidth]
  rfl

end Artwork

end AnsiArt
