import AnsiArt.Text.Utf8

/-!
# Reading what was encoded

The reader takes the bytes of a text one by one and keeps what it knows of an unfinished character.
Each first byte says how many more are to come and narrows the range of the second byte; what is
encoded always lies in that range, since no character is encoded in a longer form than it needs, no
character is a surrogate, and none is beyond the last code point. So reading undoes encoding.

Main statements:

* `Utf8.decodeFrom_encodeChar` — the bytes of one character are read as that character;
* `Utf8.decode_toUTF8` — the bytes of a text are read as that text.
-/

namespace AnsiArt.Utf8

variable {position : Nat} {done : List Char}

/-! ### One byte -/

/-- A byte that neither ends nor breaks a character. -/
theorem decodeFrom_continue {p : Pending} {n : Nat} (hn : n < 256) (hlow : p.low ≤ n)
    (hhigh : n ≤ p.high) (hmore : p.more ≠ 1) (rest : List UInt8) :
    decodeFrom position (some p) done (UInt8.ofNat n :: rest) =
      decodeFrom (position + 1)
        (some { start := p.start, first := p.first, number := p.number * 64 + n % 64
                more := p.more - 1 }) done rest := by
  rw [decodeFrom, UInt8.toNat_ofNat_of_lt' hn, if_pos ⟨hlow, hhigh⟩]
  simp only [hmore, if_false]

/-- The last byte of a character. -/
theorem decodeFrom_last (c : Char) {p : Pending} {n : Nat} (hn : n < 256) (hlow : p.low ≤ n)
    (hhigh : n ≤ p.high) (hmore : p.more = 1) (hc : p.number * 64 + n % 64 = c.toNat)
    (rest : List UInt8) :
    decodeFrom position (some p) done (UInt8.ofNat n :: rest) =
      decodeFrom (position + 1) none (c :: done) rest := by
  rw [decodeFrom, UInt8.toNat_ofNat_of_lt' hn, if_pos ⟨hlow, hhigh⟩]
  simp only [hmore, if_true, hc, CodePoint.char?_toNat, Option.getD_some]

/-- A first byte above 127 is followed by others, the next of which has to be in a range. -/
theorem decodeFrom_first {p : Pending} {n : Nat} (hn : n < 256) (hbig : 128 ≤ n)
    (hp : Pending.ofFirst position (UInt8.ofNat n) = some p) (rest : List UInt8) :
    decodeFrom position none done (UInt8.ofNat n :: rest) =
      decodeFrom (position + 1) (some p) done rest := by
  rw [decodeFrom, UInt8.toNat_ofNat_of_lt' hn, if_neg (Nat.not_lt.mpr hbig), hp]

/-! ### The first byte of each length -/

theorem exists_ofFirst_two (position : Nat) {v : Nat} (h : 0x80 ≤ v) (h' : v < 0x800) :
    ∃ p, Pending.ofFirst position (UInt8.ofNat (v / 64 % 32 + 192)) = some p ∧
      p.number = v / 64 ∧ p.more = 1 ∧ p.low ≤ v % 64 + 128 ∧ v % 64 + 128 ≤ p.high := by
  have hn : v / 64 % 32 + 192 < 256 := by omega
  rw [Pending.ofFirst, UInt8.toNat_ofNat_of_lt' hn, if_pos (by omega)]
  refine ⟨_, rfl, ?_, rfl, ?_, ?_⟩ <;> simp only <;> omega

theorem exists_ofFirst_three (position : Nat) {v : Nat} (h : 0x800 ≤ v) (h' : v < 0x10000)
    (hvalid : v < 0xd800 ∨ 0xdfff < v) :
    ∃ p, Pending.ofFirst position (UInt8.ofNat (v / 4096 % 16 + 224)) = some p ∧
      p.number = v / 4096 ∧ p.more = 2 ∧ p.low ≤ v / 64 % 64 + 128 ∧
        v / 64 % 64 + 128 ≤ p.high := by
  have hn : v / 4096 % 16 + 224 < 256 := by omega
  rw [Pending.ofFirst, UInt8.toNat_ofNat_of_lt' hn, if_neg (by omega)]
  -- the range of the second byte leaves out small numbers first, and surrogates second
  split
  · refine ⟨_, rfl, ?_, rfl, ?_, ?_⟩ <;> simp only <;> omega
  split
  · refine ⟨_, rfl, ?_, rfl, ?_, ?_⟩ <;> simp only <;> omega
  · rw [if_pos (by omega)]
    refine ⟨_, rfl, ?_, rfl, ?_, ?_⟩ <;> simp only <;> omega

theorem exists_ofFirst_four (position : Nat) {v : Nat} (h : 0x10000 ≤ v) (h' : v < 0x110000) :
    ∃ p, Pending.ofFirst position (UInt8.ofNat (v / 262144 % 8 + 240)) = some p ∧
      p.number = v / 262144 ∧ p.more = 3 ∧ p.low ≤ v / 4096 % 64 + 128 ∧
        v / 4096 % 64 + 128 ≤ p.high := by
  have hn : v / 262144 % 8 + 240 < 256 := by omega
  rw [Pending.ofFirst, UInt8.toNat_ofNat_of_lt' hn, if_neg (by omega), if_neg (by omega),
    if_neg (by omega), if_neg (by omega)]
  -- here it leaves out small numbers first, and those beyond the last code point second
  split
  · refine ⟨_, rfl, ?_, rfl, ?_, ?_⟩ <;> simp only <;> omega
  split
  · refine ⟨_, rfl, ?_, rfl, ?_, ?_⟩ <;> simp only <;> omega
  · rw [if_pos (by omega)]
    refine ⟨_, rfl, ?_, rfl, ?_, ?_⟩ <;> simp only <;> omega

/-! ### Characters and texts -/

/-- **The bytes of a character are read as that character**, whatever follows. -/
theorem decodeFrom_encodeChar (position : Nat) (done : List Char) (c : Char) (rest : List UInt8) :
    ∃ position', decodeFrom position none done (String.utf8EncodeChar c ++ rest) =
      decodeFrom position' none (c :: done) rest := by
  have hvalid : c.toNat < 0xd800 ∨ 0xdfff < c.toNat ∧ c.toNat < 0x110000 := c.valid
  simp only [String.utf8EncodeChar, show c.val.toNat = c.toNat from rfl]
  generalize hv : c.toNat = v at hvalid
  split
  · have hn : v < 256 := by omega
    have hsmall : v < 0x80 := by omega
    refine ⟨position + 1, ?_⟩
    rw [List.singleton_append, decodeFrom, UInt8.toNat_ofNat_of_lt' hn, if_pos hsmall, ← hv,
      Char.ofNat_toNat]
  split
  · obtain ⟨p, hp, hnumber, hmore, hlow, hhigh⟩ :=
      exists_ofFirst_two position (show 0x80 ≤ v by omega) (by omega)
    refine ⟨position + 1 + 1, ?_⟩
    rw [List.cons_append, decodeFrom_first (by omega) (by omega) hp, List.singleton_append,
      decodeFrom_last c (by omega) hlow hhigh hmore (by omega)]
  split
  · obtain ⟨p, hp, hnumber, hmore, hlow, hhigh⟩ :=
      exists_ofFirst_three position (show 0x800 ≤ v by omega) (by omega) (by omega)
    refine ⟨position + 1 + 1 + 1, ?_⟩
    rw [List.cons_append, decodeFrom_first (by omega) (by omega) hp, List.cons_append,
      decodeFrom_continue (by omega) hlow hhigh (by omega), List.singleton_append,
      decodeFrom_last c (by omega) (by simp only; omega) (by simp only; omega) (by simp only; omega)
        (by simp only; omega)]
  · obtain ⟨p, hp, hnumber, hmore, hlow, hhigh⟩ :=
      exists_ofFirst_four position (show 0x10000 ≤ v by omega) (by omega)
    refine ⟨position + 1 + 1 + 1 + 1, ?_⟩
    rw [List.cons_append, decodeFrom_first (by omega) (by omega) hp, List.cons_append,
      decodeFrom_continue (by omega) hlow hhigh (by omega), List.cons_append,
      decodeFrom_continue (by omega) (by simp only; omega) (by simp only; omega)
        (by simp only; omega), List.singleton_append,
      decodeFrom_last c (by omega) (by simp only; omega) (by simp only; omega) (by simp only; omega)
        (by simp only; omega)]

theorem decodeFrom_flatMap (position : Nat) (done chars : List Char) :
    decodeFrom position none done (chars.flatMap String.utf8EncodeChar) =
      .ok (done.reverse ++ chars) := by
  induction chars generalizing position done with
  | nil => simp [decodeFrom]
  | cons c chars ih =>
    obtain ⟨position', hc⟩ :=
      decodeFrom_encodeChar position done c (chars.flatMap String.utf8EncodeChar)
    rw [List.flatMap_cons, hc, ih]
    simp

/-- A byte array is walked from the front; what was passed is kept in reverse. -/
theorem toList_loop (bytes : ByteArray) (i : Nat) (passed : List UInt8) :
    ByteArray.toList.loop bytes i passed = passed.reverse ++ bytes.data.toList.drop i := by
  fun_induction ByteArray.toList.loop bytes i passed with
  | case1 i passed hi ih =>
    have hlength : i < bytes.data.toList.length := by simpa using hi
    have hbyte : bytes.get! i = bytes.data.toList[i] := by simp [ByteArray.get!, hi]
    rw [ih, hbyte, List.drop_eq_getElem_cons hlength, List.reverse_cons, List.append_assoc,
      List.singleton_append]
  | case2 i passed hi =>
    have hend : bytes.data.toList.length ≤ i := by simpa using hi
    rw [List.drop_eq_nil_of_le hend, List.append_nil]

theorem toList_toUTF8 (text : String) :
    text.toUTF8.toList = text.toList.flatMap String.utf8EncodeChar := by
  have hchars : text.toUTF8 = (text.toList.flatMap String.utf8EncodeChar).toByteArray :=
    calc text.toUTF8 = (String.ofList text.toList).toByteArray := by
          rw [String.ofList_toList, String.toUTF8_eq_toByteArray]
      _ = (text.toList.flatMap String.utf8EncodeChar).toByteArray := rfl
  rw [hchars, ByteArray.toList, toList_loop, List.reverse_nil, List.nil_append, List.drop_zero,
    List.toList_data_toByteArray]

/-- **Reading undoes encoding.** -/
theorem decode_toUTF8 (text : String) : decode text.toUTF8.toList = .ok text.toList := by
  rw [toList_toUTF8, decode, decodeFrom_flatMap]
  rfl

end AnsiArt.Utf8
