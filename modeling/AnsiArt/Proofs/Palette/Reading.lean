import Mathlib.Algebra.Group.Nat.Defs
import AnsiArt.Proofs.Files.Places
import AnsiArt.Proofs.Palette.Spelling
import AnsiArt.Proofs.Text.Trimming

/-!
# What colours can be read

The reader of colours takes any text: it hands three pieces of at most two characters to the general
reader of integers. Two digits are at most 255. A piece with a sign has room for one digit, so there
is one way to miss the eight bits of a channel: a minus sign and a digit other than zero
(`Integer.IsNegative`).

Such a colour is still written in two characters for each channel and read back as it was, but what
is written is not accepted as a colour.

Main statements:

* `Integer.read_short` — what a piece of at most two characters is read as;
* `Colour.readFrom_of_ofHex` — what a colour is like that was read from a text.
-/

namespace AnsiArt

/-! ### Rows of digits -/

theorem Numeral.ofDigits_lt {base : Nat} {ds : List Nat} (h : ∀ d ∈ ds, d < base) :
    ofDigits base ds < base ^ ds.length := by
  induction ds using List.reverseRecOn with
  | nil => exact Nat.one_pos
  | append_singleton front last ih =>
    have hlast : last < base := h last (by simp)
    have hfront := ih fun d hd => h d (List.mem_append_left _ hd)
    rw [ofDigits_append, List.length_append, List.length_singleton, Nat.pow_succ]
    calc base * ofDigits base front + last
        < base * ofDigits base front + base := by omega
      _ = base * (ofDigits base front + 1) := by rw [Nat.mul_add, Nat.mul_one]
      _ ≤ base * base ^ front.length := Nat.mul_le_mul_left base hfront
      _ = base ^ front.length * base := Nat.mul_comm ..

namespace Integer

variable {base v : Nat} {d : Char} {text piece : List Char} {ds : List Nat} {n : Int}

/-- A first digit keeps the bounds of those behind it. -/
theorem digits?_cons_bounds {c : Char} {rest : List Char}
    (hrest : ∀ {more : List Nat}, moreDigits? base rest = some more →
      more.length ≤ rest.length ∧ ∀ d ∈ more, d < base)
    (h : digits? base (c :: rest) = some ds) :
    ds.length ≤ (c :: rest).length ∧ ∀ d ∈ ds, d < base := by
  obtain ⟨d, hd, h⟩ := Option.bind_eq_some_iff.mp h
  obtain ⟨more, hmore, h⟩ := Option.bind_eq_some_iff.mp h
  cases h
  obtain ⟨hlength, hall⟩ := hrest hmore
  exact ⟨Nat.succ_le_succ hlength, List.forall_mem_cons.mpr ⟨digit?_lt hd, hall⟩⟩

/-- A row of digits is no longer than its text, and each of them is less than the base. -/
theorem moreDigits?_bounds (h : moreDigits? base text = some ds) :
    ds.length ≤ text.length ∧ ∀ d ∈ ds, d < base := by
  induction text using moreDigits?.induct generalizing ds with
  | case1 =>
    cases h
    exact ⟨Nat.le_refl _, List.forall_mem_nil _⟩
  | case2 c rest ih =>
    -- the underscore makes the text longer, but not the row
    rw [moreDigits?] at h
    obtain ⟨hlength, hall⟩ := digits?_cons_bounds ih h
    exact ⟨Nat.le_succ_of_le hlength, hall⟩
  | case3 c rest hunderscore ih =>
    rw [moreDigits?] at h
    · exact digits?_cons_bounds ih h
    · exact hunderscore

theorem digits?_bounds (h : digits? base text = some ds) :
    ds.length ≤ text.length ∧ ∀ d ∈ ds, d < base := by
  cases text with
  | nil => cases h
  | cons c rest => exact digits?_cons_bounds moreDigits?_bounds h

theorem length_dropMark_le (base : Nat) (text : List Char) :
    (dropMark base text).length ≤ text.length := by
  unfold dropMark
  split
  · next m rest =>
    split
    · -- the mark and the underscore behind it are left out
      split
      · exact Nat.le_add_right _ 3
      · exact Nat.le_add_right _ 2
    · exact Nat.le_refl _
  · exact Nat.le_refl _

/-! ### Pieces of two characters -/

/-- A piece that spells a negative amount: a minus sign and a digit other than zero. -/
def IsNegative (piece : List Char) : Prop :=
  ∃ d v, piece = ['-', d] ∧ digit? 16 d = some v ∧ 0 < v

/-- The first character decides whether a number is negative. -/
theorem eq_cons_of_splitSign (h : (splitSign text).1 = true) :
    text = '-' :: (splitSign text).2 := by
  unfold splitSign at h ⊢
  split at h
  · rfl
  · cases h
  · cases h

theorem length_splitSign_le (text : List Char) : (splitSign text).2.length ≤ text.length := by
  unfold splitSign
  split
  · exact Nat.le_succ _
  · exact Nat.le_succ _
  · exact Nat.le_refl _

/-- A number is read as the value of its digits behind the sign. -/
theorem exists_digits_of_read (h : read 16 text = .ok n) :
    ∃ ds, digits? 16 (dropMark 16 (splitSign (trimWith surroundsNumber text)).2) = some ds ∧
      n = if (splitSign (trimWith surroundsNumber text)).1 then -(Numeral.ofDigits 16 ds : Int)
        else Numeral.ofDigits 16 ds := by
  unfold read at h
  split at h
  · cases h
  · next negative ds hsigned =>
    obtain ⟨ds', hdigits, heq⟩ := Option.map_eq_some_iff.mp hsigned
    cases heq
    rw [if_neg (by decide)] at h
    exact ⟨ds, hdigits, (Except.ok.inj h).symm⟩

/-- A single digit with nothing around it. -/
theorem digits?_dropMark_singleton :
    digits? 16 (dropMark 16 [d]) = some ds ↔ ∃ v, digit? 16 d = some v ∧ ds = [v] := by
  have hmark : dropMark 16 [d] = [d] := by
    unfold dropMark
    split
    · next heq => cases heq
    · rfl
  cases hd : digit? 16 d with
  | none => simp [hmark, digits?, hd]
  | some v => simp [hmark, digits?, moreDigits?, hd, eq_comm]

/-- A minus sign in front of a single digit gives its value the sign. -/
theorem eq_neg_of_read_minus (hd : digit? 16 d = some v) (h : read 16 ['-', d] = .ok n) :
    n = -v := by
  obtain ⟨ds, hdigits, hn⟩ := exists_digits_of_read h
  have hsign : surroundsNumber '-' = false := by decide
  cases hblank : surroundsNumber d with
  | true =>
    -- a blank would be trimmed, and the sign would stand alone
    have htrim : trimWith surroundsNumber ['-', d] = ['-'] := by
      simp [trimWith, hsign, hblank]
    rw [htrim] at hdigits
    cases hdigits
  | false =>
    have htrim : trimWith surroundsNumber ['-', d] = ['-', d] := by
      simp [trimWith, hsign, hblank]
    rw [htrim] at hdigits hn
    obtain ⟨v', hv', rfl⟩ := digits?_dropMark_singleton.mp hdigits
    obtain rfl : v = v' := Option.some.inj (hd.symm.trans hv')
    rw [hn]
    simp [splitSign, Numeral.ofDigits]

/-- **A piece of at most two characters is read as a number of eight bits, or it is a minus sign and a
digit.** -/
theorem read_short (hlength : piece.length ≤ 2) (h : read 16 piece = .ok n) :
    (0 ≤ n ∧ n < 256) ∨ ∃ d v, piece = ['-', d] ∧ digit? 16 d = some v ∧ n = -v := by
  obtain ⟨ds, hdigits, hn⟩ := exists_digits_of_read h
  have hpart := trimWith_isInfix surroundsNumber piece
  have hshort : (trimWith surroundsNumber piece).length ≤ 2 :=
    Nat.le_trans hpart.length_le hlength
  generalize trimWith surroundsNumber piece = trimmed at hdigits hn hpart hshort
  cases hnegative : (splitSign trimmed).1 with
  | false =>
    -- without a minus sign, at most two digits are read
    refine .inl ?_
    obtain ⟨hcount, hall⟩ := digits?_bounds hdigits
    have htwo : ds.length ≤ 2 := by
      refine Nat.le_trans hcount (Nat.le_trans (length_dropMark_le ..) ?_)
      exact Nat.le_trans (length_splitSign_le trimmed) hshort
    have hvalue : Numeral.ofDigits 16 ds < 256 :=
      calc Numeral.ofDigits 16 ds
          < 16 ^ ds.length := Numeral.ofDigits_lt hall
        _ ≤ 16 ^ 2 := Nat.pow_le_pow_right (by decide) htwo
    simp only [hnegative, Bool.false_eq_true, if_false] at hn
    omega
  | true =>
    refine .inr ?_
    have htrimmed := eq_cons_of_splitSign hnegative
    -- behind the sign there is room for one digit, and no room for a blank that was trimmed
    match hrest : (splitSign trimmed).2 with
    | [] =>
      rw [hrest] at hdigits
      cases hdigits
    | [d] =>
      rw [hrest] at hdigits htrimmed
      obtain ⟨v, hv, rfl⟩ := digits?_dropMark_singleton.mp hdigits
      have hpiece : piece = trimmed := by
        refine (hpart.eq_of_length ?_).symm
        rw [htrimmed] at hpart ⊢
        exact Nat.le_antisymm hpart.length_le hlength
      refine ⟨d, v, hpiece.trans htrimmed, hv, ?_⟩
      simpa [hnegative, Numeral.ofDigits] using hn
    | d :: d' :: rest =>
      rw [hrest] at htrimmed
      rw [htrimmed] at hshort
      simp only [List.length_cons] at hshort
      omega

/-- A piece is read as a negative number exactly if it spells a negative amount. -/
theorem neg_iff_isNegative (hlength : piece.length ≤ 2) (h : read 16 piece = .ok n) :
    n < 0 ↔ IsNegative piece := by
  constructor
  · intro hn
    rcases read_short hlength h with hbounds | ⟨d, v, rfl, hv, rfl⟩
    · omega
    · exact ⟨d, v, rfl, hv, by omega⟩
  · rintro ⟨d, v, rfl, hv, hpos⟩
    have hn := eq_neg_of_read_minus hv h
    omega

/-- No piece is read as a number below that of a minus sign and the greatest digit, or above that of
two digits. -/
theorem bounds_of_read_short (hlength : piece.length ≤ 2) (h : read 16 piece = .ok n) :
    -16 < n ∧ n < 256 := by
  rcases read_short hlength h with hbounds | ⟨d, v, rfl, hv, rfl⟩
  · omega
  · have hlt := digit?_lt hv
    omega

end Integer

namespace Colour

variable {n : Int} {c : Colour} {text : String}

/-! ### Channels -/

/-- How a channel is written that was read from a piece: in two characters, which are read back as
the channel, and of which the first is no mark of a colour, but a minus sign if the channel is
negative. -/
theorem exists_byte (h : -16 < n ∧ n < 256) :
    ∃ a b, (Hex.byte n).toList = [a, b] ∧ a ≠ '#' ∧ (n < 0 → a = '-') ∧
      Integer.read 16 [a, b] = .ok n := by
  by_cases hn : 0 ≤ n
  · obtain ⟨m, rfl⟩ := Int.eq_ofNat_of_zero_le hn
    obtain ⟨a, b, hbyte, hchannel⟩ := isChannel_byte (n := m) (by omega)
    have hread := hchannel.read_eq
    obtain ⟨_, _, hfirst, -, -⟩ := hchannel
    obtain ⟨-, -, -, -, -, hmark⟩ := hfirst.plain
    exact ⟨a, b, hbyte, hmark, fun hneg => absurd hn (Int.not_le.mpr hneg), hread⟩
  · have all : ∀ v : Fin 16, 0 < v.val →
        (Hex.byte (-(v.val : Int))).toList = ['-', Nat.digitChar v] ∧
          Integer.read 16 ['-', Nat.digitChar v] = .ok (-(v.val : Int)) := by
      decide +kernel
    obtain ⟨v, hv⟩ := Int.exists_eq_neg_ofNat (Int.le_of_lt (Int.not_le.mp hn))
    subst hv
    obtain ⟨hbyte, hread⟩ := all ⟨v, by omega⟩ (by simp only; omega)
    exact ⟨'-', Nat.digitChar v, hbyte, by decide, fun _ => rfl, hread⟩

/-! ### Texts -/

/-- The pieces of a text that are read as channels. -/
def pieces (text : String) : List (List Char) :=
  let digits := expandShort (text.toList.dropWhile (· == '#'))
  [digits.take 2, (digits.drop 2).take 2, (digits.drop 4).take 2]

/-- A colour is read from the pieces of a text, each of which has at most two characters. -/
theorem exists_pieces_of_ofHex (h : ofHex text = .ok c) :
    ∃ red green blue, pieces text = [red, green, blue] ∧
      (red.length ≤ 2 ∧ Integer.read 16 red = .ok c.red) ∧
      (green.length ≤ 2 ∧ Integer.read 16 green = .ok c.green) ∧
      (blue.length ≤ 2 ∧ Integer.read 16 blue = .ok c.blue) := by
  obtain ⟨red, hred, h⟩ := exists_of_bind_eq_ok h
  obtain ⟨green, hgreen, h⟩ := exists_of_bind_eq_ok h
  obtain ⟨blue, hblue, h⟩ := exists_of_bind_eq_ok h
  cases h
  exact ⟨_, _, _, rfl, ⟨List.length_take_le .., hred⟩, ⟨List.length_take_le .., hgreen⟩,
    List.length_take_le .., hblue⟩

/-- What a colour is like that was read from a text. -/
structure ReadFrom (text : String) (c : Colour) : Prop where
  /-- It has channels of eight bits exactly if no piece of the text spells a negative amount. -/
  valid_iff : c.Valid ↔ ∀ piece ∈ pieces text, ¬Integer.IsNegative piece
  /-- A channel that has no eight bits is negative, and above -16. -/
  bounds : ∀ n ∈ [c.red, c.green, c.blue], -16 < n ∧ n < 256
  /-- It is written in seven characters, the first of which is the mark. -/
  length_hex : c.hex.toList.length = 7
  mark_hex : c.hex.toList.head? = some '#'
  /-- What is written is accepted as a colour exactly if the channels have eight bits. -/
  accepts_iff : Palette.isHexColour c.hex.toList = true ↔ c.Valid
  /-- What is written is read back, whatever the channels are. -/
  ofHex_hex : ofHex c.hex = .ok c

/-- The written form of a colour whose channels are not too small or too large. -/
theorem exists_hex (hred : -16 < c.red ∧ c.red < 256) (hgreen : -16 < c.green ∧ c.green < 256)
    (hblue : -16 < c.blue ∧ c.blue < 256) :
    ∃ digits : List Char, c.hex.toList = '#' :: digits ∧ digits.length = 6 ∧
      (¬c.Valid → '-' ∈ digits) ∧ ofHex c.hex = .ok c := by
  obtain ⟨r, r', er, nr, mr, vr⟩ := exists_byte hred
  obtain ⟨g, g', eg, -, mg, vg⟩ := exists_byte hgreen
  obtain ⟨b, b', eb, -, mb, vb⟩ := exists_byte hblue
  have hhex : c.hex.toList = ['#', r, r', g, g', b, b'] := by
    simp [hex, String.toList_append, er, eg, eb]
  refine ⟨_, hhex, rfl, fun hvalid => ?_, ?_⟩
  · -- some channel is negative, and the minus sign is in front of its digit
    by_contra hminus
    have hnonneg {n : Int} {a : Char} (ha : n < 0 → a = '-') (hne : a ≠ '-') : 0 ≤ n :=
      Int.not_lt.mp fun hn => hne (ha hn)
    simp only [List.mem_cons, not_or] at hminus
    obtain ⟨hr, -, hg, -, hb, -⟩ := hminus
    exact hvalid ⟨⟨hnonneg mr (Ne.symm hr), hred.2⟩, ⟨hnonneg mg (Ne.symm hg), hgreen.2⟩,
      hnonneg mb (Ne.symm hb), hblue.2⟩
  · simp [ofHex, hhex, expandShort, nr, vr, vg, vb, bind, Except.bind, pure, Except.pure]

/-- **What is read as a colour.** A colour that was read from a text has channels of eight bits,
unless some piece of the text is a minus sign and a digit other than zero. In either case it is
written in seven characters that are read back as the same colour; but with a negative channel these
are not accepted as a colour. -/
theorem readFrom_of_ofHex (h : ofHex text = .ok c) : ReadFrom text c := by
  obtain ⟨red, green, blue, hpieces, ⟨hred, hr⟩, ⟨hgreen, hg⟩, hblue, hb⟩ :=
    exists_pieces_of_ofHex h
  have hredBounds := Integer.bounds_of_read_short hred hr
  have hgreenBounds := Integer.bounds_of_read_short hgreen hg
  have hblueBounds := Integer.bounds_of_read_short hblue hb
  obtain ⟨digits, hhex, hlength, hminus, hread⟩ := exists_hex hredBounds hgreenBounds hblueBounds
  refine
    { valid_iff := ?_
      bounds := by simp [hredBounds, hgreenBounds, hblueBounds]
      length_hex := by rw [hhex, List.length_cons, hlength]
      mark_hex := by rw [hhex, List.head?_cons]
      accepts_iff := ⟨fun haccepted => ?_, fun hvalid => ?_⟩
      ofHex_hex := hread }
  · -- a channel of these has eight bits exactly if it is not negative
    have hr' := Integer.neg_iff_isNegative hred hr
    have hg' := Integer.neg_iff_isNegative hgreen hg
    have hb' := Integer.neg_iff_isNegative hblue hb
    simp only [hpieces, List.forall_mem_cons, ← hr', ← hg', ← hb', Valid]
    simp only [List.not_mem_nil, false_implies, implies_true, and_true]
    omega
  · by_contra hvalid
    -- the check looks at every character behind the mark, and the minus sign is no digit
    rw [hhex] at haccepted
    simp only [Palette.isHexColour, Bool.and_eq_true, List.all_eq_true] at haccepted
    exact absurd (haccepted.2 '-' (hminus hvalid)) (by decide)
  · exact Palette.isHexColour_iff.mpr ⟨c, spells_hex hvalid⟩

/-- A plus sign, a blank and a zero with a minus sign in front are read as channels of eight bits. -/
theorem readFrom_of_ofHex_signs :
    ∃ c, ofHex "#+f 5-0" = .ok c ∧ c = ⟨15, 5, 0⟩ ∧ ReadFrom "#+f 5-0" c ∧ c.Valid ∧
      c.hex = "#0f0500" := by
  have h : ofHex "#+f 5-0" = .ok ⟨15, 5, 0⟩ := by decide +kernel
  exact ⟨_, h, rfl, readFrom_of_ofHex h, by simp [Valid], by decide +kernel⟩

/-- Three minus signs are read as a colour without eight bits, and what is written for it is not
accepted. -/
theorem not_valid_ofHex_minus :
    ∃ c, ofHex "-1-1-1" = .ok c ∧ ¬c.Valid ∧ c.hex = "#-1-1-1" ∧
      Palette.isHexColour c.hex.toList = false := by
  have h : ofHex "-1-1-1" = .ok ⟨-1, -1, -1⟩ := by decide +kernel
  exact ⟨_, h, by simp [Valid], by decide +kernel, by decide +kernel⟩

end Colour

end AnsiArt
