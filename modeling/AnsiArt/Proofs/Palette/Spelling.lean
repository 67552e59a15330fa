import AnsiArt.Palette.Overlay

/-!
# How colours are spelled

A definition of a palette spells each colour as a mark and three or six hexadecimal digits. The check
of a definition looks at the characters; the reader of colours drops marks, doubles short forms and
hands pairs of characters to the general reader of integers, which knows blanks, signs, underscores
and marks of its own. Spelling is the relation between a colour and a text (`Colour.Spells`) to which
both are tied.

Main statements:

* `Palette.isHexColour_iff` — the check accepts exactly the texts that spell a colour;
* `Colour.ofHex_of_spells` — and such a text is read as the colour that it spells;
* `Colour.spells_hex` — a colour of eight bits is written in a form that spells it.
-/

namespace AnsiArt

namespace Colour

/-! ### Digits -/

/-- A hexadecimal digit of value `v`, small or capital. -/
def IsDigit (v : Nat) (d : Char) : Prop :=
  "0123456789abcdef".toList[v]? = some d ∨ "0123456789ABCDEF".toList[v]? = some d

variable {v : Nat} {d d' : Char}

theorem IsDigit.lt (h : IsDigit v d) : v < 16 := by
  rcases h with h | h
  · exact (List.getElem?_eq_some_iff.mp h).1
  · exact (List.getElem?_eq_some_iff.mp h).1

/-- What holds of each of the sixteen digits in both forms holds of every digit. -/
theorem IsDigit.induction {P : Nat → Char → Prop}
    (small : ∀ e ∈ "0123456789abcdef".toList.zipIdx, P e.2 e.1)
    (capital : ∀ e ∈ "0123456789ABCDEF".toList.zipIdx, P e.2 e.1)
    (h : IsDigit v d) : P v d := by
  rcases h with h | h
  · exact small (d, v) (List.mem_zipIdx_iff_getElem?.mpr h)
  · exact capital (d, v) (List.mem_zipIdx_iff_getElem?.mpr h)

/-- The general reader of integers gives a digit its value. -/
theorem IsDigit.digit?_eq (h : IsDigit v d) : digit? 16 d = some v :=
  h.induction (P := fun v d => digit? 16 d = some v) (by decide +kernel) (by decide +kernel)

/-- No digit is a blank, a sign, or the letter in the mark of base 16, nor is it the mark of a
colour. -/
theorem IsDigit.plain (h : IsDigit v d) :
    Integer.surroundsNumber d = false ∧ d ≠ '-' ∧ d ≠ '+' ∧ d ≠ 'x' ∧ d ≠ 'X' ∧ d ≠ '#' :=
  h.induction
    (P := fun _ d => Integer.surroundsNumber d = false ∧ d ≠ '-' ∧ d ≠ '+' ∧ d ≠ 'x' ∧ d ≠ 'X' ∧
      d ≠ '#')
    (by decide +kernel) (by decide +kernel)

theorem isDigit_digitChar (h : v < 16) : IsDigit v (Nat.digitChar v) := by
  have all : ∀ v : Fin 16, "0123456789abcdef".toList[v.val]? = some (Nat.digitChar v) := by decide
  exact .inl (all ⟨v, h⟩)

/-- The characters that the check admits are the digits. -/
theorem isHexDigit_iff : Palette.isHexDigit d = true ↔ ∃ v, IsDigit v d := by
  constructor
  · intro h
    have hsmall : d.toNat < 128 := by
      simp only [Palette.isHexDigit, Bool.or_eq_true, Bool.and_eq_true, decide_eq_true_eq] at h
      have hle {last : Char} (hlast : last.toNat < 128) (hd : d ≤ last) : d.toNat < 128 :=
        Nat.lt_of_le_of_lt (UInt32.le_iff_toNat_le.mp hd) hlast
      rcases h with (⟨-, hd⟩ | ⟨-, hd⟩) | ⟨-, hd⟩
      · exact hle (by decide) hd
      · exact hle (by decide) hd
      · exact hle (by decide) hd
    -- among the characters of ASCII the digits are found by looking at all of them
    have all : ∀ n : Fin 128, Palette.isHexDigit (Char.ofNat n) = true →
        ∃ v : Fin 16, "0123456789abcdef".toList[v.val]? = some (Char.ofNat n) ∨
          "0123456789ABCDEF".toList[v.val]? = some (Char.ofNat n) := by
      decide +kernel
    obtain ⟨v, hv⟩ := all ⟨d.toNat, hsmall⟩ (by rwa [Char.ofNat_toNat])
    rw [Char.ofNat_toNat] at hv
    exact ⟨v, hv⟩
  · rintro ⟨v, h⟩
    exact h.induction (P := fun _ d => Palette.isHexDigit d = true) (by decide +kernel)
      (by decide +kernel)

/-! ### Channels -/

/-- Two digits spell the amount of a channel. -/
def IsChannel (n : Int) (d d' : Char) : Prop :=
  ∃ v v', IsDigit v d ∧ IsDigit v' d' ∧ n = (16 * v + v' : Nat)

variable {n : Int}

theorem IsChannel.bounds (h : IsChannel n d d') : 0 ≤ n ∧ n < 256 := by
  obtain ⟨v, v', hv, hv', rfl⟩ := h
  have := hv.lt
  have := hv'.lt
  omega

/-- **Two digits are read as the channel that they spell**, nothing else being taken for part of a
number. -/
theorem IsChannel.read_eq (h : IsChannel n d d') : Integer.read 16 [d, d'] = .ok n := by
  obtain ⟨v, v', hv, hv', rfl⟩ := h
  obtain ⟨hblank, hminus, hplus, -, -, -⟩ := hv.plain
  obtain ⟨hblank', -, -, hx, hX, -⟩ := hv'.plain
  have htrim : trimWith Integer.surroundsNumber [d, d'] = [d, d'] := by
    simp [trimWith, hblank, hblank']
  have hsign : Integer.splitSign [d, d'] = (false, [d, d']) := by
    unfold Integer.splitSign
    split
    · next heq => exact absurd (List.cons.inj heq).1 hminus
    · next heq => exact absurd (List.cons.inj heq).1 hplus
    · rfl
  have hmark : Integer.dropMark 16 [d, d'] = [d, d'] := by
    unfold Integer.dropMark
    split
    · next m rest heq =>
      obtain ⟨rfl, rfl, rfl⟩ : d = '0' ∧ m = d' ∧ rest = [] := by simpa [eq_comm] using heq
      rw [if_neg fun hletter => hletter.2.elim hx hX]
    · rfl
  have hdigits : Integer.digits? 16 [d, d'] = some [v, v'] := by
    simp [Integer.digits?, Integer.moreDigits?, hv.digit?_eq, hv'.digit?_eq]
  simp [Integer.read, Integer.signedDigits?, htrim, hsign, hmark, hdigits, Numeral.ofDigits]

/-- A channel of eight bits is written as two digits that spell it. -/
theorem isChannel_byte {n : Nat} (h : n < 256) :
    ∃ d d', (Hex.byte n).toList = [d, d'] ∧ IsChannel n d d' := by
  refine ⟨Nat.digitChar (n / 16), Nat.digitChar (n % 16), ?_, n / 16, n % 16,
    isDigit_digitChar (by omega), isDigit_digitChar (by omega), by omega⟩
  have hsign : ¬ (n : Int) < 0 := by omega
  rw [Hex.byte, Hex.padded, if_neg hsign, String.toList_ofList, Int.natAbs_natCast, Hex.natDigits,
    Nat.toDigits_eq_if (by decide)]
  by_cases hn : n < 16
  · -- one digit behind a zero
    rw [if_pos hn, Nat.div_eq_of_lt hn, Nat.mod_eq_of_lt hn]
    rfl
  · rw [if_neg hn, Nat.toDigits_of_lt_base (by omega)]
    rfl

/-! ### Colours -/

/-- The texts that spell a colour: a mark, and two digits for each channel or one that stands for two
equal ones. -/
inductive Spells : Colour → List Char → Prop
  | long {c : Colour} {r r' g g' b b' : Char} (red : IsChannel c.red r r')
      (green : IsChannel c.green g g') (blue : IsChannel c.blue b b') :
      Spells c ['#', r, r', g, g', b, b']
  | short {c : Colour} {r g b : Char} (red : IsChannel c.red r r) (green : IsChannel c.green g g)
      (blue : IsChannel c.blue b b) : Spells c ['#', r, g, b]

variable {c : Colour} {text : List Char}

theorem Spells.valid (h : Spells c text) : c.Valid := by
  cases h with
  | long red green blue => exact ⟨red.bounds, green.bounds, blue.bounds⟩
  | short red green blue => exact ⟨red.bounds, green.bounds, blue.bounds⟩

/-- The mark is dropped and nothing behind it, and in both forms six digits are left. -/
theorem Spells.exists_digits (h : Spells c text) : ∃ r r' g g' b b' : Char,
    expandShort (text.dropWhile (· == '#')) = [r, r', g, g', b, b'] ∧
      IsChannel c.red r r' ∧ IsChannel c.green g g' ∧ IsChannel c.blue b b' := by
  have hmark {n : Int} {d d' : Char} (hd : IsChannel n d d') : d ≠ '#' := by
    obtain ⟨v, v', hv, -, -⟩ := hd
    exact hv.plain.2.2.2.2.2
  cases h with
  | long red green blue =>
    exact ⟨_, _, _, _, _, _, by simp [expandShort, hmark red], red, green, blue⟩
  | short red green blue =>
    exact ⟨_, _, _, _, _, _, by simp [expandShort, hmark red], red, green, blue⟩

/-- **A text that spells a colour is read as this colour.** -/
theorem ofHex_of_spells {s : String} (h : Spells c s.toList) : ofHex s = .ok c := by
  obtain ⟨r, r', g, g', b, b', hdigits, red, green, blue⟩ := h.exists_digits
  simp [ofHex, hdigits, red.read_eq, green.read_eq, blue.read_eq, bind, Except.bind, pure,
    Except.pure]

/-- **A colour of eight bits is written in a form that spells it.** -/
theorem spells_hex (h : c.Valid) : Spells c c.hex.toList := by
  obtain ⟨r, g, b⟩ := c
  obtain ⟨⟨hr, hr'⟩, ⟨hg, hg'⟩, hb, hb'⟩ := h
  simp only at hr hr' hg hg' hb hb'
  obtain ⟨r, rfl⟩ := Int.eq_ofNat_of_zero_le hr
  obtain ⟨g, rfl⟩ := Int.eq_ofNat_of_zero_le hg
  obtain ⟨b, rfl⟩ := Int.eq_ofNat_of_zero_le hb
  obtain ⟨r₁, r₂, er, red⟩ := isChannel_byte (n := r) (by omega)
  obtain ⟨g₁, g₂, eg, green⟩ := isChannel_byte (n := g) (by omega)
  obtain ⟨b₁, b₂, eb, blue⟩ := isChannel_byte (n := b) (by omega)
  have htext : (hex ⟨r, g, b⟩).toList = ['#', r₁, r₂, g₁, g₂, b₁, b₂] := by
    simp [hex, String.toList_append, er, eg, eb]
  rw [htext]
  exact .long red green blue

end Colour

namespace Palette

open Colour

/-- **The check accepts exactly the texts that spell a colour.** -/
theorem isHexColour_iff {text : List Char} :
    isHexColour text = true ↔ ∃ c : Colour, c.Spells text := by
  constructor
  · intro h
    unfold isHexColour at h
    split at h
    · next digits =>
      simp only [Bool.and_eq_true, Bool.or_eq_true, beq_iff_eq, List.all_eq_true] at h
      obtain ⟨hlength, hall⟩ := h
      have hchannel (d d' : Char) (hd : d ∈ digits) (hd' : d' ∈ digits) :
          ∃ n, IsChannel n d d' := by
        obtain ⟨v, hv⟩ := isHexDigit_iff.mp (hall d hd)
        obtain ⟨v', hv'⟩ := isHexDigit_iff.mp (hall d' hd')
        exact ⟨_, v, v', hv, hv', rfl⟩
      rcases hlength with hlength | hlength
      · match digits, hlength with
        | [r, g, b], _ =>
          obtain ⟨red, hred⟩ := hchannel r r (by simp) (by simp)
          obtain ⟨green, hgreen⟩ := hchannel g g (by simp) (by simp)
          obtain ⟨blue, hblue⟩ := hchannel b b (by simp) (by simp)
          exact ⟨⟨red, green, blue⟩, .short hred hgreen hblue⟩
      · match digits, hlength with
        | [r, r', g, g', b, b'], _ =>
          obtain ⟨red, hred⟩ := hchannel r r' (by simp) (by simp)
          obtain ⟨green, hgreen⟩ := hchannel g g' (by simp) (by simp)
          obtain ⟨blue, hblue⟩ := hchannel b b' (by simp) (by simp)
          exact ⟨⟨red, green, blue⟩, .long hred hgreen hblue⟩
    · cases h
  · rintro ⟨c, h⟩
    have hdigit {n : Int} {d d' : Char} (hd : IsChannel n d d') :
        isHexDigit d = true ∧ isHexDigit d' = true := by
      obtain ⟨v, v', hv, hv', -⟩ := hd
      exact ⟨isHexDigit_iff.mpr ⟨v, hv⟩, isHexDigit_iff.mpr ⟨v', hv'⟩⟩
    cases h with
    | long red green blue => simp [isHexColour, hdigit red, hdigit green, hdigit blue]
    | short red green blue =>
      simp [isHexColour, (hdigit red).1, (hdigit green).1, (hdigit blue).1]

end Palette

end AnsiArt
