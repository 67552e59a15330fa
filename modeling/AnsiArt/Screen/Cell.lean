/-!
# Cells and renditions

A cell of the screen holds a character and the **rendition** it is drawn in: a foreground and a
background colour number, a font number, and a set of flags such as bold or underlined.

Flags are kept as one natural number, bit `i` for the flag of index `i`, because that is also how
they are exchanged with the outside. The set operations are described by membership:

* `FlagSet.contains_union` — a flag is in a union iff it is in one of the two sets;
* `FlagSet.contains_diff` — a flag is in a difference iff it is in the first set only.
-/

namespace AnsiArt

/-! ### Flags -/

/-- The aspects of a rendition that are either on or off. -/
inductive Flag
  | bold
  | faint
  | italics
  | underline
  | doubleUnderline
  | blink
  | negative
  | conceal
  | crossOut
  | gothic
  | frame
  | encircle
  | overline
  | ideogramUnderline
  | ideogramDoubleUnderline
  | ideogramOverline
  | ideogramDoubleOverline
  | ideogramStress
  deriving DecidableEq

namespace Flag

/-- The bit that stands for a flag. -/
def index : Flag → Nat
  | bold => 0
  | faint => 1
  | italics => 2
  | underline => 3
  | doubleUnderline => 4
  | blink => 5
  | negative => 6
  | conceal => 7
  | crossOut => 8
  | gothic => 9
  | frame => 10
  | encircle => 11
  | overline => 12
  | ideogramUnderline => 13
  | ideogramDoubleUnderline => 14
  | ideogramOverline => 15
  | ideogramDoubleOverline => 16
  | ideogramStress => 17

/-- Different flags have different bits. -/
theorem index_injective {f g : Flag} (h : f.index = g.index) : f = g := by
  cases f <;> cases g <;> first | rfl | exact absurd h (by decide)

end Flag

/-- A set of flags, one bit each. There may be bits above those of the known flags; they are carried
along until flags are taken out of the set. -/
structure FlagSet where
  bits : Nat := 0
  deriving DecidableEq

namespace FlagSet

/-- The number of known flags. -/
def known : Nat := 18

/-- The set with no flag. -/
def empty : FlagSet := {}

/-- The set with one flag. -/
def singleton (f : Flag) : FlagSet := ⟨1 <<< f.index⟩

/-- All flags of either set. -/
def union (s t : FlagSet) : FlagSet := ⟨s.bits ||| t.bits⟩

/-- The number of bits in which a set is complemented: those of the known flags, unless the set has
further bits. -/
def span (s : FlagSet) : Nat := if s.bits < Nat.pow 2 known then known else (s.bits + 1).log2 + 1

/-- The bits that are not in a set, as far as they are within its span. -/
def complement (s : FlagSet) : FlagSet := ⟨Nat.pow 2 s.span - (s.bits + 1)⟩

/-- The set that an integer in two's complement stands for. -/
def ofInt : Int → FlagSet
  | .ofNat n => ⟨n⟩
  | .negSucc n => complement ⟨n⟩

/-- The flags of the first set that are not in the second. A bit above the span of the second set
does not remain. -/
def diff (s t : FlagSet) : FlagSet := ⟨s.bits &&& t.complement.bits⟩

/-- The set of the listed flags. -/
def ofList (flags : List Flag) : FlagSet := flags.foldr (fun f s => (singleton f).union s) empty

/-- A set without the listed flags; with no flag listed, the set as it is. -/
def without (s : FlagSet) (flags : List Flag) : FlagSet :=
  if flags.isEmpty then s else s.diff (ofList flags)

/-- Membership of one flag. -/
def contains (s : FlagSet) (f : Flag) : Bool := s.bits.testBit f.index

/-- Whether two sets share a flag. -/
def meets (s t : FlagSet) : Bool := s.bits &&& t.bits != 0

@[simp] theorem contains_empty (f : Flag) : empty.contains f = false := by
  simp [empty, contains]

@[simp] theorem contains_union (s t : FlagSet) (f : Flag) :
    (s.union t).contains f = (s.contains f || t.contains f) := by
  simp [union, contains]

/-- The span of a set reaches over the known flags and over all bits of the set. -/
theorem span_covers (s : FlagSet) : known ≤ s.span ∧ s.bits < Nat.pow 2 s.span := by
  unfold span
  split
  · exact ⟨Nat.le_refl _, by assumption⟩
  · rename_i h
    have big : known ≤ (s.bits + 1).log2 :=
      (Nat.le_log2 (Nat.succ_ne_zero _)).mpr (Nat.le_succ_of_le (Nat.not_lt.mp h))
    have fits : s.bits + 1 < Nat.pow 2 ((s.bits + 1).log2 + 1) := Nat.lt_log2_self
    exact ⟨by omega, Nat.lt_of_succ_lt fits⟩

@[simp] theorem contains_complement (s : FlagSet) (f : Flag) :
    s.complement.contains f = !s.contains f := by
  have ⟨span, fits⟩ := s.span_covers
  have : f.index < s.span := by
    have : f.index < known := by cases f <;> decide
    omega
  have bit := Nat.testBit_two_pow_sub_succ fits f.index
  simp only [this, decide_true, Bool.true_and] at bit
  exact bit

@[simp] theorem contains_diff (s t : FlagSet) (f : Flag) :
    (s.diff t).contains f = (s.contains f && !t.contains f) := by
  rw [← contains_complement]
  simp [diff, contains]

end FlagSet

/-! ### Cells -/

/-- How a character is drawn. Colour and font numbers are arbitrary integers here; what a control
sequence can set stays within 0 to 7 for colours and 0 to 9 for fonts. -/
structure Rendition where
  foreground : Int := 7
  background : Int := 0
  flags : FlagSet := {}
  font : Int := 0
  deriving DecidableEq

namespace Rendition

/-- Whether a flag is on. -/
def has (r : Rendition) (f : Flag) : Bool := r.flags.contains f

end Rendition

/-- One cell: a character in a rendition. The default cell is a blank in the default rendition. -/
structure Cell where
  char : Char := ' '
  rendition : Rendition := {}
  deriving DecidableEq

end AnsiArt
