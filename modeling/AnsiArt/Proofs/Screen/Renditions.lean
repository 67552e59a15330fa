import AnsiArt.Proofs.Screen.Characters
import AnsiArt.Render.Look

/-!
# Which renditions a canvas holds

A rendition is built by numbers that a byte stream chooses freely, one after another. Each number
that has a meaning stays within the colours, the fonts and the flags that there are, and of the two
underlines each switches the other off. So a rendition that starts out regular remains so under any
row of integers, and since cells copy the pen, all renditions on the canvas are regular as well.

Main statements:

* `RenditionChange.admissible_of_ofCode?` — what one number can ask for;
* `Rendition.Regular.selectAll` — any row of numbers keeps a rendition regular;
* `Rendition.Regular.look_bounds` — the looks of regular renditions are 16 colours;
* `Canvas.Regular.attemptAll` — commands keep the pen and the cells regular.
-/

namespace AnsiArt

/-! ### Sets of known flags -/

theorem Flag.index_lt_known (f : Flag) : f.index < FlagSet.known := by cases f <;> decide

namespace FlagSet

/-- A set without any bit above those of the known flags. -/
def Known (s : FlagSet) : Prop := s.bits < Nat.pow 2 known

variable {s t : FlagSet}

theorem known_empty : empty.Known := Nat.two_pow_pos known

theorem known_singleton (f : Flag) : (singleton f).Known := by
  rw [Known, singleton, Nat.one_shiftLeft]
  exact Nat.pow_lt_pow_right (by decide) f.index_lt_known

theorem Known.union (hs : s.Known) (ht : t.Known) : (s.union t).Known :=
  Nat.or_lt_two_pow hs ht

theorem Known.diff (hs : s.Known) (t : FlagSet) : (s.diff t).Known :=
  Nat.lt_of_le_of_lt Nat.and_le_left hs

theorem known_ofList (flags : List Flag) : (ofList flags).Known := by
  induction flags with
  | nil => exact known_empty
  | cons f flags ih => exact (known_singleton f).union ih

theorem Known.without (hs : s.Known) (flags : List Flag) : (s.without flags).Known := by
  unfold FlagSet.without
  split
  · exact hs
  · exact hs.diff _

@[simp] theorem contains_singleton (f g : Flag) :
    (singleton f).contains g = decide (f = g) := by
  rw [contains, singleton, Nat.one_shiftLeft, Nat.testBit_two_pow]
  exact decide_eq_decide.mpr ⟨Flag.index_injective, congrArg Flag.index⟩

@[simp] theorem contains_ofList (flags : List Flag) (f : Flag) :
    (ofList flags).contains f = decide (f ∈ flags) := by
  induction flags with
  | nil => exact contains_empty f
  | cons g flags ih =>
    rw [ofList, List.foldr_cons, contains_union, contains_singleton]
    rw [ofList] at ih
    simp [ih, eq_comm]

@[simp] theorem contains_without (s : FlagSet) (flags : List Flag) (f : Flag) :
    (s.without flags).contains f = (s.contains f && !decide (f ∈ flags)) := by
  unfold without
  split
  · next h =>
    -- no flag is listed, and the set is left as it is
    rw [List.isEmpty_iff.mp h]
    simp
  · rw [contains_diff, contains_ofList]

end FlagSet

/-! ### What a number can ask for -/

namespace RenditionChange

/-- A change that stays within what there is: eight colours, ten fonts, and one underline at a
time. -/
def Admissible : RenditionChange → Prop
  | reset => True
  | flags on off =>
    (.underline ∈ on → .doubleUnderline ∈ off ∧ .doubleUnderline ∉ on) ∧
      (.doubleUnderline ∈ on → .underline ∈ off)
  | foreground colour => 0 ≤ colour ∧ colour ≤ 7
  | background colour => 0 ≤ colour ∧ colour ≤ 7
  | font n => 0 ≤ n ∧ n ≤ 9

theorem admissible_of_mem_flagTable {row : Int × List Flag × List Flag} (h : row ∈ flagTable) :
    (flags row.2.1 row.2.2).Admissible := by
  have hall : ∀ row ∈ flagTable,
      (.underline ∈ row.2.1 → .doubleUnderline ∈ row.2.2 ∧ .doubleUnderline ∉ row.2.1) ∧
        (.doubleUnderline ∈ row.2.1 → .underline ∈ row.2.2) := by decide
  exact hall row h

/-- **Every number that has a meaning asks for an admissible change.** -/
theorem admissible_of_ofCode? {n : Int} {change : RenditionChange} (h : ofCode? n = some change) :
    change.Admissible := by
  unfold ofCode? at h
  split at h
  · cases h
    trivial
  split at h
  · next on off hrow =>
    cases h
    obtain ⟨front, rest, hmem, -⟩ := List.lookup_eq_some_iff.mp hrow
    have hrow : (n, on, off) ∈ flagTable := hmem ▸ List.mem_append_cons_self
    exact admissible_of_mem_flagTable hrow
  -- the ranges of fonts and colours, in the order in which they are tried
  have hrange : ∀ low high : Int, low ≤ n ∧ n ≤ high → 0 ≤ n - low ∧ n - low ≤ high - low := by
    omega
  repeat' split at h
  all_goals cases h
  · exact hrange 10 19 ‹_›
  · exact hrange 30 37 ‹_›
  · exact ⟨by decide, by decide⟩
  · exact hrange 40 47 ‹_›
  · exact ⟨by decide, by decide⟩
  · exact hrange 90 97 ‹_›
  · exact hrange 100 107 ‹_›

end RenditionChange

/-! ### Regular renditions -/

namespace Rendition

/-- A rendition of one of eight colours on one of eight grounds, in one of ten fonts, with known
flags only and not underlined in two ways. -/
structure Regular (r : Rendition) : Prop where
  foreground : 0 ≤ r.foreground ∧ r.foreground ≤ 7
  background : 0 ≤ r.background ∧ r.background ≤ 7
  font : 0 ≤ r.font ∧ r.font ≤ 9
  flags : r.flags.Known
  underlines : ¬(r.has .underline = true ∧ r.has .doubleUnderline = true)

theorem regular_default : Regular {} where
  foreground := by decide
  background := by decide
  font := by decide
  flags := FlagSet.known_empty
  underlines := by decide

variable {r : Rendition}

theorem Regular.apply (h : r.Regular) {change : RenditionChange} (hc : change.Admissible) :
    (RenditionChange.apply r change).Regular := by
  cases change with
  | reset => exact regular_default
  | foreground colour => exact { h with foreground := hc }
  | background colour => exact { h with background := hc }
  | font n => exact { h with font := hc }
  | flags on off =>
    obtain ⟨hsingle, hdouble⟩ := hc
    refine { h with flags := (h.flags.without off).union (FlagSet.known_ofList on), underlines := ?_ }
    -- an underline is on because it was just switched on, or because it was on and stayed so
    have hold := h.underlines
    simp only [Rendition.has, RenditionChange.apply, FlagSet.contains_union,
      FlagSet.contains_without, FlagSet.contains_ofList, Bool.or_eq_true, Bool.and_eq_true,
      Bool.not_eq_true', decide_eq_true_eq, decide_eq_false_iff_not] at hold ⊢
    rintro ⟨⟨hs, hs'⟩ | hs, ⟨hd, hd'⟩ | hd⟩
    · exact hold ⟨hs, hd⟩
    · exact hs' (hdouble hd)
    · exact hd' (hsingle hs).1
    · exact (hsingle hs).2 hd

theorem Regular.select (h : r.Regular) (n : Int) : (r.select n).Regular := by
  unfold Rendition.select
  cases hcode : RenditionChange.ofCode? n with
  | none => exact h
  | some change => exact h.apply (RenditionChange.admissible_of_ofCode? hcode)

/-- **Any row of numbers keeps a rendition regular.** -/
theorem Regular.selectAll (h : r.Regular) (codes : List Int) : (r.selectAll codes).Regular := by
  induction codes generalizing r with
  | nil => exact h
  | cons n codes ih => exact ih (h.select n)

theorem brighten_bounds {colour : Int} (h : 0 ≤ colour ∧ colour ≤ 7) :
    0 ≤ brighten colour ∧ brighten colour ≤ 15 := by
  rw [brighten, if_pos (Int.lt_of_le_of_lt h.2 (by decide))]
  omega

/-- **The look of a regular rendition is made of sixteen colours.** -/
theorem Regular.look_bounds (h : r.Regular) :
    (0 ≤ r.look.foreground ∧ r.look.foreground ≤ 15) ∧
      (0 ≤ r.look.background ∧ r.look.background ≤ 15) := by
  have hbright : ∀ (flag : Flag) {colour : Int}, 0 ≤ colour ∧ colour ≤ 7 →
      0 ≤ (if r.has flag then brighten colour else colour) ∧
        (if r.has flag then brighten colour else colour) ≤ 15 := by
    intro flag colour hcolour
    split
    · exact brighten_bounds hcolour
    · exact ⟨hcolour.1, Int.le_trans hcolour.2 (by decide)⟩
  have hfg := hbright .bold h.foreground
  have hbg := hbright .blink h.background
  -- what is left exchanges the two colours or takes one for both
  unfold Rendition.look
  cases r.has .negative <;> cases r.has .conceal
  · exact ⟨hfg, hbg⟩
  · exact ⟨hbg, hbg⟩
  · exact ⟨hbg, hfg⟩
  · exact ⟨hfg, hfg⟩

end Rendition

/-! ### Regular canvases -/

/-- A cell with a character of the code page in a regular rendition. -/
structure Cell.Regular (cell : Cell) : Prop where
  char : cell.char ∈ CodePage437.repertoire
  rendition : cell.rendition.Regular

theorem CodePage437.decode_mem_repertoire (b : UInt8) : decode b ∈ repertoire := by
  refine List.mem_map.mpr ⟨b.toNat, List.mem_range.mpr b.toNat_lt, ?_⟩
  rw [UInt8.ofNat_toNat]

theorem CodePage437.space_mem_repertoire : ' ' ∈ repertoire := decode_mem_repertoire 0x20

theorem Cell.regular_default : Cell.Regular {} :=
  ⟨CodePage437.space_mem_repertoire, Rendition.regular_default⟩

/-- The rendition behind a command. -/
def Command.restyle (r : Rendition) : Command → Rendition
  | select codes => r.selectAll codes
  | _ => r

theorem Rendition.Regular.restyle {r : Rendition} (h : r.Regular) (command : Command) :
    (command.restyle r).Regular := by
  cases command with
  | select codes => exact h.selectAll codes
  | _ => exact h

/-- A command that writes no character outside the code page. -/
def Command.OnCodePage : Command → Prop
  | write ch => ch ∈ CodePage437.repertoire
  | _ => True

namespace Canvas

/-- A canvas whose pen and whose cells are regular. -/
structure Regular (c : Canvas) : Prop where
  pen : c.cursor.pen.Regular
  cells : ∀ (o : Nat) (cell : Cell), c.slot? o = some cell → cell.Regular

variable {c d : Canvas}

theorem regular_blank (width height : Nat) (h : 0 < width) : (blank width height h).Regular where
  pen := Cell.regular_default
  cells o cell ho := by
    rw [slot?_blank] at ho
    cases ho

theorem Regular.inherit (h : c.Regular) (hd : c.Inherits d) (hpen : d.cursor.pen.Regular) :
    d.Regular where
  pen := hpen
  cells o cell ho := by
    obtain ⟨i, hi⟩ := hd o cell ho
    exact h.cells i cell hi

theorem Regular.setChar {ch : Char} (h : c.Regular) (hch : ch ∈ CodePage437.repertoire) :
    (c.setChar ch).Regular :=
  h.inherit (inherits_of_slots_eq rfl) ⟨hch, h.pen.rendition⟩

theorem pen_write (c : Canvas) (ch : Char) :
    (c.write ch).cursor.pen = ⟨ch, c.cursor.pen.rendition⟩ := by
  by_cases h : 0 ≤ c.cursor.offset c.width
  · rw [write_eq h]
    simp only [Cursor.wrap]
    split <;> rfl
  · rw [write_of_neg c ch (Int.not_le.mp h)]
    rfl

theorem Regular.write {ch : Char} (h : c.Regular) (hch : ch ∈ CodePage437.repertoire) :
    (c.write ch).Regular where
  pen := by
    rw [pen_write]
    exact ⟨hch, h.pen.rendition⟩
  cells o cell ho := by
    rw [slot?_write] at ho
    split at ho
    · -- the cell that was just written is the pen with its character
      cases ho
      exact ⟨hch, h.pen.rendition⟩
    · exact h.cells o cell ho

theorem Regular.tryWrite {ch : Char} (h : c.Regular) (hch : ch ∈ CodePage437.repertoire)
    (room : Room) : (c.tryWrite room ch).canvas.Regular := by
  rcases tryWrite_cases room c ch with ⟨s, hstop⟩ | ⟨-, hwrite⟩
  · rw [hstop]
    exact h.setChar hch
  · rw [hwrite]
    exact h.write hch

theorem Regular.tryBlanks (h : c.Regular) (room : Room) (n : Nat) :
    (c.tryBlanks room n).canvas.Regular :=
  tryBlanks_induction (fun _ hd => hd.tryWrite CodePage437.space_mem_repertoire room) h n

theorem cursor_tryInsertBlank (room : Room) (c : Canvas) (o n : Int) :
    (c.tryInsertBlank room o n).canvas.cursor = c.cursor := by
  simp only [tryInsertBlank]
  split
  · rfl
  · split <;> rfl

theorem cursor_tryInsertRows (room : Room) (c : Canvas) (y : Int) (n : Nat) :
    (c.tryInsertRows room y n).canvas.cursor = c.cursor := by
  have hrow : ∀ d : Canvas, d.cursor = c.cursor →
      (d.tryInsertBlank room (y * d.width) d.width).canvas.cursor = c.cursor := fun d hd =>
    (cursor_tryInsertBlank room d _ _).trans hd
  exact tryInsertRows_induction hrow rfl n

/-- **A command that writes nothing changes at most the rendition of the pen.** -/
theorem pen_attempt (c : Canvas) {command : Command} (hq : command.IsQuiet) (room : Room) :
    (command.attempt room c).canvas.cursor.pen =
      ⟨c.cursor.pen.char, command.restyle c.cursor.pen.rendition⟩ := by
  cases command with
  | write ch => exact hq.elim
  | tab => exact hq.elim
  | insertLines n =>
    have hcursor := cursor_tryInsertRows room c.normalize c.normalize.cursor.y n.toNat
    -- moving the cursor onto the canvas keeps its pen, and the rows keep the cursor
    show (c.normalize.tryInsertRows room c.normalize.cursor.y n.toNat).canvas.cursor.pen =
      c.cursor.pen
    rw [hcursor]
    rfl
  | erasePage region => cases region <;> rfl
  | eraseLine region => cases region <;> rfl
  | _ => rfl

theorem Regular.attempt_quiet (h : c.Regular) {command : Command} (hq : command.IsQuiet)
    (room : Room) : (command.attempt room c).canvas.Regular := by
  refine h.inherit (inherits_attempt room c hq) ?_
  rw [pen_attempt c hq room]
  exact ⟨h.pen.char, h.pen.rendition.restyle command⟩

theorem Regular.attempt (h : c.Regular) {command : Command} (hc : command.OnCodePage)
    (room : Room) : (command.attempt room c).canvas.Regular := by
  cases command with
  | write ch => exact h.tryWrite hc room
  | tab => exact h.tryBlanks room _
  | _ => exact h.attempt_quiet (by trivial) room

/-- **Commands keep a canvas regular**, up to and including the one that finds no room. -/
theorem Regular.attemptAll (h : c.Regular) {commands : List Command}
    (hc : ∀ command ∈ commands, command.OnCodePage) (room : Room) :
    (c.attemptAll room commands).canvas.Regular :=
  attemptAll_induction (fun command hmem _ hd => hd.attempt (hc command hmem) room) h

end Canvas

end AnsiArt
