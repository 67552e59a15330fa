import Mathlib.Data.List.Destutter
import AnsiArt.Fonts.Audit

/-!
# What a glyph audit says of a text

An audit sorts the characters of a text that need a glyph and leaves out repetitions, and it asks the
fonts of the stack for each that remains. So neither the order of the text nor its blanks and line
ends matter: a character is missing exactly if it stands in the text, needs a glyph and has none in
any font.

Main statements:

* `GlyphAudit.mem_alphabet_iff`, `GlyphAudit.pairwise_alphabet` — which characters are looked at;
* `FontStack.fontFor?_eq_some_iff` — the font of a character is the first one that can show it;
* `GlyphAudit.mem_missing_ofText_iff` — which characters are missing.
-/

namespace AnsiArt

/-! ### Sorting without repetitions -/

section

variable {α : Type} [DecidableEq α]

theorem eraseReps_eq_destutter (l : List α) : l.eraseReps = l.destutter (· ≠ ·) := by
  -- the loop holds back the element that it compares with, and keeps all before it in reverse
  have hloop (a : α) (l kept : List α) : List.eraseRepsBy.loop (· == ·) a l kept =
      kept.reverse ++ l.destutter' (· ≠ ·) a := by
    induction l generalizing a kept with
    | nil => simp [List.eraseRepsBy.loop]
    | cons b l ih =>
      by_cases h : a = b
      · subst h
        simp [List.eraseRepsBy.loop, ih]
      · have hne : (a == b) = false := beq_eq_false_iff_ne.mpr h
        rw [List.eraseRepsBy.loop, hne, List.destutter'_cons_pos _ h]
        simp [ih]
  cases l with
  | nil => rfl
  | cons a l => exact hloop a l []

/-- In a sorted list all repetitions stand side by side. -/
theorem eraseReps_eq_dedup {r : α → α → Prop} [Std.Antisymm r] {l : List α} (h : l.Pairwise r) :
    l.eraseReps = l.dedup := by
  rw [eraseReps_eq_destutter, h.destutter_eq_dedup]

end

namespace GlyphAudit

/-- The characters of a text that need a glyph, in order and as often as they stand there. -/
def marks (text : List Char) : List Char :=
  (text.filter needsGlyph).mergeSort fun a b => a.toNat ≤ b.toNat

theorem pairwise_marks (text : List Char) : (marks text).Pairwise fun a b => a.toNat ≤ b.toNat := by
  have hsorted : (marks text).Pairwise fun a b => decide (a.toNat ≤ b.toNat) = true := by
    refine List.pairwise_mergeSort (fun a b c hab hbc => ?_) (fun a b => ?_) _
    · exact decide_eq_true (Nat.le_trans (of_decide_eq_true hab) (of_decide_eq_true hbc))
    · simpa using Nat.le_total a.toNat b.toNat
  exact hsorted.imp of_decide_eq_true

theorem alphabet_eq_dedup (text : List Char) : alphabet text = (marks text).dedup :=
  have : Std.Antisymm fun a b : Char => a.toNat ≤ b.toNat :=
    ⟨fun _ _ h h' => Char.toNat_inj.mp (Nat.le_antisymm h h')⟩
  eraseReps_eq_dedup (pairwise_marks text)

/-- The characters that are looked at are those of the text that need a glyph. -/
theorem mem_alphabet_iff {text : List Char} {ch : Char} :
    ch ∈ alphabet text ↔ ch ∈ text ∧ needsGlyph ch = true := by
  rw [alphabet_eq_dedup, List.mem_dedup, marks, (List.mergeSort_perm _ _).mem_iff, List.mem_filter]

/-- Each character is looked at once, in the order of the code points. -/
theorem pairwise_alphabet (text : List Char) :
    (alphabet text).Pairwise fun a b => a.toNat < b.toNat := by
  rw [alphabet_eq_dedup]
  -- without repetitions, no two characters are equal, so the order is strict
  have hsorted := (pairwise_marks text).sublist (List.dedup_sublist _)
  refine hsorted.imp₂ (fun a b hle hne => ?_) (List.nodup_dedup _)
  exact Nat.lt_of_le_of_ne hle fun h => hne (Char.toNat_inj.mp h)

end GlyphAudit

/-! ### The fonts of a stack -/

namespace FontStack

/-- A font is the first one of a stack that can show a character. -/
def IsFirstFor (s : FontStack) (ch : Char) (font : Font) : Prop :=
  ∃ before behind, s.fonts = before ++ font :: behind ∧ font.canShow ch = true ∧
    ∀ other ∈ before, other.canShow ch = false

variable {s : FontStack} {ch : Char} {font : Font}

theorem fontFor?_eq_some_iff : s.fontFor? ch = some font ↔ s.IsFirstFor ch font := by
  simp only [fontFor?, List.find?_eq_some_iff_append, IsFirstFor, Bool.not_eq_true']
  constructor
  · rintro ⟨hshow, before, behind, hfonts, hbefore⟩
    exact ⟨before, behind, hfonts, hshow, hbefore⟩
  · rintro ⟨before, behind, hfonts, hshow, hbefore⟩
    exact ⟨hshow, before, behind, hfonts, hbefore⟩

theorem fontFor?_eq_none_iff :
    s.fontFor? ch = none ↔ ∀ font ∈ s.fonts, font.canShow ch = false := by
  simp only [fontFor?, List.find?_eq_none, Bool.not_eq_true]

end FontStack

/-! ### The audit of a text -/

namespace GlyphAudit

variable {text : String} {s : FontStack} {ch : Char}

theorem missing_ofText (text : String) (s : FontStack) :
    (ofText text s).missing =
      (alphabet text.toList).filter fun ch => !(s.fontFor? ch).isSome := by
  simp only [ofText, List.partition_eq_filter_filter]
  rfl

/-- **A character is missing exactly if it stands in the text, needs a glyph and no font of the
stack can show it.** -/
theorem mem_missing_ofText_iff :
    ch ∈ (ofText text s).missing ↔
      ch ∈ text.toList ∧ needsGlyph ch = true ∧ s.fontFor? ch = none := by
  rw [missing_ofText, List.mem_filter, mem_alphabet_iff, and_assoc]
  simp

theorem pairwise_missing_ofText (text : String) (s : FontStack) :
    (ofText text s).missing.Pairwise fun a b => a.toNat < b.toNat := by
  rw [missing_ofText]
  exact (pairwise_alphabet _).sublist (List.filter_sublist)

/-- Each character that was looked at can be shown or is missing. -/
theorem covered_add_missing_ofText (text : String) (s : FontStack) :
    (ofText text s).covered + (ofText text s).missing.length = (ofText text s).total := by
  -- a character has a font or it has none
  have hlength := List.length_eq_length_filter_add (l := alphabet text.toList)
    fun ch => (s.fontFor? ch).isSome
  rw [missing_ofText]
  simp only [ofText, List.partition_eq_filter_filter]
  omega

theorem isClean_iff {a : GlyphAudit} : a.isClean = true ↔ ∀ ch, ch ∉ a.missing := by
  rw [isClean, List.isEmpty_iff, List.eq_nil_iff_forall_not_mem]

end GlyphAudit

end AnsiArt
