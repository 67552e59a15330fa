import AnsiArt.Control.Command

/-!
# Erasing a part of the page

Which slots a part of the page holds is decided by the cursor's slot alone: the slots from it on, the
slots up to it, or all of them. Both halves hold the cursor's slot, so they meet there and leave no
slot out. Nothing else is asked of the cursor: its slot may lie past the last one, or the canvas may
have no slot.

What erasing comes to is stated as a relation between two canvases, of which the second has the slots
of a set emptied (`Canvas.Empties`). The relation decides the second canvas, and two of them in a row
make one for the union of the sets. So the laws of erasing are laws of unions.

Main statements:

* `Canvas.empties_erasePage` — erasing a part of the page empties the slots of that part;
* `Canvas.Empties.trans`, `Canvas.Empties.unique` — the unions, and when they are the same.
-/

namespace AnsiArt

/-- Whether slot `i` belongs to a part of the page when the cursor is at slot `o`. -/
def Region.OnPage (region : Region) (o : Int) (i : Nat) : Prop :=
  match region with
  | fromCursor => o ≤ i
  | toCursor => i ≤ o
  | whole => True

instance (region : Region) (o : Int) (i : Nat) : Decidable (region.OnPage o i) :=
  match region with
  | .fromCursor => inferInstanceAs (Decidable (o ≤ i))
  | .toCursor => inferInstanceAs (Decidable (i ≤ o))
  | .whole => inferInstanceAs (Decidable True)

namespace Canvas

/-- `d` is `c` with the slots of a set emptied and everything else left alone. -/
structure Empties (c d : Canvas) (P : Nat → Prop) : Prop where
  width_eq : d.width = c.width
  size_eq : d.size = c.size
  cursor_eq : d.cursor = c.cursor
  written_eq : d.written = c.written
  reached_eq : d.reached = c.reached
  emptied (i : Nat) (h : P i) : d.slot? i = none
  kept (i : Nat) (h : ¬P i) : d.slot? i = c.slot? i

variable {c d e : Canvas} {P Q : Nat → Prop}

/-! ### Sets of slots -/

namespace Empties

/-- Emptying nothing changes nothing. -/
theorem refl (c : Canvas) : c.Empties c fun _ => False where
  width_eq := rfl
  size_eq := rfl
  cursor_eq := rfl
  written_eq := rfl
  reached_eq := rfl
  emptied _ h := h.elim
  kept _ _ := rfl

/-- What is emptied one after the other is the union. -/
theorem trans (h : c.Empties d P) (h' : d.Empties e Q) : c.Empties e fun i => P i ∨ Q i where
  width_eq := h'.width_eq.trans h.width_eq
  size_eq := h'.size_eq.trans h.size_eq
  cursor_eq := h'.cursor_eq.trans h.cursor_eq
  written_eq := h'.written_eq.trans h.written_eq
  reached_eq := h'.reached_eq.trans h.reached_eq
  emptied i hi := by
    by_cases hQ : Q i
    · exact h'.emptied i hQ
    · -- it was emptied first, and the second time it was kept that way
      rw [h'.kept i hQ]
      exact h.emptied i (hi.resolve_right hQ)
  kept i hi := by
    rw [h'.kept i fun hQ => hi (.inr hQ)]
    exact h.kept i fun hP => hi (.inl hP)

/-- **The set decides the canvas.** Slots that do not exist make no difference. -/
theorem unique (h : c.Empties d P) (h' : c.Empties e Q)
    (hiff : ∀ i, i < c.size → (P i ↔ Q i)) : d = e := by
  have hsize : d.size = e.size := h.size_eq.trans h'.size_eq.symm
  have hslots : d.slots = e.slots := by
    refine slots_eq_of_slot? hsize fun i => ?_
    by_cases hi : i < c.size
    · by_cases hP : P i
      · rw [h.emptied i hP, h'.emptied i ((hiff i hi).mp hP)]
      · rw [h.kept i hP, h'.kept i fun hQ => hP ((hiff i hi).mpr hQ)]
    · have hle : c.size ≤ i := Nat.not_lt.mp hi
      have hd : d.size ≤ i := Nat.le_trans (Nat.le_of_eq h.size_eq) hle
      have he : e.size ≤ i := Nat.le_trans (Nat.le_of_eq h'.size_eq) hle
      rw [slot?_eq_none_of_le hd, slot?_eq_none_of_le he]
  have hwidth : d.width = e.width := h.width_eq.trans h'.width_eq.symm
  have hcursor : d.cursor = e.cursor := h.cursor_eq.trans h'.cursor_eq.symm
  have hwritten : d.written = e.written := h.written_eq.trans h'.written_eq.symm
  have hreached : d.reached = e.reached := h.reached_eq.trans h'.reached_eq.symm
  obtain ⟨width, hpos, slots, cursor, reached, written⟩ := d
  obtain ⟨width', hpos', slots', cursor', reached', written'⟩ := e
  cases hwidth
  cases hslots
  cases hcursor
  cases hwritten
  cases hreached
  rfl

/-- The cursor stays at its slot. -/
theorem offset_cursor_eq (h : c.Empties d P) :
    d.cursor.offset d.width = c.cursor.offset c.width := by
  rw [h.cursor_eq, h.width_eq]

end Empties

/-! ### Parts of the page -/

theorem slot?_clear (c : Canvas) (i : Nat) : c.clear.slot? i = none := by
  rw [slot?, clear, Array.getElem?_replicate]
  split <;> rfl

/-- Emptying up to the end empties everything from the first slot on, for there is nothing behind the
end. -/
theorem slot?_clearFrom (c : Canvas) (o : Int) (i : Nat) :
    (c.clearFrom o).slot? i = if o ≤ i then none else c.slot? i := by
  rw [clearFrom, slot?_clearRange]
  by_cases hi : i < c.size
  · have hin : (i : Int) < c.slots.size := Int.ofNat_lt.mpr hi
    simp only [hin, and_true]
  · rw [slot?_eq_none_of_le (Nat.not_lt.mp hi), ite_self, ite_self]

theorem slot?_clearTo (c : Canvas) (o : Int) (i : Nat) :
    (c.clearTo o).slot? i = if i ≤ o then none else c.slot? i := by
  rw [clearTo, slot?_clearRange]
  have hiff : ((0 : Int) ≤ i ∧ (i : Int) < o + 1) ↔ (i : Int) ≤ o := by omega
  simp only [hiff]

/-- Erasing a part of the page empties the slots that belong to it. -/
theorem slot?_erasePage (c : Canvas) (region : Region) (i : Nat) :
    (c.erasePage region).slot? i =
      if region.OnPage (c.cursor.offset c.width) i then none else c.slot? i := by
  cases region with
  | fromCursor => exact slot?_clearFrom c _ i
  | toCursor => exact slot?_clearTo c _ i
  | whole => exact slot?_clear c i

theorem size_erasePage (c : Canvas) (region : Region) : (c.erasePage region).size = c.size := by
  cases region with
  | fromCursor => exact size_clearRange ..
  | toCursor => exact size_clearRange ..
  | whole => exact Array.size_replicate

/-- Erasing touches the slots only. -/
theorem erasePage_eq (c : Canvas) (region : Region) :
    c.erasePage region = { c with slots := (c.erasePage region).slots } := by
  cases region <;> rfl

/-- **Erasing a part of the page empties the slots of that part** and leaves everything else
alone. -/
theorem empties_erasePage (c : Canvas) (region : Region) :
    c.Empties (c.erasePage region) (region.OnPage (c.cursor.offset c.width)) where
  width_eq := by rw [erasePage_eq]
  size_eq := size_erasePage c region
  cursor_eq := by rw [erasePage_eq]
  written_eq := by rw [erasePage_eq]
  reached_eq := by rw [erasePage_eq]
  emptied i h := by rw [slot?_erasePage, if_pos h]
  kept i h := by rw [slot?_erasePage, if_neg h]

/-- **Erasing one part and then another is erasing a third** if the slots of the third are those of
both together. -/
theorem erasePage_erasePage {first second both : Region}
    (h : ∀ o i, first.OnPage o i ∨ second.OnPage o i ↔ both.OnPage o i) :
    (c.erasePage first).erasePage second = c.erasePage both := by
  have hfirst := empties_erasePage c first
  have hsecond := empties_erasePage (c.erasePage first) second
  rw [hfirst.offset_cursor_eq] at hsecond
  exact (hfirst.trans hsecond).unique (empties_erasePage c both) fun i _ => h _ i

end Canvas

end AnsiArt
