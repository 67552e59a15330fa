import AnsiArt.Proofs.Control.Quiet

/-!
# Which characters a canvas holds

A cell comes into being by a write and by nothing else: erasing takes cells away, inserting moves
them to other slots, and growing adds empty slots. So the characters on a canvas are those that were
there before, and those that were written since.

Main statements:

* `Canvas.inherits_attemptAll` — commands that write nothing leave only cells that were there;
* `Canvas.OnlyDraws.tryWrite`, `Canvas.OnlyDraws.tryBlanks` — a write adds its own character at most.
-/

namespace AnsiArt.Canvas

/-! ### Cells without a write -/

/-- Every cell of `d` is a cell of `c`, though perhaps in another slot. -/
def Inherits (c d : Canvas) : Prop :=
  ∀ (o : Nat) (cell : Cell), d.slot? o = some cell → ∃ i : Nat, c.slot? i = some cell

variable {c d e : Canvas}

theorem Inherits.trans (h₁ : c.Inherits d) (h₂ : d.Inherits e) : c.Inherits e := by
  intro o cell ho
  obtain ⟨i, hi⟩ := h₂ o cell ho
  exact h₁ i cell hi

/-- What touches the cursor only leaves every cell where it was. -/
theorem inherits_of_slots_eq (h : d.slots = c.slots) : c.Inherits d := by
  intro o cell ho
  refine ⟨o, ?_⟩
  rwa [slot?, ← h]

theorem Inherits.refl (c : Canvas) : c.Inherits c := inherits_of_slots_eq rfl

theorem inherits_clearRange (c : Canvas) (start stop : Int) :
    c.Inherits (c.clearRange start stop) := by
  intro o cell ho
  rw [slot?_clearRange] at ho
  split at ho
  · cases ho
  · exact ⟨o, ho⟩

theorem inherits_clear (c : Canvas) : c.Inherits c.clear := by
  intro o cell ho
  simp only [slot?, clear, Array.getElem?_replicate] at ho
  split at ho <;> cases ho

theorem inherits_insertBlank (c : Canvas) (o n : Int) : c.Inherits (c.insertBlank o n) := by
  intro i cell hi
  rw [slot?_insertBlank] at hi
  -- in front of the gap a cell stays, in the gap there is none, behind it a cell comes from the left
  repeat' split at hi
  · exact ⟨i, hi⟩
  · cases hi
  · exact ⟨_, hi⟩

theorem inherits_tryInsertBlank (room : Room) (c : Canvas) (o n : Int) :
    c.Inherits (c.tryInsertBlank room o n).canvas := by
  simp only [tryInsertBlank]
  split
  · exact .refl c
  · split <;> exact inherits_insertBlank c _ _

theorem inherits_tryInsertRows (room : Room) (c : Canvas) (y : Int) (n : Nat) :
    c.Inherits (c.tryInsertRows room y n).canvas :=
  tryInsertRows_induction (fun d hd => hd.trans (inherits_tryInsertBlank room d _ _)) (.refl c) n

theorem inherits_erasePage (c : Canvas) (region : Region) : c.Inherits (c.erasePage region) := by
  cases region with
  | fromCursor => exact inherits_clearRange c _ _
  | toCursor => exact inherits_clearRange c _ _
  | whole => exact inherits_clear c

theorem inherits_eraseLine (c : Canvas) (region : Region) : c.Inherits (c.eraseLine region) := by
  cases region <;> exact inherits_clearRange c _ _

theorem inherits_attempt (room : Room) (c : Canvas) {command : Command} (h : command.IsQuiet) :
    c.Inherits (command.attempt room c).canvas := by
  cases command with
  | write ch => exact h.elim
  | tab => exact h.elim
  | erasePage region => exact inherits_erasePage c region
  | eraseLine region => exact inherits_eraseLine c region
  | insertLines n =>
    have hnormal : c.Inherits c.normalize := inherits_of_slots_eq rfl
    exact hnormal.trans (inherits_tryInsertRows room c.normalize _ _)
  | _ => exact inherits_of_slots_eq rfl

/-- **Commands that write nothing leave only cells that were there before.** -/
theorem inherits_attemptAll (room : Room) (c : Canvas) {commands : List Command}
    (h : ∀ command ∈ commands, command.IsQuiet) :
    c.Inherits (c.attemptAll room commands).canvas :=
  attemptAll_induction
    (fun command hmem d hd => hd.trans (inherits_attempt room d (h command hmem))) (.refl c)

theorem inherits_handling (room : Room) (c : Canvas) (ps : Parameters) (final : UInt8) :
    c.Inherits (Decoder.handling room c ps final).canvas := by
  unfold Decoder.handling
  cases ControlFunction.ofFinal? final with
  | none => exact .refl c
  | some f => exact inherits_attemptAll room c (isQuiet_interpret f ps)

/-! ### Characters -/

/-- A canvas whose cells hold characters of one kind only. -/
def OnlyDraws (P : Char → Prop) (c : Canvas) : Prop :=
  ∀ (o : Nat) (cell : Cell), c.slot? o = some cell → P cell.char

variable {P : Char → Prop}

theorem onlyDraws_blank (width height : Nat) (h : 0 < width) :
    (blank width height h).OnlyDraws P := by
  intro o cell ho
  rw [slot?_blank] at ho
  cases ho

/-- A cell at a position is a cell in a slot. -/
theorem exists_slot?_of_cellAt {x y : Int} {cell : Cell} (h : c.cellAt x y = some cell) :
    ∃ o : Nat, c.slot? o = some cell := by
  unfold cellAt at h
  split at h
  · exact ⟨_, h⟩
  · cases h

theorem OnlyDraws.inherit (h : c.OnlyDraws P) (hd : c.Inherits d) : d.OnlyDraws P := by
  intro o cell ho
  obtain ⟨i, hi⟩ := hd o cell ho
  exact h i cell hi

theorem OnlyDraws.write {ch : Char} (h : c.OnlyDraws P) (hch : P ch) :
    (c.write ch).OnlyDraws P := by
  intro o cell ho
  rw [slot?_write] at ho
  split at ho
  · cases ho
    exact hch
  · exact h o cell ho

/-- A write adds its character to those on the canvas, unless it finds no room. -/
theorem OnlyDraws.tryWrite {ch : Char} (h : c.OnlyDraws P) (hch : P ch) (room : Room) :
    (c.tryWrite room ch).canvas.OnlyDraws P := by
  rcases tryWrite_cases room c ch with ⟨s, hstop⟩ | ⟨-, hwrite⟩
  · rw [hstop]
    exact h.inherit (inherits_of_slots_eq rfl)
  · rw [hwrite]
    exact h.write hch

theorem OnlyDraws.tryBlanks (h : c.OnlyDraws P) (hblank : P ' ') (room : Room) (n : Nat) :
    (c.tryBlanks room n).canvas.OnlyDraws P :=
  tryBlanks_induction (fun _ hd => hd.tryWrite hblank room) h n

/-- Writes add their own characters at most, up to the one that finds no room. -/
theorem OnlyDraws.attemptAll_writes (h : c.OnlyDraws P) (chs : List Char) (hchs : ∀ ch ∈ chs, P ch)
    (room : Room) : (c.attemptAll room (chs.map .write)).canvas.OnlyDraws P := by
  refine attemptAll_induction (fun command hmem d hd => ?_) h
  obtain ⟨ch, hch, rfl⟩ := List.mem_map.mp hmem
  exact hd.tryWrite (hchs ch hch) room

end AnsiArt.Canvas
