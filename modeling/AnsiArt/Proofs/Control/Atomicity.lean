import AnsiArt.Proofs.Control.Quiet

/-!
# What a failed control function leaves changed

Most control functions read all their parameters before they ask for anything, so if they fail, they
have done nothing. There are two exceptions, and no third (`ControlFunction.canvas_handle_eq_iff`):

* a motion to another line resets the column before it reads how far to go;
* an insertion of lines moves the cursor onto the canvas first, and inserts line by line, so lines
  that found room stand when a later one does not.
-/

namespace AnsiArt

/-! ### Inserting rows -/

namespace Canvas

/-- Whether there is room for one empty line at the cursor's line, once it is on the canvas. -/
def LineFits (room : Room) (c : Canvas) : Prop :=
  (c.normalize.tryInsertBlank room (c.normalize.cursor.y * c.width) c.width).shortage = none

variable {c d : Canvas} {room : Room}

/-- Inserting nothing changes nothing, unless it is past the end. -/
theorem insertBlank_zero {o : Int} (h : o ≤ c.size) : c.insertBlank o 0 = c := by
  have ho : o.toNat - c.slots.size = 0 := by
    simp only [size] at h
    omega
  simp only [insertBlank, ho, Array.replicate_zero, Array.append_empty, Int.toNat_zero]
  congr
  have hsize : max o.toNat c.slots.size = c.slots.size := by omega
  rw [Array.extract_append_extract, Nat.zero_min, hsize, Array.extract_size]

/-- On the canvas, an insertion is made or leaves everything as it was. -/
theorem tryInsertBlank_cases (room : Room) {o : Int} (n : Int) (h : o ≤ c.size) :
    (∃ s, c.tryInsertBlank room o n = ⟨c, some s⟩) ∨
      c.tryInsertBlank room o n = ⟨c.insertBlank o n, none⟩ := by
  simp only [tryInsertBlank]
  split
  · next s _ => exact .inl ⟨s, rfl⟩
  · split
    · next s _ => exact .inl ⟨s, by rw [insertBlank_zero h]⟩
    · exact .inr rfl

/-- A failed insertion of rows changes nothing if the first row found no room, and loses none of the
rows that found room. -/
theorem tryInsertRows_of_failure {y : Int} {n : Nat} {s : Shortage} (h : y * c.width ≤ c.size)
    (hfail : c.tryInsertRows room y n = ⟨d, some s⟩) :
    (c.tryInsertBlank room (y * c.width) c.width).shortage ≠ none ∧ d = c ∨
      (c.tryInsertBlank room (y * c.width) c.width).shortage = none ∧ c.size < d.size := by
  cases n with
  | zero => cases hfail
  | succ n =>
    rw [tryInsertRows] at hfail
    rcases tryInsertBlank_cases room c.width h with ⟨cause, hrow⟩ | hrow
    · rw [hrow] at hfail ⊢
      cases hfail
      exact .inl ⟨nofun, rfl⟩
    · rw [hrow] at hfail ⊢
      refine .inr ⟨rfl, ?_⟩
      -- the first row stands, and what comes behind it only adds to it
      have hrest := (quiet_tryInsertRows room (c.insertBlank (y * c.width) c.width) y n).size_le
      have hw := c.width_pos
      rw [size_insertBlank] at hrest
      simp only at hfail
      rw [hfail] at hrest
      simp only at hrest
      omega

/-- The line of a cursor that was moved onto the canvas begins no later than behind the last
slot. -/
theorem normalize_offset_le (c : Canvas) : c.normalize.cursor.y * c.width ≤ c.size := by
  have hrows : c.rows * c.width ≤ c.size + (c.width - 1) := Nat.div_mul_le_self ..
  have hw := c.width_pos
  show max 0 (min c.cursor.y (c.rows - 1)) * (c.width : Int) ≤ c.size
  -- row 0 begins at slot 0; any other row of the canvas has a full row in front of it
  by_cases hy : max 0 (min c.cursor.y (c.rows - 1)) = 0
  · rw [hy]
    omega
  · have hle : max 0 (min c.cursor.y (c.rows - 1)) ≤ (c.rows : Int) - 1 := by omega
    calc max 0 (min c.cursor.y (c.rows - 1)) * (c.width : Int)
        ≤ ((c.rows : Int) - 1) * c.width := Int.mul_le_mul_of_nonneg_right hle (by omega)
      _ = c.rows * c.width - c.width := by rw [Int.sub_mul, Int.one_mul]
      _ ≤ c.size := by
        have : ((c.rows * c.width : Nat) : Int) ≤ (c.size + (c.width - 1) : Nat) :=
          Int.ofNat_le.mpr hrows
        push_cast at this
        omega

/-- A failed insertion of lines leaves the canvas unchanged exactly if the cursor was on it and not
even one line fits. -/
theorem tryInsertLines_eq_iff {n : Int} {s : Shortage}
    (hfail : c.tryInsertLines room n = ⟨d, some s⟩) :
    d = c ↔ c.normalize = c ∧ ¬ c.LineFits room := by
  rcases tryInsertRows_of_failure (c := c.normalize) (normalize_offset_le c) hfail with
    ⟨hfits, rfl⟩ | ⟨hfits, hsize⟩
  · exact ⟨fun h => ⟨h, hfits⟩, fun h => h.1⟩
  · refine ⟨?_, fun h => absurd hfits h.2⟩
    rintro rfl
    exact absurd hsize (Nat.lt_irrefl _)

end Canvas

/-! ### Failed control functions -/

namespace ControlFunction

open Interpretation

variable {room : Room} {c : Canvas} {ps : Parameters} {e : SequenceError}

/-- Only an insertion of lines can lack room. -/
theorem shortage_attemptAll_interpret (f : ControlFunction) (h : f ≠ insertLine) :
    (c.attemptAll room (f.interpret ps).commands).shortage = none := by
  cases f with
  | insertLine => exact absurd rfl h
  | _ =>
    simp only [interpret, reading, ask, after]
    repeat' split
    all_goals rfl

/-- Only a motion to another line has asked for something when it cannot read a parameter. -/
theorem commands_interpret_of_failure (f : ControlFunction) (hnext : f ≠ nextLine)
    (hpreceding : f ≠ precedingLine) {cause : ParameterError}
    (h : (f.interpret ps).failure = some cause) : (f.interpret ps).commands = [] := by
  cases f with
  | nextLine => exact absurd rfl hnext
  | precedingLine => exact absurd rfl hpreceding
  | _ =>
    simp only [interpret, reading, ask] at h ⊢
    repeat' split at h
    all_goals cases h <;> rfl

/-- Commands that were all asked for leave what they leave; a failure of another kind than a lack of
room comes from a parameter. -/
theorem handle_of_shortage_eq_none {f : ControlFunction}
    (hroom : (c.attemptAll room (f.interpret ps).commands).shortage = none)
    (hfail : (f.handle room c ps).failure = some e) :
    ∃ cause, (f.interpret ps).failure = some cause ∧ e = .parameter cause := by
  simp only [handle, hroom, Option.map_none, Option.none_or] at hfail
  obtain ⟨cause, hcause, rfl⟩ := Option.map_eq_some_iff.mp hfail
  exact ⟨cause, hcause, rfl⟩

/-- A motion to another line that cannot read its parameter has reset the column. -/
theorem canvas_handle_otherLine {f : ControlFunction} (h : f = nextLine ∨ f = precedingLine)
    (hfail : (f.handle room c ps).failure = some e) :
    (f.handle room c ps).canvas = c ↔ c.cursor.x = 0 := by
  have hcanvas : (f.handle room c ps).canvas = Command.carriageReturn.run c := by
    rcases h with rfl | rfl
    all_goals
      simp only [handle, interpret, after, reading, ask] at hfail ⊢
      cases hp : ps.param 0 1 with
      | ok n =>
        rw [hp] at hfail
        cases hfail
      | error cause => rfl
  rw [hcanvas]
  constructor
  · intro h
    rw [← h]
    rfl
  · intro h
    simp only [Command.run, Canvas.move, ← h]

/-- An insertion of lines attempts to insert as many as its parameter says. -/
theorem handle_insertLine (room : Room) (c : Canvas) {n : Int} (h : ps.param 0 1 = .ok n) :
    insertLine.handle room c ps =
      ⟨(c.tryInsertLines room n).canvas, (c.tryInsertLines room n).shortage.map .noRoom⟩ := by
  have hinterpret : insertLine.interpret ps = ask (.insertLines n) := by
    simp only [interpret, reading, h]
  have hall : c.attemptAll room [.insertLines n] = c.tryInsertLines room n :=
    attemptAll_singleton ..
  simp only [handle, hinterpret, ask, hall, Option.map_none, Option.or_none]

/-- An insertion of lines that lacks room is the one case in which room is lacking. -/
theorem canvas_handle_insertLine
    (hshort : (c.attemptAll room (insertLine.interpret ps).commands).shortage ≠ none)
    (hfail : (insertLine.handle room c ps).failure = some e) :
    (∃ s, e = .noRoom s) ∧
      ((insertLine.handle room c ps).canvas = c ↔ c.normalize = c ∧ ¬ c.LineFits room) := by
  cases hp : ps.param 0 1 with
  | error cause => simp [interpret, reading, hp, Canvas.attemptAll] at hshort
  | ok n =>
    rw [handle_insertLine room c hp] at hfail ⊢
    obtain ⟨s, hs, rfl⟩ := Option.map_eq_some_iff.mp hfail
    have htry : c.tryInsertLines room n = ⟨(c.tryInsertLines room n).canvas, some s⟩ := by rw [← hs]
    exact ⟨⟨s, rfl⟩, Canvas.tryInsertLines_eq_iff htry⟩

/-- **What a failed control function leaves changed.** -/
theorem canvas_handle_eq_iff (f : ControlFunction) (hfail : (f.handle room c ps).failure = some e) :
    (f.handle room c ps).canvas = c ↔
      ¬ ((f = nextLine ∨ f = precedingLine) ∧ c.cursor.x ≠ 0) ∧
      ¬ (f = insertLine ∧ (∃ s, e = .noRoom s) ∧ (c.normalize ≠ c ∨ c.LineFits room)) := by
  -- the two exceptions first: after them, a lack of room can only come from an insertion
  by_cases hline : f = nextLine ∨ f = precedingLine
  · rw [canvas_handle_otherLine hline hfail]
    have : f ≠ insertLine := by rcases hline with rfl | rfl <;> decide
    simp [hline, this]
  obtain ⟨hnext, hpreceding⟩ := not_or.mp hline
  by_cases hshort : (c.attemptAll room (f.interpret ps).commands).shortage = none
  · -- nothing was asked for before the parameter that could not be read
    obtain ⟨cause, hcause, rfl⟩ := handle_of_shortage_eq_none hshort hfail
    have hcommands := commands_interpret_of_failure f hnext hpreceding hcause
    simp [handle, hcommands, Canvas.attemptAll, hline]
  · obtain rfl : f = insertLine :=
      Decidable.not_not.mp fun h => hshort (shortage_attemptAll_interpret f h)
    obtain ⟨hroom, hcanvas⟩ := canvas_handle_insertLine hshort hfail
    rw [hcanvas]
    simp [hroom]

end ControlFunction

end AnsiArt
