import AnsiArt.Proofs.Render.Insertion
import AnsiArt.Proofs.Stream.Atomicity

/-!
# Control sequences that insert lines

A control sequence of letter `L` pushes the rows from the cursor's on down, as many as its parameter
says, and moves the cursor onto the canvas (`Terminal.pushesRows_feed`). It writes nothing, so the
plain text has no line more than before: the blank lines are in it, and as many lines are pushed out
of it at the end (`Terminal.plainText_feed_eq_iff`).
-/

namespace AnsiArt

open Decoder

namespace Terminal

variable {room : Room} {width height : Int} {start t : Terminal} {body : List UInt8} {n : Int}

/-- Without a limit on the room, lines are inserted without a failure. -/
theorem Reachable.insertion_succeeds (hstart : ofSize .unlimited width height = .ok start)
    (ht : Reachable .unlimited start t) (hmode : t.decoder.mode = .text) (hbody : IsBody body)
    (hparam : (Parameters.ofBody body).param 0 1 = .ok n) (e : SequenceError) :
    .failedSequence body 0x4c e ∉ (t.feed .unlimited (sequenceBytes body 0x4c)).log := by
  have hfinal : ControlFunction.ofFinal? 0x4c = some .insertLine := rfl
  intro hmem
  have hfailure := ((ht.handles_sequence hstart hmode hbody rfl hfinal).2 e).mp hmem
  -- the parameter could be read, and nothing else can fail
  rw [failure_handle_unlimited] at hfailure
  simp [ControlFunction.interpret, Interpretation.reading, Interpretation.ask, hparam] at hfailure

/-- A control sequence of letter `L` without a failure pushes rows down on the canvas. -/
theorem Reachable.insertion_pushesRows (hstart : ofSize room width height = .ok start)
    (ht : Reachable room start t) (hmode : t.decoder.mode = .text) (hbody : IsBody body)
    (hparam : (Parameters.ofBody body).param 0 1 = .ok n)
    (hlog : ∀ e, .failedSequence body 0x4c e ∉ (t.feed room (sequenceBytes body 0x4c)).log) :
    ∃ d, (t.feed room (sequenceBytes body 0x4c)).terminal.canvas = d ∧
      t.canvas.PushesRows d t.canvas.normalize.cursor.y n.toNat ∧
      d.cursor = t.canvas.normalize.cursor ∧ d.written = t.canvas.written ∧
      d.reached = t.canvas.reached := by
  have hfinal : ControlFunction.ofFinal? 0x4c = some .insertLine := rfl
  obtain ⟨hcanvas, hfailure⟩ := ht.handles_sequence hstart hmode hbody rfl hfinal
  have hquiet := quiet_handle room t.canvas (.ofBody body) .insertLine
  rw [ControlFunction.handle_insertLine room t.canvas hparam] at hcanvas hfailure hquiet
  -- a lack of room would have been reported
  have hroom : (t.canvas.tryInsertLines room n).shortage = none := by
    refine Option.eq_none_iff_forall_not_mem.mpr fun s hs => hlog (.noRoom s) ?_
    exact (hfailure _).mpr (Option.map_eq_some_iff.mpr ⟨s, hs, rfl⟩)
  obtain ⟨hpushes, hcursor⟩ := Canvas.tryInsertLines_pushesRows t.canvas hroom
  exact ⟨_, hcanvas, hpushes, hcursor, hquiet.written_eq, hquiet.reached_eq⟩

/-! ### The rows of the canvas -/

/-- **Inserting lines is a shift of rows.** Without a limit on the room, a control sequence of letter
`L` does not fail. If it does not fail, it pushes down the rows from the cursor's on, the cursor
being moved onto the canvas first; the pen and both bounds stay as they were. -/
theorem pushesRows_feed (hstart : ofSize room width height = .ok start)
    (ht : Reachable room start t) (hmode : t.decoder.mode = .text) (hbody : IsBody body)
    (hparam : (Parameters.ofBody body).param 0 1 = .ok n) :
    (room = .unlimited →
      ∀ e, .failedSequence body 0x4c e ∉ (t.feed room (sequenceBytes body 0x4c)).log) ∧
    ((∀ e, .failedSequence body 0x4c e ∉ (t.feed room (sequenceBytes body 0x4c)).log) →
      ∃ d, (t.feed room (sequenceBytes body 0x4c)).terminal.canvas = d ∧
        t.canvas.PushesRows d (max 0 (min t.canvas.cursor.y (t.canvas.rows - 1))) (max n 0).toNat ∧
        d.cursor = { x := max 0 (min t.canvas.cursor.x (t.canvas.width - 1))
                     y := max 0 (min t.canvas.cursor.y (t.canvas.rows - 1))
                     pen := t.canvas.cursor.pen } ∧
        d.written = t.canvas.written ∧ d.reached = t.canvas.reached) := by
  constructor
  · rintro rfl
    exact ht.insertion_succeeds hstart hmode hbody hparam
  · intro hlog
    have hn : (max n 0).toNat = n.toNat := by omega
    rw [hn]
    exact ht.insertion_pushesRows hstart hmode hbody hparam hlog

/-- On a screen without a row, the first letter makes a row of one slot; a cursor far below it is
moved onto that row, and two lines are inserted in front of the letter. -/
theorem pushesRows_feed_row_of_one_slot :
    ∃ start t d, ofSize .unlimited 4 0 = .ok start ∧ Reachable .unlimited start t ∧
      t.decoder.mode = .text ∧ IsBody [0x32] ∧ (Parameters.ofBody [0x32]).param 0 1 = .ok 2 ∧
      t.canvas.size = 1 ∧ t.canvas.cursor.y = 9 ∧
      (t.feed .unlimited (sequenceBytes [0x32] 0x4c)).terminal.canvas = d ∧
      t.canvas.PushesRows d 0 2 ∧ d.size = 9 ∧ d.cursor.y = 0 := by
  let start : Terminal := ⟨{}, .blank 4 0 (by decide)⟩
  let t := (start.feed .unlimited [0x41, 0x1b, 0x5b, 0x39, 0x42]).terminal
  have hstart : ofSize .unlimited 4 0 = .ok start := rfl
  have ht : Reachable .unlimited start t := Reachable.start.feed _
  have hmode : t.decoder.mode = .text := by decide
  have hbody : IsBody [0x32] := by simp [IsBody, isFinal]
  have hparam : (Parameters.ofBody [0x32]).param 0 1 = .ok 2 := by decide
  have hsize : t.canvas.size = 1 := by decide +kernel
  have hwidth : t.canvas.width = 4 := by decide +kernel
  have hrow : max 0 (min t.canvas.cursor.y (t.canvas.rows - 1)) = 0 := by decide +kernel
  obtain ⟨hsucceeds, hshift⟩ := pushesRows_feed hstart ht hmode hbody hparam
  obtain ⟨d, hd, hpushes, hcursor, -⟩ := hshift (hsucceeds rfl)
  rw [hrow] at hpushes hcursor
  have hgrown := hpushes.size_eq
  rw [hsize, hwidth] at hgrown
  exact ⟨start, t, d, hstart, ht, hmode, hbody, hparam, hsize, by decide +kernel, hd, hpushes,
    hgrown, congrArg Cursor.y hcursor⟩

/-! ### The lines of the text -/

/-- **When inserted lines hide none of the text.** Without a limit on the room, a control sequence
of letter `L` does not fail. If it does not fail and the cursor's row, once it is on the canvas, is
one that the text shows, the text gets blank lines in front of that row but has no line more than
before. So it is the text with all of the blank lines and all lines of before exactly if no line was
to be inserted. -/
theorem plainText_feed_eq_iff (hstart : ofSize room width height = .ok start)
    (ht : Reachable room start t) (hmode : t.decoder.mode = .text) (hbody : IsBody body)
    (hparam : (Parameters.ofBody body).param 0 1 = .ok n)
    (hrow : max 0 (min t.canvas.cursor.y (t.canvas.rows - 1)) < t.canvas.written.rows) :
    (room = .unlimited →
      ∀ e, .failedSequence body 0x4c e ∉ (t.feed room (sequenceBytes body 0x4c)).log) ∧
    ((∀ e, .failedSequence body 0x4c e ∉ (t.feed room (sequenceBytes body 0x4c)).log) →
      ∃ (d : Canvas) (lines : List (List Char)),
        (t.feed room (sequenceBytes body 0x4c)).terminal.canvas = d ∧
        t.canvas.plainText = Canvas.textOfLines t.canvas.lines ∧
        lines = Canvas.insertBlankLines
          (max 0 (min t.canvas.cursor.y (t.canvas.rows - 1))).toNat n.toNat
          t.canvas.written.columns t.canvas.lines ∧
        d.plainText = Canvas.textOfLines (lines.take t.canvas.written.rows) ∧
        (d.plainText = Canvas.textOfLines lines ↔ n ≤ 0)) := by
  constructor
  · rintro rfl
    exact ht.insertion_succeeds hstart hmode hbody hparam
  · intro hlog
    obtain ⟨d, hd, hpushes, -, hwritten, -⟩ :=
      ht.insertion_pushesRows hstart hmode hbody hparam hlog
    -- lines are counted by natural numbers, and the row is on the canvas
    obtain ⟨k, hk⟩ := Int.eq_ofNat_of_zero_le
      (show 0 ≤ max 0 (min t.canvas.cursor.y (t.canvas.rows - 1)) from Int.le_max_left ..)
    have hpushes' : t.canvas.PushesRows d (k : Int) n.toNat := hk ▸ hpushes
    rw [hk] at hrow ⊢
    have hshown : k ≤ t.canvas.written.rows := by omega
    refine ⟨d, _, hd, t.canvas.plainText_eq_textOfLines, rfl, ?_, ?_⟩
    · rw [d.plainText_eq_textOfLines, hpushes'.lines_eq hwritten hshown, Int.toNat_natCast]
    · rw [Int.toNat_natCast, hpushes'.plainText_eq_iff hwritten hshown, Int.toNat_eq_zero]

/-- A line that is inserted in front of two lines pushes the second one out of the text. -/
theorem plainText_feed_two_lines :
    ∃ start t d, ofSize .unlimited 4 2 = .ok start ∧ Reachable .unlimited start t ∧
      t.decoder.mode = .text ∧ IsBody [] ∧ (Parameters.ofBody []).param 0 1 = .ok 1 ∧
      max 0 (min t.canvas.cursor.y (t.canvas.rows - 1)) < (t.canvas.written.rows : Int) ∧
      t.canvas.lines = [['A'], ['B']] ∧
      (t.feed .unlimited (sequenceBytes [] 0x4c)).terminal.canvas = d ∧
      d.plainText = Canvas.textOfLines [[' '], ['A']] ∧
      d.plainText ≠ Canvas.textOfLines [[' '], ['A'], ['B']] := by
  let start : Terminal := ⟨{}, .blank 4 2 (by decide)⟩
  let t := (start.feed .unlimited [0x41, 0x0d, 0x0a, 0x42, 0x1b, 0x5b, 0x48]).terminal
  have hstart : ofSize .unlimited 4 2 = .ok start := rfl
  have ht : Reachable .unlimited start t := Reachable.start.feed _
  have hmode : t.decoder.mode = .text := by decide
  have hbody : IsBody [] := by simp [IsBody]
  have hparam : (Parameters.ofBody []).param 0 1 = .ok 1 := by decide
  have htop : max 0 (min t.canvas.cursor.y (t.canvas.rows - 1)) = 0 := by decide +kernel
  have hwritten : t.canvas.written = ⟨1, 2⟩ := by decide +kernel
  have hrow : max 0 (min t.canvas.cursor.y (t.canvas.rows - 1)) < (t.canvas.written.rows : Int) := by
    rw [htop, hwritten]
    decide
  have hlines : t.canvas.lines = [['A'], ['B']] := by decide +kernel
  obtain ⟨hsucceeds, htext⟩ := plainText_feed_eq_iff hstart ht hmode hbody hparam hrow
  obtain ⟨d, lines, hd, -, rfl, hshown, hall⟩ := htext (hsucceeds rfl)
  rw [htop, hwritten, hlines] at hshown hall
  exact ⟨start, t, d, hstart, ht, hmode, hbody, hparam, hrow, hlines, hd, hshown,
    fun heq => absurd (hall.mp heq) (by decide)⟩

/-- The one letter of a canvas lies inside the bounds that the text shows. A line that is inserted in
front of it pushes it out of the text. -/
theorem not_plainText_feed_one_letter :
    ∃ start t d : Terminal, ofSize .unlimited 4 2 = .ok start ∧
      t = (start.feed .unlimited [0x41]).terminal ∧ Reachable .unlimited start t ∧
      t.decoder.mode = .text ∧ (Parameters.ofBody []).param 0 1 = .ok 1 ∧
      d = (t.feed .unlimited (sequenceBytes [] 0x4c)).terminal ∧
      (∀ x y : Int, (t.canvas.cellAt x y).isSome →
        x < t.canvas.written.columns ∧ y < t.canvas.written.rows) ∧
      max 0 (min t.canvas.cursor.y (t.canvas.rows - 1)) = 0 ∧ t.canvas.written = ⟨1, 1⟩ ∧
      t.canvas.lines = [['A']] ∧ t.canvas.plainText = Canvas.textOfLines [['A']] ∧
      Canvas.insertBlankLines 0 1 1 t.canvas.lines = [[' '], ['A']] ∧
      d.canvas.plainText = Canvas.textOfLines [[' ']] ∧
      d.canvas.plainText ≠ Canvas.textOfLines [[' '], ['A']] := by
  let start : Terminal := ⟨{}, .blank 4 2 (by decide)⟩
  let t := (start.feed .unlimited [0x41]).terminal
  let d := (t.feed .unlimited (sequenceBytes [] 0x4c)).terminal
  have hletter : t.canvas = (Canvas.blank 4 2 (by decide)).write 'A' := by
    show (start.feed .unlimited [0x41]).terminal.canvas = _
    rw [feed_unlimited ⟨Int.le_refl 0, Int.le_refl 0⟩]
    rfl
  have hinside (x y : Int) (h : (t.canvas.cellAt x y).isSome) :
      x < t.canvas.written.columns ∧ y < t.canvas.written.rows := by
    rw [hletter, Canvas.cellAt] at h
    split at h
    · next hin =>
      obtain ⟨hx, hwidth, hslot⟩ := hin
      rw [Canvas.slot?_write, Canvas.slot?_blank] at h
      split at h
      · next hfirst =>
        -- the slot of the position is the first one
        have hzero : y * 4 + x = 0 := by
          have := Int.toNat_of_nonneg hslot
          exact this.symm.trans hfirst
        have hbound : x < 4 := hwidth
        rw [hletter]
        exact ⟨show x < 1 by omega, show y < 1 by omega⟩
      · cases h
    · cases h
  have hlines : t.canvas.lines = [['A']] := by decide +kernel
  have hafter : d.canvas.lines = [[' ']] := by decide +kernel
  have htext : d.canvas.plainText = Canvas.textOfLines [[' ']] := by
    rw [Canvas.plainText_eq_textOfLines, hafter]
  refine ⟨start, t, d, rfl, rfl, Reachable.start.feed _, by decide, by decide, rfl, hinside,
    by decide +kernel, by decide +kernel, hlines, ?_, ?_, htext, ?_⟩
  · rw [Canvas.plainText_eq_textOfLines, hlines]
  · rw [hlines]
    rfl
  · rw [htext]
    decide

end Terminal

end AnsiArt
