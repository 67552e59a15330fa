import AnsiArt.Proofs.Screen.Erasing
import AnsiArt.Proofs.Stream.Atomicity
import AnsiArt.Proofs.Stream.Totality

/-!
# Control sequences that erase in a line

A control sequence of letter `K` erases a part of the cursor's line, the mode 0, 1 or 2 says which.
It leaves everything but the cells alone, and with any other mode it does nothing. From a cursor past
the last column, mode 1 goes on into the rows below, and a cell that it meets there is lost
(`Terminal.erases_onLine_feed_iff`).
-/

namespace AnsiArt

open Decoder

theorem ControlFunction.canvas_handle_eraseInLine (room : Room) (c : Canvas) {ps : Parameters}
    {mode : Int} (h : ps.param 0 0 = .ok mode) :
    (eraseInLine.handle room c ps).canvas = ((Region.ofLineMode? mode).map c.eraseLine).getD c := by
  simp only [handle, interpret, Interpretation.reading, h, Region.ofLineMode?]
  repeat' split
  all_goals rfl

namespace Terminal

variable {room : Room} {width height : Int} {start t : Terminal} {body : List UInt8} {mode : Int}

/-- **When erasing in a line stays in the line.** A control sequence of letter `K` leaves the number
of slots, the cursor with its pen and both bounds alone. In mode 0, 1 or 2, it erases that part of
the cursor's line; but in mode 1, from a cursor past the last column, it also erases the rows below
up to the cursor's slot, so it stays in the line exactly if there is no cell. Another mode does
nothing. -/
theorem erases_onLine_feed_iff (hstart : ofSize room width height = .ok start)
    (ht : Reachable room start t) (hmode : t.decoder.mode = .text) (hbody : IsBody body)
    (hparam : (Parameters.ofBody body).param 0 0 = .ok mode) :
    ∃ d, (t.feed room (sequenceBytes body 0x4b)).terminal.canvas = d ∧
      d.size = t.canvas.size ∧ d.cursor = t.canvas.cursor ∧ d.written = t.canvas.written ∧
      d.reached = t.canvas.reached ∧
      (∀ region, Region.ofLineMode? mode = some region →
        (t.canvas.Erases d fun x y =>
          region.OnLine t.canvas.cursor x y ∨ region = .toCursor ∧ t.canvas.Overrun x y) ∧
        (t.canvas.Erases d (region.OnLine t.canvas.cursor) ↔
          (region = .toCursor →
            ∀ x y : Int, t.canvas.Overrun x y → t.canvas.cellAt x y = none)) ∧
        (t.canvas.cursor.x < t.canvas.width →
          t.canvas.Erases d (region.OnLine t.canvas.cursor))) ∧
      (Region.ofLineMode? mode = none → d = t.canvas) := by
  have hfinal : ControlFunction.ofFinal? 0x4b = some .eraseInLine := rfl
  have hcanvas := (ht.handles_sequence hstart hmode hbody rfl hfinal).1
  rw [ControlFunction.canvas_handle_eraseInLine room t.canvas hparam] at hcanvas
  refine ⟨_, hcanvas, ?_⟩
  cases hregion : Region.ofLineMode? mode with
  | none => exact ⟨rfl, rfl, rfl, rfl, nofun, fun _ => rfl⟩
  | some region =>
    have hnonneg := ht.nonneg hstart
    have hquiet := Canvas.quiet_eraseLine t.canvas region
    have hiff := Canvas.erases_onLine_iff hnonneg region
    refine ⟨Canvas.size_eraseLine .., Canvas.cursor_eraseLine .., hquiet.written_eq,
      hquiet.reached_eq, fun region' h => ?_, nofun⟩
    obtain rfl := Option.some.inj h
    refine ⟨Canvas.erases_eraseLine hnonneg.x_nonneg region, hiff, fun hx => hiff.mpr ?_⟩
    exact fun _ x y hover => absurd hover.width_le (Int.not_le.mpr hx)

/-- Behind two letters, the part of the line up to the cursor is erased and nothing else. -/
theorem erases_onLine_feed_two_letters :
    ∃ start t : Terminal, ofSize .unlimited 4 2 = .ok start ∧ Reachable .unlimited start t ∧
      t.decoder.mode = .text ∧ IsBody [0x31] ∧ (Parameters.ofBody [0x31]).param 0 0 = .ok 1 ∧
      t.canvas.cursor.x = 2 ∧ t.canvas.cellAt 1 0 = some ⟨'B', {}⟩ ∧
      ∃ d, (t.feed .unlimited (sequenceBytes [0x31] 0x4b)).terminal.canvas = d ∧
        d.cellAt 1 0 = none ∧ t.canvas.Erases d (Region.OnLine .toCursor t.canvas.cursor) := by
  let start : Terminal := ⟨{}, .blank 4 2 (by decide)⟩
  let t := (start.feed .unlimited [0x41, 0x42]).terminal
  have hstart : ofSize .unlimited 4 2 = .ok start := rfl
  have ht : Reachable .unlimited start t := Reachable.start.feed _
  have hmode : t.decoder.mode = .text := by decide
  have hbody : IsBody [0x31] := by simp [IsBody, isFinal]
  have hparam : (Parameters.ofBody [0x31]).param 0 0 = .ok 1 := by decide
  have hx : t.canvas.cursor.x = 2 := by decide +kernel
  have hy : t.canvas.cursor.y = 0 := by decide +kernel
  have hwidth : t.canvas.width = 4 := by decide +kernel
  obtain ⟨d, hd, -, -, -, -, herases, -⟩ := erases_onLine_feed_iff hstart ht hmode hbody hparam
  have hline := (herases .toCursor rfl).2.2 (by rw [hx, hwidth]; decide)
  have hon : Region.OnLine .toCursor t.canvas.cursor 1 0 := ⟨hy.symm, by rw [hx]; decide⟩
  exact ⟨start, t, hstart, ht, hmode, hbody, hparam, hx, by decide +kernel, d, hd,
    hline.erased 1 0 (by decide) (by rw [hwidth]; decide) (by decide) hon, hline⟩

/-- From behind the last column of the first row, erasing up to the cursor takes the letter in the
row below. -/
theorem not_erases_onLine_past_last_column :
    ∃ start t d : Terminal, ofSize .unlimited 4 2 = .ok start ∧
      t = (start.feed .unlimited [0x0a, 0x41, 0x1b, 0x5b, 0x31, 0x3b, 0x35, 0x48]).terminal ∧
      Reachable .unlimited start t ∧ t.decoder.mode = .text ∧
      (Parameters.ofBody [0x31]).param 0 0 = .ok 1 ∧
      d = (t.feed .unlimited (sequenceBytes [0x31] 0x4b)).terminal ∧
      t.canvas.cursor.x = 4 ∧ t.canvas.cursor.y = 0 ∧
      t.canvas.cellAt 0 1 = some ⟨'A', {}⟩ ∧ d.canvas.cellAt 0 1 = none ∧
      ¬t.canvas.Erases d.canvas (Region.OnLine .toCursor t.canvas.cursor) := by
  let start : Terminal := ⟨{}, .blank 4 2 (by decide)⟩
  let t := (start.feed .unlimited [0x0a, 0x41, 0x1b, 0x5b, 0x31, 0x3b, 0x35, 0x48]).terminal
  let d := (t.feed .unlimited (sequenceBytes [0x31] 0x4b)).terminal
  have hletter : t.canvas.cellAt 0 1 = some ⟨'A', {}⟩ := by decide +kernel
  have hlost : d.canvas.cellAt 0 1 = none := by decide +kernel
  have hx : t.canvas.cursor.x = 4 := by decide +kernel
  have hy : t.canvas.cursor.y = 0 := by decide +kernel
  refine ⟨start, t, d, rfl, rfl, Reachable.start.feed _, by decide, by decide, rfl, hx, hy, hletter,
    hlost, fun h => ?_⟩
  -- the row of the letter is not the cursor's
  have hoff : ¬Region.OnLine .toCursor t.canvas.cursor 0 1 := fun hon =>
    absurd (hon.1.trans hy) (by decide)
  have hkept := h.kept 0 1 (by decide) (by decide +kernel) (by decide) hoff
  rw [hlost, hletter] at hkept
  cases hkept

end Terminal

end AnsiArt
