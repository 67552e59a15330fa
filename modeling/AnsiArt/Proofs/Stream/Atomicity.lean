import AnsiArt.Proofs.Control.Atomicity
import AnsiArt.Proofs.Control.Overlong
import AnsiArt.Proofs.Stream.Meaning

/-!
# Failed control sequences

A control sequence that fails is reported, and the terminal goes on in text mode with a fresh
decoder. Whether it has left the canvas alone depends on the control function: a motion to another
line may have reset the column, and an insertion of lines may have moved the cursor or inserted some
of the lines (`Terminal.canvas_failed_sequence_eq_iff`). All others leave it alone.
-/

namespace AnsiArt

open Decoder

namespace Terminal

variable (room : Room) (c : Canvas) {body : List UInt8} {final : UInt8}

/-- A whole control sequence leaves the canvas of its handling and a fresh decoder. -/
theorem feed_sequence (hbody : IsBody body) (hfinal : isFinal final = true) :
    ((Terminal.mk {} c).feed room (sequenceBytes body final)).terminal =
        ⟨{}, (handling room c (.ofBody body) final).canvas⟩ ∧
      ((Terminal.mk {} c).feed room (sequenceBytes body final)).shortage = none := by
  rw [feed_sequence_eq_step room c hbody]
  exact step_final room c _ hfinal

/-- A whole control sequence reports a failure exactly if its handling failed. -/
theorem failedSequence_mem_feed (hbody : IsBody body) (hfinal : isFinal final = true)
    {e : SequenceError} :
    .failedSequence body final e ∈
        ((Terminal.mk {} c).feed room (sequenceBytes body final)).log ↔
      (handling room c (.ofBody body) final).failure = some e := by
  have htext : (body.foldl Parameters.take {}).flush.text = body := Parameters.text_ofBody body
  rw [feed_sequence_eq_step room c hbody, Progress.log, List.mem_reverse,
    failedSequence_mem_step room c _ hfinal, htext]
  simp only [true_and]
  rfl

/-! ### Sequences with an overlong parameter -/

theorem isFinal_of_digit {b : UInt8} (h : 0x30 ≤ b ∧ b ≤ 0x39) : isFinal b = false := by
  obtain ⟨-, hb⟩ := h
  rw [UInt8.le_iff_toNat_le] at hb
  -- both ranges of letters begin behind the last digit
  have hlow (n : UInt8) (hn : 0x39 < n.toNat) : decide (n ≤ b) = false := by
    rw [decide_eq_false_iff_not, UInt8.le_iff_toNat_le]
    exact Nat.not_le.mpr (Nat.lt_of_le_of_lt hb hn)
  rw [isFinal, hlow 0x41 (by decide), hlow 0x61 (by decide)]
  rfl

theorem digit_of_mem_ones {n : Nat} {b : UInt8} (h : b ∈ List.replicate n (0x31 : UInt8)) :
    0x30 ≤ b ∧ b ≤ 0x39 := by
  rw [List.eq_of_mem_replicate h]
  decide

/-- An overlong parameter that is converted makes a control sequence fail. -/
theorem exists_failedSequence_mem_feed {f : ControlFunction} (hfinal : isFinal final = true)
    (hf : ControlFunction.ofFinal? final = some f) (hconverts : f.Converts 0)
    (hdigits : ∀ b ∈ body, 0x30 ≤ b ∧ b ≤ 0x39) (hlong : 4300 < body.length) :
    IsBody body ∧ ∃ e, .failedSequence body final e ∈
      ((Terminal.mk {} c).feed room (sequenceBytes body final)).log := by
  have hbody : IsBody body := fun b hb => isFinal_of_digit (hdigits b hb)
  have hone : Parameters.ofBody body = .ofTexts [body] :=
    Parameters.ofBody_of_not_mem fun h => absurd (hdigits _ h) (by decide)
  have hfailure : (f.interpret (.ofBody body)).failure.isSome := by
    rw [f.failure_isSome_iff, hone]
    exact ⟨0, body.toArray, hconverts, rfl, [], body, rfl, .inl rfl, hdigits, hlong⟩
  have hsome : (handling room c (.ofBody body) final).failure.isSome := by
    simp [handling, hf, ControlFunction.handle, hfailure]
  obtain ⟨e, he⟩ := Option.isSome_iff_exists.mp hsome
  exact ⟨hbody, e, (failedSequence_mem_feed room c hbody hfinal).mpr he⟩

/-- A motion to the next line resets the column even if it cannot read how far to go. -/
theorem exists_failed_nextLine (hx : c.cursor.x ≠ 0) (hdigits : ∀ b ∈ body, 0x30 ≤ b ∧ b ≤ 0x39)
    (hlong : 4300 < body.length) :
    ∃ e, .failedSequence body 0x45 e ∈
        ((Terminal.mk {} c).feed room (sequenceBytes body 0x45)).log ∧
      ((Terminal.mk {} c).feed room (sequenceBytes body 0x45)).terminal.canvas ≠ c := by
  have hnext : ControlFunction.ofFinal? 0x45 = some .nextLine := rfl
  obtain ⟨hbody, e, he⟩ := exists_failedSequence_mem_feed room c rfl hnext rfl hdigits hlong
  refine ⟨e, he, fun heq => ?_⟩
  have hfail := (failedSequence_mem_feed room c hbody rfl).mp he
  rw [(feed_sequence room c hbody rfl).1] at heq
  simp only [handling, hnext, Option.map_some, Option.getD_some] at hfail heq
  exact hx ((ControlFunction.canvas_handle_otherLine (.inl rfl) hfail).mp heq)

end Terminal

/-! ### Every failed sequence -/

namespace Terminal

variable {room : Room} {width height : Int} {start t : Terminal} {body : List UInt8}
  {final : UInt8} {e : SequenceError}

/-- In text mode, the decoder of a reachable terminal is a fresh one. -/
theorem Reachable.eq_mk_of_text (hstart : ofSize room width height = .ok start)
    (ht : Reachable room start t) (hmode : t.decoder.mode = .text) : t = ⟨{}, t.canvas⟩ :=
  ht.eq_mk (ofSize_eq_ok hstart).1 hmode

/-- In text mode, a reachable terminal handles a whole control sequence by its control function, on
the canvas as it is. -/
theorem Reachable.handles_sequence (hstart : ofSize room width height = .ok start)
    (ht : Reachable room start t) (hmode : t.decoder.mode = .text) (hbody : IsBody body)
    (hfinal : isFinal final = true) {f : ControlFunction}
    (hf : ControlFunction.ofFinal? final = some f) :
    (t.feed room (sequenceBytes body final)).terminal.canvas =
        (f.handle room t.canvas (.ofBody body)).canvas ∧
      ∀ e, .failedSequence body final e ∈ (t.feed room (sequenceBytes body final)).log ↔
        (f.handle room t.canvas (.ofBody body)).failure = some e := by
  have hhandling : handling room t.canvas (.ofBody body) final =
      f.handle room t.canvas (.ofBody body) := by
    rw [handling, hf]
    rfl
  rw [ht.eq_mk_of_text hstart hmode, ← hhandling]
  exact ⟨congrArg Terminal.canvas (feed_sequence room t.canvas hbody hfinal).1,
    fun e => failedSequence_mem_feed room t.canvas hbody hfinal⟩

/-- **What a failed control sequence leaves behind.** The terminal is in text mode again with no
parameter left. Its canvas is what it was before, except for a motion to another line from
another column than the first, and for an insertion of lines that lacks room after it has moved
the cursor or made room for a line. -/
theorem canvas_failed_sequence_eq_iff (hstart : ofSize room width height = .ok start)
    (ht : Reachable room start t) (hmode : t.decoder.mode = .text) (hbody : IsBody body)
    (hfinal : isFinal final = true)
    (hfail : .failedSequence body final e ∈ (t.feed room (sequenceBytes body final)).log) :
    (t.feed room (sequenceBytes body final)).shortage = none ∧
    (t.feed room (sequenceBytes body final)).terminal.decoder =
      { mode := .text, parameters := {} } ∧
    ∃ f, ControlFunction.ofFinal? final = some f ∧
      ((t.feed room (sequenceBytes body final)).terminal.canvas = t.canvas ↔
        ¬ ((f = .nextLine ∨ f = .precedingLine) ∧ t.canvas.cursor.x ≠ 0) ∧
        ¬ (f = .insertLine ∧ (∃ s, e = .noRoom s) ∧
          (t.canvas.normalize ≠ t.canvas ∨ t.canvas.LineFits room))) := by
  rw [ht.eq_mk_of_text hstart hmode] at hfail ⊢
  obtain ⟨hterminal, hshortage⟩ := feed_sequence room t.canvas hbody hfinal
  rw [failedSequence_mem_feed room t.canvas hbody hfinal] at hfail
  refine ⟨hshortage, congrArg Terminal.decoder hterminal, ?_⟩
  rw [hterminal]
  -- a letter without a control function has nothing to fail at
  cases hf : ControlFunction.ofFinal? final with
  | none => simp [handling, hf] at hfail
  | some f =>
    simp only [handling, hf, Option.map_some, Option.getD_some] at hfail ⊢
    exact ⟨f, rfl, f.canvas_handle_eq_iff hfail⟩

/-- A motion up that cannot read how far to go leaves a fresh screen alone. -/
theorem canvas_failed_cursorUp_eq :
    ∃ (start : Terminal) (e : SequenceError), ofSize .unlimited 4 2 = .ok start ∧
      .failedSequence (List.replicate 4301 0x31) 0x41 e ∈
        (start.feed .unlimited (sequenceBytes (List.replicate 4301 0x31) 0x41)).log ∧
      (start.feed .unlimited
        (sequenceBytes (List.replicate 4301 0x31) 0x41)).terminal.canvas = start.canvas := by
  have hstart : ofSize .unlimited 4 2 = .ok ⟨{}, .blank 4 2 (by decide)⟩ := rfl
  have hfinal : isFinal 0x41 = true := rfl
  have hlong : 4300 < (List.replicate 4301 (0x31 : UInt8)).length := by
    rw [List.length_replicate]
    decide
  obtain ⟨hbody, e, he⟩ := exists_failedSequence_mem_feed .unlimited (.blank 4 2 (by decide))
    hfinal rfl rfl (fun _ => digit_of_mem_ones) hlong
  obtain ⟨-, -, f, hf, hcanvas⟩ := canvas_failed_sequence_eq_iff hstart .start rfl hbody hfinal he
  obtain rfl : .cursorUp = f := Option.some.inj hf
  exact ⟨_, e, hstart, he, hcanvas.mpr ⟨by simp, by simp⟩⟩

/-- Behind two letters, a motion to the next line by a number of 4301 digits fails and changes the
canvas. -/
theorem canvas_failed_nextLine_ne :
    ∃ (start t : Terminal) (e : SequenceError), ofSize .unlimited 4 2 = .ok start ∧
      t = (start.feed .unlimited [0x41, 0x42]).terminal ∧ Reachable .unlimited start t ∧
      t.decoder.mode = .text ∧
      .failedSequence (List.replicate 4301 0x31) 0x45 e ∈
        (t.feed .unlimited (sequenceBytes (List.replicate 4301 0x31) 0x45)).log ∧
      (t.feed .unlimited
        (sequenceBytes (List.replicate 4301 0x31) 0x45)).terminal.canvas ≠ t.canvas := by
  have hfeed : (feed .unlimited ⟨{}, .blank 4 2 (by decide)⟩ [0x41, 0x42]).terminal =
      ⟨{}, ((Canvas.blank 4 2 (by decide)).write (CodePage437.decode 0x41)).write
        (CodePage437.decode 0x42)⟩ := by
    rw [feed_unlimited ⟨Int.le_refl 0, Int.le_refl 0⟩]
    rfl
  have hlong : 4300 < (List.replicate 4301 (0x31 : UInt8)).length := by
    rw [List.length_replicate]
    decide
  obtain ⟨e, he, hne⟩ := exists_failed_nextLine .unlimited
    (((Canvas.blank 4 2 (by decide)).write (CodePage437.decode 0x41)).write
      (CodePage437.decode 0x42)) (by decide) (fun _ => digit_of_mem_ones) hlong
  exact ⟨_, _, e, rfl, hfeed.symm, hfeed ▸ Reachable.start.feed _, rfl, he, hne⟩

end Terminal

end AnsiArt
