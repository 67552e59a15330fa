import AnsiArt.Terminal

/-!
# What a control sequence does to the canvas

A terminal takes a complete control sequence in one step: the commands that its control function
asks for are attempted, a failure is reported, and the decoder is in text mode again with no
parameter left. `Decoder.handling` names the two outcomes of that step, the canvas and the failure.

Main statements:

* `Terminal.step_final` — the step of a final letter leaves the canvas of the handling;
* `Terminal.failedSequence_mem_step` — it reports a failed sequence exactly if the handling failed.
-/

namespace AnsiArt

/-- The outcomes of a control sequence: the canvas, and what kept the sequence from being
carried out to its end. -/
structure Handling where
  canvas : Canvas
  failure : Option SequenceError := none

/-- What a control function does with its parameters. Commands that were asked for before a
parameter could not be read stand. -/
def ControlFunction.handle (room : Room) (c : Canvas) (ps : Parameters) (f : ControlFunction) :
    Handling :=
  let a := c.attemptAll room (f.interpret ps).commands
  ⟨a.canvas, (a.shortage.map .noRoom).or ((f.interpret ps).failure.map .parameter)⟩

/-- What a complete control sequence does; one whose letter has no control function does nothing. -/
def Decoder.handling (room : Room) (c : Canvas) (ps : Parameters) (final : UInt8) : Handling :=
  ((ControlFunction.ofFinal? final).map (·.handle room c ps)).getD ⟨c, none⟩

namespace ControlFunction

/-- The remarks of an interpretation are about what was ignored, not about failures. -/
theorem level_interpret {f : ControlFunction} {ps : Parameters} {n : Notice}
    (h : n ∈ (f.interpret ps).notices) : n.level = .debug := by
  cases f with
  | selectRendition =>
    simp only [interpret, Interpretation.reading] at h
    split at h
    · obtain ⟨code, -, rfl⟩ := List.mem_map.mp h
      rfl
    · simp at h
  | eraseInLine =>
    simp only [interpret, Interpretation.reading, Interpretation.ask] at h
    repeat' split at h
    all_goals simp_all [Notice.level]
  | _ =>
    simp only [interpret, Interpretation.reading, Interpretation.ask, Interpretation.after] at h
    repeat' split at h
    all_goals simp at h

end ControlFunction

namespace Terminal

variable (room : Room) (c : Canvas) (ps : Parameters) {b : UInt8}

theorem byteSemicolon_ne_of_isFinal (h : Decoder.isFinal b = true) : b ≠ Decoder.byteSemicolon := by
  rintro rfl
  exact absurd h (by decide)

theorem next_final (h : Decoder.isFinal b = true) : (Decoder.mk .sequence ps).next b = {} := by
  simp only [Decoder.next, if_neg (byteSemicolon_ne_of_isFinal h), if_pos h]

/-- **A final letter leaves the canvas of the handling and a fresh decoder, and never stops the
terminal.** -/
theorem step_final (h : Decoder.isFinal b = true) :
    ((Terminal.mk ⟨.sequence, ps⟩ c).step room b).terminal =
        ⟨{}, (Decoder.handling room c ps.flush b).canvas⟩ ∧
      ((Terminal.mk ⟨.sequence, ps⟩ c).step room b).shortage = none := by
  have hcanvas : (c.attemptAll room (Decoder.sequenceCommands ps.flush b)).canvas =
      (Decoder.handling room c ps.flush b).canvas := by
    simp only [Decoder.sequenceCommands, Decoder.handling]
    cases ControlFunction.ofFinal? b <;> rfl
  simp only [step, next_final ps h, Decoder.commands, if_pos h]
  split
  · next heq => simp [← hcanvas, heq]
  · next heq => simp [← hcanvas, heq]

/-- **A failed sequence is reported exactly if the handling failed.** -/
theorem failedSequence_mem_step (h : Decoder.isFinal b = true) {text : List UInt8} {final : UInt8}
    {e : SequenceError} :
    .failedSequence text final e ∈ ((Terminal.mk ⟨.sequence, ps⟩ c).step room b).reversedLog ↔
      text = ps.flush.text ∧ final = b ∧ (Decoder.handling room c ps.flush b).failure = some e := by
  simp only [step, Decoder.commands, if_pos h, Decoder.notices, Decoder.sequenceCommands,
    Decoder.sequenceNotices, Decoder.handling]
  cases ControlFunction.ofFinal? b with
  | none => simp [Canvas.attemptAll]
  | some f =>
    -- a remark is no failure, so the only failure in the log is the one reported last
    have hremark : .failedSequence text final e ∉ (f.interpret ps.flush).notices := by
      intro hmem
      exact absurd (ControlFunction.level_interpret hmem) (by simp [Notice.level])
    simp only [Option.map_some, Option.getD_some, ControlFunction.handle]
    cases hs : (c.attemptAll room (f.interpret ps.flush).commands) with
    | mk canvas shortage =>
      cases shortage with
      | none => cases hf : (f.interpret ps.flush).failure <;> simp [hremark, eq_comm]
      | some s => simp [eq_comm]

end Terminal

end AnsiArt
