import AnsiArt.Proofs.Control.Handling
import AnsiArt.Proofs.Screen.Extension

/-!
# Commands that write nothing

Only two commands write, `write` itself and `tab`, and no control sequence asks for either. So a
control sequence is quiet, whatever its parameters, and without a limit on the room it never lacks
any: its only failures are those of its parameters.

Without a limit and from a position that is not negative, attempting commands is running them.

Main statements:

* `quiet_handling` — a control sequence leaves both bounds alone and loses no slot;
* `failure_handle_unlimited` — without a limit, only a parameter makes a control sequence fail;
* `attemptAll_unlimited`, `Terminal.feed_unlimited` — without a limit, feeding bytes is running all
  commands of the stream.
-/

namespace AnsiArt

/-- The commands other than writing and tabulating. -/
def Command.IsQuiet : Command → Prop
  | write _ => False
  | tab => False
  | _ => True

/-! ### One command -/

theorem extends_tryBlanks (room : Room) (c : Canvas) (n : Nat) :
    c.Extends (c.tryBlanks room n).canvas :=
  Canvas.tryBlanks_induction (fun d hd => hd.trans (Canvas.extends_tryWrite room d ' ')) (.refl c) n

theorem quiet_attempt (room : Room) (c : Canvas) {command : Command} (h : command.IsQuiet) :
    c.Quiet (command.attempt room c).canvas := by
  cases command with
  | write ch => exact h.elim
  | tab => exact h.elim
  | lineFeed =>
    -- the one motion down that is not bounded, but from no negative row it leads to none
    refine Canvas.quiet_move c (fun k => { k with y := k.y + 1 }) fun hk => ⟨hk.1, ?_⟩
    exact Int.le_trans hk.2 (Int.le_add_of_nonneg_right (by decide))
  | carriageReturn =>
    exact Canvas.quiet_move c (fun k => { k with x := 0 }) fun hk => ⟨Int.le_refl 0, hk.2⟩
  | up n => exact Canvas.quiet_move c (·.up n) fun hk => hk.up n
  | down n => exact Canvas.quiet_move c (·.down n) fun hk => hk.down n
  | left n => exact Canvas.quiet_move c (·.left n) fun hk => hk.left n
  | right n => exact Canvas.quiet_move c (·.right n) fun hk => hk.right n
  | toColumn x => exact Canvas.quiet_move c (·.toColumn x) fun hk => hk.toColumn x
  | goto x y => exact Canvas.quiet_move c (·.goto x y) fun _ => Cursor.nonneg_goto _ x y
  | erasePage region => exact Canvas.quiet_erasePage c region
  | eraseLine region => exact Canvas.quiet_eraseLine c region
  | insertLines n => exact (Canvas.quiet_normalize c).trans (Canvas.quiet_tryInsertRows ..)
  | select codes =>
    exact Canvas.quiet_move c (fun k => k.setRendition (k.pen.rendition.selectAll codes))
      fun hk => ⟨hk.1, hk.2⟩

theorem extends_attempt (room : Room) (c : Canvas) (command : Command) :
    c.Extends (command.attempt room c).canvas := by
  cases command with
  | write ch => exact Canvas.extends_tryWrite room c ch
  | tab => exact extends_tryBlanks room c _
  | _ => exact (quiet_attempt room c (by trivial)).toExtends

theorem tryInsertRows_unlimited (c : Canvas) (y : Int) (n : Nat) :
    c.tryInsertRows .unlimited y n = ⟨c.insertRows y n, none⟩ := by
  induction n generalizing c with
  | zero => rfl
  | succ n ih => exact ih _

theorem attempt_unlimited_of_quiet (c : Canvas) {command : Command} (h : command.IsQuiet) :
    command.attempt .unlimited c = ⟨command.run c, none⟩ := by
  cases command with
  | write ch => exact h.elim
  | tab => exact h.elim
  | insertLines n => exact tryInsertRows_unlimited _ _ _
  | _ => rfl

theorem tryBlanks_unlimited {c : Canvas} (h : c.cursor.Nonneg) (n : Nat) :
    c.tryBlanks .unlimited n = ⟨c.writeBlanks n, none⟩ := by
  induction n generalizing c with
  | zero => rfl
  | succ n ih =>
    simp only [Canvas.tryBlanks, Canvas.tryWrite_unlimited (h.offset c.width)]
    exact ih ((Canvas.extends_write c ' ').nonneg h)

/-- Without a limit, attempting a command is running it. -/
theorem attempt_unlimited {c : Canvas} (h : c.cursor.Nonneg) (command : Command) :
    command.attempt .unlimited c = ⟨command.run c, none⟩ := by
  cases command with
  | write ch => exact Canvas.tryWrite_unlimited (h.offset c.width)
  | tab => exact tryBlanks_unlimited h _
  | _ => exact attempt_unlimited_of_quiet c (by trivial)

/-! ### Many commands -/

theorem attemptAll_singleton (room : Room) (c : Canvas) (command : Command) :
    c.attemptAll room [command] = command.attempt room c := by
  simp only [Canvas.attemptAll]
  split <;> simp_all

theorem quiet_attemptAll (room : Room) (c : Canvas) {commands : List Command}
    (h : ∀ command ∈ commands, command.IsQuiet) : c.Quiet (c.attemptAll room commands).canvas :=
  Canvas.attemptAll_induction
    (fun command hmem d hd => hd.trans (quiet_attempt room d (h command hmem))) (.refl c)

theorem attemptAll_unlimited_of_quiet (c : Canvas) {commands : List Command}
    (h : ∀ command ∈ commands, command.IsQuiet) :
    c.attemptAll .unlimited commands = ⟨c.runAll commands, none⟩ := by
  induction commands generalizing c with
  | nil => rfl
  | cons command rest ih =>
    simp only [Canvas.attemptAll, attempt_unlimited_of_quiet c (h command List.mem_cons_self)]
    exact ih _ fun command' hc => h command' (List.mem_cons_of_mem _ hc)

/-- Without a limit, running a command extends the canvas. -/
theorem extends_run {c : Canvas} (h : c.cursor.Nonneg) (command : Command) :
    c.Extends (command.run c) := by
  have := extends_attempt .unlimited c command
  rwa [attempt_unlimited h] at this

/-- Without a limit, attempting commands is running them. -/
theorem attemptAll_unlimited {c : Canvas} (h : c.cursor.Nonneg) (commands : List Command) :
    c.attemptAll .unlimited commands = ⟨c.runAll commands, none⟩ := by
  induction commands generalizing c with
  | nil => rfl
  | cons command rest ih =>
    simp only [Canvas.attemptAll, attempt_unlimited h]
    exact ih ((extends_run h command).nonneg h)

/-! ### Control sequences -/

theorem isQuiet_interpret (f : ControlFunction) (ps : Parameters) :
    ∀ command ∈ (f.interpret ps).commands, command.IsQuiet := by
  intro command h
  cases f with
  | nextLine | precedingLine =>
    -- the column is reset whether or not the number of lines can be read
    simp only [ControlFunction.interpret, Interpretation.reading, Interpretation.ask,
      Interpretation.after] at h
    rcases List.mem_cons.mp h with rfl | h
    · trivial
    · split at h
      · obtain rfl := List.mem_singleton.mp h
        trivial
      · exact absurd h List.not_mem_nil
  | _ =>
    simp only [ControlFunction.interpret, Interpretation.reading, Interpretation.ask] at h
    repeat' split at h
    all_goals first
      | exact absurd h List.not_mem_nil
      | obtain rfl := List.mem_singleton.mp h
        trivial

/-- Inside a control sequence, no byte asks for a write. -/
theorem isQuiet_commands {d : Decoder} (h : d.mode = .sequence) (b : UInt8) :
    ∀ command ∈ d.commands b, command.IsQuiet := by
  intro command hc
  simp only [Decoder.commands, h] at hc
  split at hc
  · simp only [Decoder.sequenceCommands] at hc
    cases hf : ControlFunction.ofFinal? b with
    | none => simp [hf] at hc
    | some f =>
      rw [hf] at hc
      exact isQuiet_interpret f _ command hc
  · cases hc

theorem quiet_handle (room : Room) (c : Canvas) (ps : Parameters) (f : ControlFunction) :
    c.Quiet (f.handle room c ps).canvas :=
  quiet_attemptAll room c (isQuiet_interpret f ps)

/-- **A control sequence is quiet.** -/
theorem quiet_handling (room : Room) (c : Canvas) (ps : Parameters) (final : UInt8) :
    c.Quiet (Decoder.handling room c ps final).canvas := by
  unfold Decoder.handling
  cases ControlFunction.ofFinal? final with
  | none => exact .refl c
  | some f => exact quiet_handle room c ps f

/-- **Without a limit, a control sequence fails only if it cannot read a parameter.** -/
theorem failure_handle_unlimited (c : Canvas) (ps : Parameters) (f : ControlFunction) :
    (f.handle .unlimited c ps).failure = (f.interpret ps).failure.map .parameter := by
  simp [ControlFunction.handle, attemptAll_unlimited_of_quiet c (isQuiet_interpret f ps)]

/-! ### The stream -/

namespace Terminal

theorem step_unlimited {t : Terminal} (h : t.canvas.cursor.Nonneg) (b : UInt8) :
    t.step .unlimited b =
      ⟨⟨t.decoder.next b, t.canvas.runAll (t.decoder.commands b)⟩, (t.decoder.notices b).reverse,
        none⟩ := by
  simp [step, attemptAll_unlimited h]

theorem extends_runAll {c : Canvas} (h : c.cursor.Nonneg) (commands : List Command) :
    c.Extends (c.runAll commands) := by
  induction commands generalizing c with
  | nil => exact .refl c
  | cons command rest ih =>
    have hfirst := extends_run h command
    exact hfirst.trans (ih (hfirst.nonneg h))

theorem foldl_advance_unlimited {t : Terminal} (h : t.canvas.cursor.Nonneg) (log : List Notice)
    (bytes : List UInt8) :
    bytes.foldl (advance .unlimited) ⟨t, log, none⟩ =
      ⟨⟨t.decoder.nextAll bytes, t.canvas.runAll (t.decoder.commandsAll bytes)⟩,
        (t.decoder.report bytes).reverse ++ log, none⟩ := by
  induction bytes generalizing t log with
  | nil => rfl
  | cons b rest ih =>
    rw [List.foldl_cons]
    simp only [advance, step_unlimited h]
    -- the next byte meets a canvas that is as good as the first one
    rw [ih ((extends_runAll h _).nonneg h)]
    simp [Decoder.nextAll, Decoder.commandsAll, Decoder.report, Canvas.runAll, List.foldl_append]

/-- **Without a limit, feeding bytes is running all commands of the stream.** -/
theorem feed_unlimited {t : Terminal} (h : t.canvas.cursor.Nonneg) (bytes : List UInt8) :
    t.feed .unlimited bytes =
      ⟨⟨t.decoder.nextAll bytes, t.canvas.runAll (t.decoder.commandsAll bytes)⟩,
        (t.decoder.report bytes).reverse, none⟩ := by
  rw [feed, foldl_advance_unlimited h, List.append_nil]

/-- Without a limit, parsing runs all commands of the bytes. -/
theorem parse_unlimited {t : Terminal} (h : t.canvas.cursor.Nonneg) (bytes : List UInt8) :
    (t.parse .unlimited bytes).terminal.canvas = t.canvas.runAll (t.decoder.commandsAll bytes) ∧
      (t.parse .unlimited bytes).shortage = none := by
  rw [parse, feed_unlimited h]
  exact ⟨rfl, rfl⟩

end Terminal

end AnsiArt
