import AnsiArt.Proofs.Control.Atomicity
import AnsiArt.Proofs.Stream.Joining
import AnsiArt.Proofs.Stream.Renditions

/-!
# A reset forgets the past

What a byte stream asks for does not depend on the canvas, and the rendition of the pen is changed
by selecting alone. So behind a reset of the rendition two terminals go on alike, whatever they were
fed before and however large they are: they end in the same state of the decoder and with the same
rendition, and in between they write the same characters in the same renditions. Where they write
them may differ, and so does the number of blanks of a tab, which depends on the column.

Main statements:

* `CarriesOut.append` — what commands do to the rendition, and what they write, one after another;
* `Terminal.carriesOut_feed` — a terminal that is not stopped carries out the commands of its bytes;
* `History.reset_forgets` — two terminals behind a reset.
-/

namespace AnsiArt

open Decoder

/-! ### Commands and the rendition -/

/-- The rendition in which a canvas writes. -/
def Canvas.rendition (c : Canvas) : Rendition := c.cursor.pen.rendition

/-- What a write puts down: its character in the rendition of the pen. -/
def Stroke.cell (s : Stroke) : Cell := ⟨s.char, s.before.rendition⟩

namespace Command

/-- What a command writes, unless it is a tab. -/
def cells (r : Rendition) : Command → List Cell
  | write ch => [⟨ch, r⟩]
  | _ => []

/-- The rendition behind a row of commands. -/
def restyleAll (r : Rendition) (commands : List Command) : Rendition := commands.foldl restyle r

/-- What a row of commands writes, unless there is a tab among them. -/
def cellsAll (r : Rendition) : List Command → List Cell
  | [] => []
  | command :: rest => command.cells r ++ cellsAll (command.restyle r) rest

theorem restyleAll_append (r : Rendition) (first second : List Command) :
    restyleAll r (first ++ second) = restyleAll (restyleAll r first) second :=
  List.foldl_append

theorem cellsAll_append (r : Rendition) (first second : List Command) :
    cellsAll r (first ++ second) = cellsAll r first ++ cellsAll (restyleAll r first) second := by
  induction first generalizing r with
  | nil => rfl
  | cons command rest ih =>
    rw [List.cons_append, cellsAll, cellsAll, ih, List.append_assoc]
    rfl

theorem rendition_tryWrite (room : Room) (c : Canvas) (ch : Char) :
    (c.tryWrite room ch).canvas.rendition = c.rendition := by
  rcases Canvas.tryWrite_cases room c ch with ⟨s, hstop⟩ | ⟨-, hwrite⟩
  · rw [hstop]
    rfl
  · rw [hwrite, Canvas.rendition, Canvas.pen_write]
    rfl

/-- **Whatever else it does, a command leaves the rendition that it selects.** -/
theorem rendition_attempt (room : Room) (c : Canvas) (command : Command) :
    (command.attempt room c).canvas.rendition = command.restyle c.rendition := by
  cases command with
  | write ch => exact rendition_tryWrite room c ch
  | tab =>
    exact Canvas.tryBlanks_induction (P := fun d => d.rendition = c.rendition)
      (fun d hd => (rendition_tryWrite room d ' ').trans hd) rfl _
  | _ => exact congrArg Cell.rendition (Canvas.pen_attempt c (by trivial) room)

end Command

/-! ### Carrying out commands -/

/-- Between two canvases, a row of commands was carried out in some strokes: the rendition is the
one that they select, and without a tab the strokes put down what they write. -/
structure CarriesOut (commands : List Command) (c d : Canvas) (strokes : List Stroke) : Prop where
  rendition_eq : d.rendition = Command.restyleAll c.rendition commands
  cells_eq : .tab ∉ commands →
    strokes.map Stroke.cell = Command.cellsAll c.rendition commands

namespace CarriesOut

variable {first second commands : List Command} {c d e : Canvas} {strokes more : List Stroke}

theorem nil (c : Canvas) : CarriesOut [] c c [] := ⟨rfl, fun _ => rfl⟩

/-- **Rows of commands are carried out one after the other.** -/
theorem append (h₁ : CarriesOut first c d strokes) (h₂ : CarriesOut second d e more) :
    CarriesOut (first ++ second) c e (strokes ++ more) where
  rendition_eq := by rw [Command.restyleAll_append, ← h₁.rendition_eq, h₂.rendition_eq]
  cells_eq htab := by
    obtain ⟨hfirst, hsecond⟩ := not_or.mp (mt List.mem_append.mpr htab)
    rw [List.map_append, h₁.cells_eq hfirst, h₂.cells_eq hsecond, h₁.rendition_eq,
      Command.cellsAll_append]

variable (room : Room)

/-- A single command is carried out in its strokes, even if it finds no room. -/
theorem attempt (c : Canvas) (command : Command) :
    CarriesOut [command] c (command.attempt room c).canvas (command.strokes room c) where
  rendition_eq := Command.rendition_attempt room c command
  cells_eq htab := by
    cases command with
    | tab => exact absurd List.mem_cons_self htab
    | _ => rfl

theorem attemptAll (c : Canvas) (h : (c.attemptAll room commands).shortage = none) :
    CarriesOut commands c (c.attemptAll room commands).canvas (c.strokesAll room commands) := by
  induction commands generalizing c with
  | nil => exact nil c
  | cons command rest ih =>
    have hfirst := attempt room c command
    unfold Canvas.attemptAll at h ⊢
    unfold Canvas.strokesAll
    cases hs : command.attempt room c with
    | mk d shortage =>
      rw [hs] at h hfirst
      cases shortage with
      | none => exact hfirst.append (ih d h)
      | some cause => cases h

/-- The commands of a control function are carried out, for only one that stands alone can lack
room. -/
theorem interpret (c : Canvas) (f : ControlFunction) (ps : Parameters) :
    CarriesOut (f.interpret ps).commands c (c.attemptAll room (f.interpret ps).commands).canvas
      [] := by
  have hquiet : c.strokesAll room (f.interpret ps).commands = [] :=
    strokesAll_of_quiet room c (isQuiet_interpret f ps)
  by_cases hf : f = .insertLine
  · subst hf
    rw [ControlFunction.interpret]
    cases ps.param 0 1 with
    | error e => exact nil c
    | ok n =>
      show CarriesOut [.insertLines n] c (c.attemptAll room [.insertLines n]).canvas []
      rw [attemptAll_singleton]
      exact attempt room c (.insertLines n)
  · have hroom : (c.attemptAll room (f.interpret ps).commands).shortage = none :=
      ControlFunction.shortage_attemptAll_interpret f hf
    have hall := attemptAll room c hroom
    rwa [hquiet] at hall

end CarriesOut

/-! ### The bytes of a stream -/

namespace Terminal

variable {room : Room} {t : Terminal} {b : UInt8} {bytes : List UInt8}

theorem decoder_step_of_shortage (h : (t.step room b).shortage = none) :
    (t.step room b).terminal.decoder = t.decoder.next b := by
  by_cases hmode : t.decoder.mode = .sequence
  · simp only [step]
    split
    · rfl
    · rw [if_pos hmode]
  · obtain ⟨-, hshortage, hdecoder⟩ := step_of_mode_ne room t.canvas hmode b
    exact hdecoder (hshortage.symm.trans h)

theorem carriesOut_step (h : (t.step room b).shortage = none) :
    CarriesOut (t.decoder.commands b) t.canvas (t.step room b).terminal.canvas
      (t.canvas.strokesAll room (t.decoder.commands b)) := by
  rw [canvas_step]
  obtain ⟨⟨mode, ps⟩, c⟩ := t
  by_cases hmode : mode = .sequence
  · -- inside a sequence a lack of room is no stop, but there is nothing to write either
    subst hmode
    rw [strokesAll_of_quiet room c (isQuiet_commands rfl b)]
    simp only [commands]
    split
    · rw [sequenceCommands]
      cases ControlFunction.ofFinal? b with
      | none => exact .nil c
      | some f => exact .interpret room c f ps.flush
    · exact .nil c
  · obtain ⟨-, hshortage, -⟩ := step_of_mode_ne room c (d := ⟨mode, ps⟩) hmode b
    exact .attemptAll room c (hshortage.symm.trans h)

/-- **A terminal that is not stopped follows its decoder and carries out the commands of its
bytes.** -/
theorem carriesOut_feed (h : (t.feed room bytes).shortage = none) :
    (t.feed room bytes).terminal.decoder = t.decoder.nextAll bytes ∧
      CarriesOut (t.decoder.commandsAll bytes) t.canvas (t.feed room bytes).terminal.canvas
        (t.strokes room bytes) := by
  -- the step lemmas for the first byte, and the hypothesis for the terminal that it leaves
  induction bytes generalizing t with
  | nil => exact ⟨rfl, .nil _⟩
  | cons b bytes ih =>
    rw [feed_cons] at h ⊢
    have hdecoder : (t.step room b).shortage = none →
        (t.step room b).terminal.decoder = t.decoder.next b := decoder_step_of_shortage
    have hstep : (t.step room b).shortage = none →
        CarriesOut (t.decoder.commands b) t.canvas (t.step room b).terminal.canvas
          (t.canvas.strokesAll room (t.decoder.commands b)) := carriesOut_step
    rw [strokes, commandsAll]
    cases hs : t.step room b with
    | mk t' log shortage =>
      rw [hs] at h hdecoder hstep
      cases shortage with
      | some s => cases h
      | none =>
        have hnext : t'.decoder = t.decoder.next b := hdecoder rfl
        obtain ⟨hend, hrest⟩ := ih (t := t') h
        rw [hnext] at hend hrest
        exact ⟨hend, (hstep rfl).append hrest⟩

end Terminal

/-! ### Tabs -/

namespace Decoder

variable {d : Decoder} {b : UInt8} {bytes : List UInt8}

/-- Among the bytes there is a tab that is met in text mode. -/
def TakesTab (d : Decoder) (bytes : List UInt8) : Prop :=
  ∃ before behind, bytes = before ++ byteTAB :: behind ∧ (d.nextAll before).mode = .text

theorem tab_mem_commands_iff : .tab ∈ d.commands b ↔ d.mode = .text ∧ b = byteTAB := by
  constructor
  · intro h
    cases hmode : d.mode with
    | sequence => exact (isQuiet_commands hmode b _ h).elim
    | finished =>
      rw [commands, hmode] at h
      cases h
    | escape =>
      simp only [commands, hmode] at h
      split at h <;> simp at h
    | text =>
      simp only [commands, hmode, textCommands] at h
      repeat' split at h
      all_goals simp_all
  · rintro ⟨hmode, rfl⟩
    rw [commands, hmode]
    show Command.tab ∈ textCommands byteTAB
    decide

/-- **A stream asks for a tab exactly if it meets one in text mode.** -/
theorem tab_mem_commandsAll_iff : .tab ∈ d.commandsAll bytes ↔ d.TakesTab bytes := by
  constructor
  · intro h
    induction bytes generalizing d with
    | nil => cases h
    | cons b rest ih =>
      rcases List.mem_append.mp h with hb | hrest
      · obtain ⟨hmode, rfl⟩ := tab_mem_commands_iff.mp hb
        exact ⟨[], rest, rfl, hmode⟩
      · obtain ⟨before, behind, rfl, hmode⟩ := ih hrest
        exact ⟨b :: before, behind, rfl, hmode⟩
  · rintro ⟨before, behind, rfl, hmode⟩
    induction before generalizing d with
    | nil => exact List.mem_append_left _ (tab_mem_commands_iff.mpr ⟨hmode, rfl⟩)
    | cons b before ih => exact List.mem_append_right _ (ih hmode)

end Decoder

/-! ### Two terminals behind a reset -/

/-- What a fresh terminal was fed before it is in text mode again. -/
structure History where
  room : Room
  start : Terminal
  bytes : List UInt8
  fresh : ∃ width height, Terminal.ofSize room width height = .ok start
  inText : (start.feed room bytes).terminal.decoder.mode = .text

namespace History

open Terminal

variable (h k : History) {s : List UInt8}

/-- The terminal goes on with a reset and more bytes. -/
def run (s : List UInt8) : Progress := h.start.feed h.room (h.bytes ++ (resetBytes ++ s))

/-- What it writes behind the reset. -/
def writes (s : List UInt8) : List Stroke :=
  (h.start.feed h.room (h.bytes ++ resetBytes)).terminal.strokes h.room s

/-- Unless the history was stopped, the reset leaves a fresh decoder and the usual rendition. -/
theorem exists_reset (hnone : (h.run s).shortage = none) :
    ∃ c log, h.start.feed h.room (h.bytes ++ resetBytes) = ⟨⟨{}, c⟩, log, none⟩ ∧
      c.rendition = {} := by
  obtain ⟨width, height, hstart⟩ := h.fresh
  have hreach : Reachable h.room h.start (h.start.feed h.room h.bytes).terminal :=
    Reachable.start.feed h.bytes
  have hmode := h.inText
  rw [run, feed_append] at hnone
  rw [feed_append]
  cases hfeed : h.start.feed h.room h.bytes with
  | mk t log shortage =>
    rw [hfeed] at hnone hreach hmode
    cases shortage with
    | some cause => cases hnone
    | none =>
      have ht : t = ⟨{}, t.canvas⟩ := hreach.eq_mk (ofSize_eq_ok hstart).1 hmode
      rw [ht, Progress.feed, feed_reset]
      exact ⟨_, _, rfl, rfl⟩

/-- **Behind the reset, everything comes from the bytes behind it.** -/
theorem run_of_shortage (hnone : (h.run s).shortage = none) :
    (h.run s).terminal.decoder = ({} : Decoder).nextAll s ∧
      ∃ c : Canvas, c.rendition = {} ∧
        CarriesOut (({} : Decoder).commandsAll s) c (h.run s).terminal.canvas (h.writes s) := by
  obtain ⟨c, log, hreset, hrendition⟩ := h.exists_reset hnone
  rw [run, ← List.append_assoc, feed_append, hreset] at hnone ⊢
  rw [writes, hreset]
  obtain ⟨hdecoder, hcarries⟩ := carriesOut_feed (t := ⟨{}, c⟩) hnone
  exact ⟨hdecoder, c, hrendition, hcarries⟩

/-- **A reset forgets the past.** Two fresh terminals of any sizes, fed any bytes that leave them in
text mode, then a reset and the same bytes, are not stopped if there is room. If they are not, they
end in the same state of the decoder and with the same rendition, and unless there is a tab in text
mode, they have written the same characters in the same renditions since the reset. -/
theorem reset_forgets (s : List UInt8) :
    (h.room = .unlimited → (h.run s).shortage = none) ∧
    ((h.run s).shortage = none → (k.run s).shortage = none →
      (h.run s).terminal.decoder = (k.run s).terminal.decoder ∧
      (h.run s).terminal.canvas.rendition = (k.run s).terminal.canvas.rendition ∧
      (¬ TakesTab {} s → (h.writes s).map Stroke.cell = (k.writes s).map Stroke.cell)) := by
  refine ⟨fun hroom => ?_, fun hh hk => ?_⟩
  · obtain ⟨width, height, hstart⟩ := h.fresh
    obtain ⟨-, -, hcursor, -⟩ := ofSize_eq_ok hstart
    have hnonneg : h.start.canvas.cursor.Nonneg :=
      ⟨hcursor ▸ Int.le_refl 0, hcursor ▸ Int.le_refl 0⟩
    rw [run, hroom, feed_unlimited hnonneg]
  · obtain ⟨hdecoder, c, hc, hcarries⟩ := h.run_of_shortage hh
    obtain ⟨kdecoder, e, he, kcarries⟩ := k.run_of_shortage hk
    refine ⟨hdecoder.trans kdecoder.symm, ?_, fun htab => ?_⟩
    · rw [hcarries.rendition_eq, kcarries.rendition_eq, hc, he]
    · have hnone : .tab ∉ ({} : Decoder).commandsAll s := mt tab_mem_commandsAll_iff.mp htab
      rw [hcarries.cells_eq hnone, kcarries.cells_eq hnone, hc, he]

/-- A terminal in red and one with little room, behind a reset: both write a stray escape with the
tab behind it, and then a letter in bold. -/
theorem reset_forgets_red :
    ∃ (h k : History) (s : List UInt8), s = [0x1b, 0x09, 0x1b, 0x5b, 0x31, 0x6d, 0x58] ∧
      h.start.canvas.width = 4 ∧ h.bytes = [0x1b, 0x5b, 0x33, 0x31, 0x6d, 0x41] ∧
      k.start.canvas.width = 2 ∧ k.bytes = [] ∧ k.room = .limited 4 ∧
      (h.run s).shortage = none ∧ (k.run s).shortage = none ∧ ¬ TakesTab {} s ∧
      (h.run s).terminal.canvas.rendition = (k.run s).terminal.canvas.rendition ∧
      (h.writes s).map Stroke.cell = (k.writes s).map Stroke.cell := by
  let s : List UInt8 := [0x1b, 0x09, 0x1b, 0x5b, 0x31, 0x6d, 0x58]
  let h : History :=
    { room := .unlimited
      start := ⟨{}, .blank 4 2 (by decide)⟩
      bytes := [0x1b, 0x5b, 0x33, 0x31, 0x6d, 0x41]
      fresh := ⟨4, 2, rfl⟩
      inText := by decide }
  let k : History :=
    { room := .limited 4
      start := ⟨{}, .blank 2 0 (by decide)⟩
      bytes := []
      fresh := ⟨2, 0, rfl⟩
      inText := rfl }
  obtain ⟨hroom, halike⟩ := reset_forgets h k s
  have hh := hroom rfl
  have hk : (k.run s).shortage = none := by decide +kernel
  have htab : ¬ TakesTab {} s := by
    rw [← tab_mem_commandsAll_iff]
    decide
  obtain ⟨-, hrendition, hcells⟩ := halike hh hk
  exact ⟨h, k, s, rfl, rfl, rfl, rfl, rfl, rfl, hh, hk, htab, hrendition, hcells htab⟩

end History

end AnsiArt
