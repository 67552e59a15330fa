import AnsiArt.Proofs.Screen.Renditions
import AnsiArt.Proofs.Stream.Strokes

/-!
# Which renditions a byte stream leaves

A byte asks for characters of the code page only, and a control sequence asks for none. So every
terminal that a fresh one can become has a regular canvas, and the canvas is regular in front of
each write as well, where a tab or a stray escape is only half done.

Main statements:

* `Decoder.onCodePage_commands` — what a byte can write;
* `Terminal.Reachable.regular` — every reachable terminal has a regular canvas;
* `Terminal.regular_parse` — the pen and the cells of a fresh terminal, at every moment.
-/

namespace AnsiArt

theorem Command.IsQuiet.onCodePage {command : Command} (h : command.IsQuiet) :
    command.OnCodePage := by
  cases command with
  | write ch => exact h.elim
  | _ => trivial

/-- **A byte writes characters of the code page only.** -/
theorem Decoder.onCodePage_commands (d : Decoder) (b : UInt8) :
    ∀ command ∈ d.commands b, command.OnCodePage := by
  intro command hc
  cases hmode : d.mode with
  | sequence => exact (isQuiet_commands hmode b command hc).onCodePage
  | finished =>
    rw [Decoder.commands, hmode] at hc
    cases hc
  | text =>
    simp only [Decoder.commands, hmode, textCommands] at hc
    repeat' split at hc
    · cases hc
    all_goals obtain rfl := List.mem_singleton.mp hc
    · trivial
    · trivial
    · trivial
    · exact CodePage437.decode_mem_repertoire b
  | escape =>
    simp only [Decoder.commands, hmode] at hc
    split at hc
    · cases hc
    · -- the escape is written itself, and then the byte behind it
      rcases List.mem_cons.mp hc with rfl | hc
      · exact CodePage437.decode_mem_repertoire byteESC
      · obtain rfl := List.mem_singleton.mp hc
        exact CodePage437.decode_mem_repertoire b

/-! ### In front of each write -/

namespace Canvas.Regular

variable {c : Canvas} {s : Stroke}

theorem before_blankStrokes (h : c.Regular) (room : Room) (n : Nat)
    (hs : s ∈ c.blankStrokes room n) : s.before.Regular := by
  induction n generalizing c with
  | zero => cases hs
  | succ n ih =>
    have hwrite := h.tryWrite CodePage437.space_mem_repertoire room
    unfold blankStrokes at hs
    rcases List.mem_cons.mp hs with rfl | hs
    · exact h
    split at hs
    · next heq =>
      rw [heq] at hwrite
      exact ih hwrite hs
    · cases hs

theorem before_strokes (h : c.Regular) (room : Room) (command : Command)
    (hs : s ∈ command.strokes room c) : s.before.Regular := by
  cases command with
  | write ch =>
    obtain rfl := List.mem_singleton.mp hs
    exact h
  | tab => exact h.before_blankStrokes room _ hs
  | _ => cases hs

theorem before_strokesAll (h : c.Regular) (room : Room) {commands : List Command}
    (hc : ∀ command ∈ commands, command.OnCodePage) (hs : s ∈ c.strokesAll room commands) :
    s.before.Regular := by
  induction commands generalizing c with
  | nil => cases hs
  | cons command rest ih =>
    have hfirst := h.attempt (hc command List.mem_cons_self) room
    unfold strokesAll at hs
    rcases List.mem_append.mp hs with hs | hs
    · exact h.before_strokes room command hs
    split at hs
    · next heq =>
      rw [heq] at hfirst
      exact ih hfirst (fun command' hmem => hc command' (List.mem_cons_of_mem _ hmem)) hs
    · cases hs

end Canvas.Regular

/-! ### Reachable terminals -/

namespace Terminal

variable {room : Room} {start t : Terminal}

/-- Whether or not a byte finds room, its commands have been attempted. -/
theorem canvas_step (room : Room) (t : Terminal) (b : UInt8) :
    (t.step room b).terminal.canvas =
      (t.canvas.attemptAll room (t.decoder.commands b)).canvas := by
  simp only [step]
  split
  · next heq => rw [heq]
  · next heq =>
    rw [heq]
    split <;> rfl

theorem regular_step (h : t.canvas.Regular) (room : Room) (b : UInt8) :
    (t.step room b).terminal.canvas.Regular := by
  rw [canvas_step]
  exact h.attemptAll (t.decoder.onCodePage_commands b) room

/-- **Every reachable terminal has a regular canvas.** -/
theorem Reachable.regular (hs : start.canvas.Regular) (h : Reachable room start t) :
    t.canvas.Regular := by
  induction h with
  | start => exact hs
  | step b _ ih => exact regular_step ih room b
  | finish _ ih => exact ih

theorem regular_of_mem_strokes (h : t.canvas.Regular) {bytes : List UInt8} {s : Stroke}
    (hs : s ∈ t.strokes room bytes) : s.before.Regular := by
  -- the strokes of the first byte are made on this canvas, the others on the one it leaves
  induction bytes generalizing t with
  | nil => cases hs
  | cons b rest ih =>
    have hstep := regular_step h room b
    rw [strokes] at hs
    rcases List.mem_append.mp hs with hs | hs
    · exact h.before_strokesAll room (t.decoder.onCodePage_commands b) hs
    split at hs
    · next heq =>
      rw [heq] at hstep
      exact ih hstep hs
    · cases hs

/-- **At every moment of a parse the pen and the cells are regular.** Whatever a fresh terminal is
fed, and whether or not it finds room: colours, fonts and flags are among those that there are, no
two underlines come together, each cell holds a character of the code page, and what a cell looks
like is made of sixteen colours. The same holds inside a byte, in front of each write. -/
theorem regular_parse {width height : Int} (hstart : ofSize room width height = .ok start) :
    (∀ t, Reachable room start t → t.canvas.Regular ∧
      ∀ (o : Nat) (cell : Cell), t.canvas.slot? o = some cell →
        (0 ≤ cell.rendition.look.foreground ∧ cell.rendition.look.foreground ≤ 15) ∧
          (0 ≤ cell.rendition.look.background ∧ cell.rendition.look.background ≤ 15)) ∧
      ∀ (bytes : List UInt8), ∀ s ∈ start.strokes room bytes, s.before.Regular := by
  obtain ⟨w, n, hw, -, -, rfl⟩ := ofSize_eq_ok_blank hstart
  have hblank := Canvas.regular_blank w n hw
  refine ⟨fun t ht => ?_, fun bytes s hs => regular_of_mem_strokes hblank hs⟩
  have hregular := ht.regular hblank
  exact ⟨hregular, fun o cell ho => (hregular.cells o cell ho).rendition.look_bounds⟩

/-- A letter in bold yellow for which both underlines were asked: the later one stays. -/
theorem regular_parse_two_underlines :
    ofSize .unlimited 2 0 = .ok ⟨{}, .blank 2 0 (by decide)⟩ ∧
      ∃ t, Reachable .unlimited ⟨{}, .blank 2 0 (by decide)⟩ t ∧
        t.canvas.slot? 0 =
          some ⟨'A', { foreground := 3, flags := .ofList [.bold, .doubleUnderline] }⟩ ∧
        t.canvas.Regular := by
  let start : Terminal := ⟨{}, .blank 2 0 (by decide)⟩
  have hstart : ofSize .unlimited 2 0 = .ok start := rfl
  have hreach : Reachable .unlimited start
      (start.feed .unlimited
        [0x1b, 0x5b, 0x31, 0x3b, 0x34, 0x3b, 0x32, 0x31, 0x3b, 0x33, 0x33, 0x6d, 0x41]).terminal :=
    Reachable.start.feed _
  exact ⟨hstart, _, hreach, by decide +kernel, ((regular_parse hstart).1 _ hreach).1⟩

end Terminal

end AnsiArt
