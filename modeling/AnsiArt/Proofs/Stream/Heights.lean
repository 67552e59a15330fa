import AnsiArt.Proofs.Screen.Heights
import AnsiArt.Proofs.Stream.Meaning

/-!
# The initial height of a terminal

Without a limit on the room, a token does what its commands do, so a whole stream is one row of
commands. Only a control sequence of letter `L` asks for an insertion of lines. Without one of
these, terminals of the same width end in the same way, however high they were at first.

Main statements:

* `Token.foldl_advance_unlimited` — tokens carry out their commands;
* `Token.insertsLines_of_mem_commands` — which tokens ask for an insertion of lines;
* `Terminal.sameScreen_parse` — nothing that is looked at depends on the initial height.
-/

namespace AnsiArt

open Decoder

namespace Token

/-! ### The commands of a token -/

/-- What a token asks for. -/
def commands : Token → List Command
  | character b _ => [.write (CodePage437.decode b)]
  | lineFeed => [.lineFeed]
  | carriageReturn => [.carriageReturn]
  | tab => [.tab]
  | stray b _ => [.write (CodePage437.decode byteESC), .write (CodePage437.decode b)]
  | sequence body final _ _ => sequenceCommands (.ofTexts (splitAll byteSemicolon body)) final

theorem canvas_handling (room : Room) (c : Canvas) (ps : Parameters) (final : UInt8) :
    (handling room c ps final).canvas = (c.attemptAll room (sequenceCommands ps final)).canvas := by
  rw [handling, sequenceCommands]
  cases ControlFunction.ofFinal? final <;> rfl

theorem attempt_unlimited {c : Canvas} (h : c.cursor.Nonneg) (t : Token) :
    t.attempt .unlimited c = ⟨c.runAll t.commands, none⟩ := by
  cases t with
  | character b _ => exact Canvas.tryWrite_unlimited (h.offset c.width)
  | lineFeed => rfl
  | carriageReturn => rfl
  | tab => exact tryBlanks_unlimited h _
  | stray b _ => exact attemptAll_unlimited h _
  | sequence body final _ _ => rw [attempt, canvas_handling, attemptAll_unlimited h]; rfl

/-- **Without a limit, tokens carry out their commands one after another.** -/
theorem foldl_advance_unlimited {c : Canvas} (h : c.cursor.Nonneg) (ts : List Token) :
    ts.foldl (advance .unlimited) ⟨c, none⟩ = ⟨c.runAll (ts.flatMap commands), none⟩ := by
  induction ts generalizing c with
  | nil => rfl
  | cons t ts ih =>
    have hfirst : advance .unlimited ⟨c, none⟩ t = ⟨c.runAll t.commands, none⟩ :=
      attempt_unlimited h t
    have hnonneg := (Terminal.extends_runAll h t.commands).nonneg h
    rw [List.foldl_cons, hfirst, ih hnonneg, List.flatMap_cons, Canvas.runAll, Canvas.runAll,
      Canvas.runAll, List.foldl_append]

/-! ### The insertion of lines -/

/-- A control sequence that inserts lines: its letter is `L`, and its first parameter can be
read. -/
def InsertsLines : Token → Prop
  | sequence body final _ _ =>
    final = 0x4c ∧ ∃ n, (Parameters.ofTexts (splitAll byteSemicolon body)).param 0 1 = .ok n
  | _ => False

theorem insertLines_of_mem_interpret {f : ControlFunction} {ps : Parameters} {n : Int}
    (h : .insertLines n ∈ (f.interpret ps).commands) : f = .insertLine ∧ ps.param 0 1 = .ok n := by
  cases f with
  | insertLine =>
    simp only [ControlFunction.interpret, Interpretation.reading, Interpretation.ask] at h
    split at h
    · next m hm =>
      cases List.mem_singleton.mp h
      exact ⟨rfl, hm⟩
    · cases h
  | _ =>
    -- whatever the other functions ask for, it is not this
    simp only [ControlFunction.interpret, Interpretation.reading, Interpretation.ask,
      Interpretation.after] at h
    repeat' split at h
    all_goals simp at h

theorem eq_letter_of_ofFinal? {final : UInt8}
    (h : ControlFunction.ofFinal? final = some .insertLine) : final = 0x4c := by
  have all : ∀ i : Fin 256, ControlFunction.ofFinal? (UInt8.ofNat i.val) = some .insertLine →
      UInt8.ofNat i.val = 0x4c := by
    decide +kernel
  have hletter := all ⟨final.toNat, final.toNat_lt⟩
  rw [UInt8.ofNat_toNat] at hletter
  exact hletter h

/-- **Only a control sequence of letter `L` asks for an insertion of lines.** -/
theorem insertsLines_of_mem_commands {t : Token} {n : Int} (h : .insertLines n ∈ t.commands) :
    t.InsertsLines := by
  cases t with
  | sequence body final hbody hfinal =>
    rw [commands, sequenceCommands] at h
    cases hf : ControlFunction.ofFinal? final with
    | none =>
      rw [hf] at h
      cases h
    | some f =>
      rw [hf] at h
      obtain ⟨rfl, hparam⟩ := insertLines_of_mem_interpret h
      exact ⟨eq_letter_of_ofFinal? hf, n, hparam⟩
  | character | stray | lineFeed | carriageReturn | tab => simp [commands] at h

end Token

namespace Terminal

/-- Without a limit, parsing carries out the commands of the tokens. -/
theorem parse_unlimited_script {c : Canvas} (h : c.cursor.Nonneg) (bytes : List UInt8) :
    ((Terminal.mk {} c).parse .unlimited bytes).terminal.canvas =
        c.runAll ((Script.ofBytes bytes).tokens.flatMap Token.commands) ∧
      ((Terminal.mk {} c).parse .unlimited bytes).shortage = none := by
  obtain ⟨hcanvas, hshortage⟩ := parse_eq_feed .unlimited ⟨{}, c⟩ bytes
  obtain ⟨hfeed, hstop⟩ := feed_script .unlimited c (Script.ofBytes bytes)
  rw [Script.bytes_ofBytes, Token.foldl_advance_unlimited h] at hfeed hstop
  exact ⟨hcanvas.trans hfeed, hshortage.trans hstop⟩

/-- **The initial height is only a hint.** Terminals of one width and of any two heights take the
same bytes, among which no control sequence inserts lines. Both come to the end of them, with the
cursor at the same position and the same pen, the same bounds, and the same cell at every position,
on the screen and off it. So no rendering tells them apart. -/
theorem sameScreen_parse {width height₁ height₂ : Int} (hwidth : 0 < width) (hheight₁ : 0 ≤ height₁)
    (hheight₂ : 0 ≤ height₂) {bytes : List UInt8}
    (hbytes : ∀ token ∈ (Script.ofBytes bytes).tokens, ¬token.InsertsLines) :
    ∃ start₁ start₂, ofSize .unlimited width height₁ = .ok start₁ ∧
      ofSize .unlimited width height₂ = .ok start₂ ∧
      ∃ c d, start₁.parse .unlimited bytes = c ∧ start₂.parse .unlimited bytes = d ∧
        c.shortage = none ∧ d.shortage = none ∧
        c.terminal.canvas.cursor = d.terminal.canvas.cursor ∧
        c.terminal.canvas.written = d.terminal.canvas.written ∧
        c.terminal.canvas.reached = d.terminal.canvas.reached ∧
        (∀ x y : Int, c.terminal.canvas.cellAt x y = d.terminal.canvas.cellAt x y) ∧
        c.terminal.canvas.plainText = d.terminal.canvas.plainText ∧
        (∀ (p : Palette) (address : String),
          Html.document c.terminal.canvas p address = Html.document d.terminal.canvas p address) ∧
        ∀ (p : Palette) (fonts : FontStack),
          Image.ofCanvas c.terminal.canvas p fonts = Image.ofCanvas d.terminal.canvas p fonts := by
  obtain ⟨w, rfl⟩ := Int.eq_ofNat_of_zero_le (Int.le_of_lt hwidth)
  obtain ⟨m, rfl⟩ := Int.eq_ofNat_of_zero_le hheight₁
  obtain ⟨n, rfl⟩ := Int.eq_ofNat_of_zero_le hheight₂
  have hw : 0 < w := Int.natCast_pos.mp hwidth
  obtain ⟨hcanvas₁, hshortage₁⟩ := parse_unlimited_script (Canvas.nonneg_blank hw m) bytes
  obtain ⟨hcanvas₂, hshortage₂⟩ := parse_unlimited_script (Canvas.nonneg_blank hw n) bytes
  -- neither row of commands inserts lines, and it is the same row
  have hcommands : ∀ k, Command.insertLines k ∉
      (Script.ofBytes bytes).tokens.flatMap Token.commands := by
    intro k hk
    obtain ⟨token, hmem, htoken⟩ := List.mem_flatMap.mp hk
    exact hbytes token hmem (Token.insertsLines_of_mem_commands htoken)
  have hsame := (Canvas.SameScreen.blank hw m n).runAll hcommands
  rw [← hcanvas₁, ← hcanvas₂] at hsame
  exact ⟨_, _, ofSize_unlimited hw m, ofSize_unlimited hw n, _, _, rfl, rfl, hshortage₁, hshortage₂,
    hsame.cursor_eq, hsame.written_eq, hsame.reached_eq, hsame.cellAt_eq, hsame.plainText_eq,
    hsame.document_eq, hsame.image_eq⟩

/-- A letter below three rows, above which everything is erased: whether the rows were there from
the start or not, only the second letter is left. -/
theorem sameScreen_parse_three_rows :
    ∃ s : Script,
      s.bytes = [0x41, 0x1b, 0x5b, 0x34, 0x3b, 0x31, 0x48, 0x42, 0x1b, 0x5b, 0x41, 0x1b, 0x5b, 0x31,
        0x4a] ∧
      (0 : Int) < 2 ∧ (0 : Int) ≤ 0 ∧ (0 : Int) ≤ 3 ∧
      (∀ token ∈ (Script.ofBytes s.bytes).tokens, ¬token.InsertsLines) ∧
      ∃ start₁ start₂, ofSize .unlimited 2 0 = .ok start₁ ∧ ofSize .unlimited 2 3 = .ok start₂ ∧
        (start₁.parse .unlimited s.bytes).terminal.canvas.plainText = " \n \n \nB\n" ∧
        (start₂.parse .unlimited s.bytes).terminal.canvas.plainText = " \n \n \nB\n" := by
  let s : Script :=
    { tokens :=
        [.character 0x41 (by unfold IsCharacter; decide),
          .sequence [0x34, 0x3b, 0x31] 0x48 (by simp [IsBody, isFinal]) (by decide),
          .character 0x42 (by unfold IsCharacter; decide),
          .sequence [] 0x41 (by simp [IsBody, isFinal]) (by decide),
          .sequence [0x31] 0x4a (by simp [IsBody, isFinal]) (by decide)]
      ending := .complete }
  have hs : ∀ token ∈ (Script.ofBytes s.bytes).tokens, ¬token.InsertsLines := by
    rw [Script.ofBytes_bytes]
    simp [s, Token.InsertsLines]
  obtain ⟨start₁, start₂, hstart₁, hstart₂, _, _, rfl, rfl, -, -, -, -, -, -, htext, -⟩ :=
    sameScreen_parse (show (0 : Int) < 2 by decide) (show (0 : Int) ≤ 0 by decide)
      (show (0 : Int) ≤ 3 by decide) hs
  have hsecond : (start₂.parse .unlimited s.bytes).terminal.canvas.plainText =
      " \n \n \nB\n" := by
    obtain rfl := Except.ok.inj hstart₂
    decide +kernel
  exact ⟨s, by decide, by decide, by decide, by decide, hs, start₁, start₂, hstart₁, hstart₂,
    htext.trans hsecond, hsecond⟩

end Terminal

end AnsiArt
