import AnsiArt.Proofs.Screen.Wrapping
import AnsiArt.Proofs.Stream.Meaning

/-!
# Plain lines

A stream of characters and line ends is a text without control sequences. Its lines are shown as
they are, except that a line longer than the canvas is wide goes on in the next row, and that behind
a line that fills its last row there is an empty one.

Main statements:

* `Canvas.runAll_commandsAll_lines` — such a stream asks for its characters and its line ends only;
* `Terminal.showsLines_parse` — what a fresh terminal shows of it.
-/

namespace AnsiArt

open Decoder

/-! ### The commands of a text -/

namespace Decoder

/-- What a stream asks for is what its first part asks for and what the rest does behind it. -/
theorem commandsAll_append (d : Decoder) (bytes more : List UInt8) :
    d.commandsAll (bytes ++ more) = d.commandsAll bytes ++ (d.nextAll bytes).commandsAll more := by
  induction bytes generalizing d with
  | nil => rfl
  | cons b bytes ih =>
    rw [List.cons_append, commandsAll, commandsAll, ih, List.append_assoc]
    rfl

/-- In text mode, a character is written, and the decoder stays in text mode. -/
theorem next_commands_character {b : UInt8} (h : IsCharacter b) :
    ({} : Decoder).next b = {} ∧
      ({} : Decoder).commands b = [.write (CodePage437.decode b)] := by
  obtain ⟨hs, he, hl, hr, ht⟩ := h
  constructor
  · simp only [next, if_neg hs, if_neg he]
  · simp only [commands, textCommands, if_neg hl, if_neg hr, if_neg ht, hs, he, or_self, if_false]

/-- A row of characters is written, one after another. -/
theorem nextAll_commandsAll_characters {line : List UInt8} (h : ∀ b ∈ line, IsCharacter b) :
    ({} : Decoder).nextAll line = {} ∧
      ({} : Decoder).commandsAll line = (CodePage437.decodeAll line).map .write := by
  induction line with
  | nil => exact ⟨rfl, rfl⟩
  | cons b line ih =>
    obtain ⟨hnext, hcommands⟩ := next_commands_character (h b List.mem_cons_self)
    obtain ⟨hnextAll, hcommandsAll⟩ := ih fun b' hb' => h b' (List.mem_cons_of_mem b hb')
    constructor
    · show (({} : Decoder).next b).nextAll line = {}
      rw [hnext, hnextAll]
    · rw [commandsAll, hcommands, hnext, hcommandsAll]
      rfl

end Decoder

theorem Canvas.runAll_append (c : Canvas) (commands more : List Command) :
    c.runAll (commands ++ more) = (c.runAll commands).runAll more :=
  List.foldl_append

/-- The characters of a text are written one after another. -/
theorem Canvas.runAll_write (c : Canvas) (text : List Char) :
    c.runAll (text.map .write) = c.writeText text := by
  rw [runAll, List.foldl_map]
  rfl

/-- The end of a line is asked for by two controls of their own. -/
theorem Decoder.commandsAll_lineEnd (more : List UInt8) :
    ({} : Decoder).commandsAll ([byteCR, byteLF] ++ more) =
      [.carriageReturn, .lineFeed] ++ ({} : Decoder).commandsAll more :=
  rfl

/-- **A stream of lines asks for nothing but its characters and its line ends.** -/
theorem Canvas.runAll_commandsAll_lines (c : Canvas) {front : List (List UInt8)}
    {last : List UInt8} (h : ∀ line ∈ front ++ [last], ∀ b ∈ line, IsCharacter b) :
    c.runAll (({} : Decoder).commandsAll ([byteCR, byteLF].intercalate (front ++ [last]))) =
      ((front.map CodePage437.decodeAll).foldl writeLine c).writeText
        (CodePage437.decodeAll last) := by
  induction front generalizing c with
  | nil =>
    have hlast : ∀ b ∈ last, IsCharacter b := h last List.mem_cons_self
    rw [List.nil_append, List.intercalate_singleton, (nextAll_commandsAll_characters hlast).2,
      runAll_write]
    rfl
  | cons line front ih =>
    obtain ⟨hnext, hcommands⟩ := nextAll_commandsAll_characters (h line List.mem_cons_self)
    have hmore : front ++ [last] ≠ [] := by simp
    have hrun : c.runAll ((CodePage437.decodeAll line).map .write ++ [.carriageReturn, .lineFeed]) =
        c.writeLine (CodePage437.decodeAll line) := by
      rw [runAll_append, runAll_write, writeLine]
    rw [List.cons_append, List.intercalate_cons_of_ne_nil hmore, List.append_assoc,
      commandsAll_append, hnext, hcommands, commandsAll_lineEnd, ← List.append_assoc,
      runAll_append, hrun, ih (c.writeLine _) fun l hl => h l (List.mem_cons_of_mem line hl)]
    rfl

/-! ### What a fresh terminal shows -/

namespace Terminal

variable {width : Nat}

/-- **Lines are shown as they are, wrapped at the width of the canvas.** A line of `n` characters
takes `n / width + 1` rows: its pieces of `width` characters and what remains. The plain text has
all rows up to the one of the last character, and the cursor stands behind that character. -/
theorem showsLines_parse (hw : 0 < width) (height : Nat) (front : List (List UInt8))
    (last : List UInt8) (hlast : last ≠ [])
    (h : ∀ line ∈ front ++ [last], ∀ b ∈ line, IsCharacter b) :
    ∃ start, ofSize .unlimited width height = .ok start ∧
      (start.parse .unlimited ([byteCR, byteLF].intercalate (front ++ [last]))).shortage = none ∧
      (start.parse .unlimited
        ([byteCR, byteLF].intercalate (front ++ [last]))).terminal.canvas.width = width ∧
      (start.parse .unlimited
        ([byteCR, byteLF].intercalate (front ++ [last]))).terminal.canvas.ShowsLines
          (front.map CodePage437.decodeAll) (CodePage437.decodeAll last) := by
  obtain ⟨hlaid, hwidth⟩ :=
    Canvas.laidOut_foldl_writeLine width height hw (front.map CodePage437.decodeAll)
  have hshows :
      Canvas.ShowsLines (front.map CodePage437.decodeAll) (CodePage437.decodeAll last) _ :=
    Canvas.showsLines_writeText hlaid (mt List.map_eq_nil_iff.mp hlast)
  -- parsing is running the commands of the stream, and those are the lines
  obtain ⟨hcanvas, hshortage⟩ := parse_unlimited (t := ⟨{}, .blank width height hw⟩)
    (Canvas.nonneg_blank hw height) ([byteCR, byteLF].intercalate (front ++ [last]))
  rw [Canvas.runAll_commandsAll_lines _ h] at hcanvas
  refine ⟨_, ofSize_unlimited hw height, hshortage, ?_, ?_⟩
  · rw [hcanvas]
    exact (Canvas.standsAt_writeText _ hlaid.standsAt).1.trans hwidth
  · rw [hcanvas]
    exact hshows

/-- On two columns, three letters take two rows, an empty line one, and two letters one with an
empty row behind it, which is not shown. -/
theorem showsLines_parse_two_columns :
    0 < 2 ∧ [0x44, 0x45] ≠ ([] : List UInt8) ∧
      (∀ line ∈ [[0x41, 0x42, 0x43], [], [0x44, 0x45]], ∀ b ∈ line, IsCharacter b) ∧
      ∃ start, ofSize .unlimited 2 0 = .ok start ∧
        (start.parse .unlimited
          [0x41, 0x42, 0x43, 0x0d, 0x0a, 0x0d, 0x0a, 0x44, 0x45]).terminal.canvas.plainText =
            "AB\nC \n  \nDE\n" ∧
        (start.parse .unlimited
          [0x41, 0x42, 0x43, 0x0d, 0x0a, 0x0d, 0x0a, 0x44, 0x45]).terminal.canvas.cursor.y = 4 := by
  have hlines : ∀ line ∈ [[0x41, 0x42, 0x43], [], [0x44, 0x45]], ∀ b ∈ line, IsCharacter b := by
    unfold IsCharacter
    decide +kernel
  obtain ⟨start, hstart, -, hwidth, hshows⟩ :=
    showsLines_parse (show 0 < 2 by decide) 0 [[0x41, 0x42, 0x43], []] [0x44, 0x45] (by decide)
      hlines
  refine ⟨by decide, by decide, hlines, start, hstart, ?_, ?_⟩
  · refine hshows.plainText_eq.trans ?_
    rw [hwidth]
    decide
  · refine hshows.y_eq.trans ?_
    rw [hwidth]
    decide

end Terminal

end AnsiArt
