import AnsiArt.Proofs.Screen.Drawing
import AnsiArt.Proofs.Stream.Atomicity
import AnsiArt.Proofs.Stream.Totality

/-!
# Drawing by control sequences

A draw is asked for by the control sequence that moves the cursor to its row and its column and by
the character behind it. Feeding such bytes is drawing cell by cell.

Main statements:

* `Draw.commands_interpret` — the sequence is read as the motion to the row and the column;
* `Terminal.canvas_feed_draws` — feeding draws is drawing cell by cell;
* `Terminal.showsDraws_feed` — what a fresh terminal shows that is fed draws.
-/

namespace AnsiArt

open Decoder

/-! ### The bytes of a draw -/

namespace Draw

/-- The parameters of the motion. -/
def body (d : Draw) : List UInt8 :=
  Parameters.decimal d.rowZeros d.row ++
    byteSemicolon :: Parameters.decimal d.columnZeros d.column

/-- The letter of the motion. -/
def final : UInt8 := 0x48

/-- The bytes of a draw: the motion and the character. -/
def bytes (d : Draw) : List UInt8 := sequenceBytes d.body final ++ [d.byte]

theorem isBody_body (d : Draw) : IsBody d.body := by
  intro b hb
  rcases List.mem_append.mp hb with hrow | hb
  · exact Terminal.isFinal_of_digit (Parameters.digit_of_mem_decimal hrow)
  · rcases List.mem_cons.mp hb with rfl | hcolumn
    · rfl
    · exact Terminal.isFinal_of_digit (Parameters.digit_of_mem_decimal hcolumn)

/-- The tokens of a draw. -/
def tokens (d : Draw) : List Token :=
  [.sequence d.body final d.isBody_body rfl, .character d.byte d.isCharacter]

theorem flatMap_bytes_tokens (draws : List Draw) :
    (draws.flatMap tokens).flatMap Token.bytes = draws.flatMap bytes := by
  rw [List.flatMap_assoc]
  refine List.flatMap_congr fun d _ => ?_
  simp [tokens, bytes, Token.bytes]

/-- The body of a draw is read as its row and its column. -/
theorem commands_interpret (d : Draw) :
    (ControlFunction.cursorPosition.interpret (.ofTexts (splitAll byteSemicolon d.body))).commands =
      [.goto (d.column - 1) (d.row - 1)] := by
  have hno {zeros n : Nat} : byteSemicolon ∉ Parameters.decimal zeros n := fun h =>
    absurd (Parameters.digit_of_mem_decimal h) (by decide)
  have hsplit : splitAll byteSemicolon d.body =
      [Parameters.decimal d.rowZeros d.row, Parameters.decimal d.columnZeros d.column] := by
    rw [body, splitAll_append_cons hno, splitAll_of_not_mem hno]
  have hrow : (Parameters.ofTexts [Parameters.decimal d.rowZeros d.row,
      Parameters.decimal d.columnZeros d.column]).param 0 1 = .ok (d.row : Int) :=
    Parameters.param_decimal (i := 0) 1 rfl d.row_readable
  have hcolumn : (Parameters.ofTexts [Parameters.decimal d.rowZeros d.row,
      Parameters.decimal d.columnZeros d.column]).param 1 1 = .ok (d.column : Int) :=
    Parameters.param_decimal (i := 1) 1 rfl d.column_readable
  simp only [hsplit, ControlFunction.interpret, Interpretation.reading, Interpretation.ask, hrow,
    hcolumn]

end Draw

/-! ### Feeding draws -/

namespace Terminal

/-- A draw has the effect of its two tokens: the motion is read and carried out, and the character
finds its slot. -/
theorem advance_draw (c : Canvas) (d : Draw) :
    d.tokens.foldl (Token.advance .unlimited) ⟨c, none⟩ = ⟨c.draw d, none⟩ := by
  have hmove : (handling .unlimited c (.ofTexts (splitAll byteSemicolon d.body)) Draw.final).canvas =
      c.move (·.goto (d.column - 1) (d.row - 1)) := by
    show (c.attemptAll .unlimited (ControlFunction.cursorPosition.interpret
      (.ofTexts (splitAll byteSemicolon d.body))).commands).canvas = _
    rw [d.commands_interpret, attemptAll_singleton]
    rfl
  simp only [Draw.tokens, List.foldl_cons, List.foldl_nil, Token.advance, Token.attempt, hmove,
    Canvas.tryWrite_unlimited (c.offset_move_draw_nonneg d)]
  rfl

theorem foldl_advance_draws (c : Canvas) (draws : List Draw) :
    (draws.flatMap Draw.tokens).foldl (Token.advance .unlimited) ⟨c, none⟩ =
      ⟨c.drawAll draws, none⟩ := by
  induction draws generalizing c with
  | nil => rfl
  | cons d draws ih =>
    rw [List.flatMap_cons, List.foldl_append, advance_draw, ih]
    rfl

/-- **Feeding draws is drawing cell by cell.** -/
theorem canvas_feed_draws (c : Canvas) (draws : List Draw) :
    ((Terminal.mk {} c).feed .unlimited (draws.flatMap Draw.bytes)).terminal.canvas =
        c.drawAll draws ∧
      ((Terminal.mk {} c).feed .unlimited (draws.flatMap Draw.bytes)).shortage = none := by
  have hscript := feed_script .unlimited c ⟨draws.flatMap Draw.tokens, .complete⟩
  rw [Script.bytes, Ending.bytes, List.append_nil, Draw.flatMap_bytes_tokens,
    foldl_advance_draws] at hscript
  exact hscript

/-- **Drawing by position is a map in which the last draw counts.** Fed to a fresh terminal, draws
within the columns leave at each position the last cell drawn there, and nothing anywhere else. Draws
in any other order with the same last one at each position leave a canvas that is alike. -/
theorem showsDraws_feed {width height : Int} (hw : 0 < width) (hh : 0 ≤ height)
    (draws : List Draw) (hdraws : ∀ d ∈ draws, (d.column : Int) ≤ width) :
    ∃ start, ofSize .unlimited width height = .ok start ∧
      (start.feed .unlimited (draws.flatMap Draw.bytes)).shortage = none ∧
      (start.feed .unlimited (draws.flatMap Draw.bytes)).terminal.canvas.ShowsDraws width height
        draws ∧
      ∀ draws' : List Draw, (∀ d ∈ draws', (d.column : Int) ≤ width) →
        (∀ x y : Int,
          (Draw.lastAt draws' x y).map Draw.byte = (Draw.lastAt draws x y).map Draw.byte) →
        (start.feed .unlimited (draws'.flatMap Draw.bytes)).terminal.canvas.Alike
          (start.feed .unlimited (draws.flatMap Draw.bytes)).terminal.canvas := by
  obtain ⟨start, hstart, -⟩ := exists_ofSize_unlimited hw hh
  obtain ⟨w, n, hpos, rfl, rfl, rfl⟩ := ofSize_eq_ok_blank hstart
  have hfits {ds : List Draw} (hds : ∀ d ∈ ds, (d.column : Int) ≤ w) :
      ∀ d ∈ ds, d.column ≤ (Canvas.blank w n hpos).width :=
    fun d hd => Int.ofNat_le.mp (hds d hd)
  obtain ⟨hcanvas, hshortage⟩ := canvas_feed_draws (Canvas.blank w n hpos) draws
  refine ⟨_, hstart, hshortage, ?_, fun draws' hdraws' hlast => ?_⟩
  · rw [hcanvas]
    exact Canvas.showsDraws_drawAll_blank hpos (hfits hdraws)
  · rw [hcanvas, (canvas_feed_draws (Canvas.blank w n hpos) draws').1]
    exact Canvas.alike_drawAll rfl (hfits hdraws') (hfits hdraws) hlast

/-- Of two letters in the last column of the second row the later one is shown, although a letter in
the fifth row, which was not there at first, was drawn in between. -/
theorem showsDraws_feed_last_column :
    ∃ draws : List Draw,
      draws.flatMap Draw.bytes =
        [0x1b, 0x5b, 0x32, 0x3b, 0x34, 0x48, 0x42, 0x1b, 0x5b, 0x30, 0x35, 0x3b, 0x31, 0x48, 0x41,
          0x1b, 0x5b, 0x32, 0x3b, 0x34, 0x48, 0x43] ∧
      (0 : Int) < 4 ∧ (0 : Int) ≤ 2 ∧ (∀ d ∈ draws, (d.column : Int) ≤ 4) ∧
      ∃ start, ofSize .unlimited 4 2 = .ok start ∧
        (start.feed .unlimited (draws.flatMap Draw.bytes)).terminal.canvas.ShowsDraws 4 2 draws ∧
        (start.feed .unlimited (draws.flatMap Draw.bytes)).terminal.canvas.cellAt 3 1 =
          some ⟨'C', {}⟩ := by
  let corner (b : UInt8) (hb : IsCharacter b) : Draw :=
    { row := 2, column := 4, byte := b, row_pos := by decide, column_pos := by decide
      isCharacter := hb, row_readable := by decide, column_readable := by decide }
  let below : Draw :=
    { row := 5, column := 1, byte := 0x41, rowZeros := 1, row_pos := by decide
      column_pos := by decide, isCharacter := by unfold IsCharacter; decide
      row_readable := by decide, column_readable := by decide }
  let draws : List Draw :=
    [corner 0x42 (by unfold IsCharacter; decide), below,
      corner 0x43 (by unfold IsCharacter; decide)]
  have hdraws : ∀ d ∈ draws, (d.column : Int) ≤ 4 := by
    simp [draws, corner, below]
  obtain ⟨start, hstart, -, hshows, -⟩ :=
    showsDraws_feed (show (0 : Int) < 4 by decide) (show (0 : Int) ≤ 2 by decide) draws hdraws
  refine ⟨draws, by decide, by decide, by decide, hdraws, start, hstart, hshows, ?_⟩
  rw [hshows.cellAt_eq]
  rfl

end Terminal

end AnsiArt
