import AnsiArt.Proofs.Screen.Characters
import AnsiArt.Proofs.Stream.Meaning
import AnsiArt.Render.PlainText

/-!
# The lines of the plain text

The plain text is meant to have one line for each row of the grid and in it one character for each
column, so that a cell is found in the text by its row and its column (`Canvas.ShownByOffset`). That
holds exactly if no cell of the grid holds a line feed, which would end its line too early.

In text, the byte LF moves the cursor and writes nothing. But behind an escape every byte other than
the bracket is written, LF like any other, and that is the only way for a line feed to get into a
cell.

Main statements:

* `Canvas.shownByOffset_iff` — cells are found by offset exactly if none of them is a line feed;
* `Terminal.onlyDraws_parse` — a cell's character is one that a token of the stream writes;
* `Terminal.shownByOffset_parse_iff` — both, for the canvas that a stream leaves.
-/

namespace AnsiArt

open Decoder

/-! ### Cells found by offset -/

namespace Canvas

/-- The plain text has one line for each row of the grid and nothing behind the last one, each line
has one character for each column, and the character in line `y` and column `x` is the one of the
cell at column `x` and row `y`. -/
structure ShownByOffset (c : Canvas) : Prop where
  length_lines : (splitAll '\n' c.plainText.toList).length = c.written.rows + 1
  behind_lines : (splitAll '\n' c.plainText.toList)[c.written.rows]? = some []
  line : ∀ y < c.written.rows, ∃ text, (splitAll '\n' c.plainText.toList)[y]? = some text ∧
    text.length = c.written.columns ∧
      ∀ x < c.written.columns, text[x]? = some (shownChar (c.cellAt x y))

theorem toList_plainText (c : Canvas) :
    c.plainText.toList = (c.grid.map textRow).flatMap fun line => line ++ ['\n'] := by
  rw [plainText, String.toList_ofList, plainChars, List.flatMap_map]

theorem getElem?_textRow (c : Canvas) {x y : Nat} (hx : x < c.written.columns) :
    (textRow (c.gridRow y))[x]? = some (shownChar (c.cellAt x y)) := by
  simp [textRow, gridRow, hx]

/-- A row of the grid is shown without a line feed if its cells are. -/
theorem lineFeed_not_mem_textRow {c : Canvas} {y : Nat}
    (h : ∀ x < c.written.columns, shownChar (c.cellAt x y) ≠ '\n') :
    '\n' ∉ textRow (c.gridRow y) := by
  intro hmem
  obtain ⟨x, hx⟩ := List.mem_iff_getElem?.mp hmem
  have hlt : x < c.written.columns := by
    have := (List.getElem?_eq_some_iff.mp hx).1
    simpa [textRow] using this
  rw [getElem?_textRow c hlt] at hx
  exact h x hlt (Option.some.inj hx)

/-- **Cells are found in the plain text by offset exactly if none of them holds a line feed.** -/
theorem shownByOffset_iff (c : Canvas) :
    c.ShownByOffset ↔
      ∀ y < c.written.rows, ∀ x < c.written.columns, shownChar (c.cellAt x y) ≠ '\n' := by
  constructor
  · rintro ⟨-, -, hline⟩ y hy x hx heq
    obtain ⟨line, hget, -, hshown⟩ := hline y hy
    -- a piece of the text holds no line feed, and this one would
    refine not_mem_of_mem_splitAll (List.mem_of_getElem? hget) ?_
    exact heq ▸ List.mem_of_getElem? (hshown x hx)
  · intro h
    have hsplit : splitAll '\n' c.plainText.toList = c.grid.map textRow ++ [[]] := by
      rw [toList_plainText]
      refine splitAll_flatMap fun line hmem => ?_
      obtain ⟨row, hrow, rfl⟩ := List.mem_map.mp hmem
      obtain ⟨y, hy, rfl⟩ := List.mem_map.mp hrow
      exact lineFeed_not_mem_textRow (h y (List.mem_range.mp hy))
    refine ⟨?_, ?_, fun y hy => ⟨textRow (c.gridRow y), ?_, ?_, fun x hx => ?_⟩⟩
    · simp [hsplit]
    · rw [hsplit, List.getElem?_append_right (by simp)]
      simp
    · rw [hsplit, List.getElem?_append_left (by simpa using hy)]
      simp [grid, hy]
    · simp [textRow]
    · exact getElem?_textRow c hx

end Canvas

/-! ### The characters of a stream -/

/-- The characters that a token writes. -/
def Token.characters : Token → List Char
  | character b _ => [CodePage437.decode b]
  | tab => [' ']
  | stray b _ => [CodePage437.decode byteESC, CodePage437.decode b]
  | lineFeed | carriageReturn | sequence .. => []

/-- Only a stray escape in front of the byte LF writes a line feed. -/
theorem Token.bytes_of_lineFeed_mem {t : Token} (h : '\n' ∈ t.characters) :
    t.bytes = [byteESC, byteLF] := by
  have hdecode {b : UInt8} (hb : '\n' = CodePage437.decode b) : b = byteLF := by
    have hcode := CodePage437.encode?_decode b
    rw [← hb] at hcode
    exact (Option.some.inj hcode).symm
  cases t with
  | character b hb =>
    -- LF is a control of its own, so it is no character
    have hlf : b ≠ byteLF := hb.2.2.1
    exact absurd (hdecode (List.mem_singleton.mp h)) hlf
  | tab => exact absurd (List.mem_singleton.mp h) (by decide)
  | stray b hb =>
    rcases List.mem_cons.mp h with heq | h
    · exact absurd heq (by decide)
    · rw [Token.bytes, hdecode (List.mem_singleton.mp h)]
  | lineFeed => exact absurd h List.not_mem_nil
  | carriageReturn => exact absurd h List.not_mem_nil
  | sequence => exact absurd h List.not_mem_nil

namespace Canvas.OnlyDraws

variable {P : Char → Prop} {c : Canvas}

/-- A token adds its own characters at most. -/
theorem token (h : c.OnlyDraws P) {t : Token} (ht : ∀ ch ∈ t.characters, P ch) (room : Room) :
    (t.attempt room c).canvas.OnlyDraws P := by
  cases t with
  | character b hb => exact h.tryWrite (ht _ List.mem_cons_self) room
  | lineFeed => exact h.inherit (inherits_of_slots_eq rfl)
  | carriageReturn => exact h.inherit (inherits_of_slots_eq rfl)
  | tab => exact h.tryBlanks (ht _ List.mem_cons_self) room _
  | stray b hb => exact h.attemptAll_writes [CodePage437.decode byteESC, CodePage437.decode b] ht room
  | sequence body final hbody hfinal => exact h.inherit (inherits_handling room c _ final)

/-- Tokens add their own characters at most, up to the one that finds no room. -/
theorem tokens {a : Attempt} (h : a.canvas.OnlyDraws P) {ts : List Token}
    (ht : ∀ t ∈ ts, ∀ ch ∈ t.characters, P ch) (room : Room) :
    (ts.foldl (Token.advance room) a).canvas.OnlyDraws P := by
  induction ts generalizing a with
  | nil => exact h
  | cons t ts ih =>
    have hfirst : (t.advance room a).canvas.OnlyDraws P := by
      obtain ⟨c, shortage⟩ := a
      cases shortage with
      | none => exact h.token (ht t List.mem_cons_self) room
      | some s => exact h
    exact ih hfirst fun t' ht' => ht t' (List.mem_cons_of_mem _ ht')

end Canvas.OnlyDraws

namespace Terminal

variable {room : Room} {width height : Int} {start : Terminal}

/-- **Each character on the canvas that a stream leaves is one that a token of it writes.** -/
theorem onlyDraws_parse (hstart : ofSize room width height = .ok start) (bytes : List UInt8) :
    (start.parse room bytes).terminal.canvas.OnlyDraws fun ch =>
      ∃ t ∈ (Script.ofBytes bytes).tokens, ch ∈ t.characters := by
  obtain ⟨w, h, hw, -, -, rfl⟩ := ofSize_eq_ok_blank hstart
  have htokens := (feed_script room (Canvas.blank w h hw) (Script.ofBytes bytes)).1
  rw [Script.bytes_ofBytes] at htokens
  rw [(parse_eq_feed room _ bytes).1, htokens]
  exact (Canvas.onlyDraws_blank w h hw).tokens (fun t ht ch hch => ⟨t, ht, hch⟩) room

/-- **When cells are found in the plain text by offset.** On the canvas that a byte stream leaves,
they are exactly if no cell of the grid holds a line feed, and for sure if no token of the stream is
a stray escape in front of the byte LF. -/
theorem shownByOffset_parse_iff (hstart : ofSize room width height = .ok start)
    (bytes : List UInt8) :
    ((start.parse room bytes).terminal.canvas.ShownByOffset ↔
      ∀ y < (start.parse room bytes).terminal.canvas.written.rows,
        ∀ x < (start.parse room bytes).terminal.canvas.written.columns,
          shownChar ((start.parse room bytes).terminal.canvas.cellAt x y) ≠ '\n') ∧
    ((∀ t ∈ (Script.ofBytes bytes).tokens, t.bytes ≠ [byteESC, byteLF]) →
      (start.parse room bytes).terminal.canvas.ShownByOffset) := by
  have hdraws := onlyDraws_parse hstart bytes
  generalize (start.parse room bytes).terminal.canvas = c at hdraws ⊢
  refine ⟨c.shownByOffset_iff, fun hstray => c.shownByOffset_iff.mpr fun y _ x _ hfeed => ?_⟩
  cases hcell : c.cellAt x y with
  | none =>
    -- an absent cell is shown as a blank
    rw [hcell] at hfeed
    exact absurd hfeed (by decide)
  | some cell =>
    rw [hcell] at hfeed
    obtain ⟨o, ho⟩ := Canvas.exists_slot?_of_cellAt hcell
    obtain ⟨t, ht, hmem⟩ := hdraws o cell ho
    rw [show cell.char = '\n' from hfeed] at hmem
    exact hstray t ht (Token.bytes_of_lineFeed_mem hmem)

/-- Two letters on two lines are found by offset: the ends of the lines are no characters. -/
theorem shownByOffset_two_lines :
    ∃ start, ofSize .unlimited 4 2 = .ok start ∧
      (∀ t ∈ (Script.ofBytes [0x41, 0x0d, 0x0a, 0x42]).tokens, t.bytes ≠ [byteESC, byteLF]) ∧
      (start.parse .unlimited [0x41, 0x0d, 0x0a, 0x42]).terminal.canvas.ShownByOffset := by
  have hstart : ofSize .unlimited 4 2 = .ok ⟨{}, .blank 4 2 (by decide)⟩ := rfl
  let script : Script :=
    ⟨[.character 0x41 (by unfold IsCharacter; decide), .carriageReturn, .lineFeed,
      .character 0x42 (by unfold IsCharacter; decide)], .complete⟩
  have hscript : Script.ofBytes [0x41, 0x0d, 0x0a, 0x42] = script := Script.ofBytes_bytes script
  have hstray : ∀ t ∈ (Script.ofBytes [0x41, 0x0d, 0x0a, 0x42]).tokens,
      t.bytes ≠ [byteESC, byteLF] := by
    rw [hscript]
    simp [script, Token.bytes, byteESC, byteLF, byteCR]
  exact ⟨_, hstart, hstray, (shownByOffset_parse_iff hstart _).2 hstray⟩

/-- An escape and the byte LF draw one row of two cells, but the text of that row falls into two
pieces: the second cell is a line feed. -/
theorem not_shownByOffset_escaped_lineFeed :
    ∃ start, ofSize .unlimited 4 2 = .ok start ∧
      (start.parse .unlimited [0x1b, 0x0a]).terminal.canvas.written = ⟨2, 1⟩ ∧
      splitAll '\n' (start.parse .unlimited [0x1b, 0x0a]).terminal.canvas.plainText.toList =
        [['\x1b'], [], []] ∧
      ¬ (start.parse .unlimited [0x1b, 0x0a]).terminal.canvas.ShownByOffset := by
  have hparse : (parse .unlimited ⟨{}, .blank 4 2 (by decide)⟩ [0x1b, 0x0a]).terminal.canvas =
      ((Canvas.blank 4 2 (by decide)).write '\x1b').write '\n' := by
    rw [(parse_eq_feed ..).1, feed_unlimited ⟨Int.le_refl 0, Int.le_refl 0⟩]
    rfl
  refine ⟨⟨{}, .blank 4 2 (by decide)⟩, rfl, ?_⟩
  rw [hparse]
  refine ⟨rfl, by decide, fun h => ?_⟩
  -- of the pieces of the text there is one too many
  exact absurd h.length_lines (by decide)

end Terminal

end AnsiArt
