import AnsiArt.Proofs.Fonts.Coverage
import AnsiArt.Proofs.Render.Colours
import AnsiArt.Proofs.Render.Lines

/-!
# The glyphs of an image

An audit is made of the plain text of a canvas, which has all characters in one row, with blanks
where there is no cell and with line ends; an image looks at one cell after another. But both skip
blanks and unprintable characters, so the characters that are audited are those for which the image
draws text, and the missing ones are those that it replaces.

Main statements:

* `Image.textsAt_of_cellAt` — the text that is drawn for a cell;
* `Canvas.mem_plainText_iff` — the characters of the plain text that need a glyph;
* `Canvas.predicts_audit` — the audit of the plain text predicts the image.
-/

namespace AnsiArt

/-! ### The text in an image -/

/-- Whether a call draws text. -/
def DrawCall.isText : DrawCall → Bool
  | text .. => true
  | _ => false

namespace Image

variable (p : Palette) (s : FontStack) (c : Canvas)

/-- The calls for one position that draw text. -/
def textsAt (x y : Nat) : List DrawCall := (callsAt p s c x y).filter DrawCall.isText

/-- The call that draws a character in some font at the place of a cell and in its colour. -/
def textCall (x y : Nat) (cell : Cell) (ch : Char) (font : Font) : DrawCall :=
  .text (cellBox s.cell x y).left (cellBox s.cell x y).top ch
    (p.cyclic cell.rendition.look.foreground) font.label

theorem texts_ofCanvas :
    (ofCanvas c p s).calls.filter DrawCall.isText =
      (List.range c.written.rows).flatMap fun y =>
        (List.range c.written.columns).flatMap fun x => textsAt p s c x y := by
  simp only [calls_ofCanvas, List.filter_flatMap, textsAt]

variable {c} {x y : Nat} {cell : Cell}

/-- **One text is drawn for a cell whose character needs a glyph**, and none for any other. -/
theorem textsAt_of_cellAt (h : c.cellAt x y = some cell) :
    textsAt p s c x y =
      if needsGlyph cell.char then
        [textCall p s x y cell (glyphFor s cell.char).1 (glyphFor s cell.char).2]
      else [] := by
  rw [textsAt, callsAt, h, Option.map_some, Option.getD_some, cellCalls]
  obtain ⟨ch, font⟩ := glyphFor s cell.char
  -- neither the ground nor the lines below a cell are text
  dsimp only
  repeat' split
  all_goals rfl

/-- Text is drawn exactly where a cell has a character that needs a glyph. -/
theorem textsAt_ne_nil_iff :
    textsAt p s c x y ≠ [] ↔ ∃ cell, c.cellAt x y = some cell ∧ needsGlyph cell.char = true := by
  cases hcell : c.cellAt x y with
  | none =>
    have hnone : textsAt p s c x y = [] := by
      rw [textsAt, callsAt, hcell]
      rfl
    simp [hnone]
  | some cell => simp [textsAt_of_cellAt p s hcell]

/-- No font of the stack can show the character of a cell, and the text that is drawn for the cell is
a question mark in the primary font. -/
def Substitutes (c : Canvas) (x y : Nat) (cell : Cell) : Prop :=
  (∀ font ∈ s.fonts, font.canShow cell.char = false) ∧
    textsAt p s c x y = [textCall p s x y cell '?' s.primary.font]

/-- A call draws the character of a cell in the first font that can show it. -/
def DrawsOwn (x y : Nat) (cell : Cell) (call : DrawCall) : Prop :=
  ∃ font, s.IsFirstFor cell.char font ∧ call = textCall p s x y cell cell.char font

/-- A character is replaced exactly if it needs a glyph and no font is found for it. -/
theorem substitutes_iff (h : c.cellAt x y = some cell) :
    Substitutes p s c x y cell ↔ needsGlyph cell.char = true ∧ s.fontFor? cell.char = none := by
  rw [Substitutes, ← FontStack.fontFor?_eq_none_iff, textsAt_of_cellAt p s h]
  constructor
  · rintro ⟨hfont, htexts⟩
    by_cases hneeds : needsGlyph cell.char = true
    · exact ⟨hneeds, hfont⟩
    · rw [if_neg hneeds] at htexts
      cases htexts
  · rintro ⟨hneeds, hfont⟩
    rw [if_pos hneeds, glyphFor, hfont]
    exact ⟨rfl, rfl⟩

/-- If a font is found for the character of a cell, the cell's text is that character. -/
theorem drawsOwn_of_mem_textsAt (h : c.cellAt x y = some cell) {font : Font}
    (hfont : s.fontFor? cell.char = some font) {call : DrawCall} (hcall : call ∈ textsAt p s c x y) :
    DrawsOwn p s x y cell call := by
  rw [textsAt_of_cellAt p s h, glyphFor, hfont] at hcall
  split at hcall
  · obtain rfl := List.mem_singleton.mp hcall
    exact ⟨font, FontStack.fontFor?_eq_some_iff.mp hfont, rfl⟩
  · cases hcall

end Image

/-! ### The characters of the plain text -/

namespace Canvas

/-- A cell at a position of the grid. -/
def Shows (c : Canvas) (x y : Nat) (cell : Cell) : Prop :=
  x < c.written.columns ∧ y < c.written.rows ∧ c.cellAt x y = some cell

/-- A character that needs a glyph stands in the plain text exactly if a cell of the grid has it: the
blanks and line ends that the text adds need none. -/
theorem mem_plainText_iff (c : Canvas) {ch : Char} (h : needsGlyph ch = true) :
    ch ∈ c.plainText.toList ↔ ∃ x y cell, c.Shows x y cell ∧ cell.char = ch := by
  have hblank : ch ≠ ' ' := by
    rintro rfl
    exact absurd h (by decide)
  have hend : ch ≠ '\n' := by
    rintro rfl
    exact absurd h (by decide)
  have hshown (x y : Nat) :
      shownChar (c.cellAt x y) = ch ↔ ∃ cell, c.cellAt x y = some cell ∧ cell.char = ch := by
    cases c.cellAt x y with
    | none => simp [shownChar, hblank.symm]
    | some cell => simp [shownChar]
  simp only [toList_plainText, grid, gridRow, textRow, List.flatMap_map, List.map_map,
    List.mem_flatMap, List.mem_map, List.mem_range, List.mem_append, List.mem_singleton, hend,
    or_false, Function.comp_apply, hshown, Shows]
  constructor
  · rintro ⟨y, hy, x, hx, cell, hcell, hchar⟩
    exact ⟨x, y, cell, ⟨hx, hy, hcell⟩, hchar⟩
  · rintro ⟨x, y, cell, ⟨hx, hy, hcell⟩, hchar⟩
    exact ⟨y, hy, x, hx, cell, hcell, hchar⟩

end Canvas

/-! ### Both sides -/

/-- An audit tells what the image of a canvas draws. -/
structure GlyphAudit.Predicts (a : GlyphAudit) (c : Canvas) (p : Palette) (s : FontStack) :
    Prop where
  /-- The text of the image is drawn position by position, row after row. -/
  texts : (Image.ofCanvas c p s).calls.filter DrawCall.isText =
    (List.range c.written.rows).flatMap fun y =>
      (List.range c.written.columns).flatMap fun x => Image.textsAt p s c x y
  /-- The audit has counted the different characters for which text is drawn. -/
  total : ∃ chars : List Char, a.total = chars.length ∧
    (chars.Pairwise fun ch ch' => ch.toNat < ch'.toNat) ∧
    ∀ ch, ch ∈ chars ↔
      ∃ x y cell, c.Shows x y cell ∧ cell.char = ch ∧ Image.textsAt p s c x y ≠ []
  /-- A character that was counted is covered or missing. -/
  covered_add_missing : a.covered + a.missing.length = a.total
  missing_pairwise : a.missing.Pairwise fun ch ch' => ch.toNat < ch'.toNat
  /-- The missing characters are those that the image replaces. -/
  mem_missing_iff : ∀ ch, ch ∈ a.missing ↔
    ∃ x y cell, c.Shows x y cell ∧ cell.char = ch ∧ Image.Substitutes p s c x y cell
  /-- Nothing is missing exactly if all text is that of the cells, in the first font that can show
  it. -/
  isClean_iff : a.isClean = true ↔
    ∀ y < c.written.rows, ∀ x < c.written.columns, ∀ call ∈ Image.textsAt p s c x y,
      ∃ cell, c.cellAt x y = some cell ∧ Image.DrawsOwn p s x y cell call

namespace Canvas

variable (c : Canvas) (p : Palette) (s : FontStack)

/-- A property of a character of the plain text and one of its cells are the same, if they are so cell
by cell. -/
theorem mem_plainText_and_iff {P : Char → Prop} {Q : Nat → Nat → Cell → Prop}
    (h : ∀ (x y : Nat) (cell : Cell), c.cellAt x y = some cell →
      (Q x y cell ↔ needsGlyph cell.char = true ∧ P cell.char)) (ch : Char) :
    ch ∈ c.plainText.toList ∧ needsGlyph ch = true ∧ P ch ↔
      ∃ x y cell, c.Shows x y cell ∧ cell.char = ch ∧ Q x y cell := by
  constructor
  · rintro ⟨hmem, hneeds, hp⟩
    obtain ⟨x, y, cell, hshows, rfl⟩ := (c.mem_plainText_iff hneeds).mp hmem
    exact ⟨x, y, cell, hshows, rfl, (h x y cell hshows.2.2).mpr ⟨hneeds, hp⟩⟩
  · rintro ⟨x, y, cell, hshows, rfl, hq⟩
    obtain ⟨hneeds, hp⟩ := (h x y cell hshows.2.2).mp hq
    exact ⟨(c.mem_plainText_iff hneeds).mpr ⟨x, y, cell, hshows, rfl⟩, hneeds, hp⟩

theorem mem_alphabet_plainText_iff (ch : Char) :
    ch ∈ GlyphAudit.alphabet c.plainText.toList ↔
      ∃ x y cell, c.Shows x y cell ∧ cell.char = ch ∧ Image.textsAt p s c x y ≠ [] := by
  rw [GlyphAudit.mem_alphabet_iff, ← and_true (needsGlyph ch = true)]
  refine c.mem_plainText_and_iff (P := fun _ => True) (fun x y cell hcell => ?_) ch
  rw [Image.textsAt_ne_nil_iff, hcell, and_true]
  simp

theorem mem_missing_plainText_iff (ch : Char) :
    ch ∈ (GlyphAudit.ofText c.plainText s).missing ↔
      ∃ x y cell, c.Shows x y cell ∧ cell.char = ch ∧ Image.Substitutes p s c x y cell := by
  rw [GlyphAudit.mem_missing_ofText_iff]
  exact c.mem_plainText_and_iff (P := fun ch => s.fontFor? ch = none)
    (Q := Image.Substitutes p s c) (fun _ _ _ hcell => Image.substitutes_iff p s hcell) ch

theorem isClean_plainText_iff :
    (GlyphAudit.ofText c.plainText s).isClean = true ↔
      ∀ y < c.written.rows, ∀ x < c.written.columns, ∀ call ∈ Image.textsAt p s c x y,
        ∃ cell, c.cellAt x y = some cell ∧ Image.DrawsOwn p s x y cell call := by
  rw [GlyphAudit.isClean_iff]
  constructor
  · intro hclean y hy x hx call hcall
    obtain ⟨cell, hcell, hneeds⟩ :=
      (Image.textsAt_ne_nil_iff p s).mp (List.ne_nil_of_mem hcall)
    -- without a font the cell's character would be missing
    cases hfont : s.fontFor? cell.char with
    | none =>
      have hreplaced := (Image.substitutes_iff p s hcell).mpr ⟨hneeds, hfont⟩
      have hmissing := (c.mem_missing_plainText_iff p s cell.char).mpr
        ⟨x, y, cell, ⟨hx, hy, hcell⟩, rfl, hreplaced⟩
      exact absurd hmissing (hclean cell.char)
    | some font => exact ⟨cell, hcell, Image.drawsOwn_of_mem_textsAt p s hcell hfont hcall⟩
  · intro hown ch hmissing
    obtain ⟨x, y, cell, ⟨hx, hy, hcell⟩, -, hnone, htexts⟩ :=
      (c.mem_missing_plainText_iff p s ch).mp hmissing
    -- the question mark is no text of the cell, as it has no font
    obtain ⟨cell', hcell', font, ⟨before, behind, hfonts, hshow, -⟩, -⟩ :=
      hown y hy x hx _ (htexts ▸ List.mem_singleton_self _)
    obtain rfl := Option.some.inj (hcell.symm.trans hcell')
    have hfont : font ∈ s.fonts := by
      rw [hfonts]
      exact List.mem_append_right _ List.mem_cons_self
    rw [hnone font hfont] at hshow
    cases hshow

/-- **The glyph audit predicts the image.** The characters that the audit of the plain text counts
are those for which the image draws text, and those that it misses are those that the image
replaces. -/
theorem predicts_audit : (GlyphAudit.ofText c.plainText s).Predicts c p s where
  texts := Image.texts_ofCanvas p s c
  total := ⟨GlyphAudit.alphabet c.plainText.toList, rfl, GlyphAudit.pairwise_alphabet _,
    c.mem_alphabet_plainText_iff p s⟩
  covered_add_missing := GlyphAudit.covered_add_missing_ofText ..
  missing_pairwise := GlyphAudit.pairwise_missing_ofText ..
  mem_missing_iff := c.mem_missing_plainText_iff p s
  isClean_iff := c.isClean_plainText_iff p s

end Canvas

end AnsiArt
