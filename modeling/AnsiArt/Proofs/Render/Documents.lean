import AnsiArt.Proofs.Render.Spans

/-!
# Reading a document

A document is a faithful account of the grid: who finds its preformatted part and reads it has the
characters of all positions, each inside a span with the style classes of its cell, and no more spans
than there are runs of cells with equal classes.

The preformatted part is what is between two marks. That no text in front of the first mark holds it,
and no text between them the second, needs a look at everything that is written there: the marks are
skipped by a piece (`Markup.Skips`) if no occurrence can start inside it, whatever follows.

Main statements:

* `Markup.cutAt_append` — a mark is found behind a text that skips it;
* `Markup.preformatted?_document` — the preformatted part of a document is what stands for the grid;
* `Markup.read?_body` — reading it gives exactly what is on the grid;
* `Markup.shows_document` — both.
-/

namespace AnsiArt

open Html

namespace Markup

/-! ### Finding a part of a document -/

/-- The parts of a text in front of and behind the first occurrence of a mark. -/
def cutAt (mark : List Char) : List Char → Option (List Char × List Char)
  | [] => none
  | c :: rest =>
    if mark <+: c :: rest then some ([], (c :: rest).drop mark.length)
    else (cutAt mark rest).map fun (front, behind) => (c :: front, behind)

/-- The mark in front of the preformatted part. -/
def opening : List Char := '<' :: "pre>".toList

/-- The mark behind it. -/
def closing : List Char := '<' :: "/pre>".toList

/-- The text inside the preformatted part of a document. -/
def preformatted? (document : List Char) : Option (List Char) := do
  let (_, behind) ← cutAt opening document
  let (inside, _) ← cutAt closing behind
  return inside

/-- Whatever follows, no occurrence of the mark starts inside the piece. -/
def Skips (mark piece : List Char) : Prop :=
  ∀ rest, cutAt mark (piece ++ rest) =
    (cutAt mark rest).map fun (front, behind) => (piece ++ front, behind)

section Skips

variable {mark piece piece' : List Char} {m : Char}

theorem Skips.nil (mark : List Char) : Skips mark [] := by
  intro rest
  simp

theorem Skips.append (h : Skips mark piece) (h' : Skips mark piece') :
    Skips mark (piece ++ piece') := by
  intro rest
  rw [List.append_assoc, h, h', Option.map_map]
  simp [Function.comp_def]

/-- Where the mark does not start, one character is skipped. -/
theorem Skips.cons {c : Char} (hc : ∀ rest, ¬ mark <+: c :: (piece ++ rest))
    (h : Skips mark piece) : Skips mark (c :: piece) := by
  intro rest
  rw [List.cons_append, cutAt, if_neg (hc rest), h, Option.map_map]
  rfl

/-- A piece without the first character of the mark is skipped. -/
theorem skips_of_not_mem (h : m ∉ piece) : Skips (m :: mark) piece := by
  induction piece with
  | nil => exact Skips.nil _
  | cons c piece ih =>
    obtain ⟨hc, hpiece⟩ := List.ne_and_not_mem_of_not_mem_cons h
    exact Skips.cons (fun rest hprefix => hc (List.cons_prefix_cons.mp hprefix).1) (ih hpiece)

/-- A piece that starts like the mark but goes on in another way is skipped. -/
theorem skips_of_not_prefix (h : m ∉ piece) (hlength : mark.length ≤ piece.length)
    (hother : ¬ mark <+: piece) : Skips (m :: mark) (m :: piece) := by
  refine Skips.cons (fun rest hprefix => hother ?_) (skips_of_not_mem h)
  -- the mark is no longer than the piece, so what follows plays no part
  have hrest : mark <+: piece ++ rest := (List.cons_prefix_cons.mp hprefix).2
  exact List.prefix_of_prefix_length_le hrest (List.prefix_append piece rest) hlength

/-- **A mark is found behind a text that skips it.** -/
theorem cutAt_append (hne : mark ≠ []) (h : Skips mark piece) (behind : List Char) :
    cutAt mark (piece ++ (mark ++ behind)) = some (piece, behind) := by
  obtain ⟨m, rest, rfl⟩ := List.exists_cons_of_ne_nil hne
  have hstarts : m :: rest <+: m :: (rest ++ behind) := List.prefix_append (m :: rest) behind
  rw [h, List.cons_append, cutAt, if_pos hstarts]
  simp

end Skips

/-! ### What is written around the grid -/

theorem lessThan_not_mem_escapeMarkup (c : Char) : '<' ∉ (escapeMarkup c).toList := by
  unfold escapeMarkup
  split
  case h_6 _ hlt _ _ _ => simpa using fun h : '<' = c => hlt h.symm
  all_goals decide

theorem lessThan_not_mem_escapeChar (c : Char) : '<' ∉ (escapeChar c).toList := by
  unfold escapeChar
  split
  · exact lessThan_not_mem_escapeMarkup c
  · simp [toString, Hex.not_mem_byte (c := '<') (by decide) (by decide)]

theorem lessThan_not_mem_escapeText (text : String) : '<' ∉ (escapeText text).toList := by
  simp [escapeText, lessThan_not_mem_escapeMarkup]

theorem lessThan_not_mem_stylesheet (p : Palette) : '<' ∉ (stylesheet p).toList := by
  have hbyte (n : Int) : '<' ∉ (Hex.byte n).toList := Hex.not_mem_byte (by decide) (by decide) n
  have hrules (i : Nat) (c : Colour) : '<' ∉ (colourRules i c).toList := by
    simp [colourRules, Colour.hex, toString, hbyte]
  have heffects : '<' ∉ effectRules.toList := by
    unfold effectRules
    rw [String.toList_append, List.mem_append]
    decide +kernel
  intro h
  rw [stylesheet, String.toList_intercalate] at h
  rcases mem_of_mem_intercalate h with h | ⟨piece, hpiece, h⟩
  · exact absurd h (by decide)
  · simp only [List.map_append, List.map_map, List.mem_append, List.mem_map] at hpiece
    rcases hpiece with ⟨⟨c, i⟩, -, rfl⟩ | ⟨s, hs, rfl⟩
    · exact hrules i c h
    · rw [List.mem_singleton.mp hs] at h
      exact heffects h

/-- A tag that is not the start of the preformatted part is skipped in front of it. -/
theorem skips_opening_tag (piece : List Char) (h : '<' ∉ piece) (hlength : 4 ≤ piece.length)
    (hother : ¬ "pre>".toList <+: piece) : Skips opening ('<' :: piece) :=
  skips_of_not_prefix h hlength hother

/-- A tag that is not the end of the preformatted part is skipped inside it. -/
theorem skips_closing_tag (piece : List Char) (h : '<' ∉ piece) (hlength : 5 ≤ piece.length)
    (hother : ¬ "/pre>".toList <+: piece) : Skips closing ('<' :: piece) :=
  skips_of_not_prefix h hlength hother

theorem skips_closeTag (current : Option String) : Skips closing (closeTag current).toList := by
  cases current with
  | none => exact Skips.nil _
  | some classes =>
    have htag : Skips closing ('<' :: "/span>".toList) :=
      skips_closing_tag _ (by decide) (by decide) (by decide)
    simpa [closeTag] using htag

theorem skips_switchTo (current : Option String) (r : Rendition) :
    Skips closing (switchTo current r.classes).toList := by
  have hclasses : '<' ∉ r.classes.toList := fun h => unmarked_classes r '<' h (by decide)
  have htag : Skips closing
      ('<' :: ("span class=\"".toList ++ (r.classes.toList ++ "\">".toList))) := by
    refine skips_closing_tag _ ?_ ?_ fun h => ?_
    · simpa using hclasses
    · simp
    · exact absurd (List.cons_prefix_cons.mp h).1 (by decide)
  unfold switchTo
  split
  · exact Skips.nil _
  · rw [String.toList_append]
    refine (skips_closeTag current).append ?_
    simpa [openTag, toString] using htag

theorem skips_rowPieces (current : Option String) (row : List (Option Cell)) :
    Skips closing ((rowPieces current row).1.flatMap String.toList) := by
  induction row generalizing current with
  | nil => exact Skips.nil _
  | cons cell rest ih =>
    have hpieces : (rowPieces current (cell :: rest)).1 =
        switchTo current (cellClasses cell) :: escapeChar (shownChar cell) ::
          (rowPieces (some (cellClasses cell)) rest).1 := rfl
    rw [hpieces, List.flatMap_cons, List.flatMap_cons]
    have hchar : Skips closing (escapeChar (shownChar cell)).toList :=
      skips_of_not_mem (lessThan_not_mem_escapeChar _)
    exact (skips_switchTo current _).append (hchar.append (ih _))

/-- What is written for a grid does not end the preformatted part. -/
theorem skips_gridPieces (current : Option String) (grid : List (List (Option Cell))) :
    Skips closing ((gridPieces current grid).flatMap String.toList) := by
  induction grid generalizing current with
  | nil => simpa [gridPieces] using skips_closeTag current
  | cons row rest ih =>
    have hrow := skips_rowPieces current row
    cases rest with
    | nil =>
      rw [gridPieces, List.flatMap_append]
      refine hrow.append ?_
      simpa using skips_closeTag _
    | cons row' rest =>
      rw [gridPieces, List.flatMap_append, List.flatMap_cons]
      · have hfeed : Skips closing "\n".toList := skips_of_not_mem (by decide)
        exact hrow.append (hfeed.append (ih _))
      · simp

/-- What is in front of the preformatted part. -/
def header (p : Palette) (address : String) : List Char :=
  "<!doctype html>\n".toList ++ (if address.isEmpty then "" else linkTag address).toList ++
    "<style type=\"text/css\">\n".toList ++ (stylesheet p).toList ++ "\n</style>\n".toList

/-- The start of the link behind its `<`. -/
def linkStart : List Char := "link rel=\"stylesheet\" href=\"".toList

/-- The link is skipped by every mark that is the start of another tag. -/
theorem skips_linkTag {mark : List Char} (hlength : mark.length ≤ linkStart.length)
    (hother : ¬ mark <+: linkStart) (address : String) :
    Skips ('<' :: mark) (linkTag address).toList := by
  have hstart : Skips ('<' :: mark) ('<' :: linkStart) :=
    skips_of_not_prefix (by decide) hlength hother
  have haddress : Skips ('<' :: mark) (escapeText address).toList :=
    skips_of_not_mem (lessThan_not_mem_escapeText address)
  have hend : Skips ('<' :: mark) "\">\n".toList := skips_of_not_mem (by decide)
  have htag : (linkTag address).toList =
      '<' :: linkStart ++ (escapeText address).toList ++ "\">\n".toList := by
    rw [show linkTag address =
      "<link rel=\"stylesheet\" href=\"" ++ escapeText address ++ "\">\n" from rfl,
      String.toList_append, String.toList_append]
    rfl
  rw [htag]
  exact (hstart.append haddress).append hend

theorem skips_header (p : Palette) (address : String) : Skips opening (header p address) := by
  have hdoctype : Skips opening "<!doctype html>\n".toList :=
    skips_opening_tag "!doctype html>\n".toList (by decide) (by decide) (by decide)
  have hlink : Skips opening (if address.isEmpty then "" else linkTag address).toList := by
    split
    · exact Skips.nil _
    · exact skips_linkTag (by decide) (by decide) address
  have hstyle : Skips opening "<style type=\"text/css\">\n".toList :=
    skips_opening_tag "style type=\"text/css\">\n".toList
      (by decide) (by decide) (by decide)
  have hrules : Skips opening (stylesheet p).toList :=
    skips_of_not_mem (lessThan_not_mem_stylesheet p)
  have hend : Skips opening "\n</style>\n".toList := by
    have hfeed : Skips opening "\n".toList := skips_of_not_mem (by decide)
    exact hfeed.append
      (skips_opening_tag "/style>\n".toList (by decide) (by decide) (by decide))
  exact (((hdoctype.append hlink).append hstyle).append hrules).append hend

theorem toList_document (c : Canvas) (p : Palette) (address : String) :
    (document c p address).toList =
      header p address ++ (opening ++ ((body c.grid).toList ++ (closing ++ ['\n']))) := by
  have hopening : "<pre>".toList = opening := rfl
  have hclosing : "</pre>\n".toList = closing ++ ['\n'] := rfl
  unfold document header
  rw [String.toList_join, ← hopening, ← hclosing]
  simp only [List.flatMap_cons, List.flatMap_nil, List.append_assoc, List.append_nil]

/-- **The preformatted part of a document is what stands for the grid**, whatever the palette and
the address of the style sheet are. -/
theorem preformatted?_document (c : Canvas) (p : Palette) (address : String) :
    preformatted? (document c p address).toList = some (body c.grid).toList := by
  have hbody : Skips closing (body c.grid).toList := by
    rw [body, String.toList_join]
    exact skips_gridPieces none c.grid
  have hopening := cutAt_append (by decide) (skips_header p address)
    ((body c.grid).toList ++ (closing ++ ['\n']))
  have hclosing := cutAt_append (by decide) hbody ['\n']
  simp only [preformatted?, toList_document, hopening, hclosing, Option.bind_eq_bind,
    Option.bind_some, Option.pure_def]

/-! ### What a reader finds -/

/-- What a reader has found is what is on the canvas. -/
structure Reader.Shows (r : Reader) (c : Canvas) : Prop where
  /-- The characters are those of the rows, with line feeds between the rows. -/
  chars : r.text.map Prod.snd = ['\n'].intercalate (c.grid.map Canvas.textRow)
  /-- Each position is inside a span with the classes of its cell. -/
  enclosed : ∀ y < c.written.rows, ∀ x < c.written.columns,
    r.text[y * (c.written.columns + 1) + x]? =
      some (some (cellClasses (c.cellAt x y)), shownChar (c.cellAt x y))
  /-- There is one span for each run of cells with equal classes, row after row. -/
  spans : r.spans = (c.grid.flatten.map cellClasses).destutter (· ≠ ·)

/-- **Reading what stands for the grid gives exactly what is on it.** -/
theorem read?_body (c : Canvas) : ∃ r, read? (body c.grid).toList = some r ∧ r.Shows c := by
  have hread : Reads {} (body c.grid).toList (({} : Reader).rows c.grid).leave := by
    rw [body, String.toList_join]
    exact reads_gridPieces {} c.grid
  have hentered : ({} : Reader).Entered [] := ⟨rfl, rfl⟩
  refine ⟨_, hread.read? rfl, ⟨?_, fun y hy x hx => ?_, (hentered.rows c.grid).spans⟩⟩
  · exact Reader.chars_rows {} c.grid
  · have hlength : ∀ row ∈ c.grid, row.length = c.written.columns := by
      intro row hrow
      obtain ⟨y, -, rfl⟩ := List.mem_map.mp hrow
      exact c.length_gridRow y
    have hfound := Reader.getElem?_text_rows {} hlength (c.getElem?_grid hy hx)
    simpa [Reader.leave] using hfound

/-- The plain text is the rows with line feeds between them, and a line feed at its end unless there
is no row. -/
theorem toList_plainText_eq_intercalate (c : Canvas) :
    c.plainText.toList = ['\n'].intercalate (c.grid.map Canvas.textRow) ++
      if c.written.rows = 0 then [] else ['\n'] := by
  have hrows (grid : List (List (Option Cell))) :
      (grid.flatMap fun row => Canvas.textRow row ++ ['\n']) =
        ['\n'].intercalate (grid.map Canvas.textRow) ++ if grid.length = 0 then [] else ['\n'] := by
    induction grid with
    | nil => rfl
    | cons row rest ih =>
      rw [List.flatMap_cons, ih]
      cases rest with
      | nil => simp
      | cons row' rest => simp [List.intercalate_cons_cons]
  rw [Canvas.plainText, String.toList_ofList, Canvas.plainChars, hrows, Canvas.length_grid]

/-- **Documents are faithful.** For every canvas, palette and address of a style sheet, the
preformatted part of the document can be read: its spans are balanced and never nested, each `<` is
one of their tags and each `&` the start of a reference. What is read is what is on the canvas: the
plain text without its final line feed, each character inside a span with the classes of its cell,
one span for each run of cells with equal classes, and neighbouring spans with different classes. -/
theorem shows_document (c : Canvas) (p : Palette) (address : String) :
    ∃ part r, preformatted? (document c p address).toList = some part ∧ read? part = some r ∧
      part.count '<' = 2 * r.spans.length ∧ r.Shows c ∧ r.spans.IsChain (· ≠ ·) ∧
      c.plainText.toList = r.text.map Prod.snd ++ (if c.written.rows = 0 then [] else ['\n']) := by
  obtain ⟨r, hread, hshows⟩ := read?_body c
  refine ⟨_, r, preformatted?_document c p address, hread, count_lessThan_of_read? hread, hshows,
    ?_, ?_⟩
  · rw [hshows.spans]
    exact List.isChain_destutter _ _
  · rw [hshows.chars]
    exact toList_plainText_eq_intercalate c

end Markup

end AnsiArt
