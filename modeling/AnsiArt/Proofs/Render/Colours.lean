import AnsiArt.Proofs.Palette.Loading
import AnsiArt.Proofs.Render.Rules
import AnsiArt.Proofs.Stream.Renditions
import AnsiArt.Render.Image

/-!
# The colours of documents and of images

A document names the colours of a cell by classes, whose rules stand in its style sheet; an image
takes them from the palette directly, and for a position without a cell it leaves its ground as it
is. On the canvas of a reachable terminal both come to the same, since all colours that a rendition
can have are among the first sixteen of the palette.

Main statements:

* `Markup.splitAll_classes` — the names in a class list;
* `Image.calls_ofCanvas` — which calls are made for which position;
* `Terminal.sameColours_document` — both renderings show every position in the same colours.
-/

namespace AnsiArt

open Html

/-! ### The classes of a cell -/

namespace Markup

/-- The class of an effect, if a flag asks for it. -/
def effectClass (r : Rendition) (flag : Flag) (name : List Char) : List (List Char) :=
  if r.has flag then [name] else []

/-- The classes of the effects of a rendition. That of an underline has the number of a colour. -/
def effectClasses (r : Rendition) : List (List Char) :=
  effectClass r .italics "i".toList ++
    effectClass r .underline ('u' :: (Hex.byte r.look.foreground).toList) ++
      effectClass r .doubleUnderline "ud".toList ++ effectClass r .crossOut "x".toList

theorem eq_of_mem_effectClass {r : Rendition} {flag : Flag} {name other : List Char}
    (h : name ∈ effectClass r flag other) : name = other := by
  unfold effectClass at h
  split at h
  · exact List.mem_singleton.mp h
  · cases h

theorem mem_effectClasses {r : Rendition} {name : List Char} (h : name ∈ effectClasses r) :
    name = 'u' :: (Hex.byte r.look.foreground).toList ∨ name ∈ effectNames := by
  simp only [effectClasses, List.mem_append] at h
  rcases h with ((h | h) | h) | h
  · exact .inr (by simp [effectNames, eq_of_mem_effectClass h])
  · exact .inl (eq_of_mem_effectClass h)
  · exact .inr (by simp [effectNames, eq_of_mem_effectClass h])
  · exact .inr (by simp [effectNames, eq_of_mem_effectClass h])

theorem toList_classes (r : Rendition) :
    r.classes.toList = [' '].intercalate
      (('b' :: (Hex.byte r.look.background).toList) ::
        ('f' :: (Hex.byte r.look.foreground).toList) :: effectClasses r) := by
  have hmap (flag : Flag) (name : String) :
      (if r.has flag then [name] else []).map String.toList =
        effectClass r flag name.toList := by
    unfold effectClass
    split <;> rfl
  simp only [Rendition.classes, String.toList_intercalate, List.map_append, hmap]
  simp [effectClasses, toString]

/-- **A class list names the colour of the ground, the colour of the character, and effects.** -/
theorem splitAll_classes (r : Rendition) :
    splitAll ' ' r.classes.toList = ('b' :: (Hex.byte r.look.background).toList) ::
      ('f' :: (Hex.byte r.look.foreground).toList) :: effectClasses r := by
  have hbyte (n : Int) : ' ' ∉ (Hex.byte n).toList := Hex.not_mem_byte (by decide) (by decide) n
  have heffects : ∀ name ∈ effectNames, ' ' ∉ name := by decide
  -- no blank stands in a name, so the blanks are where the list is split
  rw [toList_classes, splitAll_intercalate (List.cons_ne_nil _ _)]
  intro name hname
  rcases List.mem_cons.mp hname with rfl | hname
  · simp [hbyte]
  rcases List.mem_cons.mp hname with rfl | hname
  · simp [hbyte]
  rcases mem_effectClasses hname with rfl | hname
  · simp [hbyte]
  · exact heffects name hname

end Markup

/-! ### The calls for a position -/

/-- The colour of a call. -/
def DrawCall.fill : DrawCall → Colour
  | rectangle _ fill => fill
  | text _ _ _ fill _ => fill
  | line _ _ _ _ fill => fill

/-- A call that draws on the ground instead of filling it. -/
def DrawCall.IsMark : DrawCall → Prop
  | rectangle _ _ => False
  | _ => True

namespace Image

/-- The calls for one position of a canvas. -/
def callsAt (p : Palette) (s : FontStack) (c : Canvas) (x y : Nat) : List DrawCall :=
  ((c.cellAt x y).map (cellCalls p s x y)).getD []

theorem flatMap_zipIdx_range {α β : Type} (n : Nat) (f : Nat → α) (g : α × Nat → List β) :
    ((List.range n).map f).zipIdx.flatMap g = (List.range n).flatMap fun i => g (f i, i) := by
  have hpairs : ((List.range n).map f).zipIdx = (List.range n).map fun i => (f i, i) := by
    refine List.ext_getElem (by simp) fun i hi hi' => ?_
    simp
  rw [hpairs, List.flatMap_map]

/-- **An image is drawn position by position**, row after row. -/
theorem calls_ofCanvas (c : Canvas) (p : Palette) (s : FontStack) :
    (ofCanvas c p s).calls =
      (List.range c.written.rows).flatMap fun y =>
        (List.range c.written.columns).flatMap fun x => callsAt p s c x y := by
  have hrow (y : Nat) : rowCalls p s y (c.gridRow y) =
      (List.range c.written.columns).flatMap fun x => callsAt p s c x y := by
    rw [rowCalls, Canvas.gridRow, flatMap_zipIdx_range]
    rfl
  simp only [ofCanvas, Canvas.grid, flatMap_zipIdx_range, hrow]

/-- A cell is filled in the colour of its ground, and all else is drawn in that of its character. -/
theorem exists_cellCalls_eq (p : Palette) (s : FontStack) (x y : Nat) (cell : Cell) :
    ∃ marks, cellCalls p s x y cell =
        .rectangle (cellBox s.cell x y) (p.cyclic cell.rendition.look.background) :: marks ∧
      ∀ call ∈ marks, call.IsMark ∧ call.fill = p.cyclic cell.rendition.look.foreground := by
  refine ⟨_, rfl, fun call hcall => ?_⟩
  rcases List.mem_append.mp hcall with hcall | hcall
  rcases List.mem_append.mp hcall with hcall | hcall
  all_goals
    split at hcall
    · obtain rfl := List.mem_singleton.mp hcall
      exact ⟨trivial, rfl⟩
    · cases hcall

end Image

/-! ### Both renderings -/

theorem Palette.getElem?_colours {p : Palette} {k : Nat} (h : k < p.size) :
    p.colours[k]? = some (p.cyclic k) := by
  have hmod : ((k : Int) % (p.size : Int)).toNat = k := by
    rw [← Int.natCast_emod, Int.toNat_natCast, Nat.mod_eq_of_lt h]
  have hsome : p.colours[k]? = some p.colours[k] := Array.getElem?_eq_getElem h
  rw [Palette.cyclic, hmod, hsome, Option.getD_some]

namespace Markup

/-- The classes of a cell say that its ground is of one colour and its character of another, and
each of them has one rule. -/
structure Colours (rules : List Rule) (classes : String) (fill ink : Colour) : Prop where
  defined : ∀ name ∈ splitAll ' ' classes.toList, ∃ declaration, Defines rules name declaration
  shown : ∃ m n effects, splitAll ' ' classes.toList = ('b' :: m) :: ('f' :: n) :: effects ∧
    (∀ name ∈ effects, name.head? ≠ some 'b' ∧ name.head? ≠ some 'f') ∧
    Defines rules ('b' :: m) ("background-color:" ++ fill.hex).toList ∧
    Defines rules ('f' :: n) ("color:" ++ ink.hex).toList

/-- The classes of a regular rendition show its colours by the rules of the palette. -/
theorem colours_classes {r : Rendition} (h : r.Regular) {p : Palette} (hp : 16 ≤ p.size) :
    Colours (sheetRules p) r.classes (p.cyclic r.look.background)
      (p.cyclic r.look.foreground) := by
  obtain ⟨⟨hfg, hfg'⟩, hbg, hbg'⟩ := h.look_bounds
  have hnames := splitAll_classes r
  have heffects {name : List Char} (h : name ∈ effectClasses r) := mem_effectClasses h
  obtain ⟨m, hm⟩ := Int.eq_ofNat_of_zero_le hbg
  obtain ⟨n, hn⟩ := Int.eq_ofNat_of_zero_le hfg
  rw [hm, hn] at hnames ⊢
  simp only [hn] at heffects
  -- both numbers are below sixteen, so the palette has their colours
  have hm16 : m < p.size := by omega
  have hn16 : n < p.size := by omega
  have hb := defines_colour (show ('b', "background-color:") ∈ families by decide)
    (Palette.getElem?_colours hm16)
  have hf := defines_colour (show ('f', "color:") ∈ families by decide)
    (Palette.getElem?_colours hn16)
  have hu := defines_colour (show ('u', "border-bottom:1px solid ") ∈ families by decide)
    (Palette.getElem?_colours hn16)
  refine ⟨?_, _, _, effectClasses r, hnames, ?_, hb, hf⟩
  · rw [hnames]
    intro name hname
    rcases List.mem_cons.mp hname with rfl | hname
    · exact ⟨_, hb⟩
    rcases List.mem_cons.mp hname with rfl | hname
    · exact ⟨_, hf⟩
    rcases heffects hname with rfl | hname
    · exact ⟨_, hu⟩
    · exact defines_effect p hname
  · intro name hname
    rcases heffects hname with rfl | hname
    · exact ⟨by simp, by simp⟩
    · have hother : ∀ name ∈ effectNames, name.head? ≠ some 'b' ∧ name.head? ≠ some 'f' := by
        decide
      exact hother name hname

/-- What a reader finds in a document of a canvas, by the rules of its style sheet, has the colours
that the image of the canvas is drawn in. -/
structure SameColours (c : Canvas) (p : Palette) (s : FontStack) (rules : List Rule) (r : Reader) :
    Prop where
  /-- The calls of the image are those of its positions, row after row. -/
  calls : (Image.ofCanvas c p s).calls =
    (List.range c.written.rows).flatMap fun y =>
      (List.range c.written.columns).flatMap fun x => Image.callsAt p s c x y
  /-- Where there is no cell, the ground has the colour of the image's ground. -/
  empty : ∀ y < c.written.rows, ∀ x < c.written.columns, c.cellAt x y = none →
    ∃ classes ch ink, r.text[y * (c.written.columns + 1) + x]? = some (some classes, ch) ∧
      Image.callsAt p s c x y = [] ∧
      Colours rules classes (Image.ofCanvas c p s).background ink
  /-- A cell is filled in the colour of its ground, and each other call for it has the colour of its
  character. -/
  filled : ∀ y < c.written.rows, ∀ x < c.written.columns, ∀ cell, c.cellAt x y = some cell →
    ∃ classes ch fill ink marks,
      r.text[y * (c.written.columns + 1) + x]? = some (some classes, ch) ∧
      Image.callsAt p s c x y = .rectangle (Image.cellBox s.cell x y) fill :: marks ∧
      (∀ call ∈ marks, call.IsMark ∧ call.fill = ink) ∧ Colours rules classes fill ink

/-- On a regular canvas, both renderings show every position in the same colours. -/
theorem Reader.Shows.sameColours {c : Canvas} {r : Reader} (h : r.Shows c) (hc : c.Regular)
    {p : Palette} (hp : 16 ≤ p.size) (s : FontStack) : SameColours c p s (sheetRules p) r where
  calls := Image.calls_ofCanvas c p s
  empty y hy x hx hnone := by
    have hcalls : Image.callsAt p s c x y = [] := by
      rw [Image.callsAt, hnone]
      rfl
    have henclosed := h.enclosed y hy x hx
    rw [hnone] at henclosed
    -- the classes are those of the default cell, whose ground is that of the image
    exact ⟨_, _, _, henclosed, hcalls, colours_classes Rendition.regular_default hp⟩
  filled y hy x hx cell hcell := by
    obtain ⟨o, ho⟩ := Canvas.exists_slot?_of_cellAt hcell
    have hregular := (hc.cells o cell ho).rendition
    obtain ⟨marks, hcalls, hmarks⟩ := Image.exists_cellCalls_eq p s x y cell
    have henclosed := h.enclosed y hy x hx
    rw [hcell] at henclosed
    refine ⟨_, _, _, _, marks, henclosed, ?_, hmarks, colours_classes hregular hp⟩
    rw [Image.callsAt, hcell]
    exact hcalls

end Markup

namespace Terminal

open Markup

variable {room : Room} {start t : Terminal}

/-- **Documents, their style sheets and images agree on the colours.** Whatever a fresh terminal has
been fed, whatever fonts there are and whatever palette of at least sixteen colours: the style sheet
is found in the document and can be read, and so can the preformatted part; each class of each
position has one rule; and the rules give each position the colours in which the image shows it.
Every palette that can be loaded has enough colours for that. -/
theorem sameColours_document {width height : Int} (hstart : ofSize room width height = .ok start)
    (h : Reachable room start t) {p : Palette} (hp : 16 ≤ p.size) (s : FontStack)
    (address : String) :
    (∃ sheet rules part r, sheet? (document t.canvas p address).toList = some sheet ∧
      rules? sheet = some rules ∧
      preformatted? (document t.canvas p address).toList = some part ∧ read? part = some r ∧
      SameColours t.canvas p s rules r) ∧
    ∀ (shelf : PaletteShelf) (name : String) (q : Palette), shelf.load name = .ok q →
      16 ≤ q.size := by
  constructor
  · obtain ⟨w, n, hw, -, -, rfl⟩ := ofSize_eq_ok_blank hstart
    have hregular := h.regular (Canvas.regular_blank w n hw)
    obtain ⟨sheet, hsheet, hrules⟩ := exists_rules?_document t.canvas p address
    obtain ⟨r, hread, hshows⟩ := read?_body t.canvas
    exact ⟨sheet, sheetRules p, _, r, hsheet, hrules, preformatted?_document t.canvas p address,
      hread, hshows.sameColours hregular hp s⟩
  · intro shelf name q hq
    rw [PaletteShelf.size_load hq]
    decide

/-- A letter in bright yellow on red behind a position without a cell, in the sixteen colours. -/
theorem sameColours_document_bright :
    ∃ start t, ofSize .unlimited 2 1 = .ok start ∧ Reachable .unlimited start t ∧
      16 ≤ Palette.cga.size ∧ t.canvas.cellAt 0 0 = none ∧
      t.canvas.cellAt 1 0 =
        some ⟨'A', { foreground := 3, background := 1, flags := .ofList [.bold] }⟩ ∧
      ∃ sheet rules part r, sheet? (document t.canvas Palette.cga "").toList = some sheet ∧
        rules? sheet = some rules ∧
        preformatted? (document t.canvas Palette.cga "").toList = some part ∧
        read? part = some r ∧
        SameColours t.canvas Palette.cga
          (FontStack.mk ⟨{ label := "", advance := .ofNat 8, letterBox := ⟨0, 0, 8, 16⟩
                           glyphSize := fun _ => some ⟨8, 16⟩ }, ""⟩ [] (.value 16)) rules r := by
  let start : Terminal := ⟨{}, .blank 2 1 (by decide)⟩
  have hstart : ofSize .unlimited 2 1 = .ok start := rfl
  have hreach : Reachable .unlimited start
      (start.feed .unlimited
        [0x1b, 0x5b, 0x43, 0x1b, 0x5b, 0x31, 0x3b, 0x33, 0x33, 0x3b, 0x34, 0x31, 0x6d,
          0x41]).terminal :=
    Reachable.start.feed _
  have hsize : 16 ≤ Palette.cga.size := by decide
  exact ⟨start, _, hstart, hreach, hsize, by decide +kernel, by decide +kernel,
    (sameColours_document hstart hreach hsize _ "").1⟩

end Terminal

end AnsiArt
