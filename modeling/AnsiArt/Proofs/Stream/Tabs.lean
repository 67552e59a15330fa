import AnsiArt.Proofs.Screen.Wrapping
import AnsiArt.Proofs.Stream.Atomicity
import AnsiArt.Proofs.Stream.Totality

/-!
# Tab stops

A tab writes blanks up to the last column in front of the next multiple of eight. How many they are
is fixed before the first of them is written, and they wrap like any text. So a tab lands on the stop
that it is meant for if the row has that column. Otherwise its blanks go on in the rows below, and as
they end in one of the first seven columns there, a further tab does not stay where it is.

Main statements:

* `Canvas.tab_eq_writeText` — a tab writes a text of blanks;
* `Canvas.cursor_tab`, `Canvas.slot?_tab` — where a tab ends, and what it leaves behind;
* `Canvas.tab_tab_eq_iff` — when a second tab does nothing;
* `Terminal.landsOnStop_feed` — when a tab lands on its stop, and what happens otherwise.
-/

namespace AnsiArt

open Decoder

namespace Canvas

/-- The column at which a tab from column `x` is to end: from there on, the first one in front of a
multiple of eight. -/
def stopFrom (x : Nat) : Nat := x / tabStop * tabStop + (tabStop - 1)

/-! ### Columns -/

theorem le_stopFrom (x : Nat) : x ≤ stopFrom x := by
  simp only [stopFrom, tabStop]
  omega

/-- As many blanks as a tab writes lead from a column to its stop. -/
theorem add_stopFrom_sub (o x : Nat) : o + x + (stopFrom x - x) = o + stopFrom x := by
  have := le_stopFrom x
  omega

/-- From a stop, the next one is the stop itself. -/
theorem stopFrom_stopFrom (x : Nat) : stopFrom (stopFrom x) = stopFrom x := by
  simp only [stopFrom, tabStop]
  omega

/-- If the width is a multiple of eight, each column has a stop in its row. -/
theorem stopFrom_lt_of_dvd {x width : Nat} (hx : x < width) (h : tabStop ∣ width) :
    stopFrom x < width := by
  obtain ⟨n, rfl⟩ := h
  simp only [stopFrom, tabStop] at hx ⊢
  omega

/-- Behind the last column, the stop stands for one of the first columns, and that is no stop. -/
theorem mod_lt_stopFrom_mod {x width : Nat} (hx : x < width) (h : width ≤ stopFrom x) :
    stopFrom x % width < stopFrom (stopFrom x % width) := by
  have hle : stopFrom x % width ≤ stopFrom x - width := by
    rw [Nat.mod_eq_sub_mod h]
    exact Nat.mod_le ..
  simp only [stopFrom, tabStop] at h hle ⊢
  omega

theorem tabBlanks_natCast (x : Nat) : tabBlanks x = stopFrom x - x := by
  rw [tabBlanks, stopFrom]
  by_cases hstop : ((x : Int) + 1) % tabStop = 0
  · rw [if_pos hstop]
    simp only [tabStop] at hstop ⊢
    omega
  · rw [if_neg hstop]
    simp only [tabStop] at hstop ⊢
    omega

/-! ### Blanks -/

variable {c : Canvas} {x y o : Nat}

theorem writeBlanks_eq_writeText (c : Canvas) (n : Nat) :
    c.writeBlanks n = c.writeText (List.replicate n ' ') := by
  induction n generalizing c with
  | zero => rfl
  | succ n ih => exact ih (c.write ' ')

/-- **A tab writes a text of blanks.** -/
theorem tab_eq_writeText (hx : c.cursor.x = x) :
    c.tab = c.writeText (List.replicate (stopFrom x - x) ' ') := by
  rw [tab, hx, tabBlanks_natCast, writeBlanks_eq_writeText]

/-- No text but the empty one leaves a canvas as it is, since the cursor goes on. -/
theorem writeText_eq_self_iff (h : c.cursor.StandsAt c.width o) {text : List Char} :
    c.writeText text = c ↔ text = [] := by
  constructor
  · intro heq
    obtain ⟨hwidth, hcursor, -⟩ := standsAt_writeText text h
    rw [← hwidth] at hcursor
    have hoffset := offset_of_standsAt hcursor
    rw [heq, offset_of_standsAt h] at hoffset
    exact List.length_eq_zero_iff.mp (by omega)
  · rintro rfl
    rfl

/-- A cursor on the canvas, or below it, stands at the slot of its column and row. -/
theorem standsAt_of_lt (hx : c.cursor.x = x) (hy : c.cursor.y = y) (hw : x < c.width) :
    c.cursor.StandsAt c.width (y * c.width + x) := by
  rw [Cursor.standsAt_row_iff c.width_pos, Nat.mod_eq_of_lt hw, Nat.div_eq_of_lt hw]
  exact ⟨hx, hy⟩

/-- Where a tab leaves the cursor: in the column and the row of the slot that is as far from the start
of the row as the stop. -/
theorem cursor_tab (hx : c.cursor.x = x) (hy : c.cursor.y = y) (hw : x < c.width) :
    c.tab.width = c.width ∧ c.tab.cursor.x = (stopFrom x % c.width : Nat) ∧
      c.tab.cursor.y = (y + stopFrom x / c.width : Nat) := by
  obtain ⟨hwidth, hcursor, -⟩ :=
    standsAt_writeText (List.replicate (stopFrom x - x) ' ') (standsAt_of_lt hx hy hw)
  rw [List.length_replicate, add_stopFrom_sub, Cursor.standsAt_row_iff c.width_pos] at hcursor
  rw [tab_eq_writeText hx]
  exact ⟨hwidth, hcursor⟩

/-- **A tab stays in its row exactly if the row has the stop.** -/
theorem y_tab_eq_iff (hx : c.cursor.x = x) (hy : c.cursor.y = y) (hw : x < c.width) :
    c.tab.cursor.y = y ↔ stopFrom x < c.width := by
  obtain ⟨-, -, hy'⟩ := cursor_tab hx hy hw
  rw [hy', Int.natCast_inj, Nat.add_eq_left, Nat.div_eq_zero_iff_lt c.width_pos]

/-- What a tab leaves in the slots: blanks up to the stop, and everything else as it was. -/
theorem slot?_tab (hx : c.cursor.x = x) (hy : c.cursor.y = y) (hw : x < c.width) (i : Nat) :
    c.tab.slot? i =
      if y * c.width + x ≤ i ∧ i < y * c.width + stopFrom x then
        some ⟨' ', c.cursor.pen.rendition⟩
      else c.slot? i := by
  rw [tab_eq_writeText hx, slot?_writeText _ (standsAt_of_lt hx hy hw), List.length_replicate,
    add_stopFrom_sub]
  split
  · next hbetween =>
    have hcount : i - (y * c.width + x) < stopFrom x - x := by omega
    rw [List.getElem?_replicate, if_pos hcount, Option.map_some]
  · rfl

/-- **A second tab does nothing exactly if the row has the stop** of the first one. -/
theorem tab_tab_eq_iff (hx : c.cursor.x = x) (hy : c.cursor.y = y) (hw : x < c.width) :
    c.tab.tab = c.tab ↔ stopFrom x < c.width := by
  obtain ⟨hwidth, hx', hy'⟩ := cursor_tab hx hy hw
  have hin : stopFrom x % c.width < c.tab.width := by
    rw [hwidth]
    exact Nat.mod_lt _ c.width_pos
  have hagain : c.tab.tab = c.tab ↔
      stopFrom (stopFrom x % c.width) ≤ stopFrom x % c.width := by
    rw [tab_eq_writeText hx', writeText_eq_self_iff (standsAt_of_lt hx' hy' hin),
      List.replicate_eq_nil_iff, Nat.sub_eq_zero_iff_le]
  rw [hagain]
  constructor
  · intro hle
    by_contra hout
    exact absurd (mod_lt_stopFrom_mod hw (Nat.not_lt.mp hout)) (Nat.not_lt.mpr hle)
  · intro hstop
    rw [Nat.mod_eq_of_lt hstop, stopFrom_stopFrom]

end Canvas

namespace Terminal

open Canvas

/-- What a tab does from column `x` and row `y`. -/
structure LandsOnStop (t : Terminal) (x y : Nat) : Prop where
  /-- It writes blanks, one after another. -/
  blanks : (t.feed .unlimited [byteTAB]).terminal =
    ⟨t.decoder, t.canvas.writeText (List.replicate (stopFrom x - x) ' ')⟩
  slots : ∀ i, (t.feed .unlimited [byteTAB]).terminal.canvas.slot? i =
    if y * t.canvas.width + x ≤ i ∧ i < y * t.canvas.width + stopFrom x then
      some ⟨' ', t.canvas.cursor.pen.rendition⟩
    else t.canvas.slot? i
  /-- If the row has the stop, the tab ends there. -/
  lands : stopFrom x < t.canvas.width →
    (t.feed .unlimited [byteTAB]).terminal.canvas.cursor.x = stopFrom x ∧
      (t.feed .unlimited [byteTAB]).terminal.canvas.cursor.y = y
  /-- Exactly then, the row stays the same. -/
  row_iff : (t.feed .unlimited [byteTAB]).terminal.canvas.cursor.y = y ↔
    stopFrom x < t.canvas.width
  /-- And exactly then, two tabs are one. -/
  twice_iff : (t.feed .unlimited [byteTAB, byteTAB]).terminal =
      (t.feed .unlimited [byteTAB]).terminal ↔ stopFrom x < t.canvas.width
  /-- The row has the stop whenever the width is a multiple of eight. -/
  of_dvd : tabStop ∣ t.canvas.width → stopFrom x < t.canvas.width

variable {width height : Int} {start t : Terminal} {x y : Nat}

/-- **When a tab lands on its stop.** In text mode and from a column of the canvas, a tab writes
blanks up to the stop of its column, one slot after another. Exactly if the stop is a column of the
canvas, the cursor stays in its row and a second tab leaves everything as it is. That is so whenever
the width is a multiple of eight. -/
theorem landsOnStop_feed (hstart : ofSize .unlimited width height = .ok start)
    (ht : Reachable .unlimited start t) (hmode : t.decoder.mode = .text)
    (hin : t.canvas.cursor.x < t.canvas.width) :
    ∃ x y : Nat, t.canvas.cursor.x = x ∧ t.canvas.cursor.y = y ∧ t.LandsOnStop x y := by
  have hnonneg := ht.nonneg hstart
  obtain ⟨x, hx⟩ := Int.eq_ofNat_of_zero_le hnonneg.x_nonneg
  obtain ⟨y, hy⟩ := Int.eq_ofNat_of_zero_le hnonneg.y_nonneg
  have hw : x < t.canvas.width := by omega
  have heq : t = ⟨{}, t.canvas⟩ := ht.eq_mk_of_text hstart hmode
  have hfeed : (t.feed .unlimited [byteTAB]).terminal = ⟨{}, t.canvas.tab⟩ := by
    rw [feed_unlimited hnonneg, heq]
    rfl
  have hfeed₂ : (t.feed .unlimited [byteTAB, byteTAB]).terminal = ⟨{}, t.canvas.tab.tab⟩ := by
    rw [feed_unlimited hnonneg, heq]
    rfl
  refine ⟨x, y, hx, hy, ?_⟩
  constructor
  case blanks => rw [hfeed, tab_eq_writeText hx, heq]
  case slots =>
    rw [hfeed]
    exact slot?_tab hx hy hw
  case lands =>
    intro hstop
    obtain ⟨-, hx', -⟩ := cursor_tab hx hy hw
    rw [hfeed]
    refine ⟨?_, (y_tab_eq_iff hx hy hw).mpr hstop⟩
    rw [hx', Nat.mod_eq_of_lt hstop]
  case row_iff =>
    rw [hfeed]
    exact y_tab_eq_iff hx hy hw
  case twice_iff =>
    rw [hfeed, hfeed₂, Terminal.mk.injEq, eq_self, true_and]
    exact tab_tab_eq_iff hx hy hw
  case of_dvd => exact stopFrom_lt_of_dvd hw

/-- From the ninth of 132 columns, a tab ends in column 15. -/
theorem landsOnStop_feed_column_eight :
    ∃ start t : Terminal, ofSize .unlimited 132 1 = .ok start ∧ Reachable .unlimited start t ∧
      t.decoder.mode = .text ∧ t.canvas.cursor.x < t.canvas.width ∧ t.canvas.cursor.x = 8 ∧
      (t.feed .unlimited [byteTAB]).terminal.canvas.cursor.x = 15 ∧
      (t.feed .unlimited [byteTAB, byteTAB]).terminal =
        (t.feed .unlimited [byteTAB]).terminal := by
  let start : Terminal := ⟨{}, .blank 132 1 (by decide)⟩
  let t := (start.feed .unlimited [0x1b, 0x5b, 0x39, 0x47]).terminal
  have hstart : ofSize .unlimited 132 1 = .ok start := rfl
  have ht : Reachable .unlimited start t := Reachable.start.feed _
  have hmode : t.decoder.mode = .text := by decide
  have hcolumn : t.canvas.cursor.x = 8 := by decide +kernel
  have hwidth : t.canvas.width = 132 := by decide +kernel
  have hin : t.canvas.cursor.x < t.canvas.width := by
    rw [hcolumn, hwidth]
    decide
  obtain ⟨x, y, hx, -, hlands⟩ := landsOnStop_feed hstart ht hmode hin
  obtain rfl : x = 8 := by omega
  have hstop : stopFrom 8 < t.canvas.width := by
    rw [hwidth]
    decide
  exact ⟨start, t, hstart, ht, hmode, hin, hcolumn, (hlands.lands hstop).1,
    hlands.twice_iff.mpr hstop⟩

/-- From the ninth of 12 columns, a tab ends in the next row, and a second one goes on. -/
theorem not_landsOnStop_twelve_columns :
    ∃ start t : Terminal, ofSize .unlimited 12 2 = .ok start ∧
      t = (start.feed .unlimited [0x1b, 0x5b, 0x39, 0x47]).terminal ∧
      Reachable .unlimited start t ∧ t.decoder.mode = .text ∧
      t.canvas.cursor.x = 8 ∧ t.canvas.cursor.y = 0 ∧
      (t.feed .unlimited [byteTAB]).terminal.canvas.cursor.y = 1 ∧
      (t.feed .unlimited [byteTAB]).terminal.canvas.cursor.x = 3 ∧
      (t.feed .unlimited [byteTAB, byteTAB]).terminal ≠
        (t.feed .unlimited [byteTAB]).terminal := by
  let start : Terminal := ⟨{}, .blank 12 2 (by decide)⟩
  let t := (start.feed .unlimited [0x1b, 0x5b, 0x39, 0x47]).terminal
  refine ⟨start, t, rfl, rfl, Reachable.start.feed _, by decide, by decide +kernel,
    by decide +kernel, by decide +kernel, by decide +kernel, fun h => ?_⟩
  have hcursor := congrArg (fun d => d.canvas.cursor.x) h
  exact absurd hcursor (by decide +kernel)

end Terminal

end AnsiArt
