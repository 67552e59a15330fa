import AnsiArt.Proofs.Control.Handling
import AnsiArt.Proofs.Screen.Renditions
import Mathlib.Data.List.Induction

/-!
# The last number decides

A rendition has aspects: the two colours, the font, and each of its flags. An aspect is **decided**
by certain numbers, and each of them decides it in one way, whatever it was before. So of a list of
numbers only the last one that decides an aspect counts for it, and an aspect that none of them
decides stays as it is.

The numbers are listed here aspect by aspect, and for a flag those that switch it on and those that
switch it off. The machine has them the other way round: its table says for each number which flags
it switches, and its other numbers are told apart by ranges. Zero decides everything.

Main statements:

* `RenditionChange.ofCode?_cases` — the kinds of numbers;
* `Rendition.Aspect.Settled.view_selectAll` — the last number that decides an aspect settles it;
* `Canvas.decidedByLast_select` — what selecting leaves of the pen, aspect by aspect.
-/

namespace AnsiArt

/-! ### The numbers that decide an aspect -/

/-- The last of the numbers for which a test succeeds. -/
def lastWith (test : Int → Bool) (codes : List Int) : Option Int := (codes.filter test).getLast?

/-- The numbers that switch a flag on. -/
def Flag.setters : Flag → List Int
  | bold => [1]
  | faint => [2]
  | italics => [3]
  | underline => [4]
  | doubleUnderline => [21]
  | blink => [5, 6]
  | negative => [7]
  | conceal => [8]
  | crossOut => [9]
  | gothic => [20]
  | frame => [51]
  | encircle => [52]
  | overline => [53]
  | ideogramUnderline => [60]
  | ideogramDoubleUnderline => [61]
  | ideogramOverline => [62]
  | ideogramDoubleOverline => [63]
  | ideogramStress => [64]

/-- The numbers other than zero that switch a flag off. -/
def Flag.clearers : Flag → List Int
  | bold | faint => [22]
  | italics | gothic => [23]
  | underline => [21, 24]
  | doubleUnderline => [4, 24]
  | blink => [25]
  | negative => [27]
  | conceal => [28]
  | crossOut => [29]
  | frame | encircle => [54]
  | overline => [55]
  | ideogramUnderline | ideogramDoubleUnderline | ideogramOverline | ideogramDoubleOverline
  | ideogramStress => [65]

namespace Rendition

/-- An aspect of a rendition, the numbers that decide it, and what each of them makes of it. -/
structure Aspect (α : Type) where
  view : Rendition → α
  decides : Int → Bool
  value : Int → α

namespace Aspect

def foreground : Aspect Int where
  view := Rendition.foreground
  decides n := n = 0 ∨ (30 ≤ n ∧ n ≤ 37) ∨ n = 39 ∨ (90 ≤ n ∧ n ≤ 97)
  value n := if 30 ≤ n ∧ n ≤ 37 then n - 30 else if 90 ≤ n ∧ n ≤ 97 then n - 90 else 7

def background : Aspect Int where
  view := Rendition.background
  decides n := n = 0 ∨ (40 ≤ n ∧ n ≤ 47) ∨ n = 49 ∨ (100 ≤ n ∧ n ≤ 107)
  value n := if 40 ≤ n ∧ n ≤ 47 then n - 40 else if 100 ≤ n ∧ n ≤ 107 then n - 100 else 0

def font : Aspect Int where
  view := Rendition.font
  decides n := n = 0 ∨ (10 ≤ n ∧ n ≤ 19)
  value n := if 10 ≤ n ∧ n ≤ 19 then n - 10 else 0

def flag (f : Flag) : Aspect Bool where
  view r := r.has f
  decides n := n = 0 ∨ n ∈ f.setters ∨ n ∈ f.clearers
  value n := n ∈ f.setters

/-- What a list of numbers makes of an aspect: the last one that decides it counts. -/
def after {α : Type} (a : Aspect α) (codes : List Int) (old : α) : α :=
  (lastWith a.decides codes).elim old a.value

/-- Each number either decides an aspect in the way that is said, or leaves it alone. -/
def Settled {α : Type} (a : Aspect α) : Prop :=
  ∀ (r : Rendition) (n : Int),
    a.view (r.select n) = if a.decides n = true then a.value n else a.view r

/-- **The last number that decides an aspect settles it.** -/
theorem Settled.view_selectAll {α : Type} {a : Aspect α} (h : a.Settled) (r : Rendition)
    (codes : List Int) : a.view (r.selectAll codes) = a.after codes (a.view r) := by
  -- from the end of the list, where the number stands that decides if it can
  induction codes using List.reverseRecOn with
  | nil => rfl
  | append_singleton codes n ih =>
    have hstep : r.selectAll (codes ++ [n]) = (r.selectAll codes).select n := by
      rw [selectAll, List.foldl_append]
      rfl
    rw [hstep, h, after, lastWith, List.filter_append]
    split
    · next hn =>
      rw [List.filter_cons_of_pos hn, List.filter_nil, List.getLast?_concat]
      rfl
    · next hn =>
      rw [List.filter_cons_of_neg hn, List.filter_nil, List.append_nil, ih]
      rfl

end Aspect

end Rendition

/-! ### The kinds of numbers -/

namespace RenditionChange

open Rendition

/-- The font or the colour that a number chooses. -/
def chosen? (n : Int) : Option RenditionChange :=
  if Aspect.font.decides n then some (.font (Aspect.font.value n))
  else if Aspect.foreground.decides n then some (.foreground (Aspect.foreground.value n))
  else if Aspect.background.decides n then some (.background (Aspect.background.value n))
  else none

/-- **The kinds of numbers.** A number resets, or it stands in the table of flags, or it chooses a
font or a colour, or it means nothing. -/
theorem ofCode?_cases (n : Int) :
    (n = 0 ∧ ofCode? n = some .reset) ∨
      (∃ row ∈ flagTable, row.1 = n ∧ ofCode? n = some (.flags row.2.1 row.2.2)) ∨
      (n ≠ 0 ∧ (∀ row ∈ flagTable, row.1 ≠ n) ∧ ofCode? n = chosen? n) := by
  by_cases hzero : n = 0
  · exact .inl ⟨hzero, if_pos hzero⟩
  cases hrow : flagTable.lookup n with
  | some row =>
    obtain ⟨on, off⟩ := row
    obtain ⟨front, rest, hmem, -⟩ := List.lookup_eq_some_iff.mp hrow
    refine .inr (.inl ⟨(n, on, off), hmem ▸ List.mem_append_cons_self, rfl, ?_⟩)
    rw [ofCode?, if_neg hzero, hrow]
  | none =>
    refine .inr (.inr ⟨hzero, fun row hmem heq => ?_, ?_⟩)
    · exact absurd heq.symm (by simpa using List.lookup_eq_none_iff.mp hrow row hmem)
    · -- the machine tries the same ranges, in an order of its own
      rw [ofCode?, if_neg hzero, hrow, chosen?]
      simp only [Aspect.font, Aspect.foreground, Aspect.background, hzero, false_or,
        decide_eq_true_eq]
      grind

/-! ### The table and the lists by flags -/

variable {row : Int × List Flag × List Flag}

theorem ne_zero_of_mem_flagTable (h : row ∈ flagTable) : row.1 ≠ 0 := by
  have hall : ∀ row ∈ flagTable, row.1 ≠ 0 := by decide
  exact hall row h

theorem mem_flagTable_iff (h : row ∈ flagTable) (f : Flag) :
    (f ∈ row.2.1 ↔ row.1 ∈ f.setters) ∧ (f ∈ row.2.2 ↔ row.1 ∈ f.clearers) := by
  have hall : ∀ row ∈ flagTable,
      (f ∈ row.2.1 ↔ row.1 ∈ f.setters) ∧ (f ∈ row.2.2 ↔ row.1 ∈ f.clearers) := by
    cases f <;> decide
  exact hall row h

theorem exists_flag_of_mem_flagTable (h : row ∈ flagTable) :
    ∃ f : Flag, row.1 ∈ f.setters ∨ row.1 ∈ f.clearers := by
  have hall : ∀ row ∈ flagTable, row.2.1 ++ row.2.2 ≠ [] := by decide
  obtain ⟨f, hf⟩ := List.exists_mem_of_ne_nil _ (hall row h)
  obtain ⟨hon, hoff⟩ := mem_flagTable_iff h f
  exact ⟨f, (List.mem_append.mp hf).imp hon.mp hoff.mp⟩

theorem exists_mem_flagTable {f : Flag} {n : Int} (h : n ∈ f.setters ∨ n ∈ f.clearers) :
    ∃ row ∈ flagTable, row.1 = n := by
  have hall : ∀ n ∈ f.setters ++ f.clearers, ∃ row ∈ flagTable, row.1 = n := by
    cases f <;> decide
  exact hall n (List.mem_append.mpr h)

end RenditionChange

/-! ### Every aspect is settled -/

namespace Rendition

open RenditionChange

namespace Aspect

/-- An aspect is settled if each kind of numbers settles it. -/
theorem settled_of_kinds {α : Type} {a : Aspect α}
    (hreset : a.decides 0 = true ∧ a.view {} = a.value 0)
    (hflags : ∀ row ∈ flagTable, ∀ r : Rendition,
      a.view (apply r (.flags row.2.1 row.2.2)) =
        if a.decides row.1 = true then a.value row.1 else a.view r)
    (hchosen : ∀ (r : Rendition) (n : Int), n ≠ 0 → (∀ row ∈ flagTable, row.1 ≠ n) →
      a.view (((chosen? n).map (apply r)).getD r) =
        if a.decides n = true then a.value n else a.view r) :
    a.Settled := by
  intro r n
  rcases ofCode?_cases n with ⟨rfl, hcode⟩ | ⟨row, hrow, rfl, hcode⟩ | ⟨hzero, hno, hcode⟩
  · rw [select, hcode, if_pos hreset.1]
    exact hreset.2
  · rw [select, hcode]
    exact hflags row hrow r
  · rw [select, hcode]
    exact hchosen r n hzero hno

/-- The colours and the font are left alone by the numbers of the table. -/
theorem settled_of_number {a : Aspect Int} (hreset : a.decides 0 = true ∧ a.view {} = a.value 0)
    (htable : ∀ row ∈ flagTable, a.decides row.1 = false)
    (hview : ∀ (r : Rendition) (on off : List Flag), a.view (apply r (.flags on off)) = a.view r)
    (hchosen : ∀ (r : Rendition) (n : Int), n ≠ 0 →
      a.view (((chosen? n).map (apply r)).getD r) =
        if a.decides n = true then a.value n else a.view r) :
    a.Settled := by
  refine settled_of_kinds hreset (fun row hrow r => ?_) fun r n hzero _ => hchosen r n hzero
  rw [htable row hrow, hview]
  rfl

theorem settled_foreground : foreground.Settled := by
  refine settled_of_number ⟨rfl, rfl⟩ (by decide) (fun _ _ _ => rfl) fun r n hzero => ?_
  simp only [chosen?, foreground, background, font, hzero, false_or, decide_eq_true_eq]
  grind [RenditionChange.apply]

theorem settled_background : background.Settled := by
  refine settled_of_number ⟨rfl, rfl⟩ (by decide) (fun _ _ _ => rfl) fun r n hzero => ?_
  simp only [chosen?, foreground, background, font, hzero, false_or, decide_eq_true_eq]
  grind [RenditionChange.apply]

theorem settled_font : font.Settled := by
  refine settled_of_number ⟨rfl, rfl⟩ (by decide) (fun _ _ _ => rfl) fun r n hzero => ?_
  simp only [chosen?, foreground, background, font, hzero, false_or, decide_eq_true_eq]
  grind [RenditionChange.apply]

theorem settled_flag (f : Flag) : (flag f).Settled := by
  refine settled_of_kinds ⟨rfl, by cases f <;> rfl⟩ (fun row hrow r => ?_)
    (fun r n hzero hno => ?_)
  · -- the flag is on if it was switched on, or if it was on and was not switched off
    obtain ⟨hon, hoff⟩ := mem_flagTable_iff hrow f
    have hzero := ne_zero_of_mem_flagTable hrow
    have hview : (apply r (.flags row.2.1 row.2.2)).has f =
        ((r.has f && !decide (row.1 ∈ f.clearers)) || decide (row.1 ∈ f.setters)) := by
      simp [Rendition.has, apply, hon, hoff]
    show (apply r (.flags row.2.1 row.2.2)).has f = _
    rw [hview]
    simp only [flag, hzero, false_or, decide_eq_true_eq]
    by_cases hset : row.1 ∈ f.setters <;> by_cases hclear : row.1 ∈ f.clearers <;>
      simp [hset, hclear]
  · -- a number that is not in the table switches no flag
    have hneither : ¬ (n ∈ f.setters ∨ n ∈ f.clearers) := by
      intro h
      obtain ⟨row, hrow, heq⟩ := exists_mem_flagTable h
      exact hno row hrow heq
    have hdecides : ¬ (flag f).decides n = true := by
      rw [flag, decide_eq_true_eq]
      exact not_or.mpr ⟨hzero, hneither⟩
    rw [if_neg hdecides, chosen?]
    repeat' split
    all_goals rfl

end Aspect

/-! ### Numbers that decide nothing -/

/-- A number that decides no aspect. -/
structure DecidesNothing (n : Int) : Prop where
  foreground : Aspect.foreground.decides n = false
  background : Aspect.background.decides n = false
  font : Aspect.font.decides n = false
  flags : ∀ f, (Aspect.flag f).decides n = false

/-- **A number that decides nothing has no effect.** -/
theorem DecidesNothing.select {n : Int} (h : DecidesNothing n) (r : Rendition) :
    r.select n = r := by
  rcases ofCode?_cases n with ⟨rfl, -⟩ | ⟨row, hrow, rfl, -⟩ | ⟨-, -, hcode⟩
  · exact absurd h.font (by decide)
  · obtain ⟨f, hf⟩ := exists_flag_of_mem_flagTable hrow
    have hdecides := h.flags f
    rw [Aspect.flag, decide_eq_false_iff_not] at hdecides
    exact absurd (.inr hf) hdecides
  · rw [Rendition.select, hcode, chosen?, h.font, h.foreground, h.background]
    rfl

/-- The numbers reserved for other colours decide nothing, and neither does any that is negative or
above the colours. -/
theorem decidesNothing_of_reserved {n : Int} (h : n = 38 ∨ n = 48 ∨ n < 0 ∨ 107 < n) :
    DecidesNothing n where
  foreground := by
    simp only [Aspect.foreground, decide_eq_false_iff_not]
    omega
  background := by
    simp only [Aspect.background, decide_eq_false_iff_not]
    omega
  font := by
    simp only [Aspect.font, decide_eq_false_iff_not]
    omega
  flags f := by
    cases f <;> simp only [Aspect.flag, Flag.setters, Flag.clearers, List.mem_cons,
      List.not_mem_nil, or_false, decide_eq_false_iff_not] <;> omega

/-! ### The pen -/

/-- What a list of numbers makes of a rendition, aspect by aspect. -/
structure DecidedByLast (codes : List Int) (old new : Rendition) : Prop where
  foreground : new.foreground = Aspect.foreground.after codes old.foreground
  background : new.background = Aspect.background.after codes old.background
  font : new.font = Aspect.font.after codes old.font
  flags : ∀ f, new.has f = (Aspect.flag f).after codes (old.has f)

theorem decidedByLast_selectAll (codes : List Int) (r : Rendition) :
    DecidedByLast codes r (r.selectAll codes) where
  foreground := Aspect.settled_foreground.view_selectAll r codes
  background := Aspect.settled_background.view_selectAll r codes
  font := Aspect.settled_font.view_selectAll r codes
  flags f := (Aspect.settled_flag f).view_selectAll r codes

theorem selectAll_append (r : Rendition) (codes more : List Int) :
    r.selectAll (codes ++ more) = (r.selectAll codes).selectAll more :=
  List.foldl_append

end Rendition

namespace ControlFunction

/-- The numbers of a selection: those that can be read, or a zero if there are none. -/
def selected (values : List Int) : List Int := if values = [] then [0] else values

/-- The remarks on the numbers that mean nothing. -/
def remarks (codes : List Int) : List Notice :=
  (codes.filter fun n => (RenditionChange.ofCode? n).isNone).map .unsupportedRendition

theorem interpret_selectRendition {ps : Parameters} {values : List Int} (h : ps.ints = .ok values) :
    selectRendition.interpret ps =
      { commands := [.select (selected values)], notices := remarks (selected values) } := by
  have hcodes : (if values.isEmpty then [0] else values) = selected values := by
    cases values <;> rfl
  rw [interpret, h]
  simp only [Interpretation.reading, hcodes]
  rfl

theorem handle_selectRendition (room : Room) (c : Canvas) {ps : Parameters} {values : List Int}
    (h : ps.ints = .ok values) :
    selectRendition.handle room c ps = ⟨c.select (selected values), none⟩ := by
  rw [handle, interpret_selectRendition h]
  rfl

end ControlFunction

namespace Canvas

/-- **The last number that decides an aspect of the pen counts.** Selecting changes nothing but the
rendition of the pen, each aspect of it as the last number says that decides it, and no aspect that
none of them decides. A number that decides nothing can be left out. The control function selects
all numbers that are readable, or zero. -/
theorem decidedByLast_select (c : Canvas) :
    (∀ codes, ∃ r, Rendition.DecidedByLast codes c.cursor.pen.rendition r ∧
      c.select codes =
        { c with cursor := { c.cursor with pen := { c.cursor.pen with rendition := r } } }) ∧
    (∀ front n behind, Rendition.DecidesNothing n →
      c.select (front ++ n :: behind) = c.select (front ++ behind)) ∧
    (∀ n, n = 38 ∨ n = 48 ∨ n < 0 ∨ 107 < n → Rendition.DecidesNothing n) ∧
    ∀ room ps values, ps.ints = .ok values →
      ControlFunction.selectRendition.handle room c ps =
        ⟨c.select (ControlFunction.selected values), none⟩ := by
  refine ⟨fun codes => ?_, fun front n behind hn => ?_, fun n => ?_, fun room ps values h => ?_⟩
  · exact ⟨_, Rendition.decidedByLast_selectAll codes _, rfl⟩
  · have hskip : c.cursor.pen.rendition.selectAll (front ++ n :: behind) =
        c.cursor.pen.rendition.selectAll (front ++ behind) := by
      rw [Rendition.selectAll_append, Rendition.selectAll_append, Rendition.selectAll,
        List.foldl_cons, hn.select]
      rfl
    rw [select, select, move, move, hskip]
  · exact Rendition.decidesNothing_of_reserved
  · exact ControlFunction.handle_selectRendition room c h

/-- Both underlines are asked for on a pen in italics, among numbers that mean nothing: the later one
is on, and so are the italics. -/
theorem decidedByLast_select_two_underlines :
    ∃ (c : Canvas) (ps : Parameters) (r : Rendition),
      c.cursor.pen = ⟨'A', { foreground := 5, flags := .ofList [.italics] }⟩ ∧
      ps = Parameters.ofBody [0x34, 0x3b, 0x33, 0x38, 0x3b, 0x2d, 0x37, 0x3b, 0x32, 0x31] ∧
      ps.ints = .ok [4, 38, -7, 21] ∧ Rendition.DecidesNothing 38 ∧
      c.select [4, 38, -7, 21] = c.select [4, -7, 21] ∧
      (ControlFunction.selectRendition.handle .unlimited c ps).canvas.cursor.pen = ⟨'A', r⟩ ∧
      r.foreground = 5 ∧ r.has .italics = true ∧ r.has .underline = false ∧
      r.has .doubleUnderline = true := by
  let pen : Cell := ⟨'A', { foreground := 5, flags := .ofList [.italics] }⟩
  let c : Canvas := { blank 4 2 (by decide) with cursor := { pen } }
  let ps := Parameters.ofBody [0x34, 0x3b, 0x33, 0x38, 0x3b, 0x2d, 0x37, 0x3b, 0x32, 0x31]
  have hints : ps.ints = .ok [4, 38, -7, 21] := by decide
  obtain ⟨hlast, hskip, hreserved, hhandle⟩ := decidedByLast_select c
  obtain ⟨r, hr, hselect⟩ := hlast [4, 38, -7, 21]
  have hnothing := hreserved 38 (.inl rfl)
  refine ⟨c, ps, r, rfl, rfl, hints, hnothing, hskip [4] 38 [-7, 21] hnothing, ?_, ?_, ?_, ?_, ?_⟩
  · rw [hhandle _ ps _ hints]
    exact congrArg (fun d : Canvas => d.cursor.pen) hselect
  · exact hr.foreground
  · exact (hr.flags .italics).trans (by decide +kernel)
  · exact hr.flags .underline
  · exact hr.flags .doubleUnderline

end Canvas

end AnsiArt
