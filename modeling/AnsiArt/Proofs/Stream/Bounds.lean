import AnsiArt.Proofs.Screen.Bounds
import AnsiArt.Proofs.Stream.Atomicity
import AnsiArt.Proofs.Stream.Totality

/-!
# The bounds along a byte stream

The bounds of a canvas are changed by writes alone, and never to less. So whatever a terminal is fed,
at every byte and in front of every write, the bounds of the cursor and those of the cells are no
further apart than a single write sets them, and those of the cells are zero until there is one.

Main statements:

* `Trail.grows`, `Trail.tracks` — what a row of writes does to the bounds;
* `Trail.written_cases` — when the bounds of the cells are zero;
* `Terminal.tracksBounds_of_ofSize` — all of it for a terminal and what it is fed.
-/

namespace AnsiArt

open Decoder

/-! ### Strokes -/

/-- A stroke that was carried out. -/
def Stroke.IsCompleted (room : Room) (s : Stroke) : Prop := (s.attempt room).shortage = none

namespace Trail

variable {room : Room} {c d : Canvas} {s : Stroke} {strokes earlier later : List Stroke} {a : Attempt}

/-- **No bound gets less along a trail.** -/
theorem grows (h : Trail room c strokes a) : c.Grows a.canvas :=
  h.canvas_induction (fun hquiet hd => hd.trans hquiet.grows)
    (fun _ _ hslot hd => hd.trans (Canvas.grows_write hslot)) (.refl c)

/-- Nor does one from behind its first stroke to its end. -/
theorem grows_attempt (h : Trail room c (s :: strokes) a) : (s.attempt room).canvas.Grows a.canvas := by
  cases h with
  | write _ hs rest =>
    rw [hs]
    exact rest.grows
  | stop _ hs =>
    rw [hs]
    exact .refl _

/-- **A trail keeps the bounds together.** -/
theorem tracks (h : Trail room c strokes a) (hc : c.Tracks) : a.canvas.Tracks :=
  h.canvas_induction (fun hquiet hd => hd.quiet hquiet) (fun _ _ hslot hd => hd.write hslot) hc

theorem isCompleted (h : Trail room c strokes ⟨d, none⟩) : ∀ s ∈ strokes, s.IsCompleted room := by
  generalize hb : (⟨d, none⟩ : Attempt) = b at h
  induction h with
  | quiet => exact List.forall_mem_nil _
  | write _ hs _ ih =>
    refine List.forall_mem_cons.mpr ⟨?_, ih hb⟩
    rw [Stroke.IsCompleted, hs]
  | stop => cases hb

/-- **Along a trail, the bounds of the cells stay what they are, or they are not zero**: it depends on
whether a stroke was completed. -/
theorem written_cases (h : Trail room c strokes a) (hc : c.cursor.Nonneg) :
    ((∀ s ∈ strokes, ¬ s.IsCompleted room) ∧ a.canvas.written = c.written) ∨
      ((∃ s ∈ strokes, s.IsCompleted room) ∧
        0 < a.canvas.written.columns ∧ 0 < a.canvas.written.rows) := by
  cases h with
  | quiet h => exact .inl ⟨List.forall_mem_nil _, h.written_eq⟩
  | @write _ d s strokes _ h hs rest =>
    -- the first stroke is completed, and what comes behind it makes nothing less
    obtain ⟨hslot, rfl⟩ := Stroke.attempt_eq_none hs
    obtain ⟨hcolumns, hrows⟩ := Canvas.written_write_pos s.char (h.nonneg hc)
    obtain ⟨hcolumns', hrows'⟩ := Bounds.le_iff.mp rest.grows.written_le
    refine .inr ⟨⟨s, List.mem_cons_self, ?_⟩, hcolumns.trans_le hcolumns', hrows.trans_le hrows'⟩
    rw [Stroke.IsCompleted, hs]
  | stop h hs =>
    refine .inl ⟨?_, (h.trans (Stroke.quiet_attempt_of_shortage hs)).written_eq⟩
    rw [List.forall_mem_singleton, Stroke.IsCompleted, hs]
    exact nofun

theorem written_eq_zero_iff (h : Trail room c strokes a) (hc : c.cursor.Nonneg)
    (hwritten : c.written = {}) :
    (a.canvas.written.columns = 0 ↔ ∀ s ∈ strokes, ¬ s.IsCompleted room) ∧
      (a.canvas.written.rows = 0 ↔ ∀ s ∈ strokes, ¬ s.IsCompleted room) := by
  rcases h.written_cases hc with ⟨hnone, hkept⟩ | ⟨⟨s, hs, hcompleted⟩, hcolumns, hrows⟩
  · rw [hkept, hwritten]
    exact ⟨iff_of_true rfl hnone, iff_of_true rfl hnone⟩
  · have hsome : ¬ ∀ s ∈ strokes, ¬ s.IsCompleted room := fun hnone => hnone s hs hcompleted
    exact ⟨iff_of_false (Nat.ne_of_gt hcolumns) hsome, iff_of_false (Nat.ne_of_gt hrows) hsome⟩

/-- In front of a stroke, the bounds of the cells are zero exactly if it is the first one. -/
theorem written_before_eq_zero_iff (h : Trail room c (earlier ++ s :: later) a)
    (hc : c.cursor.Nonneg) (hwritten : c.written = {}) :
    (s.before.written.columns = 0 ↔ earlier = []) ∧ (s.before.written.rows = 0 ↔ earlier = []) := by
  obtain ⟨d, hd, hquiet, -⟩ := h.split
  have hnone : (∀ e ∈ earlier, ¬ e.IsCompleted room) ↔ earlier = [] := by
    constructor
    · intro hall
      exact List.eq_nil_iff_forall_not_mem.mpr fun e he => hall e he (hd.isCompleted e he)
    · rintro rfl
      exact List.forall_mem_nil _
  rw [hquiet.written_eq, ← hnone]
  exact hd.written_eq_zero_iff hc hwritten

end Trail

/-! ### Tokens -/

namespace Token

/-- The tokens that write nothing: they move the cursor, erase, insert lines, select a rendition, or
are ignored. -/
def WritesNothing : Token → Prop
  | lineFeed | carriageReturn | sequence .. => True
  | character .. | tab | stray .. => False

theorem quiet_attempt (room : Room) (c : Canvas) {token : Token} (h : token.WritesNothing) :
    c.Quiet (token.attempt room c).canvas := by
  have hmotion {command : Command} (hquiet : command.IsQuiet) :
      c.Quiet (command.attempt room c).canvas := AnsiArt.quiet_attempt room c hquiet
  cases token with
  | lineFeed => exact hmotion (show Command.lineFeed.IsQuiet from trivial)
  | carriageReturn => exact hmotion (show Command.carriageReturn.IsQuiet from trivial)
  | sequence body final => exact quiet_handling room c _ final
  | character | tab | stray => exact h.elim

end Token

/-! ### Terminals -/

namespace Terminal

/-- How the bounds of a terminal go together that is fed from `start` on. -/
structure TracksBounds (room : Room) (width : Int) (start : Terminal) : Prop where
  /-- The width is the requested one, and the bounds are near each other. -/
  tracks {t : Terminal} (h : Reachable room start t) :
    (t.canvas.width : Int) = width ∧ t.canvas.Tracks
  /-- Whatever the terminal goes on to, no bound gets less. -/
  grows {t u : Terminal} (h : Reachable room start t) (hu : Reachable room t u) :
    t.canvas.Grows u.canvas
  /-- All that holds in the middle of a byte too, in front of each write and behind it. -/
  stroke {t : Terminal} (h : Reachable room start t) {bytes : List UInt8} {s : Stroke}
    (hs : s ∈ t.strokes room bytes) :
    s.before.Tracks ∧ (s.attempt room).canvas.Tracks ∧ t.canvas.Grows s.before ∧
      s.before.Grows (s.attempt room).canvas ∧
      (s.attempt room).canvas.Grows (t.feed room bytes).terminal.canvas
  /-- The bounds of the cells are zero exactly as long as no write was completed. -/
  zero_iff (bytes : List UInt8) :
    ((start.feed room bytes).terminal.canvas.written.columns = 0 ↔
        ∀ s ∈ start.strokes room bytes, ¬ s.IsCompleted room) ∧
      ((start.feed room bytes).terminal.canvas.written.rows = 0 ↔
        ∀ s ∈ start.strokes room bytes, ¬ s.IsCompleted room)
  before_zero_iff {bytes : List UInt8} {earlier later : List Stroke} {s : Stroke}
    (h : start.strokes room bytes = earlier ++ s :: later) :
    (s.before.written.columns = 0 ↔ earlier = []) ∧ (s.before.written.rows = 0 ↔ earlier = [])
  /-- Without a limit, every write is completed. -/
  completed {t : Terminal} (h : Reachable room start t) (hroom : room = .unlimited)
    {bytes : List UInt8} {s : Stroke} (hs : s ∈ t.strokes room bytes) : s.IsCompleted room
  /-- Moving the cursor, erasing, inserting lines and selecting a rendition change none of them. -/
  unchanged {t : Terminal} (h : Reachable room start t) (hmode : t.decoder.mode = .text)
    {token : Token} (htoken : token.WritesNothing) :
    (t.feed room token.bytes).terminal.canvas.reached = t.canvas.reached ∧
      (t.feed room token.bytes).terminal.canvas.written = t.canvas.written

variable {room : Room} {width height : Int} {start t : Terminal}

theorem Reachable.width_eq (hstart : ofSize room width height = .ok start)
    (h : Reachable room start t) : (t.canvas.width : Int) = width := by
  rw [h.canvas_extends.width_eq]
  exact (ofSize_eq_ok hstart).2.1

theorem Reachable.tracks (hs : start.canvas.Tracks) (h : Reachable room start t) :
    t.canvas.Tracks :=
  h.canvas_induction (fun hquiet hd => hd.quiet hquiet) (fun _ _ hslot hd => hd.write hslot) hs

theorem Reachable.grows (h : Reachable room start t) : start.canvas.Grows t.canvas :=
  h.canvas_induction (fun hquiet hd => hd.trans hquiet.grows)
    (fun _ _ hslot hd => hd.trans (Canvas.grows_write hslot)) (.refl start.canvas)

/-- In text mode, a token that writes nothing leaves the canvas quiet. -/
theorem quiet_feed_token (room : Room) (c : Canvas) {token : Token} (h : token.WritesNothing) :
    c.Quiet ((Terminal.mk {} c).feed room token.bytes).terminal.canvas := by
  have fresh : Progress.Follows { terminal := ⟨{}, c⟩ } ⟨c, none⟩ := ⟨rfl, rfl, fun _ => rfl⟩
  rw [feed, (fresh.token token).canvas_eq]
  exact Token.quiet_attempt room c h

/-- **The bounds of the cursor and those of the cells track each other**, whatever a terminal of a
requested size is fed. -/
theorem tracksBounds_of_ofSize (hstart : ofSize room width height = .ok start) :
    TracksBounds room width start := by
  obtain ⟨w, n, hw, -, -, rfl⟩ := ofSize_eq_ok_blank hstart
  have hblank := Canvas.tracks_blank hw n
  have hnonneg := Canvas.nonneg_blank hw n
  constructor
  case tracks =>
    intro t h
    exact ⟨h.width_eq hstart, h.tracks hblank⟩
  case grows => exact fun _ hu => hu.grows
  case stroke =>
    intro t h bytes s hs
    have htrail := trail_feed room t bytes
    obtain ⟨earlier, later, hsplit⟩ := List.append_of_mem hs
    rw [hsplit] at htrail
    obtain ⟨d, hd, hquiet, hbehind⟩ := htrail.split
    have hbefore : s.before.Tracks := (hd.tracks (h.tracks hblank)).quiet hquiet
    exact ⟨hbefore, (Trail.single room s).tracks hbefore, hd.grows.trans hquiet.grows,
      (Trail.single room s).grows, hbehind.grows_attempt⟩
  case zero_iff => exact fun bytes => (trail_feed room _ bytes).written_eq_zero_iff hnonneg rfl
  case before_zero_iff =>
    intro bytes earlier later s h
    have htrail := trail_feed room ⟨{}, .blank w n hw⟩ bytes
    rw [h] at htrail
    exact htrail.written_before_eq_zero_iff hnonneg rfl
  case completed =>
    intro t h hroom bytes s hs
    subst hroom
    have hslot := ((trail_feed .unlimited t bytes).extends_before hs).nonneg (h.nonneg hstart)
    rw [Stroke.IsCompleted, Stroke.attempt, Canvas.tryWrite_unlimited (hslot.offset _)]
  case unchanged =>
    intro t h hmode token htoken
    rw [h.eq_mk_of_text hstart hmode]
    have hquiet := quiet_feed_token room t.canvas htoken
    exact ⟨hquiet.reached_eq, hquiet.written_eq⟩

/-- Behind two letters on a screen of two columns, the cursor has reached the second row, but not the
second column that was written to. -/
theorem tracksBounds_of_ofSize_last_column :
    ∃ start t : Terminal, ofSize .unlimited 2 1 = .ok start ∧ Reachable .unlimited start t ∧
      TracksBounds .unlimited 2 start ∧ t.canvas.Tracks ∧
      t.canvas.reached = ⟨1, 1⟩ ∧ t.canvas.written = ⟨2, 1⟩ := by
  let start : Terminal := ⟨{}, .blank 2 1 (by decide)⟩
  let t := (start.feed .unlimited [0x41, 0x42]).terminal
  have hstart : ofSize .unlimited 2 1 = .ok start := rfl
  have ht : Reachable .unlimited start t := Reachable.start.feed _
  have htracks := tracksBounds_of_ofSize hstart
  exact ⟨start, t, hstart, ht, htracks, (htracks.tracks ht).2, by decide +kernel,
    by decide +kernel⟩

end Terminal

end AnsiArt
