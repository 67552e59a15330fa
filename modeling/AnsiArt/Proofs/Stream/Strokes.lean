import AnsiArt.Proofs.Control.Quiet
import AnsiArt.Proofs.Stream.Reachable

/-!
# The writes of a byte stream

A **stroke** is one write that was begun: the canvas in front of it and the character. The strokes
of a stream are all writes of its characters, tabs and stray escapes, in order, up to the one that
found no room.

Between two strokes the canvas changes only quietly (`Trail`). So the recorded bounds in front of a
stroke are made by the strokes before it, whatever else was asked for in between.

Main statements:

* `Terminal.trail_feed` — the strokes of a stream lead to the canvas that feeding leaves;
* `Trail.split` — in front of each stroke, all earlier ones were completed;
* `Trail.canvas_induction` — what quiet changes and writes keep, a trail keeps;
* `Trail.written_eq` — the recorded bounds come from the strokes' cursors;
* `Terminal.Reachable.canvas_induction` — what quiet changes and writes keep, all terminals keep.
-/

namespace AnsiArt

/-- One write that was begun. -/
structure Stroke where
  before : Canvas
  char : Char

namespace Stroke

/-- What comes of a stroke. -/
def attempt (room : Room) (s : Stroke) : Attempt := s.before.tryWrite room s.char

/-- The number of the slot that a stroke fills. -/
def slot (s : Stroke) : Int := s.before.cursor.offset s.before.width

/-- Bounds widened by the position of a stroke's cursor. -/
def record (b : Bounds) (s : Stroke) : Bounds :=
  b.cover (s.before.cursor.x + 1).toNat (s.before.cursor.y + 1).toNat

/-- What a stroke leaves extends what was there before. -/
theorem extends_attempt (room : Room) (s : Stroke) : s.before.Extends (s.attempt room).canvas :=
  Canvas.extends_tryWrite room s.before s.char

/-- A completed stroke is a write from a position that has a slot. -/
theorem attempt_eq_none {room : Room} {s : Stroke} {d : Canvas} (h : s.attempt room = ⟨d, none⟩) :
    0 ≤ s.slot ∧ s.before.write s.char = d := by
  rcases Canvas.tryWrite_cases room s.before s.char with ⟨cause, hstop⟩ | ⟨hslot, hwrite⟩
  · cases hstop.symm.trans h
  · exact ⟨hslot, congrArg Attempt.canvas (hwrite.symm.trans h)⟩

/-- A stroke that found no room has changed nothing but the character of the pen. -/
theorem quiet_attempt_of_shortage {room : Room} {s : Stroke} {d : Canvas} {cause : Shortage}
    (h : s.attempt room = ⟨d, some cause⟩) : s.before.Quiet d := by
  rcases Canvas.tryWrite_cases room s.before s.char with ⟨cause', hstop⟩ | ⟨-, hwrite⟩
  · cases hstop.symm.trans h
    exact Canvas.quiet_setChar s.before s.char
  · cases hwrite.symm.trans h

/-- A completed stroke adds its cursor's position to the recorded bounds. -/
theorem written_attempt {room : Room} {s : Stroke} {d : Canvas} (h : s.attempt room = ⟨d, none⟩) :
    d.written = record s.before.written s := by
  obtain ⟨hslot, rfl⟩ := attempt_eq_none h
  rw [Canvas.write_eq hslot]
  rfl

theorem width_attempt {room : Room} {s : Stroke} {a : Attempt} (h : s.attempt room = a) :
    a.canvas.width = s.before.width :=
  h ▸ (extends_attempt room s).width_eq

end Stroke

/-! ### The strokes of commands and of bytes -/

/-- The strokes of a row of blanks. -/
def Canvas.blankStrokes (room : Room) (c : Canvas) : Nat → List Stroke
  | 0 => []
  | n + 1 =>
    ⟨c, ' '⟩ ::
      match c.tryWrite room ' ' with
      | ⟨c, none⟩ => c.blankStrokes room n
      | ⟨_, some _⟩ => []

/-- The strokes of a command. -/
def Command.strokes (room : Room) (c : Canvas) : Command → List Stroke
  | write ch => [⟨c, ch⟩]
  | tab => c.blankStrokes room (Canvas.tabBlanks c.cursor.x)
  | _ => []

/-- The strokes of commands that are attempted one after another. -/
def Canvas.strokesAll (room : Room) (c : Canvas) : List Command → List Stroke
  | [] => []
  | command :: rest =>
    command.strokes room c ++
      match command.attempt room c with
      | ⟨c, none⟩ => c.strokesAll room rest
      | ⟨_, some _⟩ => []

/-- The strokes of a row of bytes that a terminal is fed. -/
def Terminal.strokes (room : Room) (t : Terminal) : List UInt8 → List Stroke
  | [] => []
  | b :: rest =>
    t.canvas.strokesAll room (t.decoder.commands b) ++
      match t.step room b with
      | ⟨t, _, none⟩ => t.strokes room rest
      | ⟨_, _, some _⟩ => []

/-! ### Trails -/

/-- A way from a canvas along strokes to where they lead. Only the last one may find no room, and
between them the canvas changes quietly. -/
inductive Trail (room : Room) : Canvas → List Stroke → Attempt → Prop
  | quiet {c : Canvas} {a : Attempt} (h : c.Quiet a.canvas) : Trail room c [] a
  | write {c d : Canvas} {s : Stroke} {strokes : List Stroke} {a : Attempt}
      (h : c.Quiet s.before) (hs : s.attempt room = ⟨d, none⟩) (rest : Trail room d strokes a) :
      Trail room c (s :: strokes) a
  | stop {c d : Canvas} {s : Stroke} {cause : Shortage}
      (h : c.Quiet s.before) (hs : s.attempt room = ⟨d, some cause⟩) :
      Trail room c [s] ⟨d, some cause⟩

namespace Trail

variable {room : Room} {c d : Canvas} {s : Stroke} {strokes more earlier later : List Stroke}
  {a : Attempt}

/-- A quiet change in front belongs to the trail. -/
theorem of_quiet (h : c.Quiet d) (ht : Trail room d strokes a) : Trail room c strokes a := by
  cases ht with
  | quiet h' => exact .quiet (h.trans h')
  | write h' hs rest => exact .write (h.trans h') hs rest
  | stop h' hs => exact .stop (h.trans h') hs

/-- Two trails make one, unless the first was stopped. -/
theorem append (h₁ : Trail room c strokes ⟨d, none⟩) (h₂ : Trail room d more a) :
    Trail room c (strokes ++ more) a := by
  generalize hb : (⟨d, none⟩ : Attempt) = b at h₁
  -- induction on the first trail, whose end is kept apart so that it can be compared
  induction h₁ with
  | quiet h =>
    subst hb
    exact h₂.of_quiet h
  | write h hs _ ih => exact .write h hs (ih hb)
  | stop => cases hb

/-- A single stroke is a trail, whatever comes of it. -/
theorem single (room : Room) (s : Stroke) : Trail room s.before [s] (s.attempt room) := by
  cases hs : s.attempt room with
  | mk d shortage =>
    cases shortage with
    | none => exact .write (.refl _) hs (.quiet (.refl d))
    | some cause => exact .stop (.refl _) hs

/-- **In front of each stroke, all earlier ones were completed**, and from there the trail goes
on. -/
theorem split (h : Trail room c (earlier ++ s :: later) a) :
    ∃ d, Trail room c earlier ⟨d, none⟩ ∧ d.Quiet s.before ∧
      Trail room s.before (s :: later) a := by
  -- a stroke that was not completed ends the trail, so none has another behind it
  induction earlier generalizing c with
  | nil =>
    cases h with
    | write h hs rest => exact ⟨c, .quiet (.refl c), h, .write (.refl _) hs rest⟩
    | stop h hs => exact ⟨c, .quiet (.refl c), h, .stop (.refl _) hs⟩
  | cons e earlier ih =>
    generalize hl : e :: earlier ++ s :: later = strokes at h
    cases h with
    | quiet => cases hl
    | write h hs rest =>
      obtain ⟨rfl, rfl⟩ := List.cons.inj hl
      obtain ⟨d, hd, hquiet, hbehind⟩ := ih rest
      exact ⟨d, .write h hs hd, hquiet, hbehind⟩
    | stop => simp at hl

/-- **What quiet changes and writes keep, a trail keeps**, however it ends. -/
theorem canvas_induction {P : Canvas → Prop}
    (hquiet : ∀ {d e : Canvas}, d.Quiet e → P d → P e)
    (hwrite : ∀ (d : Canvas) (ch : Char), 0 ≤ d.cursor.offset d.width → P d → P (d.write ch))
    (h : Trail room c strokes a) (hc : P c) : P a.canvas := by
  induction h with
  | quiet h => exact hquiet h hc
  | write h hs _ ih =>
    obtain ⟨hslot, rfl⟩ := Stroke.attempt_eq_none hs
    exact ih (hwrite _ _ hslot (hquiet h hc))
  | stop h hs => exact hquiet (h.trans (Stroke.quiet_attempt_of_shortage hs)) hc

theorem canvas_extends (h : Trail room c strokes a) : c.Extends a.canvas :=
  h.canvas_induction (fun hquiet hd => hd.trans hquiet.toExtends)
    (fun d ch _ hd => hd.trans (Canvas.extends_write d ch)) (.refl c)

/-- The canvas in front of a stroke extends the first one. -/
theorem extends_before (h : Trail room c strokes a) (hs : s ∈ strokes) : c.Extends s.before := by
  obtain ⟨earlier, later, rfl⟩ := List.append_of_mem hs
  obtain ⟨d, hd, hquiet, -⟩ := h.split
  exact hd.canvas_extends.trans hquiet.toExtends

/-- **The recorded bounds come from the cursors of the strokes.** -/
theorem written_eq (h : Trail room c strokes ⟨d, none⟩) :
    d.written = strokes.foldl Stroke.record c.written := by
  generalize hb : (⟨d, none⟩ : Attempt) = b at h
  induction h with
  | quiet h =>
    subst hb
    exact h.written_eq
  | write h hs _ ih =>
    rw [List.foldl_cons, ← h.written_eq, ← Stroke.written_attempt hs]
    exact ih hb
  | stop => cases hb

/-- A completed stroke leaves what all strokes up to it have recorded. -/
theorem written_after {after : Canvas} (h : Trail room c (earlier ++ s :: later) a)
    (hs : s.attempt room = ⟨after, none⟩) :
    after.written = (earlier ++ [s]).foldl Stroke.record c.written := by
  obtain ⟨d, hd, hquiet, -⟩ := h.split
  rw [Stroke.written_attempt hs, hquiet.written_eq, hd.written_eq, List.foldl_append]
  rfl

end Trail

/-! ### The strokes of a stream are a trail -/

section

variable (room : Room)

theorem trail_blanks (c : Canvas) (n : Nat) :
    Trail room c (c.blankStrokes room n) (c.tryBlanks room n) := by
  induction n generalizing c with
  | zero => exact .quiet (.refl c)
  | succ n ih =>
    have hfirst := Trail.single room ⟨c, ' '⟩
    simp only [Stroke.attempt] at hfirst
    unfold Canvas.blankStrokes Canvas.tryBlanks
    cases hs : c.tryWrite room ' ' with
    | mk d shortage =>
      rw [hs] at hfirst
      cases shortage with
      | none => exact hfirst.append (ih d)
      | some cause => exact hfirst

theorem trail_attempt (c : Canvas) (command : Command) :
    Trail room c (command.strokes room c) (command.attempt room c) := by
  cases command with
  | write ch => exact Trail.single room ⟨c, ch⟩
  | tab => exact trail_blanks room c _
  | _ => exact .quiet (quiet_attempt room c (by trivial))

theorem trail_attemptAll (c : Canvas) (commands : List Command) :
    Trail room c (c.strokesAll room commands) (c.attemptAll room commands) := by
  induction commands generalizing c with
  | nil => exact .quiet (.refl c)
  | cons command rest ih =>
    have hfirst := trail_attempt room c command
    unfold Canvas.strokesAll Canvas.attemptAll
    cases hs : command.attempt room c with
    | mk d shortage =>
      rw [hs] at hfirst
      cases shortage with
      | none => exact hfirst.append (ih d)
      | some cause => simpa using hfirst

theorem strokesAll_of_quiet (c : Canvas) {commands : List Command}
    (h : ∀ command ∈ commands, command.IsQuiet) : c.strokesAll room commands = [] := by
  induction commands generalizing c with
  | nil => rfl
  | cons command rest ih =>
    have hfirst : command.strokes room c = [] := by
      have := h command List.mem_cons_self
      cases command with
      | write ch | tab => exact this.elim
      | _ => rfl
    unfold Canvas.strokesAll
    rw [hfirst, List.nil_append]
    split
    · exact ih _ fun command' hc => h command' (List.mem_cons_of_mem _ hc)
    · rfl

namespace Terminal

/-- The strokes of one byte lead to what the step leaves. A control sequence that finds no room has
none, and is given up without a stop. -/
theorem trail_step (t : Terminal) (b : UInt8) :
    Trail room t.canvas (t.canvas.strokesAll room (t.decoder.commands b))
      ⟨(t.step room b).terminal.canvas, (t.step room b).shortage⟩ := by
  have hall := trail_attemptAll room t.canvas (t.decoder.commands b)
  simp only [step]
  split
  · next heq => rwa [heq] at hall
  · next heq =>
    rw [heq] at hall
    split
    · next hmode =>
      -- inside a sequence nothing is written, so the lack of room stops no stroke
      have hquiet := isQuiet_commands hmode b
      rw [strokesAll_of_quiet room _ hquiet]
      have := quiet_attemptAll room t.canvas hquiet
      rw [heq] at this
      exact .quiet this
    · exact hall

theorem trail_foldl_advance (t : Terminal) (log : List Notice) (bytes : List UInt8) :
    Trail room t.canvas (t.strokes room bytes)
      ⟨(bytes.foldl (advance room) ⟨t, log, none⟩).terminal.canvas,
        (bytes.foldl (advance room) ⟨t, log, none⟩).shortage⟩ := by
  induction bytes generalizing t log with
  | nil => exact .quiet (.refl _)
  | cons b rest ih =>
    have hfirst := trail_step room t b
    rw [List.foldl_cons]
    simp only [strokes, advance]
    cases hs : t.step room b with
    | mk t' more shortage =>
      rw [hs] at hfirst
      cases shortage with
      | none => exact hfirst.append (ih t' _)
      | some cause =>
        rw [foldl_advance_stopped]
        simpa using hfirst

/-- **The strokes of a stream lead to the canvas that feeding leaves.** -/
theorem trail_feed (t : Terminal) (bytes : List UInt8) :
    Trail room t.canvas (t.strokes room bytes)
      ⟨(t.feed room bytes).terminal.canvas, (t.feed room bytes).shortage⟩ :=
  trail_foldl_advance room t [] bytes

end Terminal

end

/-! ### Reachable terminals -/

namespace Terminal

variable {room : Room} {start t : Terminal}

/-- **What quiet changes and writes keep holds of every reachable canvas**, if it holds of the first
one. -/
theorem Reachable.canvas_induction {P : Canvas → Prop}
    (hquiet : ∀ {d e : Canvas}, d.Quiet e → P d → P e)
    (hwrite : ∀ (d : Canvas) (ch : Char), 0 ≤ d.cursor.offset d.width → P d → P (d.write ch))
    (h : Reachable room start t) (hs : P start.canvas) : P t.canvas := by
  induction h with
  | start => exact hs
  | @step t b _ ih => exact (trail_step room t b).canvas_induction hquiet hwrite ih
  | finish _ ih => exact ih

theorem Reachable.canvas_extends (h : Reachable room start t) : start.canvas.Extends t.canvas :=
  h.canvas_induction (fun hquiet hd => hd.trans hquiet.toExtends)
    (fun d ch _ hd => hd.trans (Canvas.extends_write d ch)) (.refl start.canvas)

end Terminal

end AnsiArt
