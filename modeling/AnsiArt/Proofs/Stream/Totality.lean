import AnsiArt.Proofs.Control.Operations
import AnsiArt.Proofs.Control.Overlong
import AnsiArt.Proofs.Stream.Strokes

/-!
# Parsing never fails

Given room for the slots, no byte stream can stop a terminal. A write would need a slot before the
first one for that, and no motion leads to a negative column or row; a control sequence is given up
if it fails, and it fails only for a parameter that is too long to be read.

Main statements:

* `Terminal.Reachable.sound` — every reachable terminal has a sound canvas;
* `Terminal.exists_error_mem_step_iff` — which bytes report an error;
* `Terminal.parse_total` — parsing is total.
-/

namespace AnsiArt

/-- A canvas whose cursor is at no negative column or row, and that has at least `n` slots. -/
structure Canvas.Sound (n : Int) (c : Canvas) : Prop where
  x_nonneg : 0 ≤ c.cursor.x
  y_nonneg : 0 ≤ c.cursor.y
  le_size : n ≤ c.size

theorem Canvas.Sound.extend {n : Int} {c d : Canvas} (h : c.Sound n) (hd : c.Extends d) :
    d.Sound n := by
  obtain ⟨hx, hy⟩ := hd.nonneg ⟨h.x_nonneg, h.y_nonneg⟩
  exact ⟨hx, hy, Int.le_trans h.le_size (Int.ofNat_le.mpr hd.size_le)⟩

/-! ### Control sequences that report an error -/

theorem Decoder.isFinal_of_ofFinal? {b : UInt8} {f : ControlFunction}
    (h : ControlFunction.ofFinal? b = some f) : isFinal b = true := by
  have all : ∀ i : Fin 256, (ControlFunction.ofFinal? (UInt8.ofNat i.val)).isSome →
      isFinal (UInt8.ofNat i.val) = true := by
    decide +kernel
  have := all ⟨b.toNat, b.toNat_lt⟩
  rw [UInt8.ofNat_toNat, h] at this
  exact this rfl

/-- A control sequence reports an error exactly if its control function cannot read a parameter:
what was ignored is a remark, not an error. -/
theorem Decoder.exists_error_mem_sequenceNotices_iff {ps : Parameters} {b : UInt8} :
    (∃ n ∈ sequenceNotices ps b, n.level = .error) ↔
      ∃ f, ControlFunction.ofFinal? b = some f ∧ (f.interpret ps).failure.isSome := by
  unfold sequenceNotices
  cases ControlFunction.ofFinal? b with
  | none => simp [Notice.level]
  | some f =>
    simp only [Option.some.injEq, exists_eq_left', List.mem_append]
    constructor
    · rintro ⟨n, hn | hn, hlevel⟩
      · rw [ControlFunction.level_interpret hn] at hlevel
        cases hlevel
      · obtain ⟨e, he, -⟩ := Option.map_eq_some_iff.mp (Option.mem_toList.mp hn)
        exact Option.isSome_iff_exists.mpr ⟨e, he⟩
    · intro hsome
      obtain ⟨e, he⟩ := Option.isSome_iff_exists.mp hsome
      exact ⟨.failedSequence ps.text b (.parameter e), .inr (by simp [he]), rfl⟩

/-- Without a limit, a byte reports an error exactly if it is the final letter of a control function
that converts an overlong parameter. -/
theorem Terminal.exists_error_mem_step_iff {t : Terminal} (h : t.canvas.cursor.Nonneg) (b : UInt8) :
    (∃ n ∈ (t.step .unlimited b).log, n.level = .error) ↔
      t.decoder.mode = .sequence ∧ ∃ f, ControlFunction.ofFinal? b = some f ∧
        ∃ (i : Nat) (text : Array UInt8), f.Converts i ∧
          t.decoder.parameters.flush.closed[i]? = some text ∧
            Parameters.IsOverlong text.toList := by
  rw [step_unlimited h]
  simp only [Progress.log, List.reverse_reverse, ← ControlFunction.failure_isSome_iff]
  obtain ⟨⟨mode, ps⟩, c⟩ := t
  cases mode with
  | sequence =>
    simp only [Decoder.notices, true_and]
    by_cases hb : Decoder.isFinal b = true
    · rw [if_pos hb, Decoder.exists_error_mem_sequenceNotices_iff]
    · -- a byte of the body reports nothing, and no control function has it as its letter
      rw [if_neg hb]
      constructor
      · rintro ⟨n, hn, -⟩
        exact absurd hn List.not_mem_nil
      · rintro ⟨f, hf, -⟩
        exact absurd (Decoder.isFinal_of_ofFinal? hf) hb
  | text | escape | finished => simp [Decoder.notices]

/-! ### Reachable terminals -/

namespace Terminal

variable {room : Room} {start t : Terminal} {n : Int}

theorem extends_step (room : Room) (t : Terminal) (b : UInt8) :
    t.canvas.Extends (t.step room b).terminal.canvas :=
  (trail_step room t b).canvas_extends

/-- **Every reachable terminal has a sound canvas.** -/
theorem Reachable.sound (hs : start.canvas.Sound n) (h : Reachable room start t) :
    t.canvas.Sound n :=
  hs.extend h.canvas_extends

/-- The cursor of a reachable terminal is at no negative column or row. -/
theorem Reachable.nonneg {width height : Int} (hstart : ofSize room width height = .ok start)
    (h : Reachable room start t) : t.canvas.cursor.Nonneg := by
  obtain ⟨-, -, hcursor, -⟩ := ofSize_eq_ok hstart
  have hsound : start.canvas.Sound 0 :=
    ⟨hcursor ▸ Int.le_refl 0, hcursor ▸ Int.le_refl 0, Int.natCast_nonneg _⟩
  have ht := h.sound hsound
  exact ⟨ht.x_nonneg, ht.y_nonneg⟩

/-- A fresh terminal of a requested size is sound for its number of cells. -/
theorem exists_ofSize_unlimited {width height : Int} (hw : 0 < width) (hh : 0 ≤ height) :
    ∃ start, ofSize .unlimited width height = .ok start ∧ start.canvas.Sound (width * height) := by
  refine ⟨⟨{}, .blank width.toNat height.toNat (by omega)⟩, ?_, ⟨Int.le_refl 0, Int.le_refl 0, ?_⟩⟩
  · simp only [ofSize, Canvas.ofSize, dif_pos hw, if_neg (Int.not_lt.mpr hh),
      Room.shortage?_unlimited]
    rfl
  · simp only [Canvas.size, Canvas.blank, Array.size_replicate, Int.natCast_mul,
      Int.toNat_of_nonneg hh, Int.toNat_of_nonneg (Int.le_of_lt hw), Int.le_refl]

/-- In front of each stroke on a sound canvas, growing makes the slot that it needs. -/
theorem isSome_occupy_of_mem_strokes (hs : start.canvas.Sound n) {bytes : List UInt8} {s : Stroke}
    (h : s ∈ start.strokes room bytes) :
    (((s.before.setChar s.char).expand s.slot).occupy s.slot).2.isSome := by
  have hsound := hs.extend ((trail_feed room start bytes).extends_before h)
  have hslot : 0 ≤ s.slot :=
    Cursor.Nonneg.offset ⟨hsound.x_nonneg, hsound.y_nonneg⟩ s.before.width
  rw [Canvas.isSome_occupy_expand, decide_eq_true hslot]

/-- **Without a limit on the room, parsing is total.** A fresh terminal of any size can be made; no
byte string stops it or leaves a parameter in it; every write finds its slot. Whatever state the
terminal is brought into, and whatever else is done to its canvas, no position is negative and no
slot is lost; and a control sequence reports an error exactly if it converts an overlong
parameter. -/
theorem parse_total {width height : Int} (hw : 0 < width) (hh : 0 ≤ height) (bytes : List UInt8) :
    ∃ start, ofSize .unlimited width height = .ok start ∧
      (start.parse .unlimited bytes).shortage = none ∧
      (start.parse .unlimited bytes).terminal.decoder = { mode := .finished, parameters := {} } ∧
      (∀ s ∈ start.strokes .unlimited bytes,
        (((s.before.setChar s.char).expand s.slot).occupy s.slot).2.isSome) ∧
      (∀ t, Reachable .unlimited start t → t.canvas.Sound (width * height) ∧ ∀ b,
        t.canvas.size ≤ (t.step .unlimited b).terminal.canvas.size ∧
        ((∃ n ∈ (t.step .unlimited b).log, n.level = .error) ↔
          t.decoder.mode = .sequence ∧ ∃ f, ControlFunction.ofFinal? b = some f ∧
            ∃ (i : Nat) (text : Array UInt8), f.Converts i ∧
              t.decoder.parameters.flush.closed[i]? = some text ∧
                Parameters.IsOverlong text.toList)) ∧
      ∀ operations : List Operation,
        (start.canvas.performAll .unlimited operations).Sound (width * height) ∧
        ∀ operation : Operation, (start.canvas.performAll .unlimited operations).size ≤
          (operation.perform .unlimited (start.canvas.performAll .unlimited operations)).size := by
  obtain ⟨start, hstart, hsound⟩ := exists_ofSize_unlimited hw hh
  have hnonneg : start.canvas.cursor.Nonneg := ⟨hsound.x_nonneg, hsound.y_nonneg⟩
  refine ⟨start, hstart, ?_, ?_, fun s hs => isSome_occupy_of_mem_strokes hsound hs,
    fun t ht => ?_, fun operations => ⟨?_, fun operation => ?_⟩⟩
  · simp only [parse, feed_unlimited hnonneg]
  · simp only [parse, feed_unlimited hnonneg]
    rfl
  · have ht' := ht.sound hsound
    exact ⟨ht', fun b => ⟨(extends_step .unlimited t b).size_le,
      exists_error_mem_step_iff ⟨ht'.x_nonneg, ht'.y_nonneg⟩ b⟩⟩
  · exact hsound.extend (Canvas.extends_performAll ..)
  · exact (Canvas.extends_perform ..).size_le

/-- A screen without a row takes a motion far up and then a letter. -/
theorem parse_total_without_row :
    (0 : Int) < 80 ∧ (0 : Int) ≤ 0 ∧ ∃ start, ofSize .unlimited 80 0 = .ok start ∧
      (start.parse .unlimited [0x1b, 0x5b, 0x39, 0x39, 0x41, 0x58]).shortage = none := by
  refine ⟨by decide, by decide, ?_⟩
  obtain ⟨start, hstart, hshortage, -⟩ :=
    parse_total (show (0 : Int) < 80 by decide) (show (0 : Int) ≤ 0 by decide)
      [0x1b, 0x5b, 0x39, 0x39, 0x41, 0x58]
  exact ⟨start, hstart, hshortage⟩

end Terminal

end AnsiArt
