import AnsiArt.Terminal

/-!
# Reachable terminals

The states that a terminal can be brought into: by bytes, one after another, and by the end of
input. A byte that found no room counts as well, for the terminal can be fed again.

Between two control sequences nothing is left of the first: a decoder that is not inside a sequence
has collected no parameter (`Reachable.decoder_clean`).
-/

namespace AnsiArt

/-- The terminals that `start` can become. -/
inductive Terminal.Reachable (room : Room) (start : Terminal) : Terminal → Prop
  | start : Reachable room start start
  | step {t : Terminal} (b : UInt8) (h : Reachable room start t) :
      Reachable room start (t.step room b).terminal
  | finish {t : Terminal} (h : Reachable room start t) : Reachable room start t.finish

/-- A decoder that holds parameters only inside a sequence. -/
def Decoder.Clean (d : Decoder) : Prop := d.mode ≠ .sequence → d.parameters = {}

theorem Decoder.Clean.next {d : Decoder} (h : d.Clean) (b : UInt8) : (d.next b).Clean := by
  obtain ⟨mode, ps⟩ := d
  intro hm
  cases mode with
  | text =>
    have hps : ps = {} := h (by simp)
    simp only [Decoder.next]
    repeat' split
    all_goals exact hps
  | escape => exact h (by simp)
  | sequence =>
    -- only the final letter leaves the sequence, and it empties the parameters
    simp only [Decoder.next] at hm ⊢
    repeat' split
    all_goals simp_all
  | finished => exact h (by simp)

namespace Terminal

/-- A fresh terminal has nothing in its decoder and nothing on its canvas. -/
theorem ofSize_eq_ok {room : Room} {width height : Int} {t : Terminal}
    (h : ofSize room width height = .ok t) :
    t.decoder = {} ∧ (t.canvas.width : Int) = width ∧ t.canvas.cursor = {} ∧
      t.canvas.written = {} := by
  unfold ofSize Canvas.ofSize at h
  repeat' split at h
  all_goals cases h
  exact ⟨rfl, Int.toNat_of_nonneg (by omega), rfl, rfl⟩

/-- A fresh terminal is the blank one of the requested size. -/
theorem ofSize_eq_ok_blank {room : Room} {width height : Int} {t : Terminal}
    (h : ofSize room width height = .ok t) :
    ∃ (w n : Nat) (hw : 0 < w), (w : Int) = width ∧ (n : Int) = height ∧
      t = ⟨{}, .blank w n hw⟩ := by
  unfold ofSize Canvas.ofSize at h
  repeat' split at h
  all_goals cases h
  exact ⟨width.toNat, height.toNat, by omega, Int.toNat_of_nonneg (by omega),
    Int.toNat_of_nonneg (by omega), rfl⟩

/-- Without a limit, there is a fresh terminal of any size. -/
theorem ofSize_unlimited {width : Nat} (hw : 0 < width) (height : Nat) :
    ofSize .unlimited width height = .ok ⟨{}, .blank width height hw⟩ := by
  rw [ofSize, Canvas.ofSize, dif_pos (Int.natCast_pos.mpr hw),
    if_neg (Int.not_lt.mpr (Int.natCast_nonneg height))]
  rfl

/-- The decoder takes a byte, unless the terminal was stopped in front of it. -/
theorem decoder_step (room : Room) (t : Terminal) (b : UInt8) :
    (t.step room b).terminal.decoder = t.decoder.next b ∨
      (t.step room b).terminal.decoder = t.decoder := by
  simp only [step]
  split
  · exact .inl rfl
  · split
    · exact .inl rfl
    · exact .inr rfl

variable {room : Room} {start t : Terminal}

/-- **No parameter is left between two control sequences.** -/
theorem Reachable.decoder_clean (hs : start.decoder.Clean) (h : Reachable room start t) :
    t.decoder.Clean := by
  -- a byte that found no room has left the decoder as it was
  induction h with
  | start => exact hs
  | @step t b _ ih =>
    rcases decoder_step room t b with hd | hd
    · exact hd ▸ ih.next b
    · exact hd ▸ ih
  | finish _ _ => exact fun _ => rfl

/-- In text mode, the decoder is the fresh one again. -/
theorem Reachable.eq_mk (hs : start.decoder = {}) (h : Reachable room start t)
    (hmode : t.decoder.mode = .text) : t = ⟨{}, t.canvas⟩ := by
  have hclean : start.decoder.Clean := fun _ => by rw [hs]
  have hps : t.decoder.parameters = {} := h.decoder_clean hclean (by rw [hmode]; decide)
  obtain ⟨⟨mode, ps⟩, c⟩ := t
  obtain rfl : mode = .text := hmode
  obtain rfl : ps = {} := hps
  rfl

/-- Nothing has an effect on a terminal that was stopped. -/
theorem foldl_advance_stopped (t : Terminal) (log : List Notice) (s : Shortage)
    (bytes : List UInt8) :
    bytes.foldl (advance room) ⟨t, log, some s⟩ = ⟨t, log, some s⟩ := by
  induction bytes with
  | nil => rfl
  | cons b bytes ih => exact ih

/-- Feeding goes on from a reachable terminal to a reachable one. -/
theorem Reachable.foldl_advance {p : Progress} (h : Reachable room start p.terminal)
    (bytes : List UInt8) : Reachable room start (bytes.foldl (advance room) p).terminal := by
  induction bytes generalizing p with
  | nil => exact h
  | cons b bytes ih =>
    refine ih ?_
    obtain ⟨t, log, shortage⟩ := p
    cases shortage with
    | none => exact h.step b
    | some s => exact h

theorem Reachable.feed (h : Reachable room start t) (bytes : List UInt8) :
    Reachable room start (t.feed room bytes).terminal :=
  Reachable.foldl_advance (p := { terminal := t }) h bytes

end Terminal

end AnsiArt
