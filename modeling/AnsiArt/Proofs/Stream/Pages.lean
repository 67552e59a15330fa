import AnsiArt.Proofs.Screen.Pages
import AnsiArt.Proofs.Stream.Atomicity

/-!
# Control sequences that erase in the page

A control sequence of letter `J` erases a part of the page: mode 0 the slots from the cursor's on,
mode 1 those up to the cursor's, any other mode all of them. The halves meet in the cursor's slot and
leave no slot out, so one after the other they erase the page, whichever comes first
(`Terminal.splitsPage_of_reachable`).

Which slots a mode erases is asked of the terminal and not read off the modes: these are the slots
that are empty behind the sequence whatever the slots of the screen hold before it
(`Terminal.ForcesEmpty`).
-/

namespace AnsiArt

open Decoder

/-- The part of the page that a mode of erasing stands for. -/
def Region.ofPageMode (mode : Int) : Region :=
  if mode = 0 then .fromCursor else if mode = 1 then .toCursor else .whole

theorem Region.ofPageMode_eq_whole {mode : Int} (h₀ : mode ≠ 0) (h₁ : mode ≠ 1) :
    Region.ofPageMode mode = .whole := by
  rw [Region.ofPageMode, if_neg h₀, if_neg h₁]

namespace ControlFunction

variable (room : Room) (c : Canvas) {ps : Parameters}

theorem canvas_handle_eraseInPage {mode : Int} (h : ps.param 0 0 = .ok mode) :
    (eraseInPage.handle room c ps).canvas = c.erasePage (Region.ofPageMode mode) := by
  simp only [handle, interpret, Interpretation.reading, h]
  rfl

/-- A mode that cannot be read erases nothing. -/
theorem canvas_handle_eraseInPage_of_error {e : ParameterError} (h : ps.param 0 0 = .error e) :
    (eraseInPage.handle room c ps).canvas = c := by
  simp only [handle, interpret, Interpretation.reading, h]
  rfl

end ControlFunction

namespace Terminal

/-- A body that selects a mode: what is read of it is the mode, 0 if it is empty or malformed. -/
structure SelectsMode (body : List UInt8) (mode : Int) : Prop where
  isBody : IsBody body
  param_eq : (Parameters.ofBody body).param 0 0 = .ok mode

/-- The terminal behind a control sequence of letter `J`. -/
def erasePage (room : Room) (t : Terminal) (body : List UInt8) : Terminal :=
  (t.feed room (sequenceBytes body 0x4a)).terminal

/-- A slot of the screen that is empty behind a control sequence of letter `J`, whatever the slots
hold before it. -/
def ForcesEmpty (room : Room) (t : Terminal) (body : List UInt8) (i : Nat) : Prop :=
  i < t.canvas.size ∧ ∀ slots : Array (Option Cell), slots.size = t.canvas.size →
    (erasePage room { t with canvas := { t.canvas with slots } } body).canvas.slot? i = none

/-- How control sequences of letter `J` split the page of a terminal at its cursor. -/
structure SplitsPage (room : Room) (t : Terminal) : Prop where
  /-- Whatever is between the introducer and the letter, everything but the slots is left alone, and
  each slot is left alone or emptied. -/
  keeps {body : List UInt8} (h : IsBody body) :
    ∃ P, t.canvas.Empties (t.erasePage room body).canvas P
  /-- A mode that cannot be read changes nothing. -/
  unread {body : List UInt8} (h : IsBody body) {e : ParameterError}
    (hparam : (Parameters.ofBody body).param 0 0 = .error e) : t.erasePage room body = t
  /-- Otherwise the slots that are forced to be empty are emptied, and no others. -/
  empties {body : List UInt8} {mode : Int} (h : SelectsMode body mode) :
    t.canvas.Empties (t.erasePage room body).canvas (t.ForcesEmpty room body)
  /-- Mode 0 forces the slots from the cursor's on. -/
  forces_zero {body : List UInt8} (h : SelectsMode body 0) (i : Nat) :
    t.ForcesEmpty room body i ↔
      i < t.canvas.size ∧ t.canvas.cursor.offset t.canvas.width ≤ i
  /-- Mode 1 forces the slots up to the cursor's. -/
  forces_one {body : List UInt8} (h : SelectsMode body 1) (i : Nat) :
    t.ForcesEmpty room body i ↔
      i < t.canvas.size ∧ i ≤ t.canvas.cursor.offset t.canvas.width
  /-- Together these are all slots. -/
  covers {body body' : List UInt8} (h : SelectsMode body 0) (h' : SelectsMode body' 1) (i : Nat)
    (hi : i < t.canvas.size) : t.ForcesEmpty room body i ∨ t.ForcesEmpty room body' i
  /-- They share the cursor's slot, if there is one, and no other. -/
  shares {body body' : List UInt8} (h : SelectsMode body 0) (h' : SelectsMode body' 1) (i : Nat) :
    t.ForcesEmpty room body i ∧ t.ForcesEmpty room body' i ↔
      i < t.canvas.size ∧ (i : Int) = t.canvas.cursor.offset t.canvas.width
  /-- One after the other, modes 0 and 1 are mode 2. -/
  zero_one {body body' whole : List UInt8} (h : SelectsMode body 0) (h' : SelectsMode body' 1)
    (hwhole : SelectsMode whole 2) :
    (t.erasePage room body).erasePage room body' = t.erasePage room whole
  one_zero {body body' whole : List UInt8} (h : SelectsMode body 0) (h' : SelectsMode body' 1)
    (hwhole : SelectsMode whole 2) :
    (t.erasePage room body').erasePage room body = t.erasePage room whole
  /-- A mode does nothing the second time, however it is spelled. -/
  idempotent {body body' : List UInt8} {mode : Int} (h : SelectsMode body mode)
    (h' : SelectsMode body' mode) :
    (t.erasePage room body).erasePage room body' = t.erasePage room body
  /-- Any other mode is mode 2. -/
  other {body whole : List UInt8} {mode : Int} (h : SelectsMode body mode) (h₀ : mode ≠ 0)
    (h₁ : mode ≠ 1) (hwhole : SelectsMode whole 2) :
    t.erasePage room body = t.erasePage room whole

/-! ### A terminal in text mode -/

section

variable (room : Room) (c : Canvas) {body body' : List UInt8} {mode mode' : Int}

/-- The canvas of a control sequence of letter `J` is that of its control function. -/
theorem erasePage_eq_handle (hbody : IsBody body) :
    erasePage room ⟨{}, c⟩ body =
      ⟨{}, (ControlFunction.eraseInPage.handle room c (.ofBody body)).canvas⟩ := by
  have hletter : isFinal 0x4a = true := rfl
  have hfinal : ControlFunction.ofFinal? 0x4a = some .eraseInPage := rfl
  rw [erasePage, (feed_sequence room c hbody hletter).1, handling, hfinal]
  rfl

/-- **A control sequence of letter `J` erases the part of the page that its mode stands for.** -/
theorem erasePage_eq (h : SelectsMode body mode) :
    erasePage room ⟨{}, c⟩ body = ⟨{}, c.erasePage (.ofPageMode mode)⟩ := by
  rw [erasePage_eq_handle room c h.isBody,
    ControlFunction.canvas_handle_eraseInPage room c h.param_eq]

theorem erasePage_of_error (hbody : IsBody body) {e : ParameterError}
    (h : (Parameters.ofBody body).param 0 0 = .error e) :
    erasePage room ⟨{}, c⟩ body = ⟨{}, c⟩ := by
  rw [erasePage_eq_handle room c hbody,
    ControlFunction.canvas_handle_eraseInPage_of_error room c h]

/-- **The slots that a mode forces to be empty are those of its part of the page.** -/
theorem forcesEmpty_iff (h : SelectsMode body mode) (i : Nat) :
    ForcesEmpty room ⟨{}, c⟩ body i ↔
      i < c.size ∧ (Region.ofPageMode mode).OnPage (c.cursor.offset c.width) i := by
  constructor
  · rintro ⟨hi, hforced⟩
    refine ⟨hi, ?_⟩
    by_contra hoff
    -- on a screen full of cells, a slot that does not belong to the part keeps its cell
    have hfull := hforced (Array.replicate c.size (some {})) Array.size_replicate
    rw [erasePage_eq room _ h, Canvas.slot?_erasePage, if_neg hoff, Canvas.slot?,
      Array.getElem?_replicate, if_pos hi] at hfull
    cases hfull
  · rintro ⟨hi, hon⟩
    refine ⟨hi, fun slots _ => ?_⟩
    rw [erasePage_eq room _ h, Canvas.slot?_erasePage, if_pos hon]

/-- Two modes in a row are a third if their parts of the page make up its part. -/
theorem erasePage_erasePage (h : SelectsMode body mode) (h' : SelectsMode body' mode')
    {both : Region}
    (hboth : ∀ o i, (Region.ofPageMode mode).OnPage o i ∨ (Region.ofPageMode mode').OnPage o i ↔
      both.OnPage o i) :
    erasePage room (erasePage room ⟨{}, c⟩ body) body' = ⟨{}, c.erasePage both⟩ := by
  rw [erasePage_eq room c h, erasePage_eq room _ h', Canvas.erasePage_erasePage hboth]

/-- **In text mode, control sequences of letter `J` split the page at the cursor**, whatever the
canvas is. -/
theorem splitsPage_text : SplitsPage room ⟨{}, c⟩ where
  keeps {body} hbody := by
    cases hparam : (Parameters.ofBody body).param 0 0 with
    | error e =>
      rw [erasePage_of_error room c hbody hparam]
      exact ⟨_, .refl c⟩
    | ok mode =>
      rw [erasePage_eq room c ⟨hbody, hparam⟩]
      exact ⟨_, Canvas.empties_erasePage c _⟩
  unread hbody _ hparam := erasePage_of_error room c hbody hparam
  empties {body mode} h := by
    have hpart := Canvas.empties_erasePage c (Region.ofPageMode mode)
    rw [erasePage_eq room c h]
    refine { hpart with emptied := fun i hi => ?_, kept := fun i hi => ?_ }
    · exact hpart.emptied i ((forcesEmpty_iff room c h i).mp hi).2
    · -- a slot that is not forced does not belong to the part, or it does not exist
      rw [forcesEmpty_iff room c h i, not_and_or] at hi
      rcases hi with hi | hi
      · have hle : c.size ≤ i := Nat.not_lt.mp hi
        have hle' : (c.erasePage (.ofPageMode mode)).size ≤ i := hpart.size_eq ▸ hle
        rw [Canvas.slot?_eq_none_of_le hle, Canvas.slot?_eq_none_of_le hle']
      · exact hpart.kept i hi
  forces_zero h i := forcesEmpty_iff room c h i
  forces_one h i := forcesEmpty_iff room c h i
  covers h h' i hi := by
    rw [forcesEmpty_iff room c h, forcesEmpty_iff room c h']
    have htotal := Int.le_total (c.cursor.offset c.width) i
    exact htotal.imp (fun hfrom => ⟨hi, hfrom⟩) fun hto => ⟨hi, hto⟩
  shares h h' i := by
    rw [forcesEmpty_iff room c h, forcesEmpty_iff room c h']
    constructor
    · rintro ⟨⟨hi, hfrom⟩, -, hto⟩
      exact ⟨hi, Int.le_antisymm hto hfrom⟩
    · rintro ⟨hi, heq⟩
      exact ⟨⟨hi, Int.le_of_eq heq.symm⟩, hi, Int.le_of_eq heq⟩
  zero_one h h' hwhole := by
    rw [erasePage_eq room c hwhole]
    exact erasePage_erasePage room c h h' fun o i => iff_true_intro (Int.le_total o i)
  one_zero h h' hwhole := by
    rw [erasePage_eq room c hwhole]
    exact erasePage_erasePage room c h' h fun o i => iff_true_intro (Int.le_total i o)
  idempotent h h' := by
    rw [erasePage_eq room c h]
    exact (congrArg (erasePage room · _) (erasePage_eq room c h).symm).trans
      (erasePage_erasePage room c h h' fun o i => or_self_iff)
  other h h₀ h₁ hwhole := by
    have hmode : Region.ofPageMode 2 = .whole := Region.ofPageMode_eq_whole (by decide) (by decide)
    rw [erasePage_eq room c h, erasePage_eq room c hwhole, hmode,
      Region.ofPageMode_eq_whole h₀ h₁]

end

/-! ### Reachable terminals -/

variable {room : Room} {width height : Int} {start t : Terminal}

/-- **Erasing in the page splits it at the cursor.** On every screen that can be reached, wherever the
cursor is, modes 0 and 1 of a control sequence of letter `J` erase together what mode 2 erases, and
have the cursor's slot in common. -/
theorem splitsPage_of_reachable (hstart : ofSize room width height = .ok start)
    (ht : Reachable room start t) (hmode : t.decoder.mode = .text) : SplitsPage room t := by
  rw [ht.eq_mk_of_text hstart hmode]
  exact splitsPage_text room t.canvas

/-- Behind three letters the cursor is moved back onto the second one, and that is the letter that
both halves erase. -/
theorem splitsPage_second_letter :
    ∃ start t : Terminal, ofSize .unlimited 4 1 = .ok start ∧ Reachable .unlimited start t ∧
      t.decoder.mode = .text ∧ SelectsMode [] 0 ∧ SelectsMode [0x31] 1 ∧
      t.canvas.slot? 1 = some ⟨'B', {}⟩ ∧ SplitsPage .unlimited t ∧
      ∀ i, t.ForcesEmpty .unlimited [] i ∧ t.ForcesEmpty .unlimited [0x31] i ↔ i = 1 := by
  let start : Terminal := ⟨{}, .blank 4 1 (by decide)⟩
  let t := (start.feed .unlimited
    [0x41, 0x42, 0x43, 0x1b, 0x5b, 0x31, 0x3b, 0x32, 0x48]).terminal
  have hstart : ofSize .unlimited 4 1 = .ok start := rfl
  have ht : Reachable .unlimited start t := Reachable.start.feed _
  have hmode : t.decoder.mode = .text := by decide
  have hzero : SelectsMode [] 0 := ⟨by simp [IsBody], by decide⟩
  have hone : SelectsMode [0x31] 1 := ⟨by simp [IsBody, isFinal], by decide⟩
  have hsize : t.canvas.size = 4 := by decide +kernel
  have hcursor : t.canvas.cursor.offset t.canvas.width = 1 := by decide +kernel
  have hsplits := splitsPage_of_reachable hstart ht hmode
  refine ⟨start, t, hstart, ht, hmode, hzero, hone, by decide +kernel, hsplits, fun i => ?_⟩
  rw [hsplits.shares hzero hone i, hsize, hcursor]
  omega

end Terminal

end AnsiArt
