import AnsiArt.Control.Function

/-!
# Parameters that cannot be read

Any text is read as some number, if only as 0, with one exception: a row of digits, perhaps with one
sign in front, that is longer than 4300 digits. A control function fails exactly if one of the
parameters that it converts is such a text (`ControlFunction.failure_isSome_iff`).
-/

namespace AnsiArt

namespace Parameters

/-- A well-formed decimal of more than 4300 digits; a sign does not count, leading zeros do. -/
def IsOverlong (text : List UInt8) : Prop :=
  ∃ sign digits, text = sign ++ digits ∧ (sign = [] ∨ sign = [0x2b] ∨ sign = [0x2d]) ∧
    (∀ b ∈ digits, 0x30 ≤ b ∧ b ≤ 0x39) ∧ 4300 < digits.length

/-! ### Digits and signs -/

/-- A row of bytes has digits as values exactly if each byte is one. -/
theorem mapM_digit?_eq_some_iff {text : List UInt8} {ds : List Nat} :
    text.mapM digit? = some ds ↔
      (∀ b ∈ text, 0x30 ≤ b ∧ b ≤ 0x39) ∧ text.map (fun b => b.toNat - 0x30) = ds := by
  induction text generalizing ds with
  | nil => simp
  | cons b text ih =>
    -- the first byte that is no digit makes the whole row unreadable
    by_cases h : 0x30 ≤ b ∧ b ≤ 0x39
    · have hb : digit? b = some (b.toNat - 0x30) := if_pos h
      simp only [List.mapM_cons, hb, Option.bind_eq_bind, Option.bind_some,
        Option.bind_eq_some_iff, Option.pure_def, Option.some.injEq, ih, List.forall_mem_cons, h,
        true_and, List.map_cons]
      constructor
      · rintro ⟨_, ⟨hall, rfl⟩, rfl⟩
        exact ⟨hall, rfl⟩
      · rintro ⟨hall, rfl⟩
        exact ⟨_, ⟨hall, rfl⟩, rfl⟩
    · have hb : digit? b = none := if_neg h
      simp [hb, h]

theorem digits?_eq_some_iff {text : List UInt8} {ds : List Nat} :
    digits? text = some ds ↔
      text ≠ [] ∧ (∀ b ∈ text, 0x30 ≤ b ∧ b ≤ 0x39) ∧
        text.map (fun b => b.toNat - 0x30) = ds := by
  unfold digits?
  cases text with
  | nil => simp
  | cons b text =>
    rw [List.isEmpty_cons, if_neg (by decide), mapM_digit?_eq_some_iff]
    simp only [ne_eq, reduceCtorEq, not_false_eq_true, true_and]

/-- What is read as a sign and digits is a row of digits behind at most one sign. -/
theorem exists_signedDigits?_iff {text : List UInt8} {ds : List Nat} :
    (∃ negative, signedDigits? text = some (negative, ds)) ↔
      ∃ sign digits, text = sign ++ digits ∧ (sign = [] ∨ sign = [0x2b] ∨ sign = [0x2d]) ∧
        digits ≠ [] ∧ (∀ b ∈ digits, 0x30 ≤ b ∧ b ≤ 0x39) ∧
        digits.map (fun b => b.toNat - 0x30) = ds := by
  constructor
  · rintro ⟨negative, h⟩
    unfold signedDigits? at h
    split at h
    all_goals
      obtain ⟨ds', hread, heq⟩ := Option.map_eq_some_iff.mp h
      obtain ⟨hne, hdigits, hds⟩ := digits?_eq_some_iff.mp hread
      obtain ⟨-, rfl⟩ := Prod.mk.inj heq
    · exact ⟨[0x2d], _, rfl, .inr (.inr rfl), hne, hdigits, hds⟩
    · exact ⟨[0x2b], _, rfl, .inr (.inl rfl), hne, hdigits, hds⟩
    · exact ⟨[], _, rfl, .inl rfl, hne, hdigits, hds⟩
  · rintro ⟨sign, digits, rfl, hsign, hne, hdigits, hds⟩
    have hread : digits? digits = some ds := digits?_eq_some_iff.mpr ⟨hne, hdigits, hds⟩
    rcases hsign with rfl | rfl | rfl
    · -- no digit is a sign, so the first digit is not taken for one
      refine ⟨false, ?_⟩
      rw [List.nil_append]
      unfold signedDigits?
      split
      · exact absurd (hdigits 0x2d List.mem_cons_self) (by decide)
      · exact absurd (hdigits 0x2b List.mem_cons_self) (by decide)
      · rw [hread]
        rfl
    · exact ⟨false, by simp [signedDigits?, hread]⟩
    · exact ⟨true, by simp [signedDigits?, hread]⟩

/-- A text is overlong exactly if it is read as a sign and too many digits. -/
theorem isOverlong_iff {text : List UInt8} :
    IsOverlong text ↔ ∃ negative ds, signedDigits? text = some (negative, ds) ∧
      4300 < ds.length := by
  constructor
  · rintro ⟨sign, digits, htext, hsign, hdigits, hlong⟩
    have hne : digits ≠ [] := by
      rintro rfl
      exact absurd hlong (by decide)
    obtain ⟨negative, h⟩ :=
      exists_signedDigits?_iff.mpr ⟨sign, digits, htext, hsign, hne, hdigits, rfl⟩
    exact ⟨negative, _, h, by rwa [List.length_map]⟩
  · rintro ⟨negative, ds, h, hlong⟩
    obtain ⟨sign, digits, htext, hsign, -, hdigits, rfl⟩ := exists_signedDigits?_iff.mp ⟨_, h⟩
    exact ⟨sign, digits, htext, hsign, hdigits, by rwa [List.length_map] at hlong⟩

/-! ### Reading -/

/-- Reading a text fails exactly if it is overlong. -/
theorem integer?_isError_iff {text : List UInt8} :
    (∃ e, integer? text = .error e) ↔ IsOverlong text := by
  rw [isOverlong_iff]
  unfold integer?
  cases signedDigits? text with
  | none => simp
  | some p =>
    obtain ⟨negative, ds⟩ := p
    simp only [Numeral.ofDecimal]
    by_cases h : Numeral.maxDigits < ds.length
    · rw [if_pos h]
      exact ⟨fun _ => ⟨negative, ds, rfl, h⟩, fun _ => ⟨_, rfl⟩⟩
    · rw [if_neg h]
      refine ⟨fun ⟨e, he⟩ => (nomatch he), ?_⟩
      rintro ⟨_, _, heq, hlong⟩
      obtain ⟨-, rfl⟩ := Prod.mk.inj (Option.some.inj heq)
      exact absurd hlong h

/-- Reading one of the first parameters fails exactly if it is there and overlong. -/
theorem param_isError_iff (ps : Parameters) (i : Nat) (default : Int) :
    (∃ e, ps.param i default = .error e) ↔
      ∃ text, ps.closed[i]? = some text ∧ IsOverlong text.toList := by
  rw [param_natCast]
  cases htext : ps.closed[i]? with
  | none => simp
  | some text =>
    simp only [Option.some.injEq, exists_eq_left']
    -- an empty parameter is never read, and it is not overlong either
    by_cases hempty : text.isEmpty
    · have : ¬ IsOverlong text.toList := by
        rintro ⟨sign, digits, h, -, -, hlong⟩
        have := congrArg List.length h
        simp_all
      simpa [hempty] using this
    · rw [← integer?_isError_iff, if_neg hempty]
      simp only [intAt_natCast, htext]
      cases integer? text.toList with
      | ok v => simp [Except.map]
      | error e => simp [Except.map]

/-- Reading texts one after another fails exactly if one of them is overlong. -/
theorem mapM_integer?_isError_iff (texts : List (Array UInt8)) :
    (∃ e, texts.mapM (fun text => integer? text.toList) = .error e) ↔
      ∃ text ∈ texts, IsOverlong text.toList := by
  induction texts with
  | nil => simp [pure, Except.pure]
  | cons text texts ih =>
    rw [List.mapM_cons]
    simp only [List.mem_cons, exists_eq_or_imp]
    rw [← ih, ← integer?_isError_iff]
    cases integer? text.toList with
    | error e => simp [bind, Except.bind]
    | ok v =>
      cases texts.mapM fun text => integer? text.toList with
      | error e => simp [bind, Except.bind]
      | ok vs => simp [bind, Except.bind, pure, Except.pure]

/-- Reading all parameters fails exactly if one of them is overlong. -/
theorem ints_isError_iff (ps : Parameters) :
    (∃ e, ps.ints = .error e) ↔
      ∃ (i : Nat) (text : Array UInt8), ps.closed[i]? = some text ∧ IsOverlong text.toList := by
  -- leaving out the malformed texts comes after all of them were read
  have hmap : (∃ e, ps.ints = .error e) ↔
      ∃ e, ps.closed.toList.mapM (fun text => integer? text.toList) = .error e := by
    unfold ints
    cases ps.closed.toList.mapM fun text => integer? text.toList <;> simp [Except.map]
  rw [hmap, mapM_integer?_isError_iff]
  constructor
  · rintro ⟨text, hmem, hlong⟩
    obtain ⟨i, hi⟩ := List.mem_iff_getElem?.mp hmem
    exact ⟨i, text, by rwa [Array.getElem?_toList] at hi, hlong⟩
  · rintro ⟨i, text, hi, hlong⟩
    rw [← Array.getElem?_toList] at hi
    exact ⟨text, List.mem_iff_getElem?.mpr ⟨i, hi⟩, hlong⟩

end Parameters

/-! ### Control functions -/

namespace ControlFunction

open Interpretation

/-- Whether a control function converts its parameter number `i`, counted from 0: a position has two
parameters, a rendition any number, every other function one. -/
def Converts : ControlFunction → Nat → Prop
  | cursorPosition, i => i < 2
  | selectRendition, _ => True
  | _, i => i = 0

/-- If nothing that follows fails, a reading fails exactly if its value cannot be read. -/
theorem failure_reading_isSome_iff {α : Type} {value : Except ParameterError α}
    {next : α → Interpretation} (h : ∀ v, (next v).failure = none) :
    (reading value next).failure.isSome ↔ ∃ e, value = .error e := by
  cases value with
  | ok v => simp [reading, h v]
  | error e => simp [reading]

/-- **A control function fails exactly if it converts an overlong parameter.** -/
theorem failure_isSome_iff (f : ControlFunction) (ps : Parameters) :
    (f.interpret ps).failure.isSome ↔
      ∃ (i : Nat) (text : Array UInt8), f.Converts i ∧ ps.closed[i]? = some text ∧
        Parameters.IsOverlong text.toList := by
  have hfirst (default : Int) : (∃ e, ps.param 0 default = .error e) ↔
      ∃ text, ps.closed[0]? = some text ∧ Parameters.IsOverlong text.toList :=
    ps.param_isError_iff 0 default
  cases f with
  | cursorPosition =>
    have hsecond : (∃ e, ps.param 1 1 = .error e) ↔
        ∃ text, ps.closed[1]? = some text ∧ Parameters.IsOverlong text.toList :=
      ps.param_isError_iff 1 1
    -- the column is read only if the row could be, but either failure is one
    have hboth : (cursorPosition.interpret ps).failure.isSome ↔
        (∃ e, ps.param 0 1 = .error e) ∨ ∃ e, ps.param 1 1 = .error e := by
      simp only [interpret, reading, ask]
      cases ps.param 0 1 <;> cases ps.param 1 1 <;> simp
    rw [hboth, hfirst, hsecond]
    constructor
    · rintro (⟨text, h⟩ | ⟨text, h⟩)
      · exact ⟨0, text, Nat.zero_lt_two, h⟩
      · exact ⟨1, text, Nat.one_lt_two, h⟩
    · rintro ⟨i, text, hi, h⟩
      match i, hi with
      | 0, _ => exact .inl ⟨text, h⟩
      | 1, _ => exact .inr ⟨text, h⟩
  | selectRendition =>
    rw [interpret, failure_reading_isSome_iff fun _ => rfl, ps.ints_isError_iff]
    simp only [Converts, true_and]
  | eraseInLine =>
    rw [interpret, failure_reading_isSome_iff, hfirst]
    · simp only [Converts, exists_and_left, exists_eq_left]
    · intro mode
      repeat' split
      all_goals rfl
  | _ =>
    simp only [interpret, after]
    rw [failure_reading_isSome_iff fun _ => rfl, hfirst]
    simp only [Converts, exists_and_left, exists_eq_left]

end ControlFunction

end AnsiArt
