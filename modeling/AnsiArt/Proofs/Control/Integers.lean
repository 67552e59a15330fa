import AnsiArt.Proofs.Control.Decimals
import AnsiArt.Proofs.Control.Numbers
import Mathlib.Data.List.Forall2

/-!
# Integers as parameters

A list of integers is written as a body: each integer in decimal digits, with any number of zeros
and at most one sign in front, and a semicolon between one and the next. Collecting such a body and
reading its parameters gives the integers back, all at once or one by one.

There are three ways to read parameters, and they differ in what they make of one that is no integer
(`Parameters.ReadsBack`): `ints` leaves it out, `intAt` takes it for 0, and `param` takes a malformed
one for 0, but an empty or an absent one for the default.

Main statements:

* `Parameters.Spells.integer?_eq` — what spells an integer is read as it;
* `Parameters.ints_ofTexts_skip` — what is no decimal is left out, wherever it stands;
* `Parameters.readsBack_ofBody` — collecting and reading inverts joining.
-/

namespace AnsiArt.Parameters

/-- A text that spells an integer and is not too long. A plus sign may stand in front of any number
that is not negative, and a minus sign in front of any that is not positive: zero has both. -/
inductive Spells : List UInt8 → Int → Prop
  | plain (zeros n : Nat) (h : (decimal zeros n).length ≤ 4300) : Spells (decimal zeros n) n
  | plus (zeros n : Nat) (h : (decimal zeros n).length ≤ 4300) : Spells (0x2b :: decimal zeros n) n
  | minus (zeros n : Nat) (h : (decimal zeros n).length ≤ 4300) :
    Spells (0x2d :: decimal zeros n) (-n)

variable {text : List UInt8} {texts : List (List UInt8)} {n : Int} {values : List Int}

/-! ### One parameter -/

theorem Spells.ne_nil (h : Spells text n) : text ≠ [] := by
  cases h with
  | plain zeros n => exact decimal_ne_nil zeros n
  | plus | minus => exact List.cons_ne_nil _ _

theorem Spells.semicolon_not_mem (h : Spells text n) : 0x3b ∉ text := by
  have hdigits (zeros n : Nat) : 0x3b ∉ decimal zeros n := fun hmem =>
    absurd (digit_of_mem_decimal hmem) (by decide)
  cases h with
  | plain zeros n => exact hdigits zeros n
  | plus zeros n | minus zeros n =>
    intro hmem
    rcases List.mem_cons.mp hmem with hsign | hmem
    · exact absurd hsign (by decide)
    · exact hdigits zeros n hmem

/-- **What spells an integer is read as it.** -/
theorem Spells.integer?_eq (h : Spells text n) : integer? text = .ok (some n) := by
  cases h with
  | plain zeros n h => exact integer?_decimal h
  | plus zeros n h =>
    have hsigned : signedDigits? (0x2b :: decimal zeros n) =
        some (false, (decimal zeros n).map fun b => b.toNat - 0x30) := by
      rw [signedDigits?, digits?_decimal]
      rfl
    exact integer?_of_signedDigits? hsigned h
  | minus zeros n h =>
    have hsigned : signedDigits? (0x2d :: decimal zeros n) =
        some (true, (decimal zeros n).map fun b => b.toNat - 0x30) := by
      rw [signedDigits?, digits?_decimal]
      rfl
    exact integer?_of_signedDigits? hsigned h

theorem integer?_of_not_isDecimal (h : ¬ IsDecimal text) : integer? text = .ok none := by
  rcases integer?_cases text with ⟨-, hread⟩ | ⟨hdecimal, -⟩ | hlong
  · exact hread
  · exact absurd hdecimal h
  · exact absurd hlong.isDecimal h

/-! ### All parameters -/

theorem ints_of_spells (h : List.Forall₂ Spells texts values) :
    (ofTexts texts).ints = .ok values := by
  induction h with
  | nil => rfl
  | cons hfirst _ ih => exact ints_ofTexts_cons hfirst.integer?_eq ih

/-- **A parameter that is no decimal is left out**, wherever it stands, also if another parameter
cannot be read. -/
theorem ints_ofTexts_skip (h : ¬ IsDecimal text) (front behind : List (List UInt8)) :
    (ofTexts (front ++ text :: behind)).ints = (ofTexts (front ++ behind)).ints := by
  rw [ints_ofTexts, ints_ofTexts, List.mapM_append, List.mapM_append, List.mapM_cons,
    integer?_of_not_isDecimal h]
  cases front.mapM integer? with
  | error e => rfl
  | ok vs =>
    cases behind.mapM integer? with
    | error e => rfl
    | ok ws =>
      refine congrArg Except.ok ?_
      simp only [List.filterMap_append, List.filterMap_cons, id]

/-- Splitting finds the texts of integers again that were joined. -/
theorem splitAll_of_spells (hne : values ≠ []) (h : List.Forall₂ Spells texts values) :
    splitAll 0x3b ([0x3b].intercalate texts) = texts := by
  have hsemicolon : ∀ text ∈ texts, 0x3b ∉ text := by
    clear hne
    induction h with
    | nil => exact List.forall_mem_nil _
    | cons hfirst _ ih => exact List.forall_mem_cons.mpr ⟨hfirst.semicolon_not_mem, ih⟩
  refine splitAll_intercalate ?_ hsemicolon
  rintro rfl
  exact hne (List.forall₂_nil_left_iff.mp h)

theorem getElem?_closed_ofTexts (texts : List (List UInt8)) (i : Nat) :
    (ofTexts texts).closed[i]? = texts[i]?.map List.toArray := by
  simp [ofTexts]

theorem exists_spells_of_getElem? (h : List.Forall₂ Spells texts values) {i : Nat}
    (hi : values[i]? = some n) : ∃ text, texts[i]? = some text ∧ Spells text n := by
  obtain ⟨hvalues, rfl⟩ := List.getElem?_eq_some_iff.mp hi
  have htexts : i < texts.length := h.length_eq ▸ hvalues
  exact ⟨texts[i], List.getElem?_eq_getElem htexts, h.get htexts hvalues⟩

/-! ### Three ways to read -/

/-- What parameters collected from a body hold, and what is read of them. -/
structure ReadsBack (body : List UInt8) (ps : Parameters) : Prop where
  /-- They are the pieces of the body between its semicolons, and none is left open. -/
  eq_ofTexts : ps = ofTexts (splitAll 0x3b body)
  /-- Joined by semicolons, they are the body again. -/
  text_eq : ps.text = body
  /-- The decoder collects them as well, if it meets the body in a control sequence. -/
  decoded (h : ∀ b ∈ body, Decoder.isFinal b = false) :
    ∃ qs, (Decoder.mk .sequence empty).nextAll body = ⟨.sequence, qs⟩ ∧ qs.flush = ps
  /-- Integers that were joined are read back, all of them and each of them. -/
  joined {texts : List (List UInt8)} {values : List Int} (hne : values ≠ [])
    (h : List.Forall₂ Spells texts values) (hbody : body = [0x3b].intercalate texts) :
    ps.ints = .ok values ∧ ∀ (i : Nat) (n : Int), values[i]? = some n →
      ps.intAt i = .ok n ∧ ∀ default, ps.param i default = .ok n
  /-- Past the last parameter, the readers by position find 0 and the default. -/
  absent {i : Int} (h : ps.size ≤ i) :
    ps.intAt i = .ok 0 ∧ ∀ default, ps.param i default = .ok default
  /-- So they do in an empty parameter. -/
  empty {i : Nat} (h : ps.closed[i]? = some #[]) :
    ps.intAt i = .ok 0 ∧ ∀ default, ps.param i default = .ok default
  /-- In a malformed one both find 0. -/
  malformed {i : Nat} {text : List UInt8} (h : ps.closed[i]? = some text.toArray)
    (hne : text ≠ []) (hno : ¬ IsDecimal text) :
    ps.intAt i = .ok 0 ∧ ∀ default, ps.param i default = .ok 0
  /-- To the reader of all integers, neither is there. -/
  skips {front behind : List (List UInt8)} {text : List UInt8}
    (h : splitAll 0x3b body = front ++ text :: behind) (hno : ¬ IsDecimal text) :
    ps.ints = (ofTexts (front ++ behind)).ints

theorem intAt_and_param_of_absent {ps : Parameters} {i : Int} (h : ps.size ≤ i) :
    ps.intAt i = .ok 0 ∧ ∀ default, ps.param i default = .ok default := by
  obtain ⟨i, rfl⟩ := Int.eq_ofNat_of_zero_le (Int.le_trans (Int.natCast_nonneg _) h)
  have hnone : ps.closed[i]? = none := Array.getElem?_eq_none (Int.ofNat_le.mp h)
  refine ⟨?_, fun default => ?_⟩
  · rw [intAt_natCast, hnone]
  · rw [param_natCast, hnone]

theorem intAt_and_param_of_empty {ps : Parameters} {i : Nat} (h : ps.closed[i]? = some #[]) :
    ps.intAt i = .ok 0 ∧ ∀ default, ps.param i default = .ok default := by
  refine ⟨?_, fun default => ?_⟩
  · rw [intAt_natCast, h]
    rfl
  · rw [param_natCast, h]
    rfl

/-- **Collecting and reading parameters inverts joining them.** Whatever the body is, its pieces are
collected, and they spell it again. If it was joined from integers, these are read back; otherwise
the readers treat what is no integer each in their own way. -/
theorem readsBack_ofBody (body : List UInt8) : ReadsBack body (ofBody body) where
  eq_ofTexts := ofBody_eq_ofTexts body
  text_eq := text_ofBody body
  decoded h := ⟨_, Decoder.nextAll_body empty h, rfl⟩
  joined {texts values} hne h hbody := by
    have htexts : ofBody body = ofTexts texts := by
      rw [ofBody_eq_ofTexts, hbody, splitAll_of_spells hne h]
    rw [htexts]
    refine ⟨ints_of_spells h, fun i n hi => ?_⟩
    obtain ⟨text, htext, hspells⟩ := exists_spells_of_getElem? h hi
    have hclosed : (ofTexts texts).closed[i]? = some text.toArray := by
      rw [getElem?_closed_ofTexts, htext, Option.map_some]
    exact intAt_and_param_of_integer? hclosed hspells.ne_nil hspells.integer?_eq
  absent := intAt_and_param_of_absent
  empty := intAt_and_param_of_empty
  malformed h hne hno := intAt_and_param_of_integer? h hne (integer?_of_not_isDecimal hno)
  skips {front behind text} h hno := by
    rw [ofBody_eq_ofTexts, h]
    exact ints_ofTexts_skip hno front behind

/-- Three integers with a sign each, the last of them zero: `-007;+12;-0`. -/
theorem readsBack_ofBody_three_signs :
    ReadsBack [0x2d, 0x30, 0x30, 0x37, 0x3b, 0x2b, 0x31, 0x32, 0x3b, 0x2d, 0x30]
        (ofBody [0x2d, 0x30, 0x30, 0x37, 0x3b, 0x2b, 0x31, 0x32, 0x3b, 0x2d, 0x30]) ∧
      (ofBody [0x2d, 0x30, 0x30, 0x37, 0x3b, 0x2b, 0x31, 0x32, 0x3b, 0x2d, 0x30]).ints =
        .ok [-7, 12, 0] := by
  have hback := readsBack_ofBody [0x2d, 0x30, 0x30, 0x37, 0x3b, 0x2b, 0x31, 0x32, 0x3b, 0x2d, 0x30]
  have hspells : List.Forall₂ Spells
      [[0x2d, 0x30, 0x30, 0x37], [0x2b, 0x31, 0x32], [0x2d, 0x30]] [-7, 12, 0] :=
    .cons (.minus 2 7 (by decide)) (.cons (.plus 0 12 (by decide))
      (.cons (.minus 0 0 (by decide)) .nil))
  exact ⟨hback, (hback.joined (by decide) hspells rfl).1⟩

end AnsiArt.Parameters
