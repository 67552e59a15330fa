import AnsiArt.Proofs.Control.Collecting
import AnsiArt.Proofs.Control.Overlong

/-!
# Decimals as parameters

A natural number is written in decimal digits, with any number of zeros in front. What is written so
is read back as a parameter, as long as it has no more digits than are converted
(`Parameters.integer?_decimal`, `Parameters.param_decimal`).
-/

namespace AnsiArt.Parameters

/-- A number in decimal digits behind some zeros. -/
def decimal (zeros n : Nat) : List UInt8 :=
  List.replicate zeros 0x30 ++ (Nat.toDigits 10 n).map fun c => UInt8.ofNat c.toNat

theorem decimal_ne_nil (zeros n : Nat) : decimal zeros n ≠ [] := by
  intro h
  obtain ⟨-, h⟩ := List.append_eq_nil_iff.mp h
  exact Nat.toDigits_ne_nil (List.map_eq_nil_iff.mp h)

/-- The characters of a number are the ten digits of ASCII. -/
theorem toNat_of_mem_toDigits {n : Nat} {c : Char} (h : c ∈ Nat.toDigits 10 n) :
    0x30 ≤ c.toNat ∧ c.toNat ≤ 0x39 := by
  have hdigit : c.isDigit = true := Nat.isDigit_of_mem_toDigits (by decide) (by decide) h
  simpa [Char.isDigit, UInt32.le_iff_toNat_le] using hdigit

theorem toNat_ofNat_of_mem_toDigits {n : Nat} {c : Char} (h : c ∈ Nat.toDigits 10 n) :
    (UInt8.ofNat c.toNat).toNat = c.toNat := by
  obtain ⟨-, hc⟩ := toNat_of_mem_toDigits h
  exact UInt8.toNat_ofNat_of_lt' (Nat.lt_of_le_of_lt hc (by decide))

theorem digit_of_mem_decimal {zeros n : Nat} {b : UInt8} (h : b ∈ decimal zeros n) :
    0x30 ≤ b ∧ b ≤ 0x39 := by
  rcases List.mem_append.mp h with h | h
  · rw [List.eq_of_mem_replicate h]
    decide
  · obtain ⟨c, hc, rfl⟩ := List.mem_map.mp h
    rw [UInt8.le_iff_toNat_le, UInt8.le_iff_toNat_le, toNat_ofNat_of_mem_toDigits hc]
    exact toNat_of_mem_toDigits hc

/-- The digits of a number have the number as their value, and zeros in front do not change it. -/
theorem ofDigits_decimal (zeros n : Nat) :
    Numeral.ofDigits 10 ((decimal zeros n).map fun b => b.toNat - 0x30) = n := by
  have hzeros : (List.replicate zeros 0).foldl (fun n d => 10 * n + d) 0 = 0 := by
    induction zeros with
    | zero => rfl
    | succ zeros ih => exact ih
  have hdigits : ((Nat.toDigits 10 n).map fun c => UInt8.ofNat c.toNat).map
      (fun b => b.toNat - 0x30) = (Nat.toDigits 10 n).map fun c => c.toNat - '0'.toNat := by
    rw [List.map_map]
    refine List.map_congr_left fun c hc => ?_
    exact congrArg (· - 0x30) (toNat_ofNat_of_mem_toDigits hc)
  calc Numeral.ofDigits 10 ((decimal zeros n).map fun b => b.toNat - 0x30)
      = ((Nat.toDigits 10 n).map fun c => c.toNat - '0'.toNat).foldl (fun n d => 10 * n + d)
          ((List.replicate zeros 0).foldl (fun n d => 10 * n + d) 0) := by
        rw [decimal, List.map_append, hdigits, List.map_replicate, Numeral.ofDigits,
          List.foldl_append]
        rfl
    _ = Nat.ofDigitChars 10 (Nat.toDigits 10 n) 0 := by
        rw [hzeros, List.foldl_map]
        rfl
    _ = n := Nat.ofDigitChars_toDigits (by decide) (by decide)

/-- The digits of a decimal are read as their values. -/
theorem digits?_decimal (zeros n : Nat) :
    digits? (decimal zeros n) = some ((decimal zeros n).map fun b => b.toNat - 0x30) :=
  digits?_eq_some_iff.mpr ⟨decimal_ne_nil zeros n, fun _ => digit_of_mem_decimal, rfl⟩

/-- What is read as the digits of a decimal, with or without a minus sign, is its number. -/
theorem integer?_of_signedDigits? {text : List UInt8} {negative : Bool} {zeros n : Nat}
    (h : signedDigits? text =
      some (negative, (decimal zeros n).map fun b => b.toNat - 0x30))
    (hlength : (decimal zeros n).length ≤ 4300) :
    integer? text = .ok (some (if negative then -n else n)) := by
  have hshort : ¬ Numeral.maxDigits < ((decimal zeros n).map fun b => b.toNat - 0x30).length := by
    rw [List.length_map]
    exact Nat.not_lt.mpr hlength
  simp only [integer?, h, Numeral.ofDecimal, if_neg hshort, ofDigits_decimal]
  rfl

/-- **A decimal that is not too long is read back.** -/
theorem integer?_decimal {zeros n : Nat} (h : (decimal zeros n).length ≤ 4300) :
    integer? (decimal zeros n) = .ok (some (n : Int)) := by
  -- no digit is a sign, so the first one is not taken for one
  have hsigned : signedDigits? (decimal zeros n) =
      some (false, (decimal zeros n).map fun b => b.toNat - 0x30) := by
    unfold signedDigits?
    split
    · next heq => exact absurd (digit_of_mem_decimal (heq ▸ List.mem_cons_self)) (by decide)
    · next heq => exact absurd (digit_of_mem_decimal (heq ▸ List.mem_cons_self)) (by decide)
    · rw [digits?_decimal]
      rfl
  exact integer?_of_signedDigits? hsigned h

/-- A parameter that is not empty is read by position as what its text spells, whatever the default
is; 0 stands for no number. -/
theorem intAt_and_param_of_integer? {ps : Parameters} {i : Nat} {text : List UInt8}
    {v : Option Int} (hget : ps.closed[i]? = some text.toArray) (hne : text ≠ [])
    (h : integer? text = .ok v) :
    ps.intAt i = .ok (v.getD 0) ∧ ∀ default, ps.param i default = .ok (v.getD 0) := by
  have hint : ps.intAt i = .ok (v.getD 0) := by
    rw [intAt_natCast, hget]
    simp only [h]
    rfl
  have hfull : text.toArray.isEmpty = false := by simp [hne]
  refine ⟨hint, fun default => ?_⟩
  rw [param_natCast, hget]
  simp only [hfull, Bool.false_eq_true, if_false, hint]

/-- A parameter that is a decimal is read as its number, whatever the default is. -/
theorem param_decimal {ps : Parameters} {i zeros n : Nat} (default : Int)
    (hget : ps.closed[i]? = some (decimal zeros n).toArray)
    (hlength : (decimal zeros n).length ≤ 4300) : ps.param i default = .ok (n : Int) :=
  (intAt_and_param_of_integer? hget (decimal_ne_nil zeros n) (integer?_decimal hlength)).2 default

end AnsiArt.Parameters
