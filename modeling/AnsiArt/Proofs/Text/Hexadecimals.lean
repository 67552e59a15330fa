import AnsiArt.Text.Hex
import AnsiArt.Text.Numeral

/-!
# Reading hexadecimal numbers

The reader of what `Hex` writes: a row of digits in base 16 is read as its number, whatever zeros
stand in front (`Hex.number?_natDigits`). Nothing but digits and a sign is ever written
(`Hex.isDigit_of_mem_byte`), so a number may stand between marks of any kind.
-/

namespace AnsiArt.Hex

/-- The value of a digit in base 16. -/
def digit? (c : Char) : Option Nat :=
  if '0' ≤ c ∧ c ≤ '9' then some (c.toNat - '0'.toNat)
  else if 'a' ≤ c ∧ c ≤ 'f' then some (c.toNat - 'a'.toNat + 10)
  else none

/-- The number that a row of at least one digit stands for. -/
def number? (digits : List Char) : Option Nat :=
  if digits.isEmpty then none else (digits.mapM digit?).map (Numeral.ofDigits 16)

theorem digit?_digitChar {d : Nat} (h : d < 16) : digit? (Nat.digitChar d) = some d := by
  have all : ∀ d : Fin 16, digit? (Nat.digitChar d) = some d.val := by decide
  exact all ⟨d, h⟩

/-- The digits of a number are read one by one, and together they are worth the number. -/
theorem mapM_digit?_toDigits (n : Nat) :
    ∃ ds, (Nat.toDigits 16 n).mapM digit? = some ds ∧ Numeral.ofDigits 16 ds = n := by
  induction n using Nat.strongRecOn with
  | ind n ih =>
    rw [Nat.toDigits_eq_if (by decide)]
    split
    · next h => exact ⟨[n], by simp [digit?_digitChar h], by simp [Numeral.ofDigits]⟩
    · next h =>
      -- all digits but the last are those of the quotient
      obtain ⟨ds, hds, hvalue⟩ := ih (n / 16) (by omega)
      have hlast : digit? (Nat.digitChar (n % 16)) = some (n % 16) :=
        digit?_digitChar (Nat.mod_lt n (by decide))
      refine ⟨ds ++ [n % 16], ?_, ?_⟩
      · rw [List.mapM_append, hds]
        simp [hlast]
      · rw [Numeral.ofDigits_append, hvalue]
        exact Nat.div_add_mod n 16

/-- **A number is read back from its digits**, whatever zeros stand in front. -/
theorem number?_natDigits (places n : Nat) : number? (natDigits places n) = some n := by
  obtain ⟨ds, hds, hvalue⟩ := mapM_digit?_toDigits n
  have hne : (natDigits places n).isEmpty = false := by
    simp [natDigits, Nat.toDigits_ne_nil]
  have hzeros (k : Nat) : (List.replicate k '0').mapM digit? = some (List.replicate k 0) := by
    induction k with
    | zero => rfl
    | succ k ih =>
      rw [List.replicate_succ, List.mapM_cons, ih]
      rfl
  have hread : (natDigits places n).mapM digit? =
      some (List.replicate (places - (Nat.toDigits 16 n).length) 0 ++ ds) := by
    rw [natDigits, List.mapM_append, hzeros, hds]
    rfl
  have hfront (k : Nat) : (List.replicate k 0).foldl (fun n d => 16 * n + d) 0 = 0 := by
    induction k with
    | zero => rfl
    | succ k ih => exact ih
  rw [number?, hne, if_neg (by decide), hread, Option.map_some, Numeral.ofDigits, List.foldl_append,
    hfront]
  exact congrArg some hvalue

theorem digit?_isSome_of_mem_toDigits {n : Nat} {c : Char} (h : c ∈ Nat.toDigits 16 n) :
    (digit? c).isSome := by
  induction n using Nat.strongRecOn with
  | ind n ih =>
    rw [Nat.toDigits_eq_if (by decide)] at h
    split at h
    · next hn =>
      rw [List.mem_singleton.mp h, digit?_digitChar hn]
      rfl
    · next hn =>
      rcases List.mem_append.mp h with h | h
      · exact ih (n / 16) (by omega) h
      · rw [List.mem_singleton.mp h, digit?_digitChar (Nat.mod_lt n (by decide))]
        rfl

theorem digit?_isSome_of_mem_natDigits {places n : Nat} {c : Char} (h : c ∈ natDigits places n) :
    (digit? c).isSome := by
  rcases List.mem_append.mp h with h | h
  · rw [List.eq_of_mem_replicate h]
    rfl
  · exact digit?_isSome_of_mem_toDigits h

/-- **Nothing but digits and a sign is written.** -/
theorem isDigit_of_mem_byte {n : Int} {c : Char} (h : c ∈ (byte n).toList) :
    c = '-' ∨ (digit? c).isSome := by
  rw [byte, padded, String.toList_ofList] at h
  split at h
  · rcases List.mem_cons.mp h with h | h
    · exact .inl h
    · exact .inr (digit?_isSome_of_mem_natDigits h)
  · exact .inr (digit?_isSome_of_mem_natDigits h)

/-- A character that is no digit and no sign is not written. -/
theorem not_mem_byte {c : Char} (hsign : c ≠ '-') (hdigit : digit? c = none) (n : Int) :
    c ∉ (byte n).toList := by
  intro h
  rcases isDigit_of_mem_byte h with h | h
  · exact hsign h
  · rw [hdigit] at h
    cases h

end AnsiArt.Hex
