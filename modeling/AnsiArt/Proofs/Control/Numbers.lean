import AnsiArt.Proofs.Control.Collecting
import AnsiArt.Proofs.Control.Overlong

/-!
# The numbers among the parameters

A control function that takes any number of parameters reads them all and leaves out those that are
no number. So if none is too long, there is one number for each parameter that is a decimal, in
order, and joining two bodies by a semicolon joins their numbers.

Main statements:

* `Parameters.integer?_cases` — a text is no decimal, or it is read, or it is too long;
* `Parameters.exists_ints_ofBody` — which bodies have numbers;
* `Parameters.ints_ofBody_append` — the numbers of two bodies that are joined.
-/

namespace AnsiArt.Parameters

/-- A well-formed decimal: at least one digit, and at most one sign in front. -/
def IsDecimal (text : List UInt8) : Prop :=
  ∃ sign digits, text = sign ++ digits ∧ (sign = [] ∨ sign = [0x2b] ∨ sign = [0x2d]) ∧
    digits ≠ [] ∧ ∀ b ∈ digits, 0x30 ≤ b ∧ b ≤ 0x39

variable {text : List UInt8} {texts more : List (List UInt8)} {values rest : List Int}

/-! ### One parameter -/

theorem isDecimal_iff : IsDecimal text ↔ ∃ negative ds, signedDigits? text = some (negative, ds) := by
  constructor
  · rintro ⟨sign, digits, htext, hsign, hne, hdigits⟩
    obtain ⟨negative, h⟩ :=
      exists_signedDigits?_iff.mpr ⟨sign, digits, htext, hsign, hne, hdigits, rfl⟩
    exact ⟨negative, _, h⟩
  · rintro ⟨negative, ds, h⟩
    obtain ⟨sign, digits, htext, hsign, hne, hdigits, -⟩ := exists_signedDigits?_iff.mp ⟨_, h⟩
    exact ⟨sign, digits, htext, hsign, hne, hdigits⟩

theorem IsOverlong.isDecimal (h : IsOverlong text) : IsDecimal text := by
  obtain ⟨negative, ds, hread, -⟩ := isOverlong_iff.mp h
  exact isDecimal_iff.mpr ⟨negative, ds, hread⟩

/-- **A text is no decimal, or it is read as a number, or it is too long.** -/
theorem integer?_cases (text : List UInt8) :
    (¬ IsDecimal text ∧ integer? text = .ok none) ∨
      (IsDecimal text ∧ ∃ n, integer? text = .ok (some n)) ∨ IsOverlong text := by
  by_cases hlong : IsOverlong text
  · exact .inr (.inr hlong)
  cases hread : signedDigits? text with
  | none =>
    refine .inl ⟨fun h => ?_, by rw [integer?, hread]⟩
    obtain ⟨negative, ds, hsome⟩ := isDecimal_iff.mp h
    exact absurd (hread.symm.trans hsome) (by simp)
  | some p =>
    obtain ⟨negative, ds⟩ := p
    have hshort : ¬ Numeral.maxDigits < ds.length := fun h =>
      hlong (isOverlong_iff.mpr ⟨negative, ds, hread, h⟩)
    have hnumber : ∃ n, Numeral.ofDecimal negative ds = .ok n := by
      simp only [Numeral.ofDecimal, if_neg hshort]
      exact ⟨_, rfl⟩
    obtain ⟨n, hn⟩ := hnumber
    refine .inr (.inl ⟨isDecimal_iff.mpr ⟨negative, ds, hread⟩, n, ?_⟩)
    rw [integer?, hread]
    simp only [hn]
    rfl

/-! ### All parameters -/

theorem ints_ofTexts (texts : List (List UInt8)) :
    (ofTexts texts).ints = (texts.mapM integer?).map (·.filterMap id) := by
  rw [ints, ofTexts, List.toList_toArray, List.mapM_map]
  rfl

theorem ints_ofTexts_cons {v : Option Int} (h : integer? text = .ok v)
    (hrest : (ofTexts texts).ints = .ok values) :
    (ofTexts (text :: texts)).ints = .ok (v.toList ++ values) := by
  rw [ints_ofTexts] at hrest ⊢
  rw [List.mapM_cons, h]
  cases htexts : texts.mapM integer? with
  | error e =>
    rw [htexts] at hrest
    cases hrest
  | ok vs =>
    rw [htexts] at hrest
    obtain rfl := Except.ok.inj hrest
    cases v <;> rfl

/-- If none is too long, the parameters have numbers, as soon as one of them is a decimal. -/
theorem exists_ints_ofTexts (h : ∀ text ∈ texts, ¬ IsOverlong text) :
    ∃ values, (ofTexts texts).ints = .ok values ∧
      (values = [] ↔ ∀ text ∈ texts, ¬ IsDecimal text) := by
  induction texts with
  | nil => exact ⟨[], rfl, by simp⟩
  | cons text texts ih =>
    obtain ⟨values, hvalues, hnone⟩ := ih fun t ht => h t (List.mem_cons_of_mem _ ht)
    rcases integer?_cases text with ⟨hno, hread⟩ | ⟨hdecimal, n, hread⟩ | hlong
    · refine ⟨values, ints_ofTexts_cons hread hvalues, ?_⟩
      rw [hnone, List.forall_mem_cons]
      exact ⟨fun hall => ⟨hno, hall⟩, And.right⟩
    · refine ⟨n :: values, ints_ofTexts_cons hread hvalues, ?_⟩
      rw [List.forall_mem_cons]
      exact ⟨fun hnil => absurd hnil (List.cons_ne_nil n values),
        fun hall => absurd hdecimal hall.1⟩
    · exact absurd hlong (h text List.mem_cons_self)

theorem ints_ofTexts_append (h : (ofTexts texts).ints = .ok values)
    (hmore : (ofTexts more).ints = .ok rest) :
    (ofTexts (texts ++ more)).ints = .ok (values ++ rest) := by
  rw [ints_ofTexts] at h hmore ⊢
  rw [List.mapM_append]
  cases htexts : texts.mapM integer? with
  | error e =>
    rw [htexts] at h
    cases h
  | ok vs =>
    cases hothers : more.mapM integer? with
    | error e =>
      rw [hothers] at hmore
      cases hmore
    | ok ws =>
      rw [htexts] at h
      rw [hothers] at hmore
      obtain rfl := Except.ok.inj h
      obtain rfl := Except.ok.inj hmore
      exact congrArg Except.ok List.filterMap_append

/-! ### Bodies -/

/-- A body none of whose parameters is too long to be read. -/
def IsReadable (body : List UInt8) : Prop := ∀ text ∈ splitAll 0x3b body, ¬ IsOverlong text

/-- A body of which one parameter at least is a decimal. -/
def HasDecimal (body : List UInt8) : Prop := ∃ text ∈ splitAll 0x3b body, IsDecimal text

/-- **A readable body has numbers**, but an empty list of them exactly if there is no decimal. -/
theorem exists_ints_ofBody {body : List UInt8} (h : IsReadable body) :
    ∃ values, (ofBody body).ints = .ok values ∧ (values = [] ↔ ¬ HasDecimal body) := by
  obtain ⟨values, hvalues, hnone⟩ := exists_ints_ofTexts h
  refine ⟨values, by rw [ofBody_eq_ofTexts, hvalues], ?_⟩
  rw [hnone, HasDecimal]
  simp only [not_exists, not_and]

theorem isReadable_of_ints {body : List UInt8} (h : (ofBody body).ints = .ok values) :
    IsReadable body := by
  intro text htext hlong
  obtain ⟨i, hi⟩ := List.mem_iff_getElem?.mp htext
  have hclosed : (ofBody body).closed[i]? = some text.toArray := by
    rw [ofBody_eq_ofTexts]
    simp [ofTexts, hi]
  obtain ⟨e, he⟩ := (ints_isError_iff (ofBody body)).mpr ⟨i, text.toArray, hclosed, hlong⟩
  cases h.symm.trans he

/-- **Joining two bodies by a semicolon joins their numbers.** -/
theorem ints_ofBody_append {p q : List UInt8} (hp : (ofBody p).ints = .ok values)
    (hq : (ofBody q).ints = .ok rest) :
    (ofBody (p ++ 0x3b :: q)).ints = .ok (values ++ rest) := by
  rw [ofBody_eq_ofTexts] at hp hq ⊢
  rw [splitAll_append]
  exact ints_ofTexts_append hp hq

end AnsiArt.Parameters
