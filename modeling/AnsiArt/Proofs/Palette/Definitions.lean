import AnsiArt.Proofs.Palette.Loading
import AnsiArt.Proofs.Palette.Spelling
import Mathlib.Data.List.Forall2
import Mathlib.Tactic.ByContra

/-!
# Definitions of palettes

The faults of a definition are listed by one function and the palette is built by another, which
does not look at the faults. This module states once what a definition without faults is
(`Palette.Defines`) and ties both functions to it: nothing is wrong with data exactly if it defines
colours, and then the palette can be built, unless the identifier cannot be written, and has these
colours in front of those of the built-in palette.

Main statements:

* `Palette.faults_eq_nil_iff` — data without faults defines colours;
* `Palette.toList_overlayFrom` — the colours of a list replace those of the table, one by one;
* `Palette.loadsAsWritten` — data without faults loads, and loads what it says.
-/

namespace AnsiArt.Palette

/-- Data that defines colours: a map with an identifier and a list of 1 to 256 texts, each of which
spells a colour. -/
inductive Defines (id : Value) (colours : List Colour) : Value → Prop
  | map {entries : List (Scalar × Value)} {texts : List String}
      (identifier : Value.get? "id" entries = some id)
      (listed : Value.get? "colors" entries = some (.list (texts.map Value.text)))
      (spelled : List.Forall₂ (fun c s => c.Spells s.toList) colours texts)
      (one_le : 1 ≤ colours.length) (le_table : colours.length ≤ 256) :
      Defines id colours (.map entries)

variable {id data : Value} {colours : List Colour}

/-! ### Faults -/

theorem isColourValue_iff {v : Value} :
    isColourValue v = true ↔ ∃ s c, v = .text s ∧ Colour.Spells c s.toList := by
  constructor
  · intro h
    unfold isColourValue at h
    split at h
    · next s =>
      obtain ⟨c, hc⟩ := isHexColour_iff.mp h
      exact ⟨s, c, rfl, hc⟩
    · cases h
  · rintro ⟨s, c, rfl, h⟩
    exact isHexColour_iff.mpr ⟨c, h⟩

theorem colourFaults_eq_nil_iff {first : Nat} {values : List Value} :
    colourFaults first values = [] ↔ ∀ v ∈ values, isColourValue v = true := by
  induction values generalizing first with
  | nil => simp [colourFaults]
  | cons v rest ih =>
    rw [colourFaults, List.forall_mem_cons]
    split
    · next hv => simp [ih, hv]
    · next hv => simp [hv]

/-- Values that are all right are texts that spell a row of colours. -/
theorem exists_spelled_iff {values : List Value} :
    (∀ v ∈ values, isColourValue v = true) ↔
      ∃ texts colours, values = texts.map Value.text ∧
        List.Forall₂ (fun c s => Colour.Spells c s.toList) colours texts := by
  constructor
  · intro h
    induction values with
    | nil => exact ⟨[], [], rfl, .nil⟩
    | cons v rest ih =>
      obtain ⟨hv, hrest⟩ := List.forall_mem_cons.mp h
      obtain ⟨s, c, rfl, hs⟩ := isColourValue_iff.mp hv
      obtain ⟨texts, colours, rfl, hspelled⟩ := ih hrest
      exact ⟨s :: texts, c :: colours, rfl, .cons hs hspelled⟩
  · rintro ⟨texts, colours, rfl, hspelled⟩
    induction hspelled with
    | nil => simp
    | cons hs _ ih => exact List.forall_mem_cons.mpr ⟨isColourValue_iff.mpr ⟨_, _, rfl, hs⟩, ih⟩

theorem Defines.faults_eq_nil (h : Defines id colours data) : faults data = [] := by
  obtain @⟨entries, texts, hid, hlisted, hspelled, hone, hall⟩ := h
  have hvalues := exists_spelled_iff.mpr ⟨texts, colours, rfl, hspelled⟩
  have hlength := hspelled.length_eq
  -- the list of texts is as long as that of the colours, and neither empty nor too long
  cases texts with
  | nil =>
    rw [List.length_nil] at hlength
    omega
  | cons s rest =>
    have hcount : ¬ vga.size < (rest.map Value.text).length + 1 := by
      simp only [size_vga, List.length_map]
      simp only [List.length_cons] at hlength
      omega
    simp only [List.map_cons] at hlisted hvalues
    simp only [faults, hid, hlisted, hcount, colourFaults_eq_nil_iff.mpr hvalues]
    rfl

theorem exists_defines_of_faults_eq_nil (h : faults data = []) :
    ∃ id colours, Defines id colours data := by
  unfold faults at h
  split at h
  · next entries =>
    dsimp only at h
    split at h
    · next first rest hlisted =>
      obtain ⟨hfront, hcolours⟩ := List.append_eq_nil_iff.mp h
      obtain ⟨hidentifier, hcount⟩ := List.append_eq_nil_iff.mp hfront
      obtain ⟨id, hid⟩ : ∃ id, Value.get? "id" entries = some id := by
        cases hid : Value.get? "id" entries with
        | none => simp [hid] at hidentifier
        | some id => exact ⟨id, rfl⟩
      obtain ⟨texts, colours, hvalues, hspelled⟩ :=
        exists_spelled_iff.mp (colourFaults_eq_nil_iff.mp hcolours)
      have hlength : colours.length = rest.length + 1 := by
        rw [hspelled.length_eq, ← List.length_map (f := Value.text), ← hvalues, List.length_cons]
      have htable : rest.length + 1 ≤ 256 := by
        by_contra hmore
        simp [size_vga, show 256 < rest.length + 1 by omega] at hcount
      exact ⟨id, colours, .map hid (hvalues ▸ hlisted) hspelled (by omega) (by omega)⟩
    · exact absurd (List.append_eq_nil_iff.mp h).2 (by simp)
  · cases h

/-- **Nothing is wrong with data exactly if it defines colours.** -/
theorem faults_eq_nil_iff : faults data = [] ↔ ∃ id colours, Defines id colours data := by
  constructor
  · exact exists_defines_of_faults_eq_nil
  · rintro ⟨id, colours, h⟩
    exact h.faults_eq_nil

/-! ### Building -/

/-- **The colours of a list replace those of the table**, one after another from the given number
on. -/
theorem toList_overlayFrom {texts : List String}
    (h : List.Forall₂ (fun c s => Colour.Spells c s.toList) colours texts) {table : Array Colour}
    {first : Nat} (hroom : first + colours.length ≤ table.size) :
    ∃ result, overlayFrom table first (texts.map Value.text) = .ok result ∧
      result.toList =
        table.toList.take first ++ colours ++ table.toList.drop (first + colours.length) := by
  induction h generalizing table first with
  | nil => exact ⟨table, rfl, by simp⟩
  | @cons c s colours texts hs _ ih =>
    rw [List.length_cons] at hroom
    have hin : first < table.size := by omega
    have hrest : first + 1 + colours.length ≤ (table.setIfInBounds first c).size := by
      rw [Array.size_setIfInBounds]
      omega
    obtain ⟨result, hresult, hlist⟩ := ih hrest
    refine ⟨result, ?_, ?_⟩
    · rw [List.map_cons, overlayFrom]
      simp only [colourOf, Value.text, Colour.ofHex_of_spells hs, mapError_ok]
      exact (if_pos hin).trans hresult
    · -- the next place is taken from the table in front and from the list here
      have hlt : first < table.toList.length := by simpa using hin
      rw [hlist, Array.toList_setIfInBounds, List.drop_set_of_lt (by omega),
        List.take_add_one, List.take_set_of_le (Nat.le_refl _), List.getElem?_set_self hlt,
        List.length_cons, Nat.add_assoc, Nat.add_comm 1]
      simp

variable (h : Defines id colours data)

include h

theorem Defines.ofValue_eq_error (hid : id.isWritable = false) :
    ofValue data = .error .unwritable := by
  obtain ⟨hidentifier, -, -, -, -⟩ := h
  simp [ofValue, field, hidentifier, hid, bind, Except.bind, throw, throwThe, MonadExceptOf.throw]

/-- Data that defines colours is built, if its identifier can be written. -/
theorem Defines.exists_ofValue_eq_ok (hid : id.isWritable = true) :
    ∃ p, ofValue data = .ok p ∧
      p.colours.toList = colours ++ vgaColours.drop colours.length := by
  obtain @⟨entries, texts, hidentifier, hlisted, hspelled, -, hall⟩ := h
  have hroom : 0 + colours.length ≤ vga.colours.size := by
    rw [Nat.zero_add]
    exact Nat.le_trans hall (Nat.le_of_eq size_vga.symm)
  obtain ⟨result, hresult, hlist⟩ := toList_overlayFrom hspelled hroom
  -- no step of the building fails
  obtain ⟨p, hp, hcolours⟩ : ∃ p, ofValue (.map entries) = .ok p ∧ p.colours = result := by
    simp [ofValue, field, hidentifier, hid, hlisted, members, hresult, bind, Except.bind, pure,
      Except.pure]
  refine ⟨p, hp, ?_⟩
  rw [hcolours, hlist, Nat.zero_add]
  rfl

theorem Defines.valid : ∀ c ∈ colours, c.Valid := by
  obtain ⟨-, -, hspelled, -, -⟩ := h
  induction hspelled with
  | nil => exact List.forall_mem_nil _
  | cons hs _ ih => exact List.forall_mem_cons.mpr ⟨hs.valid, ih⟩

omit h

/-- Data that lists the written forms of colours of eight bits defines these colours. -/
theorem defines_hex {entries : List (Scalar × Value)}
    (hid : Value.get? "id" entries = some id)
    (hlisted : Value.get? "colors" entries = some (.list (colours.map fun c => .text c.hex)))
    (hvalid : ∀ c ∈ colours, c.Valid) (hone : 1 ≤ colours.length) (hall : colours.length ≤ 256) :
    Defines id colours (.map entries) := by
  have htexts : Value.get? "colors" entries =
      some (.list ((colours.map Colour.hex).map Value.text)) := by
    rw [hlisted, List.map_map]
    rfl
  refine .map hid htexts ?_ hone hall
  rw [List.forall₂_map_right_iff, List.forall₂_same]
  intro c hc
  exact Colour.spells_hex (hvalid c hc)

/-! ### Both sides -/

/-- What the list of faults and the palette that is built have to do with data. -/
structure LoadsAsWritten (data : Value) : Prop where
  /-- Nothing is wrong with data exactly if it is a map with an identifier and with 1 to 256 texts
  that spell colours. -/
  faultless_iff : faults data = [] ↔ ∃ id colours, Defines id colours data
  /-- Such data is built into a palette of 256 colours, those that are spelled in front and behind
  them those of the built-in palette. -/
  loads : ∀ id colours, Defines id colours data → id.isWritable = true →
    ∃ p, ofValue data = .ok p ∧ p.size = 256 ∧ (∀ c ∈ p.colours.toList, c.Valid) ∧
      p.colours.toList = colours ++ vgaColours.drop colours.length
  /-- The only thing that can go wrong is that the identifier cannot be written. -/
  unwritable : ∀ id colours, Defines id colours data → id.isWritable = false →
    ofValue data = .error .unwritable
  /-- The written forms of 1 to 256 colours of eight bits are loaded as these colours. -/
  loads_hex : ∀ entries id (colours : List Colour), data = .map entries →
    Value.get? "id" entries = some id → id.isWritable = true →
    Value.get? "colors" entries = some (.list (colours.map fun c => .text c.hex)) →
    (∀ c ∈ colours, c.Valid) → 1 ≤ colours.length → colours.length ≤ 256 →
    faults data = [] ∧
      ∃ p, ofValue data = .ok p ∧ p.colours.toList.take colours.length = colours

/-- **Data without faults loads, and loads what it says**, whatever the data is. -/
theorem loadsAsWritten (data : Value) : LoadsAsWritten data where
  faultless_iff := faults_eq_nil_iff
  loads id colours h hid := by
    obtain ⟨p, hp, hlist⟩ := h.exists_ofValue_eq_ok hid
    refine ⟨p, hp, size_ofValue hp, ?_, hlist⟩
    intro c hc
    rw [hlist] at hc
    rcases List.mem_append.mp hc with hc | hc
    · exact h.valid c hc
    · exact valid_of_mem_vgaColours c (List.mem_of_mem_drop hc)
  unwritable id colours h hid := h.ofValue_eq_error hid
  loads_hex entries id colours hdata hid hwritable hlisted hvalid hone hall := by
    subst hdata
    have h := defines_hex hid hlisted hvalid hone hall
    obtain ⟨p, hp, hlist⟩ := h.exists_ofValue_eq_ok hwritable
    exact ⟨h.faults_eq_nil, p, hp, by rw [hlist, List.take_left']; rfl⟩

/-- A colour in the short form and one in mixed digits, in front of the other 254. -/
theorem loadsAsWritten_two_forms :
    ∃ entries : List (Scalar × Value),
      entries = [(.text "id", .text "two"), (.text "colors", .list [.text "#f80", .text "#0A0b0C"])] ∧
      Defines (.text "two") [⟨255, 136, 0⟩, ⟨10, 11, 12⟩] (.map entries) ∧
      (Value.text "two").isWritable = true ∧
      ∃ p, ofValue (.map entries) = .ok p ∧ p.size = 256 ∧
        p.colours.toList = [⟨255, 136, 0⟩, ⟨10, 11, 12⟩] ++ vgaColours.drop 2 := by
  have hshort : Colour.Spells ⟨255, 136, 0⟩ "#f80".toList :=
    .short ⟨15, 15, .inl rfl, .inl rfl, rfl⟩ ⟨8, 8, .inl rfl, .inl rfl, rfl⟩
      ⟨0, 0, .inl rfl, .inl rfl, rfl⟩
  have hlong : Colour.Spells ⟨10, 11, 12⟩ "#0A0b0C".toList :=
    .long ⟨0, 10, .inl rfl, .inr rfl, rfl⟩ ⟨0, 11, .inl rfl, .inl rfl, rfl⟩
      ⟨0, 12, .inl rfl, .inr rfl, rfl⟩
  have hdefines : Defines (.text "two") [⟨255, 136, 0⟩, ⟨10, 11, 12⟩]
      (.map [(.text "id", .text "two"),
        (.text "colors", .list (["#f80", "#0A0b0C"].map Value.text))]) :=
    .map rfl rfl (.cons hshort (.cons hlong .nil)) (by decide) (by decide)
  have hwritable : (Value.text "two").isWritable = true := rfl
  obtain ⟨p, hp, hsize, -, hlist⟩ := (loadsAsWritten _).loads _ _ hdefines hwritable
  exact ⟨_, rfl, hdefines, hwritable, p, hp, hsize, hlist⟩

end AnsiArt.Palette
