/-!
# Splitting

Texts are split at every occurrence of a separator, which leaves one piece more than there are
separators, and cut at the first or the last occurrence.

Main statements:

* `intercalate_splitAll` — joining the pieces gives the text back;
* `splitAll_append` — a separator parts the pieces in front of it from those behind it;
* `splitAll_flatMap` — splitting finds the lines of a text, if none holds the separator.
-/

namespace AnsiArt

/-- The pieces between the separators; empty ones count. -/
def splitAll {α : Type} [DecidableEq α] (separator : α) : List α → List (List α)
  | [] => [[]]
  | c :: rest =>
    if c = separator then [] :: splitAll separator rest
    else
      match splitAll separator rest with
      | [] => [[c]]
      | piece :: pieces => (c :: piece) :: pieces

/-- The parts in front of and behind the first separator. -/
def cutFirst {α : Type} [DecidableEq α] (separator : α) : List α → Option (List α × List α)
  | [] => none
  | c :: rest =>
    if c = separator then some ([], rest)
    else (cutFirst separator rest).map fun (front, behind) => (c :: front, behind)

/-- The parts in front of and behind the last separator. -/
def cutLast {α : Type} [DecidableEq α] (separator : α) (text : List α) :
    Option (List α × List α) :=
  (cutFirst separator text.reverse).map fun (behind, front) => (front.reverse, behind.reverse)

theorem splitAll_ne_nil {α : Type} [DecidableEq α] (separator : α) (text : List α) :
    splitAll separator text ≠ [] := by
  induction text with
  | nil => simp [splitAll]
  | cons c rest ih =>
    rw [splitAll]
    split
    · simp
    · split <;> simp

/-- Joining the pieces gives the text back. -/
theorem intercalate_splitAll {α : Type} [DecidableEq α] (separator : α) (text : List α) :
    [separator].intercalate (splitAll separator text) = text := by
  induction text with
  | nil => simp [splitAll, List.intercalate]
  | cons c rest ih =>
    have hne := splitAll_ne_nil separator rest
    rw [splitAll]
    cases h : splitAll separator rest with
    | nil => exact absurd h hne
    | cons piece pieces =>
      rw [h] at ih
      split
      · rename_i hc
        subst hc
        cases pieces <;> simp_all [List.intercalate, List.intersperse]
      · cases pieces <;> simp_all [List.intercalate, List.intersperse]

/-- A text without the separator is a single piece. -/
theorem splitAll_of_not_mem {α : Type} [DecidableEq α] {separator : α} {text : List α}
    (h : separator ∉ text) : splitAll separator text = [text] := by
  induction text with
  | nil => rfl
  | cons c rest ih =>
    obtain ⟨hc, hrest⟩ := List.ne_and_not_mem_of_not_mem_cons h
    rw [splitAll, if_neg hc.symm, ih hrest]

/-- A separator parts the pieces in front of it from those behind it. -/
theorem splitAll_append {α : Type} [DecidableEq α] (separator : α) (front behind : List α) :
    splitAll separator (front ++ separator :: behind) =
      splitAll separator front ++ splitAll separator behind := by
  induction front with
  | nil => simp [splitAll]
  | cons c front ih =>
    obtain ⟨piece, pieces, hfront⟩ := List.exists_cons_of_ne_nil (splitAll_ne_nil separator front)
    rw [List.cons_append, splitAll, splitAll, ih, hfront]
    -- unless it is a separator itself, the first character joins the first piece
    split <;> rfl

theorem splitAll_append_cons {α : Type} [DecidableEq α] {separator : α} {line : List α}
    (h : separator ∉ line) (rest : List α) :
    splitAll separator (line ++ separator :: rest) = line :: splitAll separator rest := by
  rw [splitAll_append, splitAll_of_not_mem h, List.singleton_append]

/-- Lines that end with the separator and do not hold it otherwise are found again by splitting, and
behind the last one there is nothing. -/
theorem splitAll_flatMap {α : Type} [DecidableEq α] {separator : α} {lines : List (List α)}
    (h : ∀ line ∈ lines, separator ∉ line) :
    splitAll separator (lines.flatMap fun line => line ++ [separator]) = lines ++ [[]] := by
  induction lines with
  | nil => rfl
  | cons line lines ih =>
    have hline : separator ∉ line := h line List.mem_cons_self
    have hlines : ∀ l ∈ lines, separator ∉ l := fun l hl => h l (List.mem_cons_of_mem _ hl)
    rw [List.flatMap_cons, List.append_assoc, List.singleton_append, splitAll_append_cons hline,
      ih hlines, List.cons_append]

/-- Splitting finds pieces again that were joined, if there are any. -/
theorem splitAll_intercalate {α : Type} [DecidableEq α] {separator : α} {pieces : List (List α)}
    (hne : pieces ≠ []) (h : ∀ piece ∈ pieces, separator ∉ piece) :
    splitAll separator ([separator].intercalate pieces) = pieces := by
  induction pieces with
  | nil => exact absurd rfl hne
  | cons piece pieces ih =>
    have hpiece := h piece List.mem_cons_self
    have hrest : ∀ p ∈ pieces, separator ∉ p := fun p hp => h p (List.mem_cons_of_mem _ hp)
    cases pieces with
    | nil => rw [List.intercalate_singleton, splitAll_of_not_mem hpiece]
    | cons piece' pieces =>
      rw [List.intercalate_cons_cons, List.append_assoc, List.singleton_append,
        splitAll_append_cons hpiece, ih (List.cons_ne_nil _ _) hrest]

/-- What is in joined pieces is in the separator or in one of the pieces. -/
theorem mem_of_mem_intercalate {α : Type} {separator : List α} {pieces : List (List α)} {a : α}
    (h : a ∈ separator.intercalate pieces) : a ∈ separator ∨ ∃ piece ∈ pieces, a ∈ piece := by
  induction pieces with
  | nil => simp at h
  | cons piece pieces ih =>
    cases pieces with
    | nil =>
      rw [List.intercalate_singleton] at h
      exact .inr ⟨piece, List.mem_cons_self, h⟩
    | cons piece' pieces =>
      rw [List.intercalate_cons_cons, List.mem_append, List.mem_append] at h
      rcases h with (h | h) | h
      · exact .inr ⟨piece, List.mem_cons_self, h⟩
      · exact .inl h
      · exact (ih h).imp_right fun ⟨p, hp, ha⟩ => ⟨p, List.mem_cons_of_mem _ hp, ha⟩

/-- No piece holds the separator. -/
theorem not_mem_of_mem_splitAll {α : Type} [DecidableEq α] {separator : α} {text piece : List α}
    (h : piece ∈ splitAll separator text) : separator ∉ piece := by
  induction text generalizing piece with
  | nil =>
    obtain rfl := List.mem_singleton.mp h
    exact List.not_mem_nil
  | cons c rest ih =>
    rw [splitAll] at h
    split at h
    · rcases List.mem_cons.mp h with rfl | h
      · exact List.not_mem_nil
      · exact ih h
    · rename_i hc
      -- the first character joins the first piece of the rest
      cases hrest : splitAll separator rest with
      | nil => exact absurd hrest (splitAll_ne_nil separator rest)
      | cons first pieces =>
        rw [hrest] at h ih
        rcases List.mem_cons.mp h with rfl | h
        · intro hmem
          rcases List.mem_cons.mp hmem with heq | hmem
          · exact hc heq.symm
          · exact ih List.mem_cons_self hmem
        · exact ih (List.mem_cons_of_mem _ h)

/-- Cutting at the first separator splits the text there, with no separator in front. -/
theorem cutFirst_eq_some {α : Type} [DecidableEq α] {separator : α} {text front behind : List α}
    (h : cutFirst separator text = some (front, behind)) :
    text = front ++ separator :: behind ∧ separator ∉ front := by
  induction text generalizing front with
  | nil => simp [cutFirst] at h
  | cons c rest ih =>
    rw [cutFirst] at h
    split at h
    · rename_i hc
      simp only [Option.some.injEq, Prod.mk.injEq] at h
      simp [← h.1, h.2, hc]
    · rename_i hc
      obtain ⟨⟨f, b⟩, hcut, heq⟩ := Option.map_eq_some_iff.mp h
      simp only [Prod.mk.injEq] at heq
      obtain ⟨rfl, rfl⟩ := heq
      obtain ⟨htext, hmem⟩ := ih hcut
      refine ⟨by rw [List.cons_append, ← htext], ?_⟩
      simp only [List.mem_cons, not_or]
      exact ⟨fun e => hc e.symm, hmem⟩

theorem cutFirst_append {α : Type} [DecidableEq α] {separator : α} {front : List α}
    (h : separator ∉ front) (behind : List α) :
    cutFirst separator (front ++ separator :: behind) = some (front, behind) := by
  induction front with
  | nil => simp [cutFirst]
  | cons c front ih =>
    obtain ⟨hc, hfront⟩ := List.ne_and_not_mem_of_not_mem_cons h
    rw [List.cons_append, cutFirst, if_neg hc.symm, ih hfront]
    rfl

/-- A text without the separator is not cut. -/
theorem cutFirst_eq_none {α : Type} [DecidableEq α] {separator : α} {text : List α}
    (h : separator ∉ text) : cutFirst separator text = none := by
  cases hcut : cutFirst separator text with
  | none => rfl
  | some cut =>
    obtain ⟨front, behind⟩ := cut
    obtain ⟨htext, -⟩ := cutFirst_eq_some hcut
    exact absurd (htext ▸ List.mem_append_right _ List.mem_cons_self) h

/-- Unless it is a separator, what is added at the end is added behind the cut. -/
theorem cutFirst_concat {α : Type} [DecidableEq α] {separator c : α} (h : c ≠ separator)
    (text : List α) :
    cutFirst separator (text ++ [c]) =
      (cutFirst separator text).map fun cut => (cut.1, cut.2 ++ [c]) := by
  induction text with
  | nil => simp [cutFirst, h]
  | cons d rest ih =>
    rw [List.cons_append, cutFirst, cutFirst, ih]
    split
    · rfl
    · cases cutFirst separator rest <;> rfl

end AnsiArt
