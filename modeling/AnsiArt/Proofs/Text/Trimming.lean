import AnsiArt.Text.CharClass
import AnsiArt.Text.Split
import Mathlib.Data.List.Induction
import Mathlib.Data.List.Infix

/-!
# Trimming

A text is trimmed from both ends, one character after another. So whatever a single character at
either end makes no difference to, trimming makes no difference to (`apply_trimWith`). With that it
can be said when a text may be trimmed before it is split, where a separator may be one of the
characters that are dropped (`flatMap_splitAll_trim`).
-/

namespace AnsiArt

variable {p : Char → Bool} {c : Char}

/-! ### One character at an end -/

theorem trimWith_cons (h : p c = true) (text : List Char) :
    trimWith p (c :: text) = trimWith p text := by
  rw [trimWith, List.dropWhile_cons_of_pos h, trimWith]

theorem trimWith_concat (h : p c = true) (text : List Char) :
    trimWith p (text ++ [c]) = trimWith p text := by
  rw [trimWith, trimWith, List.dropWhile_append]
  split
  · next hall =>
    -- the text is dropped whole, and the character behind it as well
    rw [List.isEmpty_iff.mp hall, List.dropWhile_cons_of_pos h]
    rfl
  · rw [List.reverse_append, List.reverse_singleton, List.singleton_append,
      List.dropWhile_cons_of_pos h]

/-- **What is the same without a dropped character at either end is the same for a trimmed text.** -/
theorem apply_trimWith {β : Type} {f : List Char → β}
    (front : ∀ c text, p c = true → f (c :: text) = f text)
    (back : ∀ c text, p c = true → f (text ++ [c]) = f text) (text : List Char) :
    f (trimWith p text) = f text := by
  have hfront : f (text.dropWhile p) = f text := by
    induction text with
    | nil => rfl
    | cons c rest ih =>
      by_cases hc : p c = true
      · rw [List.dropWhile_cons_of_pos hc, ih, front c rest hc]
      · rw [List.dropWhile_cons_of_neg hc]
  have hback : ∀ text, f (text.reverse.dropWhile p).reverse = f text := by
    intro text
    induction text using List.reverseRecOn with
    | nil => rfl
    | append_singleton rest c ih =>
      rw [List.reverse_append, List.reverse_singleton, List.singleton_append]
      by_cases hc : p c = true
      · rw [List.dropWhile_cons_of_pos hc, ih, back c rest hc]
      · rw [List.dropWhile_cons_of_neg hc, List.reverse_cons, List.reverse_reverse]
  rw [trimWith, hback, hfront]

/-- What is left of a text is a part of it. -/
theorem trimWith_isInfix (p : Char → Bool) (text : List Char) : trimWith p text <:+: text := by
  have hback : (text.dropWhile p).reverse.dropWhile p <:+ (text.dropWhile p).reverse :=
    List.dropWhile_suffix p
  have hfront : trimWith p text <+: text.dropWhile p := by
    rwa [← List.reverse_suffix, trimWith, List.reverse_reverse]
  exact hfront.isInfix.trans (List.dropWhile_suffix p).isInfix

/-- A text with nothing to drop at either end is left as it is. -/
theorem trimWith_eq_self {text : List Char} (hhead : ∀ c ∈ text.head?, p c = false)
    (hlast : ∀ c ∈ text.getLast?, p c = false) : trimWith p text = text := by
  have hdrop : ∀ text : List Char, (∀ c ∈ text.head?, p c = false) → text.dropWhile p = text := by
    intro text h
    cases text with
    | nil => rfl
    | cons c rest => exact List.dropWhile_cons_of_neg (by simp [h c rfl])
  rw [trimWith, hdrop text hhead, hdrop text.reverse (by rwa [List.head?_reverse]),
    List.reverse_reverse]

/-! ### Trimming before splitting -/

section Splitting

variable {separator : Char}

/-- Unless it is a separator, a character in front joins the first piece. -/
theorem splitAll_cons (h : c ≠ separator) (text : List Char) :
    ∃ first rest, splitAll separator text = first :: rest ∧
      splitAll separator (c :: text) = (c :: first) :: rest := by
  obtain ⟨first, rest, htext⟩ := List.exists_cons_of_ne_nil (splitAll_ne_nil separator text)
  refine ⟨first, rest, htext, ?_⟩
  rw [splitAll, if_neg h, htext]

/-- Unless it is a separator, a character behind joins the last piece. -/
theorem splitAll_concat (h : c ≠ separator) (text : List Char) :
    ∃ front last, splitAll separator text = front ++ [last] ∧
      splitAll separator (text ++ [c]) = front ++ [last ++ [c]] := by
  induction text with
  | nil => exact ⟨[], [], rfl, by simp [splitAll, h]⟩
  | cons d rest ih =>
    obtain ⟨front, last, hrest, hmore⟩ := ih
    by_cases hd : d = separator
    · refine ⟨[] :: front, last, ?_, ?_⟩
      · rw [splitAll, if_pos hd, hrest, List.cons_append]
      · rw [List.cons_append, splitAll, if_pos hd, hmore, List.cons_append]
    · rw [List.cons_append, splitAll, splitAll, if_neg hd, if_neg hd, hrest, hmore]
      -- the character in front joins the last piece if that is the only one
      cases front with
      | nil => exact ⟨[], d :: last, rfl, rfl⟩
      | cons first more => exact ⟨(d :: first) :: more, last, rfl, rfl⟩

variable {β : Type} {f : List Char → List β}

/-- **A text may be trimmed before it is split** if blanks at the ends of a piece make no difference
to what is taken from it, and nothing is taken from an empty piece. -/
theorem flatMap_splitAll_trim (hempty : f [] = [])
    (hfront : ∀ c piece, isBlank c = true → f (c :: piece) = f piece)
    (hback : ∀ c piece, isBlank c = true → f (piece ++ [c]) = f piece) (text : List Char) :
    (splitAll separator (trim text)).flatMap f = (splitAll separator text).flatMap f := by
  refine apply_trimWith (f := fun text => (splitAll separator text).flatMap f) ?_ ?_ text
  · intro c text hc
    by_cases hseparator : c = separator
    · simp only [splitAll, if_pos hseparator, List.flatMap_cons, hempty, List.nil_append]
    · obtain ⟨first, rest, htext, hmore⟩ := splitAll_cons hseparator text
      simp only [htext, hmore, List.flatMap_cons, hfront c first hc]
  · intro c text hc
    by_cases hseparator : c = separator
    · subst hseparator
      simp only [splitAll_append, splitAll, List.flatMap_append, List.flatMap_singleton, hempty,
        List.append_nil]
    · obtain ⟨front, last, htext, hmore⟩ := splitAll_concat hseparator text
      simp only [htext, hmore, List.flatMap_append, List.flatMap_singleton, hback c last hc]

end Splitting

end AnsiArt
