import AnsiArt.Proofs.Render.Documents

/-!
# Reading the style sheet of a document

A document holds its style sheet between two tags. Who cuts it out and reads it, rule by rule, finds
three rules for each colour of the palette and one for each effect. A class is written with the
number of a colour in it, and since no two numbers are written in the same way, no class has two
rules.

Main statements:

* `Markup.readsRules_stylesheet` — reading a style sheet gives the rules of the palette;
* `Markup.sheet?_document` — the style sheet is found in the document;
* `Markup.defines_colour`, `Markup.defines_effect` — each class has one rule.
-/

namespace AnsiArt

open Html

theorem Hex.toList_byte (n : Nat) : (byte n).toList = natDigits 2 n := by
  rw [byte, padded, String.toList_ofList, if_neg (Int.not_lt.mpr (Int.natCast_nonneg n)),
    Int.natAbs_natCast]

theorem Hex.eq_of_toList_byte_eq {m n : Nat} (h : (byte m).toList = (byte n).toList) : m = n := by
  rw [toList_byte, toList_byte] at h
  have hm := number?_natDigits 2 m
  rw [h, number?_natDigits] at hm
  exact (Option.some.inj hm).symm

theorem Hex.two_le_length_byte (n : Nat) : 2 ≤ (byte n).toList.length := by
  rw [toList_byte, natDigits, List.length_append, List.length_replicate]
  omega

namespace Markup

/-! ### Rules -/

/-- One rule of a style sheet: what it applies to, and what it declares there. -/
structure Rule where
  selector : List Char
  declaration : List Char
  deriving DecidableEq

/-- A rule as it is written. -/
def Rule.text (r : Rule) : List Char := r.selector ++ '\x7b' :: (r.declaration ++ ['\x7d'])

/-- What may stand between two rules. -/
def isGap (c : Char) : Bool := c == ' ' || c == '\n'

/-- The rule in front of a closing brace. -/
def rule? (piece : List Char) : Option Rule :=
  (cutFirst '\x7b' (piece.dropWhile isGap)).map fun (selector, declaration) =>
    ⟨selector, declaration⟩

/-- The rules of the pieces between closing braces. Behind the last brace there is no rule. -/
def pieceRules? : List (List Char) → Option (List Rule)
  | [] => none
  | [last] => if last.all isGap then some [] else none
  | piece :: rest => do
    let rule ← rule? piece
    return rule :: (← pieceRules? rest)

/-- Reads a style sheet; there is no result if something is left over. -/
def rules? (sheet : List Char) : Option (List Rule) := pieceRules? (splitAll '\x7d' sheet)

/-- Whatever follows, the rules of a text are read first. -/
def ReadsRules (text : List Char) (rules : List Rule) : Prop :=
  ∀ rest, rules? (text ++ rest) = (rules? rest).map (rules ++ ·)

section ReadsRules

variable {text text' : List Char} {rules rules' : List Rule}

theorem ReadsRules.nil : ReadsRules [] [] := by
  intro rest
  simp

theorem ReadsRules.append (h : ReadsRules text rules) (h' : ReadsRules text' rules') :
    ReadsRules (text ++ text') (rules ++ rules') := by
  intro rest
  rw [List.append_assoc, h, h', Option.map_map]
  simp [Function.comp_def]

theorem ReadsRules.rules?_eq (h : ReadsRules text rules) : rules? text = some rules := by
  have hread := h []
  rw [List.append_nil] at hread
  rw [hread]
  simp [rules?, splitAll, pieceRules?]

/-- A gap holds no rule and belongs to none. -/
theorem readsRules_gap {c : Char} (hgap : isGap c = true) : ReadsRules [c] [] := by
  intro rest
  have hc : c ≠ '\x7d' := by
    rintro rfl
    exact absurd hgap (by decide)
  rw [List.singleton_append, rules?, rules?, splitAll, if_neg hc]
  cases hrest : splitAll '\x7d' rest with
  | nil => exact absurd hrest (splitAll_ne_nil _ _)
  | cons piece pieces =>
    -- the gap joins the first piece, which is read without its gaps
    cases pieces with
    | nil => simp [pieceRules?, hgap]
    | cons piece' pieces => simp [pieceRules?, rule?, hgap]

/-- A rule that can be told from what is around it: its selector is a class, and no brace stands
in it. -/
structure Rule.Plain (r : Rule) : Prop where
  isClass : ∃ name, r.selector = '.' :: name
  selector : '\x7b' ∉ r.selector ∧ '\x7d' ∉ r.selector
  declaration : '\x7d' ∉ r.declaration

theorem readsRules_text {r : Rule} (h : r.Plain) : ReadsRules r.text [r] := by
  intro rest
  obtain ⟨name, hname⟩ := h.isClass
  have hbrace : '\x7d' ∉ r.selector ++ '\x7b' :: r.declaration := by
    simp [h.selector.2, h.declaration]
  have htext : r.text ++ rest = (r.selector ++ '\x7b' :: r.declaration) ++ '\x7d' :: rest := by
    simp [Rule.text]
  -- the point in front of the class is no gap
  have hdrop : (r.selector ++ '\x7b' :: r.declaration).dropWhile isGap =
      r.selector ++ '\x7b' :: r.declaration := by
    rw [hname, List.cons_append, List.dropWhile_cons_of_neg (by decide)]
  have hrule : rule? (r.selector ++ '\x7b' :: r.declaration) = some r := by
    rw [rule?, hdrop, cutFirst_append h.selector.1, Option.map_some]
  rw [htext, rules?, splitAll_append_cons hbrace, rules?]
  cases hrest : splitAll '\x7d' rest with
  | nil => exact absurd hrest (splitAll_ne_nil _ _)
  | cons piece pieces =>
    rw [pieceRules?, hrule]
    · cases pieceRules? (piece :: pieces) <;> rfl
    · simp

theorem readsRules_intercalate {gap : Char} (hgap : isGap gap = true)
    (entries : List (List Char × List Rule)) (h : ∀ e ∈ entries, ReadsRules e.1 e.2) :
    ReadsRules ([gap].intercalate (entries.map Prod.fst)) (entries.flatMap Prod.snd) := by
  induction entries with
  | nil => exact .nil
  | cons e entries ih =>
    have hfirst := h e List.mem_cons_self
    have hrest := ih fun e' he' => h e' (List.mem_cons_of_mem _ he')
    cases entries with
    | nil => simpa using hfirst
    | cons e' entries =>
      -- the gap belongs to no rule, so it can be read with the text in front of it
      have hall := (hfirst.append (readsRules_gap hgap)).append hrest
      rw [List.append_nil] at hall
      rwa [List.map_cons, List.map_cons, List.intercalate_cons_cons, ← List.map_cons,
        List.flatMap_cons]

theorem readsRules_row (rules : List Rule) (h : ∀ r ∈ rules, r.Plain) :
    ReadsRules ([' '].intercalate (rules.map Rule.text)) rules := by
  have hrow := readsRules_intercalate (show isGap ' ' = true from rfl)
    (rules.map fun r => (r.text, [r])) ?_
  · simpa [List.flatMap_map, Function.comp_def] using hrow
  · intro e he
    obtain ⟨r, hr, rfl⟩ := List.mem_map.mp he
    exact readsRules_text (h r hr)

end ReadsRules

/-! ### The rules of a palette -/

/-- The kinds of classes with the number of a colour: for characters, for the ground, and for
underlines. -/
def families : List (Char × String) :=
  [('f', "color:"), ('b', "background-color:"), ('u', "border-bottom:1px solid ")]

/-- The class of a numbered colour. -/
def colourClass (family : Char) (i : Nat) : List Char := family :: (Hex.byte i).toList

/-- What the rule of a class declares about a colour. -/
def declares (property : String) (c : Colour) : List Char := (property ++ c.hex).toList

/-- The rules of a numbered colour. -/
def rulesOfColour (i : Nat) (c : Colour) : List Rule :=
  families.map fun (family, property) => ⟨'.' :: colourClass family i, declares property c⟩

/-- The rules of the effects. -/
def rulesOfEffects : List Rule :=
  [(".i", "font-style:italic"), (".u", "border-bottom:1px solid"), (".ud", "border-bottom:3px double"),
    (".x", "text-decoration:line-through")].map
      fun (selector, declaration) => ⟨selector.toList, declaration.toList⟩

/-- The rules of a palette. -/
def sheetRules (p : Palette) : List Rule :=
  p.colours.toList.zipIdx.flatMap (fun (c, i) => rulesOfColour i c) ++ rulesOfEffects

theorem readsRules_colourRules (i : Nat) (c : Colour) :
    ReadsRules (colourRules i c).toList (rulesOfColour i c) := by
  have hopen (n : Int) : '\x7b' ∉ (Hex.byte n).toList := Hex.not_mem_byte (by decide) (by decide) n
  have hclose (n : Int) : '\x7d' ∉ (Hex.byte n).toList := Hex.not_mem_byte (by decide) (by decide) n
  have hplain : ∀ r ∈ rulesOfColour i c, r.Plain := by
    intro r hr
    obtain ⟨⟨family, property⟩, hentry, rfl⟩ := List.mem_map.mp hr
    -- a brace stands neither in a number nor in what is written around it
    have hknown : ∀ entry ∈ families,
        '\x7b' ≠ entry.1 ∧ '\x7d' ≠ entry.1 ∧ '\x7d' ∉ entry.2.toList := by decide
    obtain ⟨hfamily, hfamily', hproperty⟩ := hknown _ hentry
    refine ⟨⟨_, rfl⟩, ?_, ?_⟩
    · simp [colourClass, hopen, hclose, hfamily, hfamily']
    · simp [declares, Colour.hex, hclose, hproperty]
  have hrow := readsRules_row (rulesOfColour i c) hplain
  simpa [colourRules, rulesOfColour, families, Rule.text, colourClass, declares, toString,
    List.intercalate_cons_cons] using hrow

theorem readsRules_effectRules : ReadsRules effectRules.toList rulesOfEffects := by
  have hknown : ∀ r ∈ rulesOfEffects, r.selector.head? = some '.' ∧
      ('\x7b' ∉ r.selector ∧ '\x7d' ∉ r.selector) ∧ '\x7d' ∉ r.declaration := by decide
  have hrow := readsRules_row rulesOfEffects fun r hr => by
    obtain ⟨hhead, hselector, hdeclaration⟩ := hknown r hr
    exact ⟨⟨_, List.eq_cons_of_mem_head? hhead⟩, hselector, hdeclaration⟩
  have htext : effectRules.toList = [' '].intercalate (rulesOfEffects.map Rule.text) := by
    decide +kernel
  rwa [htext]

/-- **Reading the style sheet of a palette gives its rules.** -/
theorem readsRules_stylesheet (p : Palette) :
    ReadsRules (stylesheet p).toList (sheetRules p) := by
  have hsheet := readsRules_intercalate (show isGap '\n' = true from rfl)
    ((p.colours.toList.zipIdx.map fun (c, i) => ((colourRules i c).toList, rulesOfColour i c)) ++
      [(effectRules.toList, rulesOfEffects)]) ?_
  · rw [stylesheet, String.toList_intercalate]
    simpa [sheetRules, List.flatMap_map, Function.comp_def] using hsheet
  · intro e he
    rcases List.mem_append.mp he with he | he
    · obtain ⟨⟨c, i⟩, -, rfl⟩ := List.mem_map.mp he
      dsimp only
      exact readsRules_colourRules i c
    · obtain rfl := List.mem_singleton.mp he
      exact readsRules_effectRules

/-! ### Finding the style sheet -/

/-- The mark in front of the tag that opens the style sheet. -/
def sheetOpening : List Char := '<' :: "style".toList

/-- The tag that closes it. -/
def sheetClosing : List Char := '<' :: "/style>".toList

/-- The text inside the style sheet of a document. -/
def sheet? (document : List Char) : Option (List Char) := do
  let (_, behind) ← cutAt sheetOpening document
  let (_, behind) ← cutFirst '>' behind
  let (inside, _) ← cutAt sheetClosing behind
  return inside

/-- What stands in front of the style sheet. -/
def beforeSheet (address : String) : List Char :=
  "<!doctype html>\n".toList ++ (if address.isEmpty then "" else linkTag address).toList

/-- The style sheet with a line end in front of it and behind it. -/
def inSheet (p : Palette) : List Char := '\n' :: ((stylesheet p).toList ++ ['\n'])

theorem header_eq (p : Palette) (address : String) :
    header p address = beforeSheet address ++ (sheetOpening ++
      (" type=\"text/css\"".toList ++ '>' :: (inSheet p ++ (sheetClosing ++ ['\n'])))) := by
  have hstart : "<style type=\"text/css\">\n".toList =
      sheetOpening ++ (" type=\"text/css\"".toList ++ ['>', '\n']) := by decide +kernel
  have hend : "\n</style>\n".toList = '\n' :: (sheetClosing ++ ['\n']) := by decide +kernel
  unfold header beforeSheet inSheet
  simp only [hstart, hend, List.append_assoc, List.cons_append, List.nil_append]

theorem skips_beforeSheet (address : String) : Skips sheetOpening (beforeSheet address) := by
  -- neither the document type nor a link opens a style sheet
  have hdoctype : Skips sheetOpening ('<' :: "!doctype html>\n".toList) :=
    skips_of_not_prefix (by decide) (by decide) (by decide)
  refine hdoctype.append ?_
  split
  · exact Skips.nil _
  · exact skips_linkTag (by decide) (by decide) address

/-- **The style sheet is found in the document.** -/
theorem sheet?_document (c : Canvas) (p : Palette) (address : String) :
    sheet? (document c p address).toList = some (inSheet p) := by
  have hinside : Skips sheetClosing (inSheet p) := by
    refine skips_of_not_mem ?_
    simp [inSheet, lessThan_not_mem_stylesheet]
  rw [sheet?, toList_document, header_eq]
  simp only [List.append_assoc, List.cons_append, Option.bind_eq_bind]
  rw [cutAt_append (by decide) (skips_beforeSheet address), Option.bind_some,
    cutFirst_append (by decide), Option.bind_some, cutAt_append (by decide) hinside,
    Option.bind_some]
  rfl

/-- **Reading the style sheet that is found gives the rules of the palette.** -/
theorem exists_rules?_document (c : Canvas) (p : Palette) (address : String) :
    ∃ sheet, sheet? (document c p address).toList = some sheet ∧
      rules? sheet = some (sheetRules p) := by
  refine ⟨_, sheet?_document c p address, ReadsRules.rules?_eq ?_⟩
  have hgap : ReadsRules ['\n'] [] := readsRules_gap rfl
  have hsheet := hgap.append ((readsRules_stylesheet p).append hgap)
  rwa [List.nil_append, List.append_nil] at hsheet

/-! ### Which rules a class has -/

/-- Among the rules there is one for a class and no second one. -/
def Defines (rules : List Rule) (name declaration : List Char) : Prop :=
  rules.filter (·.selector = '.' :: name) = [⟨'.' :: name, declaration⟩]

theorem length_colourClass (family : Char) (i : Nat) : 3 ≤ (colourClass family i).length :=
  Nat.succ_le_succ (Hex.two_le_length_byte i)

theorem colourClass_inj {family family' : Char} {i k : Nat} :
    colourClass family i = colourClass family' k ↔ family = family' ∧ i = k := by
  refine ⟨fun h => ?_, ?_⟩
  · obtain ⟨hfamily, hbyte⟩ := List.cons.inj h
    exact ⟨hfamily, Hex.eq_of_toList_byte_eq hbyte⟩
  · rintro ⟨rfl, rfl⟩
    rfl

/-- Among the rules of one colour, those of a class with the number of another do not occur. -/
theorem filter_rulesOfColour {family : Char} {property : String}
    (h : (family, property) ∈ families) (i k : Nat) (c : Colour) :
    (rulesOfColour i c).filter (·.selector = '.' :: colourClass family k) =
      if i = k then [⟨'.' :: colourClass family k, declares property c⟩] else [] := by
  have hfamilies : family = 'f' ∧ property = "color:" ∨
      family = 'b' ∧ property = "background-color:" ∨
        family = 'u' ∧ property = "border-bottom:1px solid " := by
    simpa [families] using h
  by_cases hi : i = k
  · subst hi
    -- of its three rules one has the letter of the family
    rcases hfamilies with ⟨rfl, rfl⟩ | ⟨rfl, rfl⟩ | ⟨rfl, rfl⟩ <;>
      simp [rulesOfColour, families, colourClass_inj]
  · simp [rulesOfColour, families, colourClass_inj, hi]

/-- Of all colours only the one of a number has that number. -/
theorem flatMap_zipIdx_ite {α β : Type} (g : α → β) (items : List α) {first k : Nat}
    (h : first ≤ k) :
    ((items.zipIdx first).flatMap fun (a, i) => if i = k then [g a] else []) =
      (items[k - first]?.map g).toList := by
  induction items generalizing first with
  | nil => rfl
  | cons a items ih =>
    rw [List.zipIdx_cons, List.flatMap_cons]
    rcases Nat.eq_or_lt_of_le h with rfl | hlt
    · -- all others have greater numbers
      have hrest : (items.zipIdx (first + 1)).flatMap
          (fun (a, i) => if i = first then [g a] else []) = [] := by
        refine List.flatMap_eq_nil_iff.mpr fun ⟨b, i⟩ hmem => if_neg ?_
        have := List.le_snd_of_mem_zipIdx hmem
        exact Nat.ne_of_gt this
      simp [hrest]
    · have hnext : k - first = k - (first + 1) + 1 := by omega
      dsimp only
      rw [if_neg (Nat.ne_of_lt hlt), ih hlt, hnext, List.getElem?_cons_succ, List.nil_append]

/-- **The class of a numbered colour has one rule, which declares that colour.** -/
theorem defines_colour {p : Palette} {family : Char} {property : String}
    (h : (family, property) ∈ families) {k : Nat} {c : Colour} (hc : p.colours[k]? = some c) :
    Defines (sheetRules p) (colourClass family k) (declares property c) := by
  have heffects : rulesOfEffects.filter (·.selector = '.' :: colourClass family k) = [] := by
    -- the names of effects are shorter than any class with a number
    have hshort : ∀ r ∈ rulesOfEffects, r.selector.length ≤ 3 := by decide
    refine List.filter_eq_nil_iff.mpr fun r hr heq => ?_
    have hlength := hshort r hr
    rw [of_decide_eq_true heq, List.length_cons] at hlength
    exact absurd (length_colourClass family k) (by omega)
  have hcolours := flatMap_zipIdx_ite
    (fun c => (⟨'.' :: colourClass family k, declares property c⟩ : Rule)) p.colours.toList
    (Nat.zero_le k)
  rw [Defines, sheetRules, List.filter_append, heffects, List.append_nil, List.filter_flatMap]
  simp only [filter_rulesOfColour h]
  rw [hcolours, Nat.sub_zero, Array.getElem?_toList, hc]
  rfl

/-- The classes of the effects. -/
def effectNames : List (List Char) := ["i".toList, "ud".toList, "x".toList]

/-- **The class of an effect has one rule.** -/
theorem defines_effect (p : Palette) {name : List Char} (h : name ∈ effectNames) :
    ∃ declaration, Defines (sheetRules p) name declaration := by
  have hshort : ∀ name ∈ effectNames, name.length ≤ 2 := by decide
  have hlength := hshort name h
  have hcolours : (p.colours.toList.zipIdx.flatMap fun (c, i) => rulesOfColour i c).filter
      (·.selector = '.' :: name) = [] := by
    refine List.filter_eq_nil_iff.mpr fun r hr heq => ?_
    obtain ⟨⟨c, i⟩, -, hr⟩ := List.mem_flatMap.mp hr
    obtain ⟨⟨family, property⟩, -, rfl⟩ := List.mem_map.mp hr
    obtain rfl : colourClass family i = name := (List.cons.inj (of_decide_eq_true heq)).2
    exact absurd (length_colourClass family i) (by omega)
  have heffects : ∃ declaration, rulesOfEffects.filter (·.selector = '.' :: name) =
      [⟨'.' :: name, declaration⟩] := by
    rcases List.mem_cons.mp h with rfl | h
    · exact ⟨"font-style:italic".toList, by decide⟩
    rcases List.mem_cons.mp h with rfl | h
    · exact ⟨"border-bottom:3px double".toList, by decide⟩
    · obtain rfl := List.mem_singleton.mp h
      exact ⟨"text-decoration:line-through".toList, by decide⟩
  obtain ⟨declaration, heffects⟩ := heffects
  exact ⟨declaration, by rw [Defines, sheetRules, List.filter_append, hcolours, heffects]; rfl⟩

end Markup

end AnsiArt
