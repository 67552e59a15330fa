import AnsiArt.Proofs.Fonts.Resolution
import AnsiArt.Proofs.Text.Trimming

/-!
# Reading a listing of fonts

A listing is written line by line, each line a path, a colon and a blank, and names with commas
between them (`FontListing.Line`). Names may hold colons, and lines that hold none may stand anywhere.
The table that is read from such a listing has the names in the order in which they are mentioned
first, each with the path of the last line that mentions it.

Reading goes the way of writing backwards: the text is split into lines, a line at its first colon,
the names at the commas, and each time blanks are trimmed, which by `flatMap_splitAll_trim` costs
nothing. What is left is a row of entries, and of that row the table keeps the first places and the
last paths.

Main statements:

* `FontTable.ofText_write` — a listing is read as the entries of its lines;
* `FontTable.keys_ofEntries`, `FontTable.lookup_ofEntries` — first places and last paths;
* `FontTable.readsBack_ofListing` — what is found in the table of a listing.
-/

namespace AnsiArt

/-! ### Listings -/

namespace FontListing

/-- A line of a listing: a font with the names of its families, or a text without a colon. -/
inductive Line
  | font (path : String) (families : List String)
  | other (text : String)

/-- A name that can stand in a listing: it is not empty, has no blank at either end, and does not
break the line. -/
structure IsName (name : String) : Prop where
  ne_nil : name.toList ≠ []
  head : ∀ c ∈ name.toList.head?, isBlank c = false
  last : ∀ c ∈ name.toList.getLast?, isBlank c = false
  unbroken : '\n' ∉ name.toList

instance (name : String) : Decidable (IsName name) :=
  -- asked of the option and not of all characters
  letI (end? : Option Char) : Decidable (∀ c ∈ end?, isBlank c = false) := end?.decidableForallMem
  decidable_of_iff
    (name.toList ≠ [] ∧ (∀ c ∈ name.toList.head?, isBlank c = false) ∧
      (∀ c ∈ name.toList.getLast?, isBlank c = false) ∧ '\n' ∉ name.toList)
    ⟨fun ⟨h₁, h₂, h₃, h₄⟩ => ⟨h₁, h₂, h₃, h₄⟩, fun ⟨h₁, h₂, h₃, h₄⟩ => ⟨h₁, h₂, h₃, h₄⟩⟩

namespace Line

/-- The names in a line. -/
def families : Line → List String
  | font _ families => families
  | other _ => []

/-- The names in a line with the path of the line. -/
def entries : Line → List (String × String)
  | font path families => families.map (·, path)
  | other _ => []

/-- Whether a line is about a font. -/
def isFont : Line → Bool
  | font _ _ => true
  | other _ => false

/-- A line as it is written. -/
def text : Line → String
  | font path families => path ++ ": " ++ ",".intercalate families
  | other text => text

/-- A line that is what it looks like: a path without a colon and names without a comma, or no colon
at all. -/
def Proper : Line → Prop
  | font path families =>
    (IsName path ∧ ':' ∉ path.toList) ∧ ∀ f ∈ families, IsName f ∧ ',' ∉ f.toList
  | other text => ':' ∉ text.toList ∧ '\n' ∉ text.toList

instance : (line : Line) → Decidable line.Proper
  | font path families => inferInstanceAs (Decidable ((IsName path ∧ ':' ∉ path.toList) ∧
      ∀ f ∈ families, IsName f ∧ ',' ∉ f.toList))
  | other text => inferInstanceAs (Decidable (':' ∉ text.toList ∧ '\n' ∉ text.toList))

end Line

/-- Lines as they are written, one after another. -/
def write (lines : List Line) : String := "\n".intercalate (lines.map Line.text)

/-- The names in a listing, each at the place where it is mentioned first. -/
def mentioned (lines : List Line) : List String := (lines.flatMap Line.families).eraseDups

/-- The path of the last line that mentions a name. -/
def LastPath (lines : List Line) (family path : String) : Prop :=
  ∃ front families behind, lines = front ++ Line.font path families :: behind ∧
    family ∈ families ∧ ∀ line ∈ behind, family ∉ line.families

end FontListing

namespace FontTable

open FontListing

/-! ### Reading a line -/

/-- The names in the part of a line behind the colon. -/
def namesIn (text : List Char) : List (List Char) :=
  ((splitAll ',' text).map trim).filter (· ≠ [])

theorem namesIn_trim (text : List Char) : namesIn (trim text) = namesIn text := by
  have hflat : ∀ text, namesIn text =
      (splitAll ',' text).flatMap fun piece => [trim piece].filter (· ≠ []) := by
    intro text
    rw [namesIn, List.map_eq_flatMap, List.filter_flatMap]
  rw [hflat, hflat]
  refine flatMap_splitAll_trim (by decide) (fun c piece hc => ?_) (fun c piece hc => ?_) text
  · rw [trim, trimWith_cons hc, trim]
  · rw [trim, trimWith_concat hc, trim]

theorem entriesOf_eq (line : List Char) :
    entriesOf line =
      match cutFirst ':' line with
      | none => []
      | some (front, behind) =>
        if trim front = [] then []
        else (namesIn behind).map fun f => (String.ofList f, String.ofList (trim front)) := by
  rw [entriesOf]
  cases cutFirst ':' line with
  | none => rfl
  | some cut =>
    have hnames : ((splitAll ',' (trim cut.2)).map trim).filter (· ≠ []) = namesIn cut.2 :=
      namesIn_trim cut.2
    simp only [hnames]

theorem ne_colon_of_isBlank {c : Char} (h : isBlank c = true) : c ≠ ':' := by
  rintro rfl
  exact absurd h (by decide)

/-- A blank in front of a line makes no difference, whether it belongs to the path or the line has no
colon. -/
theorem entriesOf_cons {c : Char} (h : isBlank c = true) (line : List Char) :
    entriesOf (c :: line) = entriesOf line := by
  rw [entriesOf_eq, entriesOf_eq, cutFirst, if_neg (ne_colon_of_isBlank h)]
  cases cutFirst ':' line with
  | none => rfl
  | some cut =>
    have hpath : trim (c :: cut.1) = trim cut.1 := trimWith_cons h cut.1
    simp only [Option.map_some]
    rw [hpath]

/-- A blank behind a line makes no difference, whether it belongs to the names or the line has no
colon. -/
theorem entriesOf_concat {c : Char} (h : isBlank c = true) (line : List Char) :
    entriesOf (line ++ [c]) = entriesOf line := by
  rw [entriesOf_eq, entriesOf_eq, cutFirst_concat (ne_colon_of_isBlank h)]
  cases cutFirst ':' line with
  | none => rfl
  | some cut =>
    have hnames : namesIn (cut.2 ++ [c]) = namesIn cut.2 := by
      rw [← namesIn_trim, trim, trimWith_concat h, ← trim, namesIn_trim]
    simp only [Option.map_some, hnames]

theorem trim_name {name : String} (h : IsName name) : trim name.toList = name.toList :=
  trimWith_eq_self h.head h.last

/-- The names of a line are found again between the commas. -/
theorem namesIn_intercalate {families : List String}
    (h : ∀ f ∈ families, IsName f ∧ ',' ∉ f.toList) :
    namesIn ([','].intercalate (families.map String.toList)) = families.map String.toList := by
  cases families with
  | nil => decide
  | cons first rest =>
    have hcommas : ∀ piece ∈ (first :: rest).map String.toList, ',' ∉ piece := by
      intro piece hpiece
      obtain ⟨f, hf, rfl⟩ := List.mem_map.mp hpiece
      exact (h f hf).2
    have htrim : ((first :: rest).map String.toList).map trim =
        (first :: rest).map String.toList := by
      rw [List.map_map]
      exact List.map_congr_left fun f hf => trim_name (h f hf).1
    rw [namesIn, splitAll_intercalate (by simp) hcommas, htrim, List.filter_eq_self]
    intro piece hpiece
    obtain ⟨f, hf, rfl⟩ := List.mem_map.mp hpiece
    exact decide_eq_true (h f hf).1.ne_nil

/-- **A line is read as its names with its path.** -/
theorem entriesOf_text {line : Line} (h : line.Proper) : entriesOf line.text.toList = line.entries := by
  cases line with
  | other text =>
    rw [entriesOf_eq, Line.text, cutFirst_eq_none h.1]
    rfl
  | font path families =>
    obtain ⟨⟨hpath, hcolon⟩, hfamilies⟩ := h
    have htext : (Line.font path families).text.toList =
        path.toList ++ ':' :: ' ' :: [','].intercalate (families.map String.toList) := by
      simp [Line.text, String.toList_append, String.toList_intercalate]
    have hblank : isBlank ' ' = true := by decide
    have hnames : namesIn (' ' :: [','].intercalate (families.map String.toList)) =
        families.map String.toList := by
      rw [← namesIn_trim, trim, trimWith_cons hblank, ← trim, namesIn_trim,
        namesIn_intercalate hfamilies]
    rw [entriesOf_eq, htext, cutFirst_append hcolon]
    simp only [trim_name hpath, if_neg hpath.ne_nil, hnames, Line.entries, List.map_map]
    exact List.map_congr_left fun f _ => by simp

/-! ### Reading a text -/

theorem unbroken_text {line : Line} (h : line.Proper) : '\n' ∉ line.text.toList := by
  cases line with
  | other text => exact h.2
  | font path families =>
    obtain ⟨⟨hpath, -⟩, hfamilies⟩ := h
    intro hmem
    simp only [Line.text, String.toList_append, String.toList_intercalate, List.mem_append] at hmem
    rcases hmem with (hmem | hmem) | hmem
    · exact hpath.unbroken hmem
    · exact absurd hmem (by decide)
    · rcases mem_of_mem_intercalate hmem with hmem | ⟨piece, hpiece, hmem⟩
      · exact absurd hmem (by decide)
      · obtain ⟨f, hf, rfl⟩ := List.mem_map.mp hpiece
        exact (hfamilies f hf).1.unbroken hmem

/-- **A listing is read as the entries of its lines**, one line after another. -/
theorem ofText_write {lines : List Line} (h : ∀ line ∈ lines, line.Proper) :
    ofText (write lines) = ofEntries (lines.flatMap Line.entries) := by
  have htext : (write lines).toList = ['\n'].intercalate (lines.map fun line => line.text.toList) := by
    rw [write, String.toList_intercalate, List.map_map]
    rfl
  have hlines : (splitAll '\n' (write lines).toList).flatMap entriesOf =
      lines.flatMap Line.entries := by
    cases lines with
    | nil => rfl
    | cons first rest =>
      have hbreaks : ∀ piece ∈ (first :: rest).map fun line => line.text.toList, '\n' ∉ piece := by
        intro piece hpiece
        obtain ⟨line, hline, rfl⟩ := List.mem_map.mp hpiece
        exact unbroken_text (h line hline)
      rw [htext, splitAll_intercalate (by simp) hbreaks, List.flatMap_map]
      exact List.flatMap_congr fun line hline => entriesOf_text (h line hline)
  have hempty : entriesOf [] = [] := by decide
  rw [ofText, flatMap_splitAll_trim hempty (fun c line hc => entriesOf_cons hc line)
    (fun c line hc => entriesOf_concat hc line), hlines]

/-! ### First places and last paths -/

theorem lookup_cons_eq_ite (family path f : String) (t : FontTable) :
    List.lookup f ((family, path) :: t) = if f = family then some path else t.lookup f := by
  by_cases h : f = family
  · subst h
    rw [List.lookup_cons_self, if_pos rfl]
  · have hne : (f == family) = false := beq_false_of_ne h
    rw [List.lookup_cons, hne, if_neg h]

theorem lookup_insert (family path f : String) (t : FontTable) :
    (insert family path t).lookup f = if f = family then some path else t.lookup f := by
  induction t with
  | nil => exact lookup_cons_eq_ite family path f []
  | cons e rest ih =>
    obtain ⟨g, old⟩ := e
    rw [insert]
    by_cases hg : g = family
    · subst hg
      rw [if_pos rfl, lookup_cons_eq_ite, lookup_cons_eq_ite]
      -- the old path is behind the new one
      split <;> rfl
    · rw [if_neg hg, lookup_cons_eq_ite, lookup_cons_eq_ite, ih]
      by_cases h : f = g
      · rw [if_pos h, if_pos h, if_neg fun hf => hg (h.symm.trans hf)]
      · rw [if_neg h, if_neg h]

/-- A family that is there already keeps its place, and a new one goes to the end. -/
theorem keys_insert (family path : String) (t : FontTable) :
    (insert family path t).map Prod.fst =
      if family ∈ t.map Prod.fst then t.map Prod.fst else t.map Prod.fst ++ [family] := by
  induction t with
  | nil => rfl
  | cons e rest ih =>
    obtain ⟨g, old⟩ := e
    rw [insert]
    by_cases hg : g = family
    · simp [hg]
    · rw [if_neg hg, List.map_cons, ih, List.map_cons]
      by_cases hmem : family ∈ rest.map Prod.fst
      · rw [if_pos hmem, if_pos (List.mem_cons_of_mem _ hmem)]
      · have hnew : family ∉ g :: rest.map Prod.fst := by
          rw [List.mem_cons, not_or]
          exact ⟨Ne.symm hg, hmem⟩
        rw [if_neg hmem, if_neg hnew, List.cons_append]

theorem ofEntries_append_singleton (entries : List (String × String)) (e : String × String) :
    ofEntries (entries ++ [e]) = insert e.1 e.2 (ofEntries entries) := by
  rw [ofEntries, List.foldl_append]
  rfl

/-- **The families of a table are those of the entries, each at its first place.** -/
theorem keys_ofEntries (entries : List (String × String)) :
    (ofEntries entries).map Prod.fst = (entries.map Prod.fst).eraseDups := by
  induction entries using List.reverseRecOn with
  | nil => rfl
  | append_singleton entries e ih =>
    rw [ofEntries_append_singleton, keys_insert, ih, List.map_append, List.map_singleton,
      eraseDups_append_singleton]
    simp only [List.mem_eraseDups]

/-- **The path of a family is that of its last entry.** -/
theorem lookup_ofEntries (entries : List (String × String)) (family : String) :
    (ofEntries entries).lookup family = entries.reverse.lookup family := by
  induction entries using List.reverseRecOn with
  | nil => rfl
  | append_singleton entries e ih =>
    rw [ofEntries_append_singleton, lookup_insert, ih, List.reverse_append, List.reverse_singleton,
      List.singleton_append]
    exact (lookup_cons_eq_ite e.1 e.2 family _).symm

end FontTable

namespace FontListing

variable {lines : List Line} {family path : String}

theorem map_fst_entries (line : Line) : line.entries.map Prod.fst = line.families := by
  cases line with
  | other text => rfl
  | font path families =>
    rw [Line.entries, List.map_map]
    exact List.map_id families

theorem mem_mentioned_iff : family ∈ mentioned lines ↔ ∃ line ∈ lines, family ∈ line.families := by
  rw [mentioned, List.mem_eraseDups, List.mem_flatMap]

/-- The last line that mentions a name is the last line or the last of those in front of it. -/
theorem lastPath_concat_iff {line : Line} :
    LastPath (lines ++ [line]) family path ↔
      (∃ families, line = .font path families ∧ family ∈ families) ∨
        family ∉ line.families ∧ LastPath lines family path := by
  constructor
  · rintro ⟨front, families, behind, heq, hmem, hbehind⟩
    rcases List.eq_nil_or_concat behind with rfl | ⟨more, last, rfl⟩
    · obtain ⟨-, hlast⟩ := List.append_inj' heq rfl
      exact .inl ⟨families, (List.cons.inj hlast).1, hmem⟩
    · rw [List.concat_eq_append, ← List.cons_append, ← List.append_assoc] at heq
      obtain ⟨hlines, hlast⟩ := List.append_inj' heq rfl
      obtain rfl : line = last := (List.cons.inj hlast).1
      rw [List.concat_eq_append] at hbehind
      refine .inr ⟨hbehind line (by simp), front, families, more, hlines, hmem, fun l hl => ?_⟩
      exact hbehind l (List.mem_append_left _ hl)
  · rintro (⟨families, rfl, hmem⟩ | ⟨hnot, front, families, behind, rfl, hmem, hbehind⟩)
    · exact ⟨lines, families, [], rfl, hmem, List.forall_mem_nil _⟩
    · refine ⟨front, families, behind ++ [line], by simp, hmem, fun l hl => ?_⟩
      rcases List.mem_append.mp hl with hl | hl
      · exact hbehind l hl
      · exact List.mem_singleton.mp hl ▸ hnot

/-- All names of a line have its path. -/
theorem lookup_reverse_entries_font (families : List String) :
    (Line.font path families).entries.reverse.lookup family =
      if family ∈ families then some path else none := by
  have hreverse : (Line.font path families).entries.reverse = families.reverse.map (·, path) := by
    rw [Line.entries, List.map_reverse]
  have hmem : family ∈ families ↔ family ∈ families.reverse := List.mem_reverse.symm
  rw [hreverse]
  simp only [hmem]
  induction families.reverse with
  | nil => rfl
  | cons first rest ih =>
    rw [List.map_cons, FontTable.lookup_cons_eq_ite, ih]
    by_cases h : family = first
    · rw [if_pos h, if_pos (h ▸ List.mem_cons_self)]
    · rw [if_neg h]
      simp only [List.mem_cons, h, false_or]

/-- The last entry of a name comes from the last line that mentions it. -/
theorem lookup_reverse_entries_iff :
    (lines.flatMap Line.entries).reverse.lookup family = some path ↔
      LastPath lines family path := by
  induction lines using List.reverseRecOn with
  | nil =>
    constructor
    · nofun
    · rintro ⟨front, families, behind, heq, -⟩
      exact absurd heq.symm (by simp)
  | append_singleton lines line ih =>
    rw [lastPath_concat_iff, ← ih, List.flatMap_append, List.flatMap_singleton, List.reverse_append,
      List.lookup_append]
    cases line with
    | other text => simp [Line.entries, Line.families]
    | font path' families =>
      rw [lookup_reverse_entries_font]
      by_cases hmem : family ∈ families
      · -- the names in front of the last line are of no account
        simp [hmem, Line.families]
      · simp [hmem, Line.families]

end FontListing

namespace FontTable

open FontListing

/-! ### Looking up -/

theorem containsText_iff {part text : List Char} : containsText part text = true ↔ part <:+: text := by
  induction text with
  | nil => simp [containsText]
  | cons c rest ih =>
    rw [containsText, Bool.or_eq_true, ih, List.isPrefixOf_iff_prefix, List.infix_cons_iff]

/-- Whether a name contains another, whatever the letter case. -/
def Matches (family named : String) : Prop := (toLower family).toList <:+: (toLower named).toList

theorem matches_self (family : String) : Matches family family := List.infix_rfl

theorem containsText_iff_matches {family named : String} :
    containsText (toLower family).toList (toLower named).toList = true ↔ Matches family named :=
  containsText_iff

theorem pathOf?_of_lookup {t : FontTable} {family path : String}
    (h : t.lookup family = some path) : t.pathOf? family = some path := by
  rw [pathOf?, h]

variable {t : FontTable} {family named path : String} {front behind : List String}

/-- A family that is not there is looked for by name, from the first family to the last. -/
theorem pathOf?_of_lookup_eq_none (h : t.lookup family = none) :
    t.pathOf? family =
      (t.find? fun e => containsText (toLower family).toList (toLower e.1).toList).map Prod.snd := by
  rw [pathOf?, h]

theorem lookup_eq_none_of_not_mem (h : family ∉ t.map Prod.fst) : t.lookup family = none := by
  rw [List.lookup_eq_none_iff]
  intro e he
  exact bne_iff_ne.mpr fun heq => h (heq ▸ List.mem_map_of_mem he)

/-- **A family that is not there gives way to the first one whose name contains it.** -/
theorem pathOf?_of_matches (h : family ∉ t.map Prod.fst)
    (hkeys : t.map Prod.fst = front ++ named :: behind)
    (hfront : ∀ name ∈ front, ¬Matches family name) (hnamed : Matches family named)
    (hpath : t.lookup named = some path) : t.pathOf? family = some path := by
  obtain ⟨before, rest, rfl, hbefore, hrest⟩ := List.map_eq_append_iff.mp hkeys
  obtain ⟨e, after, rfl, rfl, -⟩ := List.map_eq_cons_iff.mp hrest
  have hnone : ∀ e' ∈ before, ¬Matches family e'.1 := fun e' he' =>
    hfront e'.1 (hbefore ▸ List.mem_map_of_mem he')
  -- the entry that is found is the first one of its name
  have hfirst : e.2 = path := by
    have hnew : e.1 ∉ before.map Prod.fst := fun hmem => hfront e.1 (hbefore ▸ hmem) hnamed
    rw [List.lookup_append, lookup_eq_none_of_not_mem hnew, Option.none_or, lookup_cons_eq_ite,
      if_pos rfl] at hpath
    exact Option.some.inj hpath
  rw [pathOf?_of_lookup_eq_none (lookup_eq_none_of_not_mem h), Option.map_eq_some_iff]
  refine ⟨e, List.find?_eq_some_iff_append.mpr ⟨?_, before, after, rfl, fun e' he' => ?_⟩, hfirst⟩
  · exact containsText_iff_matches.mpr hnamed
  · rw [Bool.not_eq_true', Bool.eq_false_iff]
    exact fun hcontains => hnone e' he' (containsText_iff_matches.mp hcontains)

/-- If no name contains a family, nothing is found for it. -/
theorem pathOf?_eq_none (h : ∀ name ∈ t.map Prod.fst, ¬Matches family name) :
    t.pathOf? family = none := by
  have hnew : family ∉ t.map Prod.fst := fun hmem => h family hmem (matches_self family)
  rw [pathOf?_of_lookup_eq_none (lookup_eq_none_of_not_mem hnew), Option.map_eq_none_iff,
    List.find?_eq_none]
  intro e he hcontains
  exact h e.1 (List.mem_map_of_mem he) (containsText_iff_matches.mp hcontains)

/-! ### The table of a listing -/

/-- What is found in a table if it is that of the lines. -/
structure ReadsBack (lines : List Line) (t : FontTable) : Prop where
  /-- The families are the names mentioned in the lines, in the order of their first mention. -/
  keys_eq : t.map Prod.fst = mentioned lines
  mem_mentioned_iff (family : String) :
    family ∈ mentioned lines ↔ ∃ line ∈ lines, family ∈ line.families
  /-- Each family has the path of the last line that mentions it. -/
  lookup_iff (family path : String) : t.lookup family = some path ↔ LastPath lines family path
  /-- The path of a name that is mentioned is found under it. -/
  exact {family path : String} (h : LastPath lines family path) : t.pathOf? family = some path
  /-- For a name that is not mentioned, it is the path of the first one mentioned that contains it,
  whatever the letter case. -/
  part {family named path : String} {front behind : List String} (h : family ∉ mentioned lines)
    (hnames : mentioned lines = front ++ named :: behind)
    (hfront : ∀ name ∈ front, ¬Matches family name) (hnamed : Matches family named)
    (hpath : LastPath lines named path) : t.pathOf? family = some path
  /-- If there is none either, nothing is found. -/
  nothing {family : String} (h : ∀ name ∈ mentioned lines, ¬Matches family name) :
    t.pathOf? family = none
  /-- Lines without a colon change nothing. -/
  others_vanish : t = ofListing (.text (write (lines.filter Line.isFont)))

theorem flatMap_entries_filter_isFont (lines : List Line) :
    (lines.filter Line.isFont).flatMap Line.entries = lines.flatMap Line.entries := by
  induction lines with
  | nil => rfl
  | cons line rest ih =>
    cases line with
    | font path families => rw [List.filter_cons_of_pos rfl, List.flatMap_cons, List.flatMap_cons, ih]
    | other text => rw [List.filter_cons_of_neg (by simp [Line.isFont]), List.flatMap_cons, ih]; rfl

/-- **The table of a listing is that of its lines**, whatever names are repeated and whatever stands
between the lines. -/
theorem readsBack_ofListing {lines : List Line} (h : ∀ line ∈ lines, line.Proper) :
    ReadsBack lines (ofListing (.text (write lines))) := by
  have htable : ofListing (.text (write lines)) = ofEntries (lines.flatMap Line.entries) :=
    ofText_write h
  have hkeys : (ofListing (.text (write lines))).map Prod.fst = mentioned lines := by
    rw [htable, keys_ofEntries, List.map_flatMap, mentioned]
    simp only [map_fst_entries]
  have hlookup : ∀ family path,
      (ofListing (.text (write lines))).lookup family = some path ↔ LastPath lines family path := by
    intro family path
    rw [htable, lookup_ofEntries, lookup_reverse_entries_iff]
  refine
    { keys_eq := hkeys
      mem_mentioned_iff := fun _ => FontListing.mem_mentioned_iff
      lookup_iff := hlookup
      exact := fun hpath => pathOf?_of_lookup ((hlookup _ _).mpr hpath)
      part := fun hnot hnames hfront hnamed hpath => ?_
      nothing := fun hnone => pathOf?_eq_none (hkeys.symm ▸ hnone)
      others_vanish := ?_ }
  · have hnew := hkeys.symm ▸ hnot
    exact pathOf?_of_matches hnew (hkeys.trans hnames) hfront hnamed ((hlookup _ _).mpr hpath)
  · have hfonts : ∀ line ∈ lines.filter Line.isFont, line.Proper := fun line hline =>
      h line (List.mem_of_mem_filter hline)
    rw [htable, ofListing, ofText_write hfonts, flatMap_entries_filter_isFont]

/-- A name that is mentioned twice, one with a colon, and a line in between that is about no font: the
second path of `Mono` counts, though it is listed first. -/
theorem readsBack_ofListing_three_lines :
    ∃ lines : List Line, lines = [.font "/a b.ttf" ["Mono", "B:old"], .other "no font ",
        .font "/c.ttf" ["Serif Mono", "Mono"]] ∧ (∀ line ∈ lines, line.Proper) ∧
      write lines = "/a b.ttf: Mono,B:old\nno font \n/c.ttf: Serif Mono,Mono" ∧
      ReadsBack lines (ofListing (.text (write lines))) ∧
      (ofListing (.text (write lines))).map Prod.fst = ["Mono", "B:old", "Serif Mono"] ∧
      (ofListing (.text (write lines))).pathOf? "Mono" = some "/c.ttf" ∧
      (ofListing (.text (write lines))).pathOf? "OLD" = some "/a b.ttf" := by
  let lines : List Line :=
    [.font "/a b.ttf" ["Mono", "B:old"], .other "no font ", .font "/c.ttf" ["Serif Mono", "Mono"]]
  have hproper : ∀ line ∈ lines, line.Proper := by decide +kernel
  have hnames : mentioned lines = ["Mono", "B:old", "Serif Mono"] := by
    simp [mentioned, lines, Line.families, List.eraseDups_cons]
  have hback := readsBack_ofListing hproper
  have hmono : LastPath lines "Mono" "/c.ttf" :=
    ⟨lines.take 2, _, [], rfl, by decide, List.forall_mem_nil _⟩
  have hold : LastPath lines "B:old" "/a b.ttf" :=
    ⟨[], _, lines.drop 1, rfl, by decide, by decide +kernel⟩
  have hfront : ∀ name ∈ ["Mono"], ¬Matches "OLD" name := by
    intro name hname
    rw [List.mem_singleton.mp hname, ← containsText_iff_matches]
    decide +kernel
  have hmatches : Matches "OLD" "B:old" := containsText_iff_matches.mp (by decide +kernel)
  refine ⟨lines, rfl, hproper, by decide +kernel, hback, hback.keys_eq.trans hnames,
    hback.exact hmono, ?_⟩
  exact hback.part (by rw [hnames]; decide) hnames hfront hmatches hold

end FontTable

end AnsiArt
