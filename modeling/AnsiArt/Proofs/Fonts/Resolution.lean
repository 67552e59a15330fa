import Mathlib.Data.List.Basic
import Mathlib.Data.List.Induction
import AnsiArt.Fonts.Stack

/-!
# Which fonts a stack is made from

The search for fonts goes from family to family and keeps two rows: the paths it has tried and the
fonts it has loaded. Both are functions of the row of paths that are found for the families. The
paths tried are this row with each path at its first place only, and the fonts loaded are those of
the paths tried, as far as they can be loaded (`FontSearch.Reflects`).

So a stack can be read off the row of paths without following the search: its paths are the ones
that can be loaded, each once and in the order of the families, and none is lost.

Main statements:

* `FontTable.holdsPaths_ofListing` — a table has a path for every family;
* `FontSearch.Reflects.look`, `FontSearch.Reflects.foldl_look` — one family, and a row of families;
* `FontStack.exists_serves_resolve` — the stack of a profile.
-/

namespace AnsiArt

/-! ### First places -/

section

variable {α : Type} [DecidableEq α]

theorem eraseDups_append_singleton (l : List α) (a : α) :
    (l ++ [a]).eraseDups = if a ∈ l then l.eraseDups else l.eraseDups ++ [a] := by
  rw [List.eraseDups_append]
  split
  · next h => simp [List.removeAll, h]
  · next h => simp [List.removeAll, h, List.eraseDups_cons]

/-- Without duplicates the elements of a list stand in the order of their first places. -/
theorem pairwise_idxOf_eraseDups (l : List α) :
    l.eraseDups.Pairwise fun a b => l.idxOf a < l.idxOf b := by
  induction l using List.reverseRecOn with
  | nil => exact List.Pairwise.nil
  | append_singleton front last ih =>
    -- behind an element that is there already, its first place stays where it is
    have hfront : front.eraseDups.Pairwise fun a b =>
        (front ++ [last]).idxOf a < (front ++ [last]).idxOf b := by
      refine ih.imp_of_mem fun ha hb hab => ?_
      rwa [List.idxOf_append_of_mem (List.mem_eraseDups.mp ha),
        List.idxOf_append_of_mem (List.mem_eraseDups.mp hb)]
    rw [eraseDups_append_singleton]
    split
    · exact hfront
    · next hnew =>
      refine List.pairwise_append.mpr ⟨hfront, List.pairwise_singleton _ _, fun a ha b hb => ?_⟩
      have hmem := List.mem_eraseDups.mp ha
      rw [List.mem_singleton.mp hb, List.idxOf_append_of_mem hmem,
        List.idxOf_append_of_notMem hnew]
      exact Nat.lt_add_right _ (List.idxOf_lt_length_of_mem hmem)

theorem nodup_eraseDups (l : List α) : l.eraseDups.Nodup :=
  (pairwise_idxOf_eraseDups l).imp fun h heq => absurd (heq ▸ h) (Nat.lt_irrefl _)

end

/-! ### Tables -/

namespace FontTable

/-- Every family of a table has a path. -/
def HoldsPaths (t : FontTable) : Prop := ∀ e ∈ t, e.2 ≠ ""

variable {t : FontTable}

theorem HoldsPaths.insert (h : t.HoldsPaths) {family path : String} (hpath : path ≠ "") :
    HoldsPaths (insert family path t) := by
  induction t with
  | nil => simpa [FontTable.insert, HoldsPaths] using hpath
  | cons e rest ih =>
    obtain ⟨he, hrest⟩ := List.forall_mem_cons.mp h
    rw [FontTable.insert]
    split
    · exact List.forall_mem_cons.mpr ⟨hpath, hrest⟩
    · exact List.forall_mem_cons.mpr ⟨he, ih hrest⟩

theorem holdsPaths_ofEntries {entries : List (String × String)} (h : ∀ e ∈ entries, e.2 ≠ "") :
    HoldsPaths (ofEntries entries) :=
  List.foldlRecOn entries _ (fun _ he => absurd he List.not_mem_nil)
    fun _ ht e he => ht.insert (h e he)

theorem path_ne_empty_of_mem_entriesOf {line : List Char} {e : String × String}
    (h : e ∈ entriesOf line) : e.2 ≠ "" := by
  unfold entriesOf at h
  split at h
  · cases h
  · dsimp only at h
    split at h
    · cases h
    · next hpath =>
      obtain ⟨family, -, rfl⟩ := List.mem_map.mp h
      simpa using hpath

/-- **A table that comes of asking the system has a path for every family.** -/
theorem holdsPaths_ofListing (listing : FontListing) : HoldsPaths (ofListing listing) := by
  cases listing with
  | text listing =>
    refine holdsPaths_ofEntries fun e he => ?_
    obtain ⟨line, -, hline⟩ := List.mem_flatMap.mp he
    exact path_ne_empty_of_mem_entriesOf hline
  | timeout => exact fun _ he => absurd he List.not_mem_nil
  | missing => exact fun _ he => absurd he List.not_mem_nil

theorem HoldsPaths.ne_empty (h : t.HoldsPaths) {family path : String}
    (hpath : t.pathOf? family = some path) : path ≠ "" := by
  unfold pathOf? at hpath
  split at hpath
  · next hlookup =>
    obtain ⟨front, behind, rfl, -⟩ := List.lookup_eq_some_iff.mp hlookup
    cases hpath
    exact h _ (List.mem_append_right _ List.mem_cons_self)
  · obtain ⟨e, hfind, rfl⟩ := Option.map_eq_some_iff.mp hpath
    exact h e (List.mem_of_find?_eq_some hfind)

end FontTable

/-! ### Searching -/

namespace FontSearch

/-- What a search has come to when these paths have been found, in this order: each was tried at its
first place, and what could be loaded from them is there. -/
structure Reflects (load : String → Option Font) (paths : List String) (f : FontSearch) : Prop where
  tried_eq : f.tried = paths.eraseDups
  loaded_eq : f.loaded = f.tried.filterMap fun path => (load path).map fun font => ⟨font, path⟩

variable {t : FontTable} {load : String → Option Font} {paths : List String} {f : FontSearch}

/-- **A family adds its path to those found**, if it has one. -/
theorem Reflects.look (h : Reflects load paths f) (ht : t.HoldsPaths) (family : String) :
    Reflects load (paths ++ (t.pathOf? family).toList) (look t load f family) := by
  unfold FontSearch.look
  cases hpath : t.pathOf? family with
  | none => simpa using h
  | some path =>
    -- the paths tried and the paths found have the same members, so either tells what is new
    have htried : path ∈ f.tried ↔ path ∈ paths := by rw [h.tried_eq, List.mem_eraseDups]
    simp only [ht.ne_empty hpath, false_or, htried, Option.toList_some]
    split
    · next hold => exact ⟨by rw [eraseDups_append_singleton, if_pos hold, h.tried_eq], h.loaded_eq⟩
    · next hnew =>
      refine ⟨?_, ?_⟩
      · rw [eraseDups_append_singleton, if_neg hnew, h.tried_eq]
      · rw [List.filterMap_append, ← h.loaded_eq]
        cases hload : load path <;> simp [hload]

/-- **A row of families adds the paths that are found for it.** -/
theorem Reflects.foldl_look (h : Reflects load paths f) (ht : t.HoldsPaths)
    (families : List String) :
    Reflects load (paths ++ families.filterMap t.pathOf?)
      (families.foldl (FontSearch.look t load) f) := by
  induction families generalizing paths f with
  | nil => simpa using h
  | cons family rest ih =>
    have hpaths : (family :: rest).filterMap t.pathOf? =
        (t.pathOf? family).toList ++ rest.filterMap t.pathOf? := by
      cases hpath : t.pathOf? family <;> simp [hpath]
    rw [List.foldl_cons, hpaths, ← List.append_assoc]
    exact ih (h.look ht family)

theorem Reflects.map_path_loaded (h : Reflects load paths f) :
    f.loaded.map (·.path) = paths.eraseDups.filter fun path => (load path).isSome := by
  rw [h.loaded_eq, h.tried_eq]
  induction paths.eraseDups with
  | nil => rfl
  | cons path rest ih => cases hload : load path <;> simp [hload, ih]

theorem Reflects.load_path_of_mem_loaded (h : Reflects load paths f) {e : LoadedFont}
    (he : e ∈ f.loaded) : load e.path = some e.font := by
  rw [h.loaded_eq] at he
  obtain ⟨path, -, hpath⟩ := List.mem_filterMap.mp he
  obtain ⟨font, hfont, rfl⟩ := Option.map_eq_some_iff.mp hpath
  exact hfont

end FontSearch

/-! ### Stacks -/

namespace FontStack

/-- The paths of all fonts, that of the primary one first. -/
def paths (s : FontStack) : List String := s.primary.path :: s.fallbacks.map (·.path)

/-- The families that a profile prefers; those of `dos` if there is no such profile. -/
inductive Prefers (profile : String) (families : List String) : Prop
  | known (h : profiles.lookup profile = some families)
  | unknown (h : profiles.lookup profile = none) (hdos : profiles.lookup "dos" = some families)

theorem prefers_familiesOf (profile : String) : Prefers profile (familiesOf profile) := by
  cases h : profiles.lookup profile with
  | some families =>
    have hfamilies : familiesOf profile = families := by simp [familiesOf, h]
    exact .known (hfamilies ▸ h)
  | none =>
    have hfamilies : familiesOf profile = (profiles.lookup "dos").getD [] := by
      simp [familiesOf, h, defaultProfile]
    exact .unknown h (by rw [hfamilies]; rfl)

/-- The paths found for families, in the order of the families. -/
def found (s : FontSystem) (families : List String) : List String :=
  families.filterMap s.table.pathOf?

/-- The paths found for families that can be loaded, each at its first place only. -/
def loadable (s : FontSystem) (size : Setting Int) (families : List String) : List String :=
  (found s families).eraseDups.filter fun path => (s.load path size).isSome

theorem reflects_search (s : FontSystem) (size : Setting Int) (families : List String) :
    FontSearch.Reflects (fun path => s.load path size) (found s families)
      (search s size families) := by
  have hnothing : FontSearch.Reflects (fun path => s.load path size) [] {} := ⟨rfl, rfl⟩
  exact hnothing.foldl_look (FontTable.holdsPaths_ofListing s.listing) families

theorem mem_loadable_iff {s : FontSystem} {size : Setting Int} {families : List String}
    {path : String} : path ∈ loadable s size families ↔
      (∃ family ∈ families, s.table.pathOf? family = some path) ∧
        ∃ font, s.load path size = some font := by
  rw [loadable, List.mem_filter, List.mem_eraseDups, found, List.mem_filterMap,
    Option.isSome_iff_exists]

theorem pairwise_loadable (s : FontSystem) (size : Setting Int) (families : List String) :
    (loadable s size families).Pairwise fun a b =>
      (found s families).idxOf a < (found s families).idxOf b :=
  (pairwise_idxOf_eraseDups _).sublist List.filter_sublist

/-- A stack that serves a row of families: it consists of the fonts that can be loaded from the
paths found for them, or of the built-in font if there are none. -/
structure Serves (s : FontSystem) (size : Setting Int) (families : List String)
    (stack : FontStack) : Prop where
  size_eq : stack.size = size
  /-- The paths tried are those found, and none is tried twice. -/
  tried_eq : (search s size families).tried = (found s families).eraseDups
  nodup_tried : (search s size families).tried.Nodup
  paths_eq (h : loadable s size families ≠ []) : stack.paths = loadable s size families
  fonts_eq (h : loadable s size families ≠ []) :
    stack.fonts.map some = stack.paths.map fun path => s.load path size
  builtIn (h : loadable s size families = []) :
    stack.fonts = [s.builtIn] ∧ stack.paths = [builtInPath]
  nodup : (loadable s size families).Nodup
  /-- The paths stand in the order in which they are found first. -/
  ordered : (loadable s size families).Pairwise fun a b =>
    (found s families).idxOf a < (found s families).idxOf b
  /-- A path that is found for some family and can be loaded is not lost. -/
  complete {family path : String} (hfamily : family ∈ families)
    (hpath : s.table.pathOf? family = some path) {font : Font}
    (hfont : s.load path size = some font) : path ∈ loadable s size families

variable {s : FontSystem} {profile : String} {size : Setting Int}

theorem resolve_eq_builtIn (h : loadable s size (familiesOf profile ++ symbolFamilies) = []) :
    resolve s profile size = ⟨⟨s.builtIn, builtInPath⟩, [], size⟩ := by
  have hloaded := (reflects_search s size (familiesOf profile ++ symbolFamilies)).map_path_loaded
  rw [resolve, List.map_eq_nil_iff.mp (hloaded.trans h)]

/-- If there is something to load, the stack is what the search has loaded. -/
theorem primary_cons_fallbacks_resolve
    (h : loadable s size (familiesOf profile ++ symbolFamilies) ≠ []) :
    (resolve s profile size).primary :: (resolve s profile size).fallbacks =
      (search s size (familiesOf profile ++ symbolFamilies)).loaded := by
  have hloaded := (reflects_search s size (familiesOf profile ++ symbolFamilies)).map_path_loaded
  unfold resolve
  split
  · next hnone =>
    rw [hnone] at hloaded
    exact absurd hloaded.symm h
  · next hsome => exact hsome.symm

theorem size_resolve : (resolve s profile size).size = size := by
  unfold resolve
  split <;> rfl

/-- **The stack of a profile serves the families of the profile and, behind them, those with many
symbols.** -/
theorem exists_serves_resolve (s : FontSystem) (profile : String) (size : Setting Int) :
    ∃ families, Prefers profile families ∧
      Serves s size (families ++ symbolFamilies) (resolve s profile size) := by
  refine ⟨familiesOf profile, prefers_familiesOf profile, ?_⟩
  have hsearch := reflects_search s size (familiesOf profile ++ symbolFamilies)
  refine
    { size_eq := size_resolve
      tried_eq := hsearch.tried_eq
      nodup_tried := hsearch.tried_eq ▸ nodup_eraseDups _
      paths_eq := fun h => ?_
      fonts_eq := fun h => ?_
      builtIn := fun h => ?_
      nodup := (nodup_eraseDups _).sublist List.filter_sublist
      ordered := pairwise_loadable s size _
      complete := fun hfamily hpath font hfont =>
        mem_loadable_iff.mpr ⟨⟨_, hfamily, hpath⟩, font, hfont⟩ }
  · rw [loadable, ← hsearch.map_path_loaded, ← primary_cons_fallbacks_resolve h]
    rfl
  · -- both rows are read off the same entries, each of which was loaded from its own path
    have hfonts := primary_cons_fallbacks_resolve h
    calc (resolve s profile size).fonts.map some
        = (search s size (familiesOf profile ++ symbolFamilies)).loaded.map fun e => some e.font := by
          rw [← hfonts]
          simp [fonts]
      _ = (search s size (familiesOf profile ++ symbolFamilies)).loaded.map fun e =>
            s.load e.path size :=
          List.map_congr_left fun e he => (hsearch.load_path_of_mem_loaded he).symm
      _ = (resolve s profile size).paths.map fun path => s.load path size := by
          rw [← hfonts]
          simp [paths]
  · rw [resolve_eq_builtIn h]
    exact ⟨rfl, rfl⟩

end FontStack

end AnsiArt
