import Mathlib.Data.List.Basic
import AnsiArt.Palette.Shelf
import AnsiArt.Proofs.Files.Directories

/-!
# The list of palettes and the palettes that load

A shelf lists the names of its settings files without their extension, and it loads a palette from
the file that is named after it. Taking the extension off undoes adding it, with one exception: a
file that is called like the extension keeps its name in the list (`stemOf_extension`),
though it is loaded by the empty name. So the list and the loading agree on every name but the
empty one and that one, as long as no name or path is too long to be asked for.

Main statements:

* `PaletteShelf.exists_filed` — the names in the list, by the names of the files;
* `PaletteShelf.misses_iff` — the names that are not found;
* `PaletteShelf.accounts_of_holdsFiles` — how the two go together.
-/

namespace AnsiArt

namespace PaletteShelf

variable {s : PaletteShelf} {files : List String} {name : String}

/-! ### Names in the list -/

/-- Taking the extension off undoes adding it. -/
theorem stemOf_append_extension (h : name ≠ "") :
    FilePath.stemOf (name ++ extension) = name := by
  have hcut : cutLast '.' (name ++ extension).toList = some (name.toList, "yaml".toList) := by
    have hreverse : (name ++ extension).toList.reverse =
        "lmay".toList ++ '.' :: name.toList.reverse := by
      simp [extension, String.toList_append]
    rw [cutLast, hreverse, cutFirst_append (by decide)]
    simp
  have hname : name.toList ≠ [] := fun heq => h (String.toList_eq_nil_iff.mp heq)
  simp only [FilePath.stemOf, hcut]
  rw [if_neg (by simp [hname]), String.ofList_toList]

/-- A file that is called like the extension has no other name. -/
theorem stemOf_extension : FilePath.stemOf extension = extension := by decide +kernel

theorem exists_eq_append_extension (h : extension.toList <:+ name.toList) :
    ∃ base, name = base ++ extension := by
  obtain ⟨front, heq⟩ := h
  refine ⟨String.ofList front, String.toList_inj.mp ?_⟩
  rw [String.toList_append, String.toList_ofList, heq]

/-- The name of a palette in a directory with these files: one that is not empty, with its file, or
the extension as a name. -/
def IsFiled (files : List String) (name : String) : Prop :=
  (name ≠ "" ∧ name ++ extension ∈ files) ∨ (name = extension ∧ extension ∈ files)

/-- The names in the list are those of files with the extension. -/
theorem isFiled_iff : IsFiled files name ↔
    ∃ file ∈ files, extension.toList <:+ file.toList ∧ FilePath.stemOf file = name := by
  constructor
  · rintro (⟨hname, hmem⟩ | ⟨rfl, hmem⟩)
    · refine ⟨_, hmem, ?_, stemOf_append_extension hname⟩
      exact ⟨name.toList, String.toList_append.symm⟩
    · exact ⟨_, hmem, List.suffix_rfl, stemOf_extension⟩
  · rintro ⟨file, hmem, hsuffix, rfl⟩
    obtain ⟨base, rfl⟩ := exists_eq_append_extension hsuffix
    by_cases hbase : base = ""
    · subst hbase
      rw [String.empty_append] at hmem ⊢
      exact .inr ⟨stemOf_extension, hmem⟩
    · rw [stemOf_append_extension hbase]
      exact .inl ⟨hbase, hmem⟩

/-- **The list of a shelf** is made of its files. -/
theorem exists_filed (h : s.tree.list s.directory = .ok files) :
    ∃ filed, s.filed = .ok filed ∧ ∀ name, name ∈ filed ↔ IsFiled files name := by
  refine ⟨_, by rw [filed, h]; rfl, fun name => ?_⟩
  rw [List.mem_mergeSort, List.mem_eraseDups, List.mem_map, isFiled_iff]
  simp only [List.mem_filter, List.isSuffixOf_iff_suffix, and_assoc]

/-! ### Names that load -/

/-- The palette is refused for want of a file. -/
def Misses (s : PaletteShelf) (name : String) : Prop :=
  ∃ other path available, s.load name = .error (.notFound other path available)

/-- The file of a palette cannot be asked for, since its name or its path is too long. -/
def IsTooLong (s : PaletteShelf) (name : String) : Prop :=
  '\x00' ∉ name.toList ∧ (FileTree.longestPath < (s.pathOf name).toString.utf8ByteSize ∨
    FileTree.longestName < (name ++ extension).utf8ByteSize)

instance (s : PaletteShelf) (name : String) : Decidable (s.IsTooLong name) :=
  inferInstanceAs (Decidable (_ ∧ _))

theorem not_mem_append_extension (h : '/' ∉ name.toList) :
    '/' ∉ (name ++ extension).toList := by
  rw [String.toList_append, List.mem_append, not_or]
  exact ⟨h, by decide⟩

theorem append_extension_ne {other : String} (h : other.toList.length < extension.toList.length) :
    name ++ extension ≠ other := by
  rintro rfl
  rw [String.toList_append, List.length_append] at h
  omega

/-- The file of a palette is one step from the directory. -/
theorem pathOf_eq_step (s : PaletteShelf) (h : '/' ∉ name.toList) :
    s.pathOf name = s.directory.step (name ++ extension) := by
  have hfile : FilePath.ofString (name ++ extension) = ⟨.here, [name ++ extension]⟩ :=
    FilePath.ofString_of_not_mem (not_mem_append_extension h) (append_extension_ne (by decide))
      (append_extension_ne (by decide))
  calc s.pathOf name
      = s.directory.join (FilePath.ofString (name ++ extension)) := rfl
    _ = s.directory.step (name ++ extension) := by rw [hfile]; rfl

/-- What is read from a file is not missing, whatever else is wrong with it. -/
theorem ofContent_ne_notFound {path other : FilePath} {content : List UInt8}
    {available : List String} : ofContent path content ≠ .error (.notFound name other available) := by
  intro h
  unfold ofContent at h
  cases hdecode : Utf8.decode content with
  | error cause =>
    rw [hdecode] at h
    cases h
  | ok text =>
    simp only [hdecode, mapError_ok, bind, Except.bind] at h
    split at h
    · cases h
    · cases h
    · split at h
      · -- data without a fault goes on to be built
        obtain ⟨cause, -, heq⟩ := mapError_eq_error_iff.mp h
        cases heq
      · split at h
        · cases h
        · cases h

theorem misses_iff_contains (hshelf : s.builtIn = false)
    (h : s.tree.list s.directory = .ok files) :
    s.Misses name ↔ s.tree.contains (s.pathOf name) = .ok false := by
  obtain ⟨filed, hfiled, -⟩ := exists_filed h
  unfold Misses load
  simp only [hshelf, Bool.false_and, Bool.false_eq_true, if_false, hfiled]
  cases hcontains : s.tree.contains (s.pathOf name) with
  | error e =>
    constructor
    · rintro ⟨other, path, available, hload⟩
      cases hload
    · nofun
  | ok there =>
    cases there with
    | false => exact ⟨fun _ => rfl, fun _ => ⟨name, s.pathOf name, filed, rfl⟩⟩
    | true =>
      constructor
      · rintro ⟨other, path, available, hload⟩
        -- the file is there, and no fault of it is that it is missing
        cases hread : s.tree.read (s.pathOf name) with
        | error e =>
          rw [hread] at hload
          cases hload
        | ok content =>
          rw [hread] at hload
          exact absurd hload ofContent_ne_notFound
      · nofun

/-- **A palette is not found** if it has no file, and its name is not too long to say so. -/
theorem misses_iff {place : List String} (hshelf : s.builtIn = false)
    (hfiles : s.tree.HoldsFiles s.directory place) (hlist : s.tree.list s.directory = .ok files)
    (hname : '/' ∉ name.toList) :
    s.Misses name ↔ name ++ extension ∉ files ∧ ¬s.IsTooLong name := by
  have hnull : '\x00' ∉ (name ++ extension).toList ↔ '\x00' ∉ name.toList := by
    rw [String.toList_append, List.mem_append, not_or]
    exact and_iff_left (by decide)
  rw [misses_iff_contains hshelf hlist, pathOf_eq_step s hname,
    hfiles.contains_append_singleton hlist (append_extension_ne (by decide))
      (append_extension_ne (by decide)) (append_extension_ne (by decide))
      (not_mem_append_extension hname), IsTooLong, pathOf_eq_step s hname]
  simp only [hnull]
  split
  · next hlong => exact ⟨nofun, fun h => absurd hlong h.2⟩
  · next hshort =>
    constructor
    · intro h
      exact ⟨of_decide_eq_false (Except.ok.inj h), hshort⟩
    · rintro ⟨hmem, -⟩
      rw [decide_eq_false hmem]

/-! ### Both together -/

/-- The names on which the list and the loading of a shelf disagree. -/
inductive Astray (s : PaletteShelf) (files : List String) : String → Prop
  /-- The empty name loads the file called like the extension, and is not in the list. -/
  | empty : extension ∈ files → Astray s files ""
  /-- That file is in the list under a name that needs another file to be loaded. -/
  | bare : extension ∈ files → extension ++ extension ∉ files → ¬s.IsTooLong extension →
    Astray s files extension
  /-- A name that is too long is not in the list, and asking for it fails otherwise. -/
  | long {name : String} : ¬IsFiled files name → s.IsTooLong name → Astray s files name

/-- These are the names that are in the list and not found, or not in the list and not missing. -/
theorem astray_iff : Astray s files name ↔
    (IsFiled files name ∧ name ++ extension ∉ files ∧ ¬s.IsTooLong name) ∨
      (¬IsFiled files name ∧ (name ++ extension ∈ files ∨ s.IsTooLong name)) := by
  constructor
  · rintro (hmem | ⟨hmem, hnone, hshort⟩ | ⟨hunfiled, hlong⟩)
    · refine .inr ⟨?_, .inl (by rwa [String.empty_append])⟩
      rintro (⟨hname, -⟩ | ⟨hname, -⟩)
      · exact hname rfl
      · exact absurd hname (by decide)
    · exact .inl ⟨.inr ⟨rfl, hmem⟩, hnone, hshort⟩
    · exact .inr ⟨hunfiled, .inr hlong⟩
  · rintro (⟨⟨-, hmem⟩ | ⟨rfl, hmem⟩, hnone, hshort⟩ | ⟨hunfiled, hmem | hlong⟩)
    · exact absurd hmem hnone
    · exact .bare hmem hnone hshort
    · -- a name that is not empty is in the list if its file is there
      by_cases hname : name = ""
      · subst hname
        rw [String.empty_append] at hmem
        exact .empty hmem
      · exact absurd (.inl ⟨hname, hmem⟩) hunfiled
    · exact .long hunfiled hlong

/-- How the list of a shelf with these files and the loading of a name go together. -/
structure Accounts (s : PaletteShelf) (files names : List String) (name : String) : Prop where
  mem_names_iff : name ∈ names ↔ IsFiled files name
  misses_iff : s.Misses name ↔ name ++ extension ∉ files ∧ ¬s.IsTooLong name
  agree_iff : (name ∈ names ↔ ¬s.Misses name) ↔ ¬Astray s files name

/-- **The list and the loading of a shelf** agree on a name exactly if it is none of those that lead
astray. -/
theorem accounts_of_holdsFiles {place : List String} (hshelf : s.builtIn = false)
    (hfiles : s.tree.HoldsFiles s.directory place) (hname : '/' ∉ name.toList) :
    ∃ files names, s.tree.list s.directory = .ok files ∧ s.names = .ok names ∧
      Accounts s files names name := by
  obtain ⟨files, hlist⟩ := hfiles.exists_list
  obtain ⟨filed, hfiled, hmem⟩ := exists_filed hlist
  have hmisses := misses_iff hshelf hfiles hlist hname
  have hnames : s.names = .ok filed := by
    rw [names, hfiled]
    simp only [hshelf]
    rfl
  refine ⟨files, filed, hlist, hnames, hmem name, hmisses, ?_⟩
  rw [hmem, hmisses, astray_iff]
  by_cases hin : IsFiled files name
  · simp [hin]
  · simp [hin]

/-- A shelf with a file that has a further dot in its name. -/
theorem accounts_of_holdsFiles_dotted :
    ∃ s : PaletteShelf, s.tree.entries = [(["ice.v2.yaml"], .file [])] ∧ s.builtIn = false ∧
      s.tree.HoldsFiles s.directory [] ∧ '/' ∉ "ice.v2".toList ∧ s.names = .ok ["ice.v2"] ∧
      (∃ files names, s.tree.list s.directory = .ok files ∧ s.names = .ok names ∧
        Accounts s files names "ice.v2") ∧ ¬s.Misses "ice.v2" ∧ s.Misses "ice" := by
  let tree : FileTree := { label := "p", entries := [(["ice.v2.yaml"], .file [])] }
  let s : PaletteShelf := ⟨tree, tree.top, false⟩
  have hfiles : s.tree.HoldsFiles s.directory [] := by
    refine FileTree.holdsFiles_top (by decide +kernel) fun entry hentry => ?_
    obtain rfl := List.mem_singleton.mp hentry
    exact ⟨_, _, by decide +kernel, rfl⟩
  have hlist : s.tree.list s.directory = .ok ["ice.v2.yaml"] := by decide +kernel
  refine ⟨s, rfl, rfl, hfiles, by decide, by decide +kernel,
    accounts_of_holdsFiles rfl hfiles (by decide), ?_, ?_⟩
  · rw [misses_iff rfl hfiles hlist (by decide)]
    decide +kernel
  · rw [misses_iff rfl hfiles hlist (by decide)]
    decide +kernel

/-- With a file called like the extension, its name is in the list, but a palette of that name is not
found; and the palette in it is loaded by the empty name, which is not in the list. -/
theorem misses_listed_extension :
    ∃ s : PaletteShelf, s.tree.entries = [([".yaml"], .file [])] ∧ s.builtIn = false ∧
      s.tree.HoldsFiles s.directory [] ∧ s.names = .ok [".yaml"] ∧ s.Misses ".yaml" ∧ ¬s.Misses "" := by
  let tree : FileTree := { label := "p", entries := [([".yaml"], .file [])] }
  let s : PaletteShelf := ⟨tree, tree.top, false⟩
  have hfiles : s.tree.HoldsFiles s.directory [] := by
    refine FileTree.holdsFiles_top (by decide +kernel) fun entry hentry => ?_
    obtain rfl := List.mem_singleton.mp hentry
    exact ⟨_, _, by decide +kernel, rfl⟩
  have hlist : s.tree.list s.directory = .ok [".yaml"] := by decide +kernel
  refine ⟨s, rfl, rfl, hfiles, by decide +kernel, ?_, ?_⟩
  · rw [misses_iff rfl hfiles hlist (by decide)]
    decide +kernel
  · rw [misses_iff rfl hfiles hlist (by decide)]
    decide +kernel

end PaletteShelf

end AnsiArt
