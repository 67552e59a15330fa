import AnsiArt.Proofs.Files.Places

/-!
# Directories of files

A directory tells in two ways which files it holds: by the list of its names, and by what a path with
one more step leads to. For a directory with nothing but files the two agree, except that a path can
be too long to be followed, whereas the list knows no such limit.

Main statements:

* `FileTree.locate_append_singleton` — where a path leads that goes on from a directory;
* `FileTree.HoldsFiles.contains_append_singleton` — what is asked for by name is looked up in the list.
-/

namespace AnsiArt

namespace FilePath

/-- A text without a slash is a path of one step, unless it is a step that leads nowhere. -/
theorem ofString_of_not_mem {text : String} (h : '/' ∉ text.toList) (hempty : text ≠ "")
    (hdot : text ≠ ".") : ofString text = ⟨.here, [text]⟩ := by
  have hparts : ((splitAll '/' text.toList).map String.ofList).filter
      (fun p => p ≠ "" ∧ p ≠ ".") = [text] := by
    rw [splitAll_of_not_mem h, List.map_singleton, String.ofList_toList]
    exact List.filter_cons_of_pos (decide_eq_true ⟨hempty, hdot⟩)
  simp only [ofString, hparts]
  congr 1
  split
  · next heq => exact absurd (heq ▸ List.mem_cons_self) h
  · next heq => exact absurd (heq ▸ List.mem_cons_self) h
  · next heq => exact absurd (heq ▸ List.mem_cons_self) h
  · rfl

/-- The path that goes on by one step. -/
def step (p : FilePath) (name : String) : FilePath := { p with parts := p.parts ++ [name] }

end FilePath

namespace FileTree

variable {t : FileTree} {p : FilePath} {q place : List String} {name : String}

/-! ### One more step -/

/-- A path that is followed to a directory goes on from there. -/
theorem follow_append_singleton {names : List String} (h : t.follow place names = .ok q)
    (hdir : t.entry? q = some .directory) (name : String) :
    t.follow place (names ++ [name]) =
      if longestName < name.utf8ByteSize then .error .tooLong else .ok (t.next q name) := by
  induction names generalizing place with
  | nil =>
    obtain rfl : place = q := Except.ok.inj h
    rw [List.nil_append, follow_cons, if_pos rfl]
  | cons first rest ih =>
    rw [follow_cons] at h
    rw [List.cons_append, follow_cons]
    split at h
    · cases h
    · next hshort =>
      rw [if_neg hshort, if_neg (List.append_ne_nil_of_right_ne_nil rest (List.cons_ne_nil _ _))]
      split at h
      · -- what was the last step has to lead to a directory now
        next hrest =>
        obtain rfl : t.next place first = q := Except.ok.inj h
        subst hrest
        rw [hdir]
        exact ih rfl
      · split at h
        · next hentry => exact ih h
        · cases h
        · cases h

/-- Paths that start in this tree are followed, unless they hold the null character or are too long. -/
theorem locate_of_start (h : ∀ label, p.start = .place label → label = t.label) :
    t.locate p =
      if p.parts.any (·.toList.contains '\x00') then .error ⟨.nullCharacter, p⟩
      else if longestPath < p.toString.utf8ByteSize then .error ⟨.tooLong, p⟩
      else (t.follow (origin p.start) p.parts).mapError (⟨·, p⟩) := by
  unfold locate
  cases hstart : p.start with
  | here => rfl
  | root => rfl
  | doubleRoot => rfl
  | place label =>
    simp only [if_pos (h label hstart)]
    rfl

/-- **One more step from a directory** leads to its place unless the name holds the null character,
or the name or the path is too long. -/
theorem locate_append_singleton (h : t.locate p = .ok q) (hdir : t.entry? q = some .directory)
    (name : String) :
    t.locate (p.step name) =
      if '\x00' ∈ name.toList then .error ⟨.nullCharacter, p.step name⟩
      else if longestPath < (p.step name).toString.utf8ByteSize ∨ longestName < name.utf8ByteSize then
        .error ⟨.tooLong, p.step name⟩
      else .ok (t.next q name) := by
  obtain ⟨hnull, -, hstart, hfollow⟩ := locate_eq_ok_iff.mp h
  have hnulls : ((p.step name).parts.any fun part => part.toList.contains '\x00') =
      name.toList.contains '\x00' := by
    rw [FilePath.step, List.any_append, hnull, Bool.false_or, List.any_cons, List.any_nil,
      Bool.or_false]
  have hnext : t.follow (origin (p.step name).start) (p.step name).parts =
      if longestName < name.utf8ByteSize then .error .tooLong else .ok (t.next q name) :=
    follow_append_singleton hfollow hdir name
  rw [locate_of_start (p := p.step name) hstart, hnext]
  simp only [hnulls, List.contains_iff_mem]
  split
  · rfl
  · -- the path is looked at before the name, and the name when its turn comes
    by_cases hlong : longestPath < (p.step name).toString.utf8ByteSize
    · rw [if_pos hlong, if_pos (.inl hlong)]
    · simp only [hlong, false_or, if_false]
      split <;> rfl

/-! ### What a directory holds -/

/-- The names in a directory are those of its entries. -/
theorem mem_list_iff {files : List String} (h : t.locate p = .ok place)
    (hfiles : t.list p = .ok files) : name ∈ files ↔ ∃ e, (place ++ [name], e) ∈ t.entries := by
  simp only [list, h] at hfiles
  obtain rfl := Except.ok.inj hfiles
  rw [List.mem_filterMap]
  constructor
  · rintro ⟨⟨q, e⟩, hmem, hname⟩
    split at hname
    · next hplace =>
      obtain ⟨front, rfl⟩ := List.getLast?_eq_some_iff.mp hname
      obtain rfl : front = place := List.dropLast_concat.symm.trans hplace
      exact ⟨e, hmem⟩
    · cases hname
  · rintro ⟨e, hmem⟩
    exact ⟨_, hmem, by simp⟩

/-- A name that a file can have. -/
structure IsFileName (name : String) : Prop where
  ne_empty : name ≠ ""
  ne_dot : name ≠ "."
  ne_dots : name ≠ ".."
  no_slash : '/' ∉ name.toList
  no_null : '\x00' ∉ name.toList
  short : name.utf8ByteSize ≤ longestName

instance (name : String) : Decidable (IsFileName name) :=
  decidable_of_iff
    (name ≠ "" ∧ name ≠ "." ∧ name ≠ ".." ∧ '/' ∉ name.toList ∧ '\x00' ∉ name.toList ∧
      name.utf8ByteSize ≤ longestName)
    ⟨fun ⟨h₁, h₂, h₃, h₄, h₅, h₆⟩ => ⟨h₁, h₂, h₃, h₄, h₅, h₆⟩,
      fun ⟨h₁, h₂, h₃, h₄, h₅, h₆⟩ => ⟨h₁, h₂, h₃, h₄, h₅, h₆⟩⟩

/-- A path leads to a directory in which there are only files, with names that files can have. -/
structure HoldsFiles (t : FileTree) (p : FilePath) (place : List String) : Prop where
  located : t.locate p = .ok place
  directory : t.entry? place = some .directory
  isFileName : ∀ name e, (place ++ [name], e) ∈ t.entries → IsFileName name
  regular : ∀ name, IsFileName name → t.entry? (t.below place name) ≠ some .directory

/-- What a name leads to is the entry of its place. -/
theorem entry?_append_singleton (hname : IsFileName name) (place : List String) :
    t.entry? (place ++ [name]) = t.entries.lookup (place ++ [name]) := by
  unfold entry?
  refine if_neg ?_
  rintro (hancestor | hroot)
  · refine hname.ne_dots ?_
    simp only [isAncestor, List.all_append, Bool.and_eq_true, List.all_cons, beq_iff_eq] at hancestor
    exact hancestor.2.1
  · obtain ⟨-, hlast⟩ := List.append_eq_singleton_iff.mp hroot |>.resolve_right (by simp)
    obtain rfl : name = "/" := (List.cons.inj hlast).1
    exact absurd hname.no_slash (by decide)

/-- A tree of nothing but files holds files. -/
theorem holdsFiles_top (hlabel : ¬longestPath < t.label.utf8ByteSize)
    (h : ∀ entry ∈ t.entries, ∃ name content, IsFileName name ∧ entry = ([name], .file content)) :
    t.HoldsFiles t.top [] := by
  refine
    { located := ?_
      directory := rfl
      isFileName := fun name e hmem => ?_
      regular := fun name hname hdir => ?_ }
  · refine locate_eq_ok_iff.mpr ⟨rfl, ?_, fun label heq => (PathStart.place.inj heq).symm, rfl⟩
    exact hlabel
  · obtain ⟨name', content, hname', heq⟩ := h _ hmem
    obtain ⟨rfl, -⟩ : name = name' ∧ e = .file content := by simpa using heq
    exact hname'
  · rw [below, if_neg (fun hback => absurd hback.1 (List.cons_ne_nil _ _).symm),
      entry?_append_singleton hname] at hdir
    -- what is found in the table is one of its entries, and these are files
    obtain ⟨front, behind, hentries, -⟩ := List.lookup_eq_some_iff.mp hdir
    obtain ⟨name', content, -, heq⟩ := h _ (hentries ▸ List.mem_append_right _ List.mem_cons_self)
    cases heq

namespace HoldsFiles

theorem exists_list (h : t.HoldsFiles p place) : ∃ files, t.list p = .ok files := by
  rw [list, h.located]
  exact ⟨_, rfl⟩

/-- No name leads back to the directory that paths start in. -/
theorem below_eq (h : t.HoldsFiles p place) (hname : IsFileName name) :
    t.below place name = place ++ [name] := by
  unfold below
  split
  · next hback =>
    have hbelow : t.below place name = [] := if_pos hback
    exact absurd (hbelow ▸ rfl) (h.regular name hname)
  · rfl

/-- A name is in the list exactly if there is something at the end of the step it makes. -/
theorem mem_list_iff_entry? {files : List String} (h : t.HoldsFiles p place)
    (hfiles : t.list p = .ok files) (hname : IsFileName name) :
    name ∈ files ↔ (t.entry? (t.next place name)).isSome := by
  have hnext : t.next place name = place ++ [name] := by
    rw [next, if_neg hname.ne_dots, h.below_eq hname]
  rw [hnext, entry?_append_singleton hname, List.lookup_isSome_iff, mem_list_iff h.located hfiles]
  constructor
  · rintro ⟨e, hmem⟩
    exact ⟨_, hmem, BEq.rfl⟩
  · rintro ⟨⟨q, e⟩, hmem, heq⟩
    obtain rfl : place ++ [name] = q := eq_of_beq heq
    exact ⟨e, hmem⟩

/-- **A directory of files holds what its list names.** Asking for a name is answered from the list,
unless the name or the path is too long; a name with the null character is not there. -/
theorem contains_append_singleton {files : List String} (h : t.HoldsFiles p place)
    (hfiles : t.list p = .ok files) (hempty : name ≠ "") (hdot : name ≠ ".") (hdots : name ≠ "..")
    (hslash : '/' ∉ name.toList) :
    t.contains (p.step name) =
      if '\x00' ∉ name.toList ∧
          (longestPath < (p.step name).toString.utf8ByteSize ∨ longestName < name.utf8ByteSize) then
        .error ⟨.tooLong, p.step name⟩
      else .ok (decide (name ∈ files)) := by
  have hlocate := locate_append_singleton h.located h.directory name
  rw [contains, hlocate]
  by_cases hnull : '\x00' ∈ name.toList
  · have hmem : name ∉ files := fun hmem =>
      (h.isFileName name _ ((mem_list_iff h.located hfiles).mp hmem).choose_spec).no_null hnull
    simp [hnull, hmem]
  · by_cases hlong : longestPath < (p.step name).toString.utf8ByteSize ∨
        longestName < name.utf8ByteSize
    · simp [hnull, hlong]
    · have hname : IsFileName name :=
        ⟨hempty, hdot, hdots, hslash, hnull, Nat.le_of_not_lt fun hlt => hlong (.inr hlt)⟩
      simp only [hnull, hlong, if_false, not_false_eq_true, and_false]
      simp [h.mem_list_iff_entry? hfiles hname]

end HoldsFiles

end FileTree

end AnsiArt
