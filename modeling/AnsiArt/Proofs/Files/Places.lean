import AnsiArt.Files.Tree

/-!
# Places and what happens to them

Where a path leads is a matter of its names alone: the entries of a tree decide only whether the way
is open. So a path that leads to a place keeps doing so while directories are made and files are
written, since no directory ever goes away.

Main statements:

* `FileTree.eq_placeOf_of_locate` — a path that leads somewhere leads to its place;
* `FileTree.Grows.locate` — and goes on to do so as the tree grows;
* `FileTree.deepens_ensureDirectory` — making directories changes nothing that is there;
* `FileTree.replaces_write` — writing a file changes one place;
* `FileTree.stores_write` — both, one after the other.
-/

namespace AnsiArt

/-! ### What succeeds step by step -/

/-- If two steps succeed, the first one does. -/
theorem exists_of_bind_eq_ok {ε α β : Type} {x : Except ε α} {f : α → Except ε β} {b : β}
    (h : x >>= f = .ok b) : ∃ a, x = .ok a ∧ f a = .ok b := by
  cases x with
  | error e => cases h
  | ok a => exact ⟨a, rfl, h⟩

@[simp] theorem mapError_ok {ε δ α : Type} (f : ε → δ) (a : α) :
    (.ok a : Except ε α).mapError f = .ok a := rfl

@[simp] theorem mapError_error {ε δ α : Type} (f : ε → δ) (e : ε) :
    (.error e : Except ε α).mapError f = .error (f e) := rfl

/-- Another wording of errors does not matter to what succeeds. -/
theorem mapError_eq_ok_iff {ε δ α : Type} {x : Except ε α} {f : ε → δ} {a : α} :
    x.mapError f = .ok a ↔ x = .ok a := by
  cases x <;> simp

theorem mapError_eq_error_iff {ε δ α : Type} {x : Except ε α} {f : ε → δ} {d : δ} :
    x.mapError f = .error d ↔ ∃ e, x = .error e ∧ f e = d := by
  cases x <;> simp

namespace FileTree

variable {t u v : FileTree} {p : FilePath} {q : List String}

/-! ### Where paths lead -/

/-- The place that one name leads to. -/
def next (t : FileTree) (place : List String) (name : String) : List String :=
  if name = ".." then above place else t.below place name

/-- The place that a path starts from. -/
def origin : PathStart → List String
  | .here | .place _ => []
  | .root | .doubleRoot => root

/-- The place of a path, going by its names alone. Paths with the same place lead to the same file.
Those with different places lead to different files as far as the tree can tell, which leaves out
paths that come back to its directory from the root or from two levels up. -/
def placeOf (t : FileTree) (p : FilePath) : List String := p.parts.foldl t.next (origin p.start)

theorem follow_cons (t : FileTree) (place : List String) (name : String) (rest : List String) :
    t.follow place (name :: rest) =
      if longestName < name.utf8ByteSize then .error .tooLong
      else if rest = [] then .ok (t.next place name)
      else
        match t.entry? (t.next place name) with
        | some .directory => t.follow (t.next place name) rest
        | some (.file _) => .error .notDirectory
        | none => .error .missing := rfl

theorem eq_foldl_of_follow {place : List String} {names : List String}
    (h : t.follow place names = .ok q) : q = names.foldl t.next place := by
  induction names generalizing place with
  | nil => exact (Except.ok.inj h).symm
  | cons name rest ih =>
    rw [follow_cons] at h
    split at h
    · cases h
    · split at h
      · next hrest =>
        subst hrest
        exact (Except.ok.inj h).symm
      · split at h
        · exact ih h
        · cases h
        · cases h

/-- A path leads somewhere if it is well-formed, starts in this tree, and can be followed. -/
theorem locate_eq_ok_iff : t.locate p = .ok q ↔
    p.parts.any (·.toList.contains '\x00') = false ∧ ¬ longestPath < p.toString.utf8ByteSize ∧
      (∀ label, p.start = .place label → label = t.label) ∧
      t.follow (origin p.start) p.parts = .ok q := by
  unfold locate
  -- what the names hold does not matter here
  generalize (p.parts.any fun name => name.toList.contains '\x00') = null
  cases null with
  | true => simp
  | false =>
    by_cases hlong : longestPath < p.toString.utf8ByteSize
    · simp [hlong]
    · cases hstart : p.start with
      | here => simp [hlong, mapError_eq_ok_iff, origin]
      | root => simp [hlong, mapError_eq_ok_iff, origin]
      | doubleRoot => simp [hlong, mapError_eq_ok_iff, origin]
      | place label =>
        by_cases hlabel : label = t.label
        · simp [hlong, mapError_eq_ok_iff, origin, hlabel]
        · simp [hlong, origin, hlabel]

/-- **A path that leads somewhere leads to its place.** -/
theorem eq_placeOf_of_locate (h : t.locate p = .ok q) : q = t.placeOf p :=
  eq_foldl_of_follow (locate_eq_ok_iff.mp h).2.2.2

/-- A name in a directory that is not the one above leads further down. -/
theorem placeOf_append_singleton (t : FileTree) (p : FilePath) (name : String) :
    t.placeOf { p with parts := p.parts ++ [name] } = t.next (t.placeOf p) name := by
  simp [placeOf]

/-! ### Growth -/

/-- A later state of a tree, in which all directories are still there. -/
structure Grows (t u : FileTree) : Prop where
  label : u.label = t.label
  name : u.name = t.name
  directory : ∀ q, t.entry? q = some .directory → u.entry? q = some .directory

namespace Grows

theorem next_eq (h : t.Grows u) : u.next = t.next := by
  funext place name
  rw [next, next, below, below, h.name]

/-- Paths keep their places. -/
theorem placeOf_eq (h : t.Grows u) (p : FilePath) : u.placeOf p = t.placeOf p := by
  rw [placeOf, placeOf, h.next_eq]

theorem follow (h : t.Grows u) {place names : List String}
    (hq : t.follow place names = .ok q) : u.follow place names = .ok q := by
  induction names generalizing place with
  | nil => exact hq
  | cons name rest ih =>
    rw [follow_cons] at hq ⊢
    rw [h.next_eq]
    split at hq
    · cases hq
    · next hlong =>
      rw [if_neg hlong]
      split at hq
      · next hrest => rwa [if_pos hrest]
      · next hrest =>
        rw [if_neg hrest]
        split at hq
        · next hdir =>
          rw [h.directory _ hdir]
          exact ih hq
        · cases hq
        · cases hq

/-- **What a path leads to, it goes on to lead to.** -/
theorem locate (h : t.Grows u) (hq : t.locate p = .ok q) : u.locate p = .ok q := by
  obtain ⟨hnull, hlong, hstart, hfollow⟩ := locate_eq_ok_iff.mp hq
  refine locate_eq_ok_iff.mpr ⟨hnull, hlong, fun label hl => ?_, h.follow hfollow⟩
  exact (hstart label hl).trans h.label.symm

end Grows

/-! ### Single entries -/

theorem lookup_go (place : List String) (e : Entry) (entries : List (List String × Entry))
    (q : List String) :
    (put.go place e entries).lookup q = if q = place then some e else entries.lookup q := by
  induction entries with
  | nil =>
    by_cases h : q = place
    · simp [put.go, h]
    · have hne : (q == place) = false := by simp [h]
      simp [put.go, List.lookup_cons, h, hne]
  | cons entry rest ih =>
    obtain ⟨place', old⟩ := entry
    rw [put.go]
    by_cases hplace : place' = place
    · by_cases h : q = place
      · simp [hplace, h]
      · have hne : (q == place) = false := by simp [h]
        simp [hplace, h, List.lookup_cons, hne]
    · rw [if_neg hplace]
      by_cases h : q = place'
      · have hne : q ≠ place := fun e => hplace (h.symm.trans e)
        simp [h, hplace]
      · have hne : (q == place') = false := by simp [h]
        simp [List.lookup_cons, hne, ih]

/-- What was put at a place is there, and nothing else is changed. -/
theorem lookup_put (t : FileTree) {place : List String} (hplace : t.entry? place ≠ some .directory)
    (e : Entry) (q : List String) :
    entry? (t.put place e) q = if q = place then some e else t.entry? q := by
  have hfree : ¬ (isAncestor place ∨ place = root) := by
    intro h
    exact hplace (if_pos h)
  unfold entry? put
  rw [lookup_go]
  by_cases h : q = place
  · rw [if_pos h, if_pos h, h, if_neg hfree]
  · rw [if_neg h, if_neg h]

/-! ### Making directories -/

/-- A tree with more directories, and otherwise the same. -/
structure Deepens (t u : FileTree) : Prop where
  label : u.label = t.label
  name : u.name = t.name
  entry : ∀ q, u.entry? q = t.entry? q ∨ t.entry? q = none ∧ u.entry? q = some .directory

namespace Deepens

theorem refl (t : FileTree) : t.Deepens t := ⟨rfl, rfl, fun _ => .inl rfl⟩

theorem trans (h : t.Deepens u) (h' : u.Deepens v) : t.Deepens v := by
  refine ⟨h'.label.trans h.label, h'.name.trans h.name, fun q => ?_⟩
  rcases h.entry q with hq | ⟨hnone, hdir⟩
  · rw [← hq]
    exact h'.entry q
  · -- a directory that was made is kept
    rcases h'.entry q with hq' | ⟨hnone', -⟩
    · exact .inr ⟨hnone, hq'.trans hdir⟩
    · rw [hdir] at hnone'
      cases hnone'

theorem grows (h : t.Deepens u) : t.Grows u := by
  refine ⟨h.label, h.name, fun q hdir => ?_⟩
  rcases h.entry q with hq | ⟨-, hq⟩
  · exact hq.trans hdir
  · exact hq

end Deepens

theorem deepens_makeOne (h : t.makeOne p = .ok u) : t.Deepens u := by
  unfold makeOne at h
  obtain ⟨place, -, h⟩ := exists_of_bind_eq_ok h
  split at h
  · cases h
  · next hnone =>
    rw [Option.not_isSome_iff_eq_none] at hnone
    split at h
    · obtain rfl := Except.ok.inj h
      refine ⟨rfl, rfl, fun q => ?_⟩
      rw [lookup_put t (by simp [hnone])]
      by_cases hq : q = place
      · exact .inr ⟨hq ▸ hnone, if_pos hq⟩
      · exact .inl (if_neg hq)
    · cases h

theorem deepens_ensureOne (h : t.ensureOne p = .ok u) : t.Deepens u := by
  unfold ensureOne at h
  split at h
  · next hmake =>
    obtain rfl := Except.ok.inj h
    exact deepens_makeOne hmake
  · split at h
    · obtain rfl := Except.ok.inj h
      exact .refl t
    · cases h

theorem deepens_ensureSteps {start : PathStart} {parts : List String} {depth : Nat}
    (h : t.ensureSteps start parts depth = .ok u) : t.Deepens u := by
  induction depth generalizing parts u with
  | zero => exact deepens_ensureOne h
  | succ depth ih =>
    rw [ensureSteps] at h
    split at h
    · next hone =>
      obtain rfl := Except.ok.inj h
      exact deepens_ensureOne hone
    · split at h
      · -- the directories above are made first
        obtain ⟨above, hsteps, h⟩ := exists_of_bind_eq_ok h
        exact (ih hsteps).trans (deepens_ensureOne h)
      · cases h

/-- **Making a directory changes nothing that is there.** -/
theorem deepens_ensureDirectory (h : t.ensureDirectory p = .ok u) : t.Deepens u :=
  deepens_ensureSteps h

/-! ### Writing files -/

/-- A tree with a file at a place that was no directory, and otherwise only with more directories. -/
structure Replaces (t u : FileTree) (place : List String) (content : List UInt8) : Prop where
  label : u.label = t.label
  name : u.name = t.name
  file : u.entry? place = some (.file content)
  notDirectory : t.entry? place ≠ some .directory
  entry : ∀ q ≠ place,
    u.entry? q = t.entry? q ∨ t.entry? q = none ∧ u.entry? q = some .directory

namespace Replaces

variable {place : List String} {content : List UInt8}

theorem grows (h : t.Replaces u place content) : t.Grows u := by
  refine ⟨h.label, h.name, fun q hdir => ?_⟩
  have hq : q ≠ place := fun e => h.notDirectory (e ▸ hdir)
  rcases h.entry q hq with he | ⟨-, he⟩
  · exact he.trans hdir
  · exact he

/-- A file elsewhere was there before exactly if it is there afterwards. -/
theorem file_iff (h : t.Replaces u place content) (hq : q ≠ place) (other : List UInt8) :
    u.entry? q = some (.file other) ↔ t.entry? q = some (.file other) := by
  rcases h.entry q hq with he | ⟨hnone, hdir⟩
  · rw [he]
  · simp [hnone, hdir]

/-- Directories may be made before. -/
theorem deepens (h : t.Deepens u) (h' : u.Replaces v place content) :
    t.Replaces v place content := by
  refine ⟨h'.label.trans h.label, h'.name.trans h.name, h'.file, fun hdir => ?_, fun q hq => ?_⟩
  · exact h'.notDirectory (h.grows.directory place hdir)
  · rcases h.entry q with he | ⟨hnone, hdir⟩
    · rw [← he]
      exact h'.entry q hq
    · exact .inr ⟨hnone, h'.grows.directory q hdir⟩

end Replaces

/-- **Writing a file changes the place of its path and no other.** -/
theorem replaces_write {content : List UInt8} (h : t.write p content = .ok u) :
    t.locate p = .ok (t.placeOf p) ∧ t.Replaces u (t.placeOf p) content := by
  unfold write at h
  obtain ⟨place, hplace, h⟩ := exists_of_bind_eq_ok h
  obtain rfl := eq_placeOf_of_locate hplace
  refine ⟨hplace, ?_⟩
  split at h
  · cases h
  · next hdir =>
    split at h
    · obtain rfl := Except.ok.inj h
      have hput := lookup_put t (fun e => hdir e) (.file content)
      refine ⟨rfl, rfl, ?_, fun e => hdir e, fun q hq => .inl ?_⟩
      · rw [hput, if_pos rfl]
      · rw [hput, if_neg hq]
    · cases h

/-! ### Reading files -/

/-- A file at the place that a path leads to can be read. -/
theorem read_of_file {content : List UInt8} (hplace : t.locate p = .ok q)
    (h : t.entry? q = some (.file content)) : t.read p = .ok content := by
  unfold read
  simp only [hplace, bind, Except.bind, h]
  rfl

/-- What is read is the file at the place that the path leads to. -/
theorem locate_of_read {content : List UInt8} (h : t.read p = .ok content) :
    t.locate p = .ok (t.placeOf p) ∧ t.entry? (t.placeOf p) = some (.file content) := by
  unfold read at h
  obtain ⟨place, hplace, h⟩ := exists_of_bind_eq_ok h
  obtain rfl := eq_placeOf_of_locate hplace
  refine ⟨hplace, ?_⟩
  split at h
  · next hfile => rw [hfile, Except.ok.inj h]
  · cases h
  · cases h

/-! ### Storing files -/

/-- A tree in which a path leads to a file with the given content, and in which otherwise only
directories may have been made. -/
structure Stores (t u : FileTree) (p : FilePath) (content : List UInt8) : Prop where
  located : u.locate p = .ok (t.placeOf p)
  replaces : t.Replaces u (t.placeOf p) content

theorem Stores.read {content : List UInt8} (h : t.Stores u p content) :
    u.read p = .ok content :=
  read_of_file h.located h.replaces.file

/-- Another file that could be read is as before. -/
theorem Stores.read_of_ne {other : FilePath} {content old : List UInt8} (h : t.Stores u p content)
    (hne : t.placeOf other ≠ t.placeOf p) (hread : t.read other = .ok old) :
    u.read other = .ok old := by
  obtain ⟨hlocate, hfile⟩ := locate_of_read hread
  exact read_of_file (h.replaces.grows.locate hlocate) ((h.replaces.file_iff hne old).mpr hfile)

/-- **A file is stored** by making a directory and writing the file. -/
theorem stores_write {parent : FilePath} {content : List UInt8}
    (hmake : t.ensureDirectory parent = .ok u) (hwrite : u.write p content = .ok v) :
    t.Stores v p content := by
  have hdeepens := deepens_ensureDirectory hmake
  obtain ⟨hlocate, hreplaces⟩ := replaces_write hwrite
  have hplace : u.placeOf p = t.placeOf p := hdeepens.grows.placeOf_eq p
  rw [hplace] at hlocate hreplaces
  exact ⟨hreplaces.grows.locate hlocate, hreplaces.deepens hdeepens⟩

end FileTree

end AnsiArt
