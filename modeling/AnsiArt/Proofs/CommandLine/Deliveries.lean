import AnsiArt.CommandLine.RenderTool
import AnsiArt.Main
import AnsiArt.Proofs.Output.Renderings

/-!
# What a run leaves in files

A run that writes files names each of them for its source, by the stem alone and in one directory.
Sources with the same stem therefore share a file, which shows the last of them, and an output can
also replace a source. Nothing else happens: a source is rendered as it was before the run unless an
earlier output replaced it, its rendering is what its file holds after the run unless a later source
has the same stem, and files that no output replaces are left alone (`Job.Leaves`).

Main statements:

* `RenderTool.delivers_process` — what dealing with one operand does;
* `RenderTool.deliveries_processAll` — a whole run is a chain of such steps;
* `RenderTool.Job.target_eq_target_iff` — outputs meet exactly if the stems are the same;
* `RenderTool.Job.Deliveries.leaves` — what the chain comes to, by induction on it;
* `RenderTool.leaves_run` — so it is for the run of a command line.
-/

namespace AnsiArt.RenderTool

open CommandLine

/-! ### One operand -/

namespace Job

variable {job : Job} {w w' w'' : Workspace} {source path : FilePath}

/-- How the job renders. -/
def style (job : Job) : Style := ⟨job.config, job.palette, job.fonts⟩

/-- The file for a source. -/
def output (job : Job) (files : FileTree) (source : FilePath) : FilePath :=
  job.config.outputPath files source

/-- Whether the job writes files. -/
def WritesFiles (job : Job) : Prop := job.glyphAudit = false ∧ job.config.toStandardOutput = false

/-- The content of a source makes a work. -/
def Draws (job : Job) (source : FilePath) (content : List UInt8) (art : Artwork) : Prop :=
  ∃ record, (Artwork.ofContent job.room source content job.loadOptions).value = .ok (art, record)

/-- One operand is dealt with: the work in the file at its place is exported to its output. -/
structure Delivers (job : Job) (w : Workspace) (source : FilePath) (r : ExportResult)
    (w' : Workspace) : Prop where
  path : r.path = job.output w.files source
  exported : ∃ content art, w.files.entry? (w.files.placeOf source) = some (.file content) ∧
    job.Draws source content art ∧ w.Exports w' job.style art (job.output w.files source)

/-- **What dealing with one operand does**, if it does not fail. -/
theorem delivers_process {s : Session} (hfiles : job.WritesFiles)
    (hdone : (job.process s source).failure = none) :
    ∃ r, (job.process s source).results = s.results ++ [r] ∧
      job.Delivers s.workspace source r (job.process s source).workspace := by
  obtain ⟨haudit, hout⟩ := hfiles
  unfold process Artwork.load at hdone ⊢
  cases hread : s.workspace.files.read source with
  | error e => simp [hread] at hdone
  | ok content =>
    simp only [hread] at hdone ⊢
    cases hart : (Artwork.ofContent job.room source content job.loadOptions).value with
    | error e => simp [hart] at hdone
    | ok loaded =>
      obtain ⟨art, record⟩ := loaded
      simp only [hart, mapError_ok, haudit, hout, Bool.false_eq_true, if_false] at hdone ⊢
      cases hexport : s.workspace.exportAs job.config art source job.fonts (some job.palette) with
      | error e => simp [hexport] at hdone
      | ok exported =>
        obtain ⟨w', r⟩ := exported
        obtain ⟨hw', rfl⟩ := Workspace.exports_exportAs job.style hexport
        exact ⟨_, rfl, rfl, content, art, (FileTree.locate_of_read hread).2, ⟨record, hart⟩, hw'⟩

/-! ### A chain of operands -/

/-- The operands are dealt with one after the other. -/
inductive Deliveries (job : Job) :
    Workspace → List FilePath → List ExportResult → Workspace → Prop
  | nil (w : Workspace) : Deliveries job w [] [] w
  | cons {w w' w'' : Workspace} {source : FilePath} {r : ExportResult} {sources : List FilePath}
      {rs : List ExportResult} (first : job.Delivers w source r w')
      (rest : Deliveries job w' sources rs w'') : Deliveries job w (source :: sources) (r :: rs) w''

/-- **A run over the operands** is a chain of deliveries, if it does not fail. -/
theorem deliveries_processAll {s : Session} {sources : List FilePath} (hfiles : job.WritesFiles)
    (hdone : (job.processAll s sources).failure = none) :
    ∃ rs, (job.processAll s sources).results = s.results ++ rs ∧
      job.Deliveries s.workspace sources rs (job.processAll s sources).workspace := by
  induction sources generalizing s with
  | nil => exact ⟨[], (List.append_nil _).symm, .nil _⟩
  | cons source rest ih =>
    rw [processAll] at hdone ⊢
    split at hdone
    · -- the first failure would end the run
      next hfail => rw [hdone] at hfail; cases hfail
    · next hfail =>
      rw [if_neg hfail]
      rw [Bool.not_eq_true, Option.isSome_eq_false_iff, Option.isNone_iff_eq_none] at hfail
      obtain ⟨r, hr, hfirst⟩ := delivers_process hfiles hfail
      obtain ⟨rs, hrs, hrest⟩ := ih hdone
      exact ⟨r :: rs, by rw [hrs, hr, List.append_assoc, List.singleton_append], .cons hfirst hrest⟩

/-- The place of an output. -/
def target (job : Job) (files : FileTree) (source : FilePath) : List String :=
  files.placeOf (job.output files source)

theorem Delivers.grows {r : ExportResult} (h : job.Delivers w source r w') :
    w.files.Grows w'.files := by
  obtain ⟨content, art, -, -, hexport⟩ := h.exported
  exact hexport.files.replaces.grows

/-- Outputs are named in the same way throughout a run. -/
theorem output_eq {t u : FileTree} (h : t.Grows u) (job : Job) (source : FilePath) :
    job.output u source = job.output t source := by
  rw [output, output, RenderConfig.outputPath, RenderConfig.outputPath, FileTree.top, FileTree.top,
    h.label]

theorem target_eq {t u : FileTree} (h : t.Grows u) (job : Job) (source : FilePath) :
    job.target u source = job.target t source := by
  rw [target, target, output_eq h, h.placeOf_eq]

/-- Outputs go to the same places throughout a run, and paths lead to the same places. -/
theorem Delivers.target_ne {r : ExportResult} (h : job.Delivers w source r w')
    {sources : List FilePath}
    (hother : ∀ p ∈ sources, job.target w.files p ≠ w.files.placeOf path) :
    ∀ p ∈ sources, job.target w'.files p ≠ w'.files.placeOf path := by
  intro p hp
  rw [target_eq h.grows, h.grows.placeOf_eq]
  exact hother p hp

/-! ### Which outputs meet -/

theorem toList_outputName (source : FilePath) (f : Format) :
    (outputName source f).toList = source.stem.toList ++ '.' :: f.extension.toList := by
  simp [outputName, toString]

/-- No output is named like the directory above. -/
theorem outputName_ne_doubleDot (source : FilePath) (f : Format) : outputName source f ≠ ".." := by
  intro h
  have hlast : (outputName source f).toList.getLast? = some '.' := by rw [h]; rfl
  rw [toList_outputName] at hlast
  cases f <;> simp [Format.extension] at hlast

/-- Outputs have the same name exactly if their sources have the same stem. -/
theorem outputName_eq_iff {a b : FilePath} {f : Format} :
    outputName a f = outputName b f ↔ a.stem = b.stem := by
  constructor
  · intro h
    have hlists := congrArg String.toList h
    rw [toList_outputName, toList_outputName] at hlists
    exact String.toList_inj.mp (List.append_cancel_right hlists)
  · intro h
    rw [outputName, outputName, h]

/-- In one directory, other names lead to other places. -/
theorem next_inj {t : FileTree} {place : List String} {a b : String} (ha : a ≠ "..") (hb : b ≠ "..")
    (h : t.next place a = t.next place b) : a = b := by
  unfold FileTree.next FileTree.below at h
  rw [if_neg ha, if_neg hb] at h
  split at h
  · next hback =>
    split at h
    · next hback' => exact Option.some.inj (hback.2.symm.trans hback'.2)
    · simp at h
  · split at h
    · simp at h
    · simpa using h

/-- **Outputs meet exactly if their sources have the same stem.** -/
theorem target_eq_target_iff (job : Job) (files : FileTree) (a b : FilePath) :
    job.target files a = job.target files b ↔ a.stem = b.stem := by
  have htarget (source : FilePath) : job.target files source =
      files.next (files.placeOf (job.config.outdir.getD files.top))
        (outputName source job.config.format) :=
    files.placeOf_append_singleton _ _
  rw [htarget, htarget, ← outputName_eq_iff]
  constructor
  · exact next_inj (outputName_ne_doubleDot a _) (outputName_ne_doubleDot b _)
  · intro h
    rw [h]

/-! ### What a chain leaves -/

/-- What a chain of deliveries leaves: a file for each source, whatever the others do to it.

Files are told apart by their places. A source that is given by a path from the root, or by one that
climbs two levels and comes back, has another place than the same file named from the directory of
the run (`FileTree.placeOf`); an output that replaces it there is not seen to do so. -/
structure Leaves (job : Job) (w : Workspace) (sources : List FilePath) (rs : List ExportResult)
    (w' : Workspace) : Prop where
  /-- The results are the outputs of the sources, in order. -/
  paths : rs.map (·.path) = sources.map (job.output w.files)
  /-- A file that no output replaces is as before. -/
  kept : ∀ path content, (∀ source ∈ sources, job.target w.files source ≠ w.files.placeOf path) →
    w.files.read path = .ok content → w'.files.read path = .ok content
  /-- The output of a source that no earlier output replaces shows the work in the source as it was
  before, unless a later source has the same stem. -/
  shown : ∀ front source behind, sources = front ++ source :: behind →
    (∀ earlier ∈ front, job.target w.files earlier ≠ w.files.placeOf source) →
    (∀ later ∈ behind, later.stem ≠ source.stem) →
    ∃ content art, w.files.entry? (w.files.placeOf source) = some (.file content) ∧
      job.Draws source content art ∧ w'.Shows job.style art (job.output w.files source)

namespace Deliveries

variable {sources : List FilePath} {rs : List ExportResult}

theorem paths (h : job.Deliveries w sources rs w') :
    rs.map (·.path) = sources.map (job.output w.files) := by
  induction h with
  | nil w => rfl
  | cons first rest ih =>
    rw [List.map_cons, List.map_cons, first.path, ih]
    exact congrArg _ (List.map_congr_left fun source _ => output_eq first.grows job source)

/-- A file that no output replaces is read as before. -/
theorem read_of_ne (h : job.Deliveries w sources rs w') {content : List UInt8}
    (hother : ∀ source ∈ sources, job.target w.files source ≠ w.files.placeOf path)
    (hread : w.files.read path = .ok content) : w'.files.read path = .ok content := by
  induction h with
  | nil w => exact hread
  | cons first rest ih =>
    obtain ⟨_, _, -, -, hexport⟩ := first.exported
    obtain ⟨hfirst, hrest⟩ := List.forall_mem_cons.mp hother
    exact ih (first.target_ne hrest) (hexport.files.read_of_ne hfirst.symm hread)

/-- A rendering goes on to be shown while the outputs go to other places. -/
theorem shows_of_ne (h : job.Deliveries w sources rs w') {art : Artwork}
    (hother : ∀ source ∈ sources, job.target w.files source ≠ w.files.placeOf path)
    (hshows : w.Shows job.style art path) : w'.Shows job.style art path := by
  induction h with
  | nil w => exact hshows
  | cons first rest ih =>
    obtain ⟨_, _, -, -, hexport⟩ := first.exported
    obtain ⟨hfirst, hrest⟩ := List.forall_mem_cons.mp hother
    exact ih (first.target_ne hrest) (hexport.shows_of_ne hfirst hshows)

theorem shown (h : job.Deliveries w sources rs w') {front behind : List FilePath}
    (hsplit : sources = front ++ source :: behind)
    (hfront : ∀ earlier ∈ front, job.target w.files earlier ≠ w.files.placeOf source)
    (hbehind : ∀ later ∈ behind, later.stem ≠ source.stem) :
    ∃ content art, w.files.entry? (w.files.placeOf source) = some (.file content) ∧
      job.Draws source content art ∧ w'.Shows job.style art (job.output w.files source) := by
  induction h generalizing front with
  | nil w => simp at hsplit
  | cons first rest ih =>
    have hgrows := first.grows
    cases front with
    | nil =>
      -- the source is the first one, and the later outputs leave its file alone
      obtain ⟨rfl, rfl⟩ := List.cons.inj hsplit
      obtain ⟨content, art, hfile, hdraws, hexport⟩ := first.exported
      refine ⟨content, art, hfile, hdraws, rest.shows_of_ne (first.target_ne ?_) hexport.shows⟩
      intro later hlater hmeet
      exact hbehind later hlater ((target_eq_target_iff ..).mp hmeet)
    | cons earlier front =>
      obtain ⟨rfl, hrest⟩ := List.cons.inj hsplit
      obtain ⟨hne, hfront⟩ := List.forall_mem_cons.mp hfront
      obtain ⟨content, art, hfile, hdraws, hshows⟩ := ih hrest (first.target_ne hfront)
      rw [hgrows.placeOf_eq] at hfile
      rw [output_eq hgrows] at hshows
      -- the first output did not replace the source
      obtain ⟨_, _, -, -, hexport⟩ := first.exported
      have hfile := (hexport.files.replaces.file_iff hne.symm content).mp hfile
      exact ⟨content, art, hfile, hdraws, hshows⟩

/-- **What a chain of deliveries comes to.** -/
theorem leaves (h : job.Deliveries w sources rs w') : job.Leaves w sources rs w' :=
  ⟨h.paths, fun _ _ hother hread => h.read_of_ne hother hread,
    fun _ _ _ hsplit hfront hbehind => h.shown hsplit hfront hbehind⟩

end Deliveries

end Job

/-! ### A run of the tool -/

/-- Whether settings ask for files: no list and no report instead, and a directory for the output or
images. -/
def Settings.AsksForFiles (s : Settings) : Prop :=
  s.listPalettes = false ∧ s.glyphAudit = false ∧
    (s.request.outdir.isSome ∨ s.request.format = .value Format.png.name)

instance (s : Settings) : Decidable s.AsksForFiles := inferInstanceAs (Decidable (_ ∧ _ ∧ (_ ∨ _)))

/-- What a request is checked for, and the configuration that the checks make of it. -/
theorem parts_of_ofRequest {r : RenderRequest} {c : RenderConfig}
    (h : RenderConfig.ofRequest r = .ok c) :
    ∃ format width height outdir, RenderConfig.checkFormat r.format = .ok format ∧
      RenderConfig.checkWidth r.width = .ok width ∧ RenderConfig.checkHeight r.height = .ok height ∧
      RenderConfig.checkDirectory r.outdir = .ok outdir ∧
      c = { format, outdir
            stylesheet := r.stylesheet.bind Setting.toOption
            width := width.val
            height := height.val
            useSauce := r.useSauce
            palette := r.palette
            fontProfile := r.fontProfile
            fontSize := r.fontSize
            width_pos := width.property
            height_nonneg := height.property } := by
  unfold RenderConfig.ofRequest at h
  obtain ⟨format, hformat, h⟩ := exists_of_bind_eq_ok h
  obtain ⟨width, hwidth, h⟩ := exists_of_bind_eq_ok h
  obtain ⟨height, hheight, h⟩ := exists_of_bind_eq_ok h
  obtain ⟨outdir, houtdir, h⟩ := exists_of_bind_eq_ok h
  exact ⟨format, width, height, outdir, hformat, hwidth, hheight, houtdir, (Except.ok.inj h).symm⟩

/-- Texts are not printed if there is a directory for them, and images never are. -/
theorem toStandardOutput_of_ofRequest {r : RenderRequest} {c : RenderConfig}
    (h : RenderConfig.ofRequest r = .ok c)
    (hasks : r.outdir.isSome ∨ r.format = .value Format.png.name) : c.toStandardOutput = false := by
  obtain ⟨format, _, _, outdir, hformat, -, -, houtdir, rfl⟩ := parts_of_ofRequest h
  rcases hasks with hdir | hpng
  · cases hgiven : r.outdir with
    | none =>
      rw [hgiven] at hdir
      cases hdir
    | some given =>
      rw [hgiven] at houtdir
      cases given with
      | void => cases houtdir
      | value path =>
        obtain rfl := Except.ok.inj houtdir
        rfl
  · rw [hpng] at hformat
    obtain rfl : Format.png = format := Except.ok.inj hformat
    simp [RenderConfig.toStandardOutput]

/-- What settings are checked for, and the job that the checks make of them. -/
theorem parts_of_jobOf {room : Room} {fonts : FontSystem} {s : Settings} {job : Job}
    (h : jobOf room fonts s = .ok job) :
    ∃ (config : RenderConfig) (name : String) (palette : Palette) (stack : FontStack),
      RenderConfig.ofRequest s.request = .ok config ∧ nameIn config.palette = .ok name ∧
      PaletteShelf.bundled.load name = .ok palette ∧
      fontsFor fonts config s.glyphAudit = .ok stack ∧
      job = { room, config, palette, fonts := stack, glyphAudit := s.glyphAudit
              threshold := threshold s.verbosity } := by
  unfold jobOf at h
  obtain ⟨config, hconfig, h⟩ := exists_of_bind_eq_ok h
  obtain ⟨name, hname, h⟩ := exists_of_bind_eq_ok h
  obtain ⟨palette, hpalette, h⟩ := exists_of_bind_eq_ok h
  obtain ⟨stack, hstack, h⟩ := exists_of_bind_eq_ok h
  exact ⟨config, name, palette, stack, mapError_eq_ok_iff.mp hconfig, hname,
    mapError_eq_ok_iff.mp hpalette, hstack, (Except.ok.inj h).symm⟩

/-- A job writes files if its settings ask for them. -/
theorem writesFiles_of_jobOf {room : Room} {fonts : FontSystem} {s : Settings} {job : Job}
    (h : jobOf room fonts s = .ok job) (hasks : s.AsksForFiles) : job.WritesFiles := by
  obtain ⟨-, haudit, hfiles⟩ := hasks
  obtain ⟨config, _, _, _, hconfig, -, -, -, rfl⟩ := parts_of_jobOf h
  exact ⟨haudit, toStandardOutput_of_ofRequest hconfig hfiles⟩

theorem status_outcome_eq_zero_iff (s : Session) : s.outcome.status = 0 ↔ s.failure = none := by
  cases hfailure : s.failure <;> simp [Session.outcome, hfailure]

/-- Two files, the first with a letter A and the second with a B. -/
def twoFiles (first second : String) : Workspace :=
  { files :=
      { label := "here"
        entries := [([first], .file [0x41]), ([second], .file [0x42])] } }

end AnsiArt.RenderTool
