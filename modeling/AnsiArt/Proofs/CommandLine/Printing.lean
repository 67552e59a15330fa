import AnsiArt.Proofs.CommandLine.Deliveries
import AnsiArt.Proofs.Palette.Loading
import AnsiArt.Proofs.Text.Utf8

/-!
# What a run prints

A run that prints leaves the files as they are. It prints the rendering of each operand in turn, up
to the first that cannot be loaded (`Job.transcript`), so what it prints for a row of operands is
made of what it prints for each of them.

With a directory for the output the same renderings go to files instead. Both ways of delivering use
the palette of the run, which is never empty, so they render alike; and as long as outputs neither
meet each other nor the operands, every file holds what would have been printed.

Main statements:

* `RenderTool.processAll_prints` — what a run over the operands prints;
* `RenderTool.jobOf_intoDirectory` — a directory for the output changes nothing else of the job;
* `RenderTool.content_intoDirectory` — both ways of delivering render alike;
* `RenderTool.runWith_prints` — what a run of the tool prints;
* `RenderTool.printed_eq_written` — how it compares with what a run with a directory writes.
-/

namespace AnsiArt

/-- The text in a file, if it is encoded as UTF-8. -/
def FileTree.text? (files : FileTree) (path : FilePath) : Option String :=
  (files.read path).toOption.bind fun content => (Utf8.decode content).toOption.map String.ofList

theorem FileTree.text?_of_read {files : FileTree} {path : FilePath} {text : String}
    (h : files.read path = .ok text.toUTF8.toList) : files.text? path = some text := by
  unfold FileTree.text?
  rw [h, Except.toOption, Option.bind_some, Utf8.decode_toUTF8, Except.toOption, Option.map_some,
    String.ofList_toList]

namespace RenderTool

open CommandLine

/-! ### Printing -/

namespace Job

/-- Whether the job prints renderings. -/
def Prints (job : Job) : Prop := job.glyphAudit = false ∧ job.config.toStandardOutput = true

/-- The rendering of a source, if it can be loaded. -/
def rendering? (job : Job) (files : FileTree) (source : FilePath) : Option String :=
  (Artwork.load job.room files source job.loadOptions).value.toOption.map fun loaded =>
    printed job loaded.1

/-- The renderings of the sources, up to the first that cannot be loaded. -/
def transcript (job : Job) (files : FileTree) : List FilePath → String
  | [] => ""
  | source :: rest =>
    match job.rendering? files source with
    | some text => text ++ job.transcript files rest
    | none => ""

variable {job : Job} {files : FileTree}

/-- What is printed for sources that can be loaded stands in front of what is printed for others. -/
theorem transcript_append {sources : List FilePath} {texts : List String}
    (h : sources.map (job.rendering? files) = texts.map some) (behind : List FilePath) :
    job.transcript files (sources ++ behind) = String.join texts ++ job.transcript files behind := by
  induction sources generalizing texts with
  | nil =>
    obtain rfl := List.map_eq_nil_iff.mp h.symm
    simp
  | cons source sources ih =>
    cases texts with
    | nil => cases h
    | cons text texts =>
      obtain ⟨hfirst, hrest⟩ := List.cons.inj h
      rw [List.cons_append, transcript, hfirst]
      simp only
      rw [ih hrest, String.join_cons, String.append_assoc]

theorem transcript_eq_join {sources : List FilePath} {texts : List String}
    (h : sources.map (job.rendering? files) = texts.map some) :
    job.transcript files sources = String.join texts := by
  have hall := transcript_append h []
  rw [List.append_nil] at hall
  rw [hall, transcript, String.append_empty]

theorem exists_texts {sources : List FilePath}
    (h : ∀ source ∈ sources, (job.rendering? files source).isSome) :
    ∃ texts : List String, sources.map (job.rendering? files) = texts.map some := by
  refine ⟨sources.map fun source => (job.rendering? files source).getD "", ?_⟩
  rw [List.map_map]
  refine List.map_congr_left fun source hsource => ?_
  obtain ⟨text, htext⟩ := Option.isSome_iff_exists.mp (h source hsource)
  rw [Function.comp_apply, htext, Option.getD_some]

end Job

theorem process_prints {job : Job} (h : job.Prints) (s : Session) (source : FilePath) :
    (job.process s source).workspace = s.workspace ∧
      match job.rendering? s.workspace.files source with
      | some text =>
        (job.process s source).output = s.output ++ text ∧
          (job.process s source).failure = s.failure
      | none =>
        (job.process s source).output = s.output ∧ (job.process s source).failure.isSome := by
  obtain ⟨haudit, hout⟩ := h
  unfold Job.process Job.rendering?
  cases hloaded : (Artwork.load job.room s.workspace.files source job.loadOptions).value with
  | error e => simp [hloaded, Except.toOption]
  | ok loaded => simp [hloaded, haudit, hout, Except.toOption]

/-- **What a run over the operands prints.** It fails if one of them cannot be loaded, and it leaves
the files alone. -/
theorem processAll_prints {job : Job} (h : job.Prints) {s : Session} (hs : s.failure = none)
    (sources : List FilePath) :
    (job.processAll s sources).output = s.output ++ job.transcript s.workspace.files sources ∧
      ((job.processAll s sources).failure = none ↔
        ∀ source ∈ sources, (job.rendering? s.workspace.files source).isSome) ∧
      (job.processAll s sources).workspace = s.workspace := by
  induction sources generalizing s with
  | nil => simp [Job.processAll, Job.transcript, hs]
  | cons source rest ih =>
    obtain ⟨hworkspace, hprocess⟩ := process_prints h s source
    rw [Job.processAll, Job.transcript]
    cases htext : job.rendering? s.workspace.files source with
    | none =>
      simp only [htext] at hprocess ⊢
      obtain ⟨houtput, hfailure⟩ := hprocess
      -- the first failure ends the run
      rw [if_pos hfailure]
      refine ⟨by rw [houtput, String.append_empty], ⟨fun hnone => ?_, fun hall => ?_⟩, hworkspace⟩
      · rw [hnone] at hfailure
        cases hfailure
      · have := hall source List.mem_cons_self
        rw [htext] at this
        cases this
    | some text =>
      simp only [htext] at hprocess ⊢
      obtain ⟨houtput, hfailure⟩ := hprocess
      rw [hs] at hfailure
      rw [if_neg (by rw [hfailure]; decide)]
      obtain ⟨hrest, hdone, hkept⟩ := ih hfailure
      rw [hworkspace] at hrest hdone hkept
      refine ⟨by rw [hrest, houtput, String.append_assoc], ?_, hkept⟩
      rw [hdone, List.forall_mem_cons, htext]
      simp

/-! ### A directory for the output -/

/-- Settings that ask for texts or documents on the standard output. -/
structure Settings.AsksForPrint (s : Settings) (f : Format) : Prop where
  lists : s.listPalettes = false
  audits : s.glyphAudit = false
  directory : s.request.outdir = none
  format : s.request.format = .value f.name
  printable : f ≠ .png

/-- The same settings with a directory for the output. -/
def Settings.intoDirectory (s : Settings) (directory : String) : Settings :=
  s.ask ({ · with outdir := some (.value directory) })

/-- The output of a source in a directory. -/
def outputIn (directory : String) (f : Format) (source : FilePath) : FilePath :=
  .ofString directory / { parts := [outputName source f] }

/-- Outputs in a directory meet neither each other nor the sources. -/
structure OutputsApart (files : FileTree) (directory : String) (f : Format)
    (sources : List FilePath) : Prop where
  names : (sources.map (outputName · f)).Nodup
  places : ∀ a ∈ sources, ∀ b ∈ sources,
    files.placeOf (outputIn directory f a) ≠ files.placeOf b

/-- The same job with a directory for the output. -/
def Job.intoDirectory (job : Job) (directory : String) : Job :=
  { job with config := { job.config with outdir := some (.ofString directory) } }

theorem ofRequest_intoDirectory {r : RenderRequest} {c : RenderConfig}
    (h : RenderConfig.ofRequest r = .ok c) (directory : String) :
    RenderConfig.ofRequest { r with outdir := some (.value directory) } =
      .ok { c with outdir := some (.ofString directory) } := by
  obtain ⟨format, width, height, _, hformat, hwidth, hheight, -, rfl⟩ := parts_of_ofRequest h
  unfold RenderConfig.ofRequest
  simp only [hformat, hwidth, hheight]
  rfl

/-- What settings for the standard output make of the configuration. -/
theorem config_of_ofRequest {s : Settings} {f : Format} (hs : s.AsksForPrint f) {c : RenderConfig}
    (h : RenderConfig.ofRequest s.request = .ok c) : c.format = f ∧ c.toStandardOutput = true := by
  obtain ⟨format, _, _, outdir, hformat, -, -, houtdir, rfl⟩ := parts_of_ofRequest h
  rw [hs.format, RenderConfig.checkFormat, Setting.toOption, Option.bind_some,
    Format.ofName?_name] at hformat
  obtain rfl : f = format := Except.ok.inj hformat
  rw [hs.directory] at houtdir
  obtain rfl : none = outdir := Except.ok.inj houtdir
  exact ⟨rfl, by simp [RenderConfig.toStandardOutput, hs.printable]⟩

/-- **A directory for the output changes nothing else of the job.** -/
theorem jobOf_intoDirectory {room : Room} {fonts : FontSystem} {s : Settings} {job : Job}
    (h : jobOf room fonts s = .ok job) (directory : String) :
    jobOf room fonts (s.intoDirectory directory) = .ok (job.intoDirectory directory) := by
  obtain ⟨config, name, palette, stack, hconfig, hname, hpalette, hstack, rfl⟩ := parts_of_jobOf h
  have hconfig' := ofRequest_intoDirectory hconfig directory
  -- the palette and the fonts are found without a look at the directory
  unfold jobOf
  simp only [Settings.intoDirectory, Settings.ask, hconfig', mapError_ok]
  show (nameIn config.palette >>= _) = _
  rw [hname]
  show ((PaletteShelf.bundled.load name).mapError _ >>= _) = _
  rw [hpalette]
  show (fontsFor fonts config s.glyphAudit >>= _) = _
  rw [hstack]
  rfl

/-- **Both ways of delivering render alike.** -/
theorem content_intoDirectory {job : Job} (hformat : job.config.format ≠ .png)
    (hsize : job.palette.size ≠ 0) (directory : String) (encode : Image → List UInt8)
    (art : Artwork) :
    (job.intoDirectory directory).style.content encode art = (printed job art).toUTF8.toList := by
  have hpalette : (job.intoDirectory directory).style.paletteFor art = job.palette := by
    -- a palette gives way to that of the work only if it is empty
    show Palette.orElse (some job.palette) art.palette = job.palette
    exact if_neg hsize
  unfold Style.content printed
  rw [hpalette, show (job.intoDirectory directory).style.config.format = job.config.format from rfl]
  cases hf : job.config.format with
  | text => rfl
  | html => rfl
  | png => exact absurd hf hformat

/-! ### A run of the tool -/

section Run

variable {room : Room} {fonts : FontSystem} {w : Workspace} {s : Settings} {operands : List String}

/-- A run that returns 0 has dealt with its operands, of which there are some. -/
theorem exists_job_of_status (hlists : s.listPalettes = false)
    (hstatus : (runWith room fonts w s operands).status = 0) :
    operands ≠ [] ∧ ∃ job, jobOf room fonts s = .ok job ∧
      runWith room fonts w s operands =
        (job.processAll { workspace := w } (operands.map .ofString)).outcome ∧
      (job.processAll { workspace := w } (operands.map .ofString)).failure = none := by
  unfold runWith at hstatus ⊢
  rw [hlists] at hstatus ⊢
  simp only [Bool.false_eq_true, if_false] at hstatus ⊢
  split at hstatus
  · cases hstatus
  · next hoperands =>
    rw [if_neg hoperands]
    refine ⟨by simpa using hoperands, ?_⟩
    cases hjob : jobOf room fonts s with
    | error e =>
      rw [hjob] at hstatus
      cases hstatus
    | ok job =>
      rw [hjob] at hstatus
      exact ⟨job, rfl, rfl, (status_outcome_eq_zero_iff _).mp hstatus⟩

theorem status_runWith (room : Room) (fonts : FontSystem) (w : Workspace) (s : Settings)
    (operands : List String) :
    (runWith room fonts w s operands).status = 0 ∨ (runWith room fonts w s operands).status = 1 := by
  have houtcome (session : Session) : session.outcome.status = 0 ∨ session.outcome.status = 1 := by
    cases hfailure : session.failure <;> simp [Session.outcome, hfailure]
  unfold runWith
  repeat' split
  all_goals first
    | exact houtcome _
    | exact .inl rfl

theorem outcome_eq (session : Session) :
    session.outcome.output = session.output ∧ session.outcome.workspace = session.workspace := by
  cases hfailure : session.failure <;> simp [Session.outcome, hfailure]

theorem prints_of_jobOf {f : Format} (hs : s.AsksForPrint f) {job : Job}
    (hjob : jobOf room fonts s = .ok job) : job.Prints ∧ job.config.format = f := by
  obtain ⟨config, name, palette, stack, hconfig, -, -, -, rfl⟩ := parts_of_jobOf hjob
  obtain ⟨hformat, hout⟩ := config_of_ofRequest hs hconfig
  exact ⟨⟨hs.audits, hout⟩, hformat⟩

/-- **A run that prints** prints its transcript, fails if an operand cannot be loaded, and leaves the
files alone. -/
theorem runWith_prints {f : Format} (hs : s.AsksForPrint f) {job : Job}
    (hjob : jobOf room fonts s = .ok job) (hne : operands ≠ []) :
    (runWith room fonts w s operands).output =
        job.transcript w.files (operands.map .ofString) ∧
      ((runWith room fonts w s operands).status = 0 ↔
        ∀ source ∈ operands.map .ofString, (job.rendering? w.files source).isSome) ∧
      (runWith room fonts w s operands).workspace = w := by
  have hrun : runWith room fonts w s operands =
      (job.processAll { workspace := w } (operands.map .ofString)).outcome := by
    unfold runWith
    rw [hs.lists, hjob]
    simp [hne]
  obtain ⟨houtput, hdone, hworkspace⟩ := processAll_prints (prints_of_jobOf hs hjob).1
    (show ({ workspace := w } : Session).failure = none from rfl) (operands.map .ofString)
  obtain ⟨hout, hkept⟩ := outcome_eq (job.processAll { workspace := w } (operands.map .ofString))
  rw [hrun, status_outcome_eq_zero_iff, hout, hkept]
  exact ⟨by rw [houtput, String.empty_append], hdone, hworkspace⟩

/-- The rendering of a source that can be loaded is that of the work in its file. -/
theorem rendering?_of_draws {job : Job} {files : FileTree} {source : FilePath}
    {content : List UInt8} {art : Artwork}
    (hfile : files.entry? (files.placeOf source) = some (.file content))
    (hdraws : job.Draws source content art) (hloads : (job.rendering? files source).isSome) :
    job.rendering? files source = some (printed job art) := by
  obtain ⟨record, hdraws⟩ := hdraws
  obtain ⟨text, htext⟩ := Option.isSome_iff_exists.mp hloads
  obtain ⟨loaded, hloaded, -⟩ := Option.map_eq_some_iff.mp htext
  unfold Job.rendering?
  unfold Artwork.load at hloaded ⊢
  cases hread : files.read source with
  | error e =>
    rw [hread] at hloaded
    cases hloaded
  | ok content' =>
    -- what is read is what the entry holds
    have hcontent := (FileTree.locate_of_read hread).2
    rw [hfile] at hcontent
    obtain rfl := Entry.file.inj (Option.some.inj hcontent)
    simp only [hdraws, mapError_ok, Except.toOption, Option.map_some]

/-- Of a run that writes files, the file of each operand holds what would have been printed for it,
if outputs neither meet each other nor the operands. -/
theorem text?_output_of_deliveries {job : Job} {directory : String} {f : Format}
    {sources : List FilePath} {rs : List ExportResult} {w' : Workspace}
    (hformat : job.config.format = f) (hf : f ≠ .png) (hsize : job.palette.size ≠ 0)
    (hloads : ∀ source ∈ sources, (job.rendering? w.files source).isSome)
    (hapart : OutputsApart w.files directory f sources)
    (h : (job.intoDirectory directory).Deliveries w sources rs w') :
    ∀ source ∈ sources,
      w'.files.text? (outputIn directory f source) = job.rendering? w.files source := by
  subst hformat
  intro source hsource
  obtain ⟨front, behind, rfl⟩ := List.append_of_mem hsource
  -- no earlier output replaces the source, and no later one goes where its output is
  obtain ⟨content, art, hfile, hdraws, hshows⟩ := h.leaves.shown front source behind rfl
    (fun earlier hearlier => hapart.places earlier (List.mem_append_left _ hearlier) source hsource)
    (fun later hlater hstem => by
      have hnames := hapart.names
      rw [List.map_append, List.map_cons, List.nodup_append, List.nodup_cons] at hnames
      refine hnames.2.1.1 (List.mem_map.mpr ⟨later, hlater, ?_⟩)
      exact Job.outputName_eq_iff.mpr hstem)
  -- both jobs load alike
  have hrendering : job.rendering? w.files source = some (printed job art) :=
    rendering?_of_draws hfile hdraws (hloads source hsource)
  have hread := hshows.file
  rw [content_intoDirectory hf hsize] at hread
  rw [hrendering]
  exact FileTree.text?_of_read hread

/-- **Files hold what is printed.** -/
theorem exists_texts_of_status {f : Format} (hs : s.AsksForPrint f) {directory : String}
    (hprint : (runWith room fonts w s operands).status = 0)
    (hwrite : (runWith room fonts w (s.intoDirectory directory) operands).status = 0)
    (hapart : OutputsApart w.files directory f (operands.map .ofString)) :
    ∃ job texts, jobOf room fonts s = .ok job ∧
      (operands.map FilePath.ofString).map (job.rendering? w.files) = texts.map some ∧
      (runWith room fonts w s operands).output = String.join texts ∧
      (operands.map FilePath.ofString).map (fun source =>
        (runWith room fonts w (s.intoDirectory directory) operands).workspace.files.text?
          (outputIn directory f source)) = texts.map some := by
  obtain ⟨hne, job, hjob, -, -⟩ := exists_job_of_status hs.lists hprint
  obtain ⟨houtput, hdone, -⟩ := runWith_prints (w := w) hs hjob hne
  have hloads := hdone.mp hprint
  obtain ⟨texts, htexts⟩ := Job.exists_texts hloads
  refine ⟨job, texts, hjob, htexts, by rw [houtput, Job.transcript_eq_join htexts], ?_⟩
  -- the other run does the same job with files
  obtain ⟨-, job', hjob', hrun, hfailure⟩ := exists_job_of_status
    (show (s.intoDirectory directory).listPalettes = false from hs.lists) hwrite
  rw [jobOf_intoDirectory hjob directory] at hjob'
  obtain rfl := Except.ok.inj hjob'
  have hasks : (s.intoDirectory directory).AsksForFiles := ⟨hs.lists, hs.audits, .inl rfl⟩
  have hwrites := writesFiles_of_jobOf (jobOf_intoDirectory hjob directory) hasks
  obtain ⟨rs, -, hdeliveries⟩ := Job.deliveries_processAll hwrites hfailure
  obtain ⟨-, hworkspace⟩ := outcome_eq
    ((job.intoDirectory directory).processAll { workspace := w } (operands.map .ofString))
  rw [hrun, hworkspace, ← htexts]
  have hsize : job.palette.size ≠ 0 := by
    obtain ⟨_, _, _, _, -, -, hpalette, -, rfl⟩ := parts_of_jobOf hjob
    rw [PaletteShelf.size_load hpalette]
    decide
  exact List.map_congr_left (text?_output_of_deliveries (prints_of_jobOf hs hjob).2 hs.printable
    hsize hloads hapart hdeliveries)

/-- **Runs one after the other print what a run over all operands prints**, if the first is done
without a failure. -/
theorem output_append {f : Format} (hs : s.AsksForPrint f) {xs : List String}
    (hstatus : (runWith room fonts w s xs).status = 0) (ys : List String) :
    (runWith room fonts w s (xs ++ ys)).output =
      (runWith room fonts w s xs).output ++
        (runWith room fonts (runWith room fonts w s xs).workspace s ys).output := by
  obtain ⟨hne, job, hjob, -, -⟩ := exists_job_of_status hs.lists hstatus
  obtain ⟨houtput, hdone, hkept⟩ := runWith_prints (w := w) hs hjob hne
  have hne' : xs ++ ys ≠ [] := List.append_ne_nil_of_left_ne_nil hne ys
  obtain ⟨houtput', -, -⟩ := runWith_prints (w := w) hs hjob hne'
  obtain ⟨texts, htexts⟩ := Job.exists_texts (hdone.mp hstatus)
  rw [houtput', List.map_append, Job.transcript_append htexts, houtput,
    Job.transcript_eq_join htexts, hkept]
  congr 1
  -- without operands a run prints nothing
  cases ys with
  | nil =>
    unfold runWith
    rw [hs.lists]
    rfl
  | cons y ys => rw [(runWith_prints hs hjob (List.cons_ne_nil y ys)).1]

/-- **The first operand that cannot be loaded ends a run that prints.** -/
theorem output_of_load_error {f : Format} (hs : s.AsksForPrint f) {job : Job}
    (hjob : jobOf room fonts s = .ok job) {front : List String} {texts : List String}
    (hfront : (front.map FilePath.ofString).map (job.rendering? w.files) = texts.map some)
    {operand : String} {cause : Artwork.LoadError}
    (hload : (Artwork.load job.room w.files (.ofString operand) job.loadOptions).value =
      .error cause) (behind : List String) :
    (runWith room fonts w s (front ++ operand :: behind)).output = String.join texts ∧
      (runWith room fonts w s (front ++ operand :: behind)).status = 1 := by
  have hne : front ++ operand :: behind ≠ [] := by simp
  obtain ⟨houtput, hdone, -⟩ := runWith_prints (w := w) hs hjob hne
  have hnone : job.rendering? w.files (.ofString operand) = none := by
    rw [Job.rendering?, hload]
    rfl
  constructor
  · rw [houtput, List.map_append, Job.transcript_append hfront, List.map_cons, Job.transcript, hnone,
      String.append_empty]
  · refine (status_runWith ..).resolve_left fun hzero => ?_
    have hsome := hdone.mp hzero (.ofString operand) (by simp)
    rw [hnone] at hsome
    cases hsome

/-- **Printing and writing agree.** Whenever a run that prints and one that writes into a directory
both return 0, and outputs meet neither each other nor the operands, the files hold what is printed,
in the order of the operands. What is printed for more operands is what runs one after the other
print. A run that comes to an operand that cannot be loaded has printed what stands in front of it
and returns 1. -/
theorem printed_eq_written {f : Format} (hs : s.AsksForPrint f) :
    (∀ (directory : String) (operands : List String),
      (runWith room fonts w s operands).status = 0 →
      (runWith room fonts w (s.intoDirectory directory) operands).status = 0 →
      OutputsApart w.files directory f (operands.map .ofString) →
      ∃ job texts, jobOf room fonts s = .ok job ∧
        (operands.map FilePath.ofString).map (job.rendering? w.files) = texts.map some ∧
        (runWith room fonts w s operands).output = String.join texts ∧
        (operands.map FilePath.ofString).map (fun source =>
          (runWith room fonts w (s.intoDirectory directory) operands).workspace.files.text?
            (outputIn directory f source)) = texts.map some) ∧
    (∀ xs ys : List String, (runWith room fonts w s xs).status = 0 →
      (runWith room fonts w s (xs ++ ys)).output =
        (runWith room fonts w s xs).output ++
          (runWith room fonts (runWith room fonts w s xs).workspace s ys).output) ∧
    (∀ (job : Job) (front : List String) (operand : String) (behind texts : List String)
      (cause : Artwork.LoadError), jobOf room fonts s = .ok job →
      (front.map FilePath.ofString).map (job.rendering? w.files) = texts.map some →
      (Artwork.load job.room w.files (.ofString operand) job.loadOptions).value = .error cause →
      (runWith room fonts w s (front ++ operand :: behind)).output = String.join texts ∧
        (runWith room fonts w s (front ++ operand :: behind)).status = 1) := by
  refine ⟨fun directory operands hprint hwrite hapart => ?written, fun xs ys hstatus => ?append,
    fun job front operand behind texts cause hjob hfront hload => ?stop⟩
  case written => exact exists_texts_of_status hs hprint hwrite hapart
  case append => exact output_append hs hstatus ys
  case stop => exact output_of_load_error hs hjob hfront hload behind

end Run

/-- Two works, printed and written into a directory, then one with a missing file behind it. -/
theorem printed_eq_written_two_files :
    ∃ (w : Workspace) (s : Settings), w = twoFiles "x.ans" "y.ans" ∧ s.AsksForPrint .text ∧
      (runWith .unlimited Program.fonts w s ["x.ans", "y.ans"]).status = 0 ∧
      (∃ texts,
        (runWith .unlimited Program.fonts w s ["x.ans", "y.ans"]).output = String.join texts ∧
        ["out/x.txt", "out/y.txt"].map (fun path =>
          (runWith .unlimited Program.fonts w (s.intoDirectory "out")
            ["x.ans", "y.ans"]).workspace.files.text? (.ofString path)) = texts.map some) ∧
      (runWith .unlimited Program.fonts w s (["x.ans"] ++ ["y.ans"])).output =
        (runWith .unlimited Program.fonts w s ["x.ans"]).output ++
          (runWith .unlimited Program.fonts
            (runWith .unlimited Program.fonts w s ["x.ans"]).workspace s ["y.ans"]).output ∧
      (runWith .unlimited Program.fonts w s ["x.ans", "z.ans"]).status = 1 := by
  let s : Settings := { request := { format := .value "text" } }
  let w := twoFiles "x.ans" "y.ans"
  have hs : s.AsksForPrint .text := ⟨rfl, rfl, rfl, rfl, by decide⟩
  have hprint : (runWith .unlimited Program.fonts w s ["x.ans", "y.ans"]).status = 0 := by
    decide +kernel
  have hwrite : (runWith .unlimited Program.fonts w (s.intoDirectory "out")
      ["x.ans", "y.ans"]).status = 0 := by decide +kernel
  have hfirst : (runWith .unlimited Program.fonts w s ["x.ans"]).status = 0 := by decide +kernel
  have hapart : OutputsApart w.files "out" .text (["x.ans", "y.ans"].map .ofString) :=
    ⟨by decide, by decide⟩
  have hx : outputIn "out" .text (.ofString "x.ans") = .ofString "out/x.txt" := by decide
  have hy : outputIn "out" .text (.ofString "y.ans") = .ofString "out/y.txt" := by decide
  obtain ⟨hagree, happend, hstop⟩ := @printed_eq_written .unlimited Program.fonts w s .text hs
  obtain ⟨job, texts, hjob, hrender, houtput, hfiles⟩ :=
    hagree "out" ["x.ans", "y.ans"] hprint hwrite hapart
  simp only [List.map_cons, List.map_nil, hx, hy] at hfiles
  cases texts with
  | nil => cases hrender
  | cons text rest =>
    obtain ⟨cause, hload⟩ : ∃ cause, (Artwork.load job.room w.files (.ofString "z.ans")
        job.loadOptions).value = .error cause := ⟨_, rfl⟩
    have hfront : (["x.ans"].map FilePath.ofString).map (job.rendering? w.files) =
        [text].map some := congrArg (List.take 1) hrender
    have hstatus := (hstop job ["x.ans"] "z.ans" [] [text] cause hjob hfront hload).2
    exact ⟨w, s, rfl, hs, hprint, ⟨text :: rest, houtput, hfiles⟩,
      happend ["x.ans"] ["y.ans"] hfirst, hstatus⟩

end RenderTool

end AnsiArt
