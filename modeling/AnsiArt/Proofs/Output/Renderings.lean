import AnsiArt.Output.Export
import AnsiArt.Proofs.Files.Places

/-!
# Renderings in files

An export that succeeds leaves the rendering of the work in the file that it reports, and changes no
other file (`Workspace.exports_exportAs`). That goes on to be so until another export is made to the
same place (`Workspace.Exports.shows_of_ne`).

The image in a file is the last one that was saved at its place, and the file holds what the encoder
of the workspace makes of it, whatever encoder that is.
-/

namespace AnsiArt

/-! ### What is exported -/

/-- How works are rendered. -/
structure Style where
  config : RenderConfig
  palette : Palette
  fonts : FontStack

namespace Style

/-- The palette for a work. -/
def paletteFor (style : Style) (art : Artwork) : Palette :=
  Palette.orElse (some style.palette) art.palette

/-- The image of a work. -/
def image (style : Style) (art : Artwork) : Image :=
  Image.ofCanvas art.canvas (style.paletteFor art) style.fonts

/-- The content of the file with the rendering of a work, under an encoder of images. -/
def content (style : Style) (encode : Image → List UInt8) (art : Artwork) : List UInt8 :=
  match style.config.format with
  | .text => art.canvas.plainText.toUTF8.toList
  | .html =>
    (Html.document art.canvas (style.paletteFor art)
      (style.config.stylesheet.getD "")).toUTF8.toList
  | .png => encode (style.image art)

/-- The images that are saved with the rendering of a work. -/
def images (style : Style) (art : Artwork) (path : FilePath) : List (FilePath × Image) :=
  if style.config.format = .png then [(path, style.image art)] else []

end Style

namespace Workspace

variable {w w' : Workspace} {style : Style} {art : Artwork} {path source : FilePath}

/-- What an export of a work to a path does to a workspace. -/
structure Exports (w w' : Workspace) (style : Style) (art : Artwork) (path : FilePath) : Prop where
  files : w.files.Stores w'.files path (style.content w.encode art)
  images : w'.images = w.images ++ style.images art path
  encode : w'.encode = w.encode

/-- Making the directory of a file and writing it is the same for all formats, and changes nothing
but the files. -/
theorem stores_prepare_write {w₁ : Workspace} {content : List UInt8}
    (hprepare : w.prepare path = .ok w₁) (hwrite : w₁.write path content = .ok w') :
    w.files.Stores w'.files path content ∧ w' = { w with files := w'.files } := by
  unfold prepare at hprepare
  obtain ⟨files, hmake, hprepare⟩ := exists_of_bind_eq_ok hprepare
  obtain rfl := Except.ok.inj hprepare
  unfold write at hwrite
  obtain ⟨files', hfile, hwrite⟩ := exists_of_bind_eq_ok hwrite
  obtain rfl := Except.ok.inj hwrite
  exact ⟨FileTree.stores_write (mapError_eq_ok_iff.mp hmake) (mapError_eq_ok_iff.mp hfile), rfl⟩

/-- The report about the rendering of a work under a path. -/
def report (w : Workspace) (style : Style) (art : Artwork) (path : FilePath) : ExportResult :=
  resultFor style.config.format path (style.content w.encode art).length art.canvas

/-- A text that is saved is the content of its file, and there is no image with it. -/
theorem exports_saveText {text : String} {r : ExportResult} (hformat : style.config.format ≠ .png)
    (htext : style.content w.encode art = text.toUTF8.toList)
    (h : w.saveText style.config.format path text art.canvas = .ok (w', r)) :
    w.Exports w' style art path ∧ r = w.report style art path := by
  unfold saveText at h
  obtain ⟨w₁, hprepare, h⟩ := exists_of_bind_eq_ok h
  obtain ⟨w₂, hwrite, h⟩ := exists_of_bind_eq_ok h
  obtain ⟨rfl, rfl⟩ := Prod.mk.inj (Except.ok.inj h)
  obtain ⟨hfiles, hkept⟩ := stores_prepare_write hprepare hwrite
  refine ⟨⟨by rwa [htext], ?_, ?_⟩, by rw [report, htext]⟩
  · rw [hkept, Style.images, if_neg hformat, List.append_nil]
  · rw [hkept]

theorem exports_exportImage {r : ExportResult} (hformat : style.config.format = .png)
    (h : w.exportImage art path style.fonts (some style.palette) = .ok (w', r)) :
    w.Exports w' style art path ∧ r = w.report style art path := by
  have hcontent : style.content w.encode art = w.encode (style.image art) := by
    rw [Style.content, hformat]
  unfold exportImage at h
  simp only at h
  split at h
  · cases h
  · obtain ⟨w₁, hprepare, h⟩ := exists_of_bind_eq_ok h
    -- the check of the fonts leaves the workspace alone
    obtain ⟨-, -, h⟩ := exists_of_bind_eq_ok h
    obtain ⟨w₂, hwrite, h⟩ := exists_of_bind_eq_ok h
    obtain ⟨rfl, rfl⟩ := Prod.mk.inj (Except.ok.inj h)
    obtain ⟨hfiles, hkept⟩ := stores_prepare_write hprepare hwrite
    refine ⟨⟨?_, ?_, ?_⟩, ?_⟩
    · rwa [hcontent]
    · rw [hkept, Style.images, if_pos hformat]
      rfl
    · rw [hkept]
    · rw [report, hcontent, hformat]
      rfl

/-- **An export that succeeds** leaves the rendering of the work in a file and reports it. -/
theorem exports_exportAs (style : Style) {r : ExportResult}
    (h : w.exportAs style.config art source style.fonts (some style.palette) = .ok (w', r)) :
    w.Exports w' style art (style.config.outputPath w.files source) ∧
      r = w.report style art (style.config.outputPath w.files source) := by
  unfold exportAs at h
  cases hformat : style.config.format with
  | text =>
    simp only [hformat] at h
    rw [exportText, ← hformat] at h
    exact exports_saveText (by simp [hformat]) (by rw [Style.content, hformat]) h
  | html =>
    simp only [hformat] at h
    rw [exportHtml, ← hformat] at h
    exact exports_saveText (by simp [hformat]) (by rw [Style.content, hformat]; rfl) h
  | png =>
    simp only [hformat] at h
    exact exports_exportImage hformat h

/-! ### What files show -/

/-- The image in the file at a place: the last one that was saved there. -/
def imageAt? (w : Workspace) (place : List String) : Option Image :=
  ((w.images.filter fun saved => w.files.placeOf saved.1 = place).getLast?).map Prod.snd

/-- The file at a path holds the rendering of a work. -/
structure Shows (w : Workspace) (style : Style) (art : Artwork) (path : FilePath) : Prop where
  file : w.files.read path = .ok (style.content w.encode art)
  image : style.config.format = .png → w.imageAt? (w.files.placeOf path) = some (style.image art)

theorem Exports.imageAt?_eq (h : w.Exports w' style art path) (place : List String) :
    w'.imageAt? place =
      if style.config.format = .png ∧ w.files.placeOf path = place then some (style.image art)
      else w.imageAt? place := by
  have hplace (p : FilePath) : w'.files.placeOf p = w.files.placeOf p :=
    h.files.replaces.grows.placeOf_eq p
  unfold imageAt?
  simp only [hplace, h.images, Style.images, List.filter_append]
  by_cases hformat : style.config.format = .png
  · by_cases hq : w.files.placeOf path = place
    · simp [hformat, hq]
    · simp [hformat, hq]
  · simp [hformat]

/-- **A rendering that was exported is shown.** -/
theorem Exports.shows (h : w.Exports w' style art path) : w'.Shows style art path := by
  refine ⟨h.encode ▸ h.files.read, fun hformat => ?_⟩
  have hplace : w'.files.placeOf path = w.files.placeOf path :=
    h.files.replaces.grows.placeOf_eq path
  rw [h.imageAt?_eq, if_pos ⟨hformat, hplace.symm⟩]

/-- **A rendering goes on to be shown** while exports are made to other places. -/
theorem Exports.shows_of_ne {other : FilePath} {work : Artwork}
    (h : w.Exports w' style work other) (hne : w.files.placeOf other ≠ w.files.placeOf path)
    (hshows : w.Shows style art path) : w'.Shows style art path := by
  have hgrows : w.files.Grows w'.files := h.files.replaces.grows
  refine ⟨h.encode ▸ h.files.read_of_ne hne.symm hshows.file, fun hformat => ?_⟩
  rw [hgrows.placeOf_eq, h.imageAt?_eq, if_neg fun hsame => hne hsame.2]
  exact hshows.image hformat

end Workspace

end AnsiArt
