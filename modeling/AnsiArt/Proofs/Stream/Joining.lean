import AnsiArt.Proofs.Control.Numbers
import AnsiArt.Proofs.Control.Selection
import AnsiArt.Proofs.Stream.Chunks

/-!
# Selections that are split and joined

A selection of renditions reads all its parameters from left to right, so it can be split at a
semicolon into two selections, and two can be joined, if each of the parts holds a number. A part
without one would not be empty on its own: a selection of nothing is a reset.

Main statements:

* `Terminal.feed_selection` — what a whole selection leaves and reports;
* `Terminal.feed_joined_selections` — splitting and joining, and the selection without a number.
-/

namespace AnsiArt

open Decoder Parameters

/-- The bytes of a selection of renditions. -/
def selectionBytes (body : List UInt8) : List UInt8 := sequenceBytes body 0x6d

/-- The bytes of a reset, which selects zero. -/
def resetBytes : List UInt8 := selectionBytes [0x30]

/-- A body that selects: it holds a decimal, and none that is too long to be read. -/
structure SelectsNumbers (body : List UInt8) : Prop where
  isBody : IsBody body
  isReadable : IsReadable body
  hasDecimal : HasDecimal body

variable {p q body : List UInt8} {values rest : List Int}

namespace ControlFunction

@[simp] theorem selected_of_ne_nil (h : values ≠ []) : selected values = values := if_neg h

theorem remarks_append (codes more : List Int) :
    remarks (codes ++ more) = remarks codes ++ remarks more := by
  rw [remarks, List.filter_append, List.map_append]
  rfl

end ControlFunction

open ControlFunction

/-! ### The numbers of a body -/

theorem selectsNumbers_iff :
    SelectsNumbers body ↔ IsBody body ∧ ∃ values, (ofBody body).ints = .ok values ∧ values ≠ [] := by
  constructor
  · intro h
    obtain ⟨values, hvalues, hnone⟩ := exists_ints_ofBody h.isReadable
    exact ⟨h.isBody, values, hvalues, fun hnil => hnone.mp hnil h.hasDecimal⟩
  · rintro ⟨hbody, values, hvalues, hne⟩
    have hreadable := isReadable_of_ints hvalues
    obtain ⟨values', hvalues', hnone⟩ := exists_ints_ofBody hreadable
    obtain rfl := Except.ok.inj (hvalues.symm.trans hvalues')
    exact ⟨hbody, hreadable, Classical.not_not.mp fun hno => hne (hnone.mpr hno)⟩

/-- A body without a decimal has no number: what is no decimal is not too long for one. -/
theorem ints_of_not_hasDecimal (h : ¬ HasDecimal body) : (ofBody body).ints = .ok [] := by
  have hreadable : IsReadable body := fun text htext hlong => h ⟨text, htext, hlong.isDecimal⟩
  obtain ⟨values, hvalues, hnone⟩ := exists_ints_ofBody hreadable
  rw [hvalues, hnone.mpr h]

theorem isBody_joined (hp : IsBody p) (hq : IsBody q) : IsBody (p ++ byteSemicolon :: q) := by
  intro b hb
  rcases List.mem_append.mp hb with hb | hb
  · exact hp b hb
  rcases List.mem_cons.mp hb with rfl | hb
  · rfl
  · exact hq b hb

theorem Canvas.select_append (c : Canvas) (codes more : List Int) :
    c.select (codes ++ more) = (c.select codes).select more := by
  rw [select, move, Rendition.selectAll_append]
  rfl

/-! ### Feeding selections -/

namespace Terminal

variable (room : Room) (c : Canvas)

/-- **A selection selects the numbers of its body**, and remarks on those that mean nothing. -/
theorem feed_selection (hbody : IsBody body) (h : (ofBody body).ints = .ok values) :
    (Terminal.mk {} c).feed room (selectionBytes body) =
      ⟨⟨{}, c.select (selected values)⟩, (remarks (selected values)).reverse, none⟩ := by
  have hinterpret := interpret_selectRendition h
  have hfinal : isFinal 0x6d = true := rfl
  have hfunction : ofFinal? 0x6d = some selectRendition := rfl
  have hcommands : sequenceCommands (ofBody body) 0x6d = [.select (selected values)] := by
    rw [sequenceCommands, hfunction, Option.map_some, hinterpret]
    rfl
  have hnotices : sequenceNotices (ofBody body) 0x6d = remarks (selected values) := by
    rw [sequenceNotices, hfunction]
    simp only [hinterpret, Option.map_none, Option.toList_none, List.append_nil]
  have hflush : (body.foldl Parameters.take {}).flush = ofBody body := rfl
  rw [selectionBytes, feed_sequence_eq_step room c hbody]
  simp only [step, commands, notices, hfinal, if_true, hflush, hcommands, hnotices]
  rfl

theorem feed_reset :
    (Terminal.mk {} c).feed room resetBytes = ⟨⟨{}, c.select [0]⟩, [], none⟩ := by
  have hzero : (ofBody [0x30]).ints = .ok [0] := by decide
  have hbody : IsBody [0x30] := by simp [IsBody, isFinal]
  rw [resetBytes, feed_selection room c hbody hzero]
  rfl

/-- Two selections one after the other select the numbers of both. -/
theorem feed_selection_twice (hp : IsBody p) (hq : IsBody q) (hvalues : (ofBody p).ints = .ok values)
    (hrest : (ofBody q).ints = .ok rest) :
    ((Terminal.mk {} c).feed room (selectionBytes p)).feed room (selectionBytes q) =
      ⟨⟨{}, c.select (selected values ++ selected rest)⟩,
        (remarks (selected values ++ selected rest)).reverse, none⟩ := by
  rw [feed_selection room c hp hvalues, Progress.feed, feed_selection room _ hq hrest,
    Canvas.select_append, remarks_append, List.reverse_append]

variable {room} {start t : Terminal}

/-- **Selections can be split and joined.** In text mode, if two bodies hold a decimal each and none
that is too long, selecting by both, joined by a semicolon, leaves and reports the same as selecting
by one and then by the other. Selecting by a body without a decimal is a reset. -/
theorem feed_joined_selections (hstart : start.decoder = {}) (ht : Reachable room start t)
    (hmode : t.decoder.mode = .text) :
    (∀ p q, SelectsNumbers p → SelectsNumbers q →
      t.feed room (selectionBytes (p ++ byteSemicolon :: q)) =
        (t.feed room (selectionBytes p)).feed room (selectionBytes q)) ∧
    ∀ body, IsBody body → ¬ HasDecimal body →
      t.feed room (selectionBytes body) = t.feed room resetBytes := by
  rw [ht.eq_mk hstart hmode]
  refine ⟨fun p q hp hq => ?_, fun body hbody hno => ?_⟩
  · obtain ⟨hpbody, values, hvalues, hsome⟩ := selectsNumbers_iff.mp hp
    obtain ⟨hqbody, rest, hrest, hmore⟩ := selectsNumbers_iff.mp hq
    have hjoined : (ofBody (p ++ byteSemicolon :: q)).ints = .ok (values ++ rest) :=
      ints_ofBody_append hvalues hrest
    rw [feed_selection room _ (isBody_joined hpbody hqbody) hjoined,
      feed_selection_twice room _ hpbody hqbody hvalues hrest, selected_of_ne_nil hsome,
      selected_of_ne_nil hmore, selected_of_ne_nil (List.append_ne_nil_of_left_ne_nil hsome rest)]
  · -- where no number was read, zero is selected
    rw [feed_selection room _ hbody (ints_of_not_hasDecimal hno), feed_reset]
    rfl

/-- Behind a character, bold and red are selected together and one after the other; a body of a
question mark is a reset. -/
theorem feed_joined_selections_bold_red :
    ∃ start t : Terminal, start.decoder = {} ∧ Reachable .unlimited start t ∧
      t.decoder.mode = .text ∧ SelectsNumbers [0x31, 0x3b, 0x3f] ∧ SelectsNumbers [0x33, 0x31] ∧
      t.feed .unlimited (selectionBytes [0x31, 0x3b, 0x3f, 0x3b, 0x33, 0x31]) =
        (t.feed .unlimited (selectionBytes [0x31, 0x3b, 0x3f])).feed .unlimited
          (selectionBytes [0x33, 0x31]) ∧
      IsBody [0x3f] ∧ ¬ HasDecimal [0x3f] ∧
      t.feed .unlimited (selectionBytes [0x3f]) = t.feed .unlimited resetBytes := by
  let start : Terminal := ⟨{}, .blank 4 2 (by decide)⟩
  obtain ⟨t, ht, hmode⟩ : ∃ t, Reachable .unlimited start t ∧ t.decoder.mode = .text :=
    ⟨_, Reachable.start.feed [0x41], by decide⟩
  have hp : SelectsNumbers [0x31, 0x3b, 0x3f] :=
    selectsNumbers_iff.mpr ⟨by simp [IsBody, isFinal], [1], by decide, by decide⟩
  have hq : SelectsNumbers [0x33, 0x31] :=
    selectsNumbers_iff.mpr ⟨by simp [IsBody, isFinal], [31], by decide, by decide⟩
  have hbody : IsBody [0x3f] := by simp [IsBody, isFinal]
  have hno : ¬ HasDecimal [0x3f] := by
    intro h
    have hints : (ofBody [0x3f]).ints = .ok [] := by decide
    obtain ⟨values, hvalues, hnone⟩ := exists_ints_ofBody (isReadable_of_ints hints)
    obtain rfl := Except.ok.inj (hints.symm.trans hvalues)
    exact hnone.mp rfl h
  obtain ⟨hjoin, hreset⟩ := feed_joined_selections rfl ht hmode
  have hjoined := hjoin _ _ hp hq
  rw [show ([0x31, 0x3b, 0x3f] ++ byteSemicolon :: [0x33, 0x31] : List UInt8) =
    [0x31, 0x3b, 0x3f, 0x3b, 0x33, 0x31] from rfl] at hjoined
  exact ⟨start, t, rfl, ht, hmode, hp, hq, hjoined, hbody, hno, hreset _ hbody hno⟩

end Terminal

end AnsiArt
