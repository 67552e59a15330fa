import AnsiArt.Proofs.Text.Hexadecimals
import AnsiArt.Render.Html
import AnsiArt.Text.CodePoint
import AnsiArt.Text.Split

/-!
# Reading marked-up text

The other side of the writer in `Html`: a reader that takes a text one character at a time, and
keeps the spans it enters and the characters it finds, each with the span around it. It is strict.
A `<` must be the start of a tag, a span must be closed before the next one starts, and an `&` must
be the start of a reference; anything else is refused. So a text that can be read has balanced spans
that are never nested, and nothing in it is left unexplained.

Main statements:

* `Markup.count_lessThan_of_read?` — each `<` starts or ends one of the spans;
* `Markup.reads_escapeChar` — every character is read back from what stands for it;
* `Markup.reads_switchTo` — what goes in front of a cell leads into the span of the cell.
-/

namespace AnsiArt.Markup

/-! ### The reader -/

/-- What a reader has found: the style classes of the spans it has entered, the characters with the
classes of the span around them, and the classes of the span that it is in. -/
structure Reader where
  spans : List String := []
  text : List (Option String × Char) := []
  span : Option String := none

/-- Where a reader is: between characters, or inside a tag or a reference of which it has seen a
part. -/
inductive Place
  | text
  | tag (seen : List Char)
  | reference (seen : List Char)
  deriving DecidableEq

/-- The character that a reference stands for. -/
def referred? : List Char → Option Char
  | ['a', 'm', 'p'] => some '&'
  | ['l', 't'] => some '<'
  | ['g', 't'] => some '>'
  | ['q', 'u', 'o', 't'] => some '"'
  | '#' :: 'x' :: digits => (Hex.number? digits).bind CodePoint.char?
  | _ => none

/-- The classes in the tag that starts a span. -/
def classes? (tag : List Char) : Option String :=
  match splitAll '"' tag with
  | [front, classes, []] =>
    if front = "span class=".toList then some (String.ofList classes) else none
  | _ => none

namespace Reader

/-- Finds a character. -/
def character (r : Reader) (c : Char) : Reader := { r with text := r.text ++ [(r.span, c)] }

/-- Starts a span. -/
def start (r : Reader) (classes : String) : Reader :=
  { r with spans := r.spans ++ [classes], span := some classes }

/-- Ends the span, if there is one. -/
def leave (r : Reader) : Reader := { r with span := none }

/-- Passes a tag: outside of spans it must start one, and inside it must end the one there is. -/
def pass (r : Reader) (tag : List Char) : Option Reader :=
  match r.span with
  | none => (classes? tag).map r.start
  | some _ => if tag = "/span".toList then some r.leave else none

end Reader

/-- Takes one character. Neither a tag nor a reference holds another one. -/
def next : Place × Reader → Char → Option (Place × Reader)
  | (.text, r), '<' => some (.tag [], r)
  | (.text, r), '&' => some (.reference [], r)
  | (.text, r), c => some (.text, r.character c)
  | _, '<' => none
  | _, '&' => none
  | (.tag seen, r), '>' => (r.pass seen).map fun r => (.text, r)
  | (.tag seen, r), c => some (.tag (seen ++ [c]), r)
  | (.reference seen, r), ';' => (referred? seen).map fun c => (.text, r.character c)
  | (.reference seen, r), c => some (.reference (seen ++ [c]), r)

/-- Reads a whole text. It must not end inside a tag, a reference or a span. -/
def read? (text : List Char) : Option Reader :=
  match text.foldlM next (.text, {}) with
  | some (.text, r) => if r.span = none then some r else none
  | _ => none

/-! ### Tags are counted -/

/-- The tags that a reader has begun without ending them. -/
def Place.begun : Place → Nat
  | tag _ => 1
  | _ => 0

/-- The spans that a reader is in. -/
def Reader.inside (r : Reader) : Nat := if r.span.isSome then 1 else 0

/-- A state in which `n` tags have begun: two for each span, without the end of the span that the
reader is in, and with the tag that it has not seen the end of. -/
def Counts (n : Nat) (s : Place × Reader) : Prop :=
  n + s.2.inside = 2 * s.2.spans.length + s.1.begun

namespace Counts

variable {n : Nat} {s s' : Place × Reader}

theorem pass {r r' : Reader} {seen : List Char} (h : Counts n (.tag seen, r))
    (hpass : r.pass seen = some r') : Counts n (.text, r') := by
  obtain ⟨spans, text, span⟩ := r
  cases span with
  | none =>
    -- the tag starts a span
    obtain ⟨classes, -, rfl⟩ := Option.map_eq_some_iff.mp hpass
    have hbefore : n + 0 = 2 * spans.length + 1 := h
    show n + 1 = 2 * (spans ++ [classes]).length + 0
    rw [List.length_append, List.length_singleton]
    omega
  | some classes =>
    -- the tag ends the span
    obtain ⟨-, hleave⟩ := Option.ite_none_right_eq_some.mp hpass
    obtain rfl := Option.some.inj hleave
    have hbefore : n + 1 = 2 * spans.length + 1 := h
    show n + 0 = 2 * spans.length + 0
    omega

/-- A character counts exactly if it is a `<`. -/
theorem next {c : Char} (h : Counts n s) (hnext : next s c = some s') :
    Counts (n + if c = '<' then 1 else 0) s' := by
  unfold Markup.next at hnext
  split at hnext
  case h_1 r =>
    cases hnext
    have hbefore : n + r.inside = 2 * r.spans.length := h
    show n + 1 + r.inside = 2 * r.spans.length + 1
    omega
  case h_2 =>
    cases hnext
    exact h
  case h_3 hlt _ =>
    cases hnext
    rw [if_neg hlt]
    exact h
  case h_4 => cases hnext
  case h_5 => cases hnext
  case h_6 =>
    obtain ⟨r', hpass, rfl⟩ := Option.map_eq_some_iff.mp hnext
    exact h.pass hpass
  case h_7 hlt _ _ =>
    cases hnext
    rw [if_neg hlt]
    exact h
  case h_8 =>
    obtain ⟨c, -, rfl⟩ := Option.map_eq_some_iff.mp hnext
    exact h
  case h_9 hlt _ _ =>
    cases hnext
    rw [if_neg hlt]
    exact h

theorem foldlM {text : List Char} (h : Counts n s) (hread : text.foldlM Markup.next s = some s') :
    Counts (n + text.count '<') s' := by
  induction text generalizing n s with
  | nil =>
    cases hread
    exact h
  | cons c text ih =>
    rw [List.foldlM_cons] at hread
    obtain ⟨s₁, hnext, hread⟩ := Option.bind_eq_some_iff.mp hread
    have hrest := ih (h.next hnext) hread
    rw [List.count_cons, Nat.add_comm (text.count '<'), ← Nat.add_assoc]
    simpa using hrest

end Counts

/-- **Each `<` starts or ends one of the spans** of a text that can be read. -/
theorem count_lessThan_of_read? {text : List Char} {r : Reader} (h : read? text = some r) :
    text.count '<' = 2 * r.spans.length := by
  unfold read? at h
  split at h
  · next r' hread =>
    obtain ⟨hspan, hsome⟩ := Option.ite_none_right_eq_some.mp h
    obtain rfl := Option.some.inj hsome
    have hstart : Counts 0 (.text, {}) := rfl
    have hcounts : 0 + text.count '<' + r'.inside = 2 * r'.spans.length + 0 := hstart.foldlM hread
    rw [Reader.inside, hspan] at hcounts
    simpa using hcounts
  · cases h

/-! ### Reading piece by piece -/

/-- Between characters, a piece of text takes a reader from one state to another. -/
def Reads (r : Reader) (piece : List Char) (r' : Reader) : Prop :=
  piece.foldlM next (.text, r) = some (.text, r')

theorem Reads.nil (r : Reader) : Reads r [] r := rfl

/-- Pieces are read one after the other. -/
theorem Reads.append {r r' r'' : Reader} {piece piece' : List Char} (h : Reads r piece r')
    (h' : Reads r' piece' r'') : Reads r (piece ++ piece') r'' := by
  unfold Reads at h h' ⊢
  rw [List.foldlM_append, h]
  exact h'

/-- A text that is read up to the end of its spans is read as a whole. -/
theorem Reads.read? {r : Reader} {text : List Char} (h : Reads {} text r) (hspan : r.span = none) :
    read? text = some r := by
  unfold Reads at h
  rw [Markup.read?, h]
  exact if_pos hspan

/-- A text without the marks of tags and references. -/
def Unmarked (text : List Char) : Prop := ∀ c ∈ text, c ∉ ['<', '>', '&', ';']

instance (text : List Char) : Decidable (Unmarked text) :=
  List.decidableBAll (fun c => c ∉ ['<', '>', '&', ';']) text

theorem Unmarked.append {text text' : List Char} (h : Unmarked text) (h' : Unmarked text') :
    Unmarked (text ++ text') := fun c hc => (List.mem_append.mp hc).elim (h c) (h' c)

/-- A text is unmarked if it holds none of the marks. -/
theorem unmarked_of_not_mem {text : List Char} (hlt : '<' ∉ text) (hgt : '>' ∉ text)
    (hamp : '&' ∉ text) (hend : ';' ∉ text) : Unmarked text := by
  intro c hc hmark
  simp only [List.mem_cons, List.not_mem_nil, or_false] at hmark
  rcases hmark with rfl | rfl | rfl | rfl
  · exact hlt hc
  · exact hgt hc
  · exact hamp hc
  · exact hend hc

/-- Numbers are unmarked. -/
theorem unmarked_byte (n : Int) : Unmarked (Hex.byte n).toList :=
  have hbyte {c : Char} (hsign : c ≠ '-') (hdigit : Hex.digit? c = none) :=
    Hex.not_mem_byte hsign hdigit n
  unmarked_of_not_mem (hbyte (by decide) (by decide)) (hbyte (by decide) (by decide))
    (hbyte (by decide) (by decide)) (hbyte (by decide) (by decide))

/-- Inside a tag, characters other than marks are kept. -/
theorem foldlM_next_tag (r : Reader) (seen : List Char) {tag : List Char} (h : Unmarked tag) :
    tag.foldlM next (.tag seen, r) = some (.tag (seen ++ tag), r) := by
  induction tag generalizing seen with
  | nil => simp
  | cons c tag ih =>
    have hc := h c List.mem_cons_self
    simp only [List.mem_cons, not_or] at hc
    have hstep : next (.tag seen, r) c = some (.tag (seen ++ [c]), r) := by
      simp [next, hc]
    rw [List.foldlM_cons, hstep]
    exact (ih (seen ++ [c]) fun c' hc' => h c' (List.mem_cons_of_mem _ hc')).trans (by simp)

/-- A tag is passed when it ends. -/
theorem reads_tag {r r' : Reader} (tag : List Char) (h : Unmarked tag)
    (hpass : r.pass tag = some r') : Reads r ('<' :: tag ++ ['>']) r' := by
  unfold Reads
  rw [List.cons_append, List.foldlM_cons, show next (.text, r) '<' = some (.tag [], r) from rfl]
  change (tag ++ ['>']).foldlM next (.tag [], r) = _
  rw [List.foldlM_append, foldlM_next_tag r [] h, List.nil_append]
  simp [next, hpass]

/-- Inside a reference, characters other than marks are kept. -/
theorem foldlM_next_reference (r : Reader) (seen : List Char) {name : List Char}
    (h : Unmarked name) : name.foldlM next (.reference seen, r) =
      some (.reference (seen ++ name), r) := by
  induction name generalizing seen with
  | nil => simp
  | cons c name ih =>
    have hc := h c List.mem_cons_self
    simp only [List.mem_cons, not_or] at hc
    have hstep : next (.reference seen, r) c = some (.reference (seen ++ [c]), r) := by
      simp [next, hc]
    rw [List.foldlM_cons, hstep]
    exact (ih (seen ++ [c]) fun c' hc' => h c' (List.mem_cons_of_mem _ hc')).trans (by simp)

/-- A reference is replaced by its character when it ends. -/
theorem reads_reference (r : Reader) (name : List Char) {c : Char} (h : Unmarked name)
    (hname : referred? name = some c) : Reads r ('&' :: name ++ [';']) (r.character c) := by
  unfold Reads
  rw [List.cons_append, List.foldlM_cons,
    show next (.text, r) '&' = some (.reference [], r) from rfl]
  change (name ++ [';']).foldlM next (.reference [], r) = _
  rw [List.foldlM_append, foldlM_next_reference r [] h, List.nil_append]
  simp [next, hname]

/-- A character without a meaning stands for itself. -/
theorem reads_plain (r : Reader) {c : Char} (h : c ≠ '<') (h' : c ≠ '&') :
    Reads r [c] (r.character c) := by
  simp [Reads, next]

/-! ### Characters -/

/-- A number in a reference stands for the character that has it. -/
theorem referred?_number (c : Char) :
    referred? ('#' :: 'x' :: (Hex.byte c.toNat).toList) = some c := by
  have hdigits : (Hex.byte c.toNat).toList = Hex.natDigits 2 c.toNat := by
    rw [Hex.byte, Hex.padded, String.toList_ofList, if_neg (by omega), Int.natAbs_natCast]
  rw [referred?, hdigits, Hex.number?_natDigits, Option.bind_some, CodePoint.char?_toNat]

theorem reads_escapeMarkup (r : Reader) (c : Char) :
    Reads r (Html.escapeMarkup c).toList (r.character c) := by
  unfold Html.escapeMarkup
  split
  case h_1 => exact reads_reference r ['a', 'm', 'p'] (by decide) rfl
  case h_2 => exact reads_reference r ['l', 't'] (by decide) rfl
  case h_3 => exact reads_reference r ['g', 't'] (by decide) rfl
  case h_4 => exact reads_reference r ['q', 'u', 'o', 't'] (by decide) rfl
  case h_5 => exact reads_reference r ['#', 'x', '2', '7'] (by decide) rfl
  case h_6 hamp hlt _ _ _ =>
    rw [String.toList_ofList]
    exact reads_plain r hlt hamp

/-- **Every character is read back from what stands for it**, be it printable or not. -/
theorem reads_escapeChar (r : Reader) (c : Char) :
    Reads r (Html.escapeChar c).toList (r.character c) := by
  unfold Html.escapeChar
  split
  · exact reads_escapeMarkup r c
  · have hname : Unmarked (['#', 'x'] ++ (Hex.byte c.toNat).toList) :=
      Unmarked.append (by decide) (unmarked_byte _)
    have hread := reads_reference r _ hname (referred?_number c)
    simpa [toString] using hread

/-! ### Spans -/

/-- The classes of a tag are found again if they hold no quotation mark. -/
theorem classes?_span {classes : String} (h : '"' ∉ classes.toList) :
    classes? ("span class=".toList ++ '"' :: (classes.toList ++ ['"'])) = some classes := by
  have hsplit : splitAll '"' ("span class=".toList ++ '"' :: (classes.toList ++ ['"'])) =
      ["span class=".toList, classes.toList, []] := by
    rw [splitAll_append_cons (by decide), splitAll_append_cons h]
    rfl
  rw [classes?, hsplit]
  simp

/-- Outside of spans, the start of a span is passed. -/
theorem reads_openTag {r : Reader} (hspan : r.span = none) {classes : String}
    (h : Unmarked classes.toList) (hquote : '"' ∉ classes.toList) :
    Reads r (Html.openTag classes).toList (r.start classes) := by
  have hpass : r.pass ("span class=".toList ++ '"' :: (classes.toList ++ ['"'])) =
      some (r.start classes) := by
    rw [Reader.pass, hspan]
    change (classes? _).map r.start = _
    rw [classes?_span hquote, Option.map_some]
  have htag : Unmarked ("span class=".toList ++ (['"'] ++ (classes.toList ++ ['"']))) :=
    Unmarked.append (by decide) (Unmarked.append (by decide) (h.append (by decide)))
  have hread := reads_tag _ htag hpass
  simpa [Html.openTag, toString] using hread

/-- The span that is open is ended, and otherwise nothing happens. -/
theorem reads_closeTag (r : Reader) : Reads r (Html.closeTag r.span).toList r.leave := by
  obtain ⟨spans, text, span⟩ := r
  cases span with
  | none => exact Reads.nil _
  | some classes =>
    have hpass : Reader.pass ⟨spans, text, some classes⟩ "/span".toList = some ⟨spans, text, none⟩ :=
      rfl
    have hread := reads_tag "/span".toList (by decide) hpass
    simpa [Html.closeTag, Reader.leave] using hread

/-- A reader that goes on inside a span with the given classes: the one it is in, if it has them, or
else a new one. -/
def Reader.enter (r : Reader) (classes : String) : Reader :=
  if r.span = some classes then r else r.leave.start classes

@[simp] theorem Reader.span_enter (r : Reader) (classes : String) :
    (r.enter classes).span = some classes := by
  unfold Reader.enter
  split
  · assumption
  · rfl

@[simp] theorem Reader.text_enter (r : Reader) (classes : String) :
    (r.enter classes).text = r.text := by
  unfold Reader.enter
  split <;> rfl

/-- **What goes in front of a cell leads into a span with the classes of the cell.** -/
theorem reads_switchTo (r : Reader) {classes : String} (h : Unmarked classes.toList)
    (hquote : '"' ∉ classes.toList) :
    Reads r (Html.switchTo r.span classes).toList (r.enter classes) := by
  unfold Html.switchTo Reader.enter
  split
  · exact Reads.nil r
  · rw [String.toList_append]
    exact (reads_closeTag r).append (reads_openTag rfl h hquote)

end AnsiArt.Markup
