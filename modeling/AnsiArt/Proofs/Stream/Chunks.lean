import AnsiArt.Proofs.Stream.Meaning
import Mathlib.Data.List.Induction

/-!
# Streams that come in chunks

A terminal keeps everything that it has to remember of a stream in its decoder and on its canvas, so
it does not matter where the stream is cut: inside a control sequence or between an escape and the
byte behind it, the next chunk goes on where the last one stopped.

A stream is read chunk by chunk until there is no chunk left, or until SUB ends the text. So the
number of reads says where the text ended, if it did. In text mode SUB is the only byte that ends
the text, and in any other mode it does not (`Terminal.finished_feed_iff`). What is behind it is not
parsed (`Terminal.parse_append_substitute`).

Main statements:

* `Terminal.feed_append` — feeding two rows of bytes, one after the other;
* `Terminal.feedChunks_eq_feed` — feeding chunk by chunk is feeding all bytes at once;
* `Terminal.readsWhole_read` — reading a stream is parsing its bytes at once, with as many reads as
  it takes.
-/

namespace AnsiArt

open Decoder

/-- Feeds a row of bytes more, unless the terminal was stopped. -/
def Progress.feed (room : Room) (p : Progress) (bytes : List UInt8) : Progress :=
  match p with
  | ⟨t, log, none⟩ =>
    let q := t.feed room bytes
    ⟨q.terminal, q.reversedLog ++ log, q.shortage⟩
  | ⟨t, log, some s⟩ => ⟨t, log, some s⟩

namespace Terminal

/-- Feeds chunks one after another. -/
def feedChunks (room : Room) (t : Terminal) (chunks : List (List UInt8)) : Progress :=
  chunks.foldl (Progress.feed room) { terminal := t }

/-- Whether an outcome of a read is taken for the end of the stream. -/
def ReadOutcome.Ends : ReadOutcome → Prop
  | .bytes data => data = []
  | .nothing => True
  | .failure _ => True
  | .fault _ => False

/-- Behind some bytes the terminal is in text mode. -/
def ReadsText (room : Room) (t : Terminal) (bytes : List UInt8) : Prop :=
  (t.feed room bytes).shortage = none ∧ (t.feed room bytes).terminal.decoder.mode = .text

/-- Behind some bytes, SUB ends the text, or the text has ended. -/
def TakesSubstitute (room : Room) (t : Terminal) (bytes : List UInt8) : Prop :=
  (t.feed room bytes).terminal.decoder.mode = .text ∨
    (t.feed room bytes).terminal.decoder.mode = .finished

/-- SUB ends the text in the chunk of number `n`, counted from 1. -/
def EndsInChunk (room : Room) (t : Terminal) (chunks : List (List UInt8)) (n : Nat) : Prop :=
  ∃ front before behind rest, chunks = front ++ (before ++ byteSUB :: behind) :: rest ∧
    front.length + 1 = n ∧ t.ReadsText room (front.flatten ++ before)

end Terminal

variable (room : Room)

/-! ### One row of bytes behind another -/

namespace Terminal

/-- What was reported before stays below what is reported. -/
theorem foldl_advance_log (t : Terminal) (log : List Notice) (bytes : List UInt8) :
    bytes.foldl (advance room) ⟨t, log, none⟩ =
      ⟨(t.feed room bytes).terminal, (t.feed room bytes).reversedLog ++ log,
        (t.feed room bytes).shortage⟩ := by
  induction bytes generalizing t log with
  | nil => rfl
  | cons b bytes ih =>
    rw [feed, List.foldl_cons, List.foldl_cons]
    simp only [advance]
    -- a step without a stop is followed by more bytes, and its own notices are below theirs
    cases (t.step room b) with
    | mk t' more shortage =>
      cases shortage with
      | none => simp only [ih, List.append_assoc, List.append_nil]
      | some s => simp only [foldl_advance_stopped, List.append_nil]

end Terminal

namespace Progress

/-- Feeding a row of bytes more is going on byte by byte. -/
theorem feed_eq_foldl (p : Progress) (bytes : List UInt8) :
    p.feed room bytes = bytes.foldl (Terminal.advance room) p := by
  obtain ⟨t, log, shortage⟩ := p
  cases shortage with
  | none => exact (Terminal.foldl_advance_log room t log bytes).symm
  | some s => exact (Terminal.foldl_advance_stopped t log s bytes).symm

end Progress

namespace Terminal

/-- **Feeding goes on where it stopped.** -/
theorem feed_append (t : Terminal) (bytes more : List UInt8) :
    t.feed room (bytes ++ more) = (t.feed room bytes).feed room more := by
  rw [Progress.feed_eq_foldl, feed, List.foldl_append, feed]

theorem feed_cons (t : Terminal) (b : UInt8) (bytes : List UInt8) :
    t.feed room (b :: bytes) = (t.step room b).feed room bytes := by
  have hadvance : advance room { terminal := t } b = t.step room b := by
    simp only [advance, List.append_nil]
  rw [Progress.feed_eq_foldl, feed, List.foldl_cons, hadvance]

/-- **It does not matter where a stream is cut.** -/
theorem feedChunks_eq_feed (t : Terminal) (chunks : List (List UInt8)) :
    t.feedChunks room chunks = t.feed room chunks.flatten := by
  have hfeed : Progress.feed room = fun p bytes => bytes.foldl (advance room) p := by
    funext p bytes
    exact Progress.feed_eq_foldl room p bytes
  rw [feedChunks, hfeed, feed, List.foldl_flatten]

variable {room} {t : Terminal}

/-- Nothing has an effect on a terminal that is finished. -/
theorem feed_finished (h : t.finished = true) (bytes : List UInt8) :
    t.feed room bytes = { terminal := t } := by
  obtain ⟨⟨mode, ps⟩, c⟩ := t
  obtain rfl : mode = .finished := eq_of_beq h
  exact foldl_advance_finished room c ps [] bytes

/-- Once a terminal is finished, no later byte has an effect. -/
theorem feed_append_finished {bytes : List UInt8}
    (h : (t.feed room bytes).terminal.finished = true) (more : List UInt8) :
    t.feed room (bytes ++ more) = t.feed room bytes := by
  rw [feed_append]
  cases hfeed : t.feed room bytes with
  | mk t' log shortage =>
    rw [hfeed] at h
    cases shortage with
    | none => simp only [Progress.feed, feed_finished h, List.nil_append]
    | some s => rfl

/-! ### The end of the text -/

/-- In text mode, SUB ends the text, and whatever is behind it has no effect. -/
theorem feed_cons_substitute (h : t.decoder.mode = .text) (behind : List UInt8) :
    t.feed room (byteSUB :: behind) =
      { terminal := { t with decoder := { t.decoder with mode := .finished } } } := by
  obtain ⟨⟨mode, ps⟩, c⟩ := t
  obtain rfl : mode = .text := h
  exact foldl_advance_finished room c ps [] behind

/-- SUB behind bytes that leave text mode. -/
theorem feed_substitute {before : List UInt8} (h : t.ReadsText room before)
    (behind : List UInt8) :
    (t.feed room (before ++ byteSUB :: behind)).shortage = none ∧
      (t.feed room (before ++ byteSUB :: behind)).terminal =
        { (t.feed room before).terminal with
          decoder := { (t.feed room before).terminal.decoder with mode := .finished } } := by
  obtain ⟨hnone, hmode⟩ := h
  rw [feed_append]
  generalize t.feed room before = p at hnone hmode ⊢
  obtain ⟨t', log, shortage⟩ := p
  obtain rfl : shortage = none := hnone
  rw [Progress.feed, feed_cons_substitute hmode]
  exact ⟨rfl, rfl⟩

theorem mode_next_eq_finished {d : Decoder} {b : UInt8} (h : (d.next b).mode = .finished) :
    d.mode = .finished ∨ d.mode = .text ∧ b = byteSUB := by
  obtain ⟨mode, ps⟩ := d
  cases mode with
  | text =>
    simp only [Decoder.next] at h
    split at h
    · next hb => exact .inr ⟨rfl, hb⟩
    · split at h <;> cases h
  | escape =>
    simp only [Decoder.next] at h
    split at h <;> cases h
  | sequence =>
    simp only [Decoder.next] at h
    split at h
    · cases h
    · split at h <;> cases h
  | finished => exact .inl rfl

/-- A byte finishes a terminal only if it is SUB in text mode. -/
theorem finished_step {b : UInt8} (h : (t.step room b).terminal.finished = true) :
    t.finished = true ∨ t.decoder.mode = .text ∧ b = byteSUB := by
  have hmode : (t.step room b).terminal.decoder.mode = .finished := eq_of_beq h
  rcases decoder_step room t b with hd | hd
  · rw [hd] at hmode
    exact (mode_next_eq_finished hmode).imp (fun hf => by rw [finished, hf]; rfl) id
  · rw [hd] at hmode
    exact .inl (by rw [finished, hmode]; rfl)

/-- **The text ends at SUB in text mode and nowhere else.** -/
theorem finished_feed_iff {bytes : List UInt8} :
    (t.feed room bytes).terminal.finished = true ↔
      t.finished = true ∨
        ∃ before behind, bytes = before ++ byteSUB :: behind ∧ t.ReadsText room before := by
  constructor
  · intro h
    -- the first byte behind which the terminal is finished is the one looked for
    induction bytes using List.reverseRecOn with
    | nil => exact .inl h
    | append_singleton bytes b ih =>
      by_cases hbefore : (t.feed room bytes).terminal.finished = true
      · refine (ih hbefore).imp id ?_
        rintro ⟨before, behind, rfl, htext⟩
        exact ⟨before, behind ++ [b], by rw [List.append_assoc, List.cons_append], htext⟩
      · rw [feed_append] at h
        cases hfeed : t.feed room bytes with
        | mk t' log shortage =>
          rw [hfeed] at h hbefore
          cases shortage with
          | some s => exact absurd h hbefore
          | none =>
            have hstep : (t'.step room b).terminal.finished = true := h
            rcases finished_step hstep with hf | ⟨hmode, rfl⟩
            · exact absurd hf hbefore
            · exact .inr ⟨bytes, [], rfl, by rw [hfeed], by rw [hfeed]; exact hmode⟩
  · rintro (h | ⟨before, behind, rfl, htext⟩)
    · rw [feed_finished h]
      exact h
    · rw [finished, (feed_substitute htext behind).2]
      rfl

/-! ### Reading chunks -/

variable {chunk : List UInt8} {chunks : List (List UInt8)} {rest outcomes : List ReadOutcome}

/-- Nothing is read for a terminal that is finished. -/
theorem readFrom_finished (h : t.finished = true) (reads : Nat) :
    t.readFrom room reads outcomes = t.endReading reads := by
  rw [readFrom.eq_def, if_pos h]

/-- The end of a stream is one read more. -/
theorem readFrom_end (room : Room) (h : t.finished = false)
    (hend : ∀ o ∈ outcomes.head?, o.Ends) (reads : Nat) :
    (t.readFrom room reads outcomes).terminal = t.finish ∧
      (t.readFrom room reads outcomes).fault = none ∧
      (t.readFrom room reads outcomes).reads = reads + 1 := by
  have hopen : ¬ t.finished = true := by rw [h]; decide
  cases outcomes with
  | nil =>
    rw [readFrom, if_neg hopen]
    exact ⟨rfl, rfl, rfl⟩
  | cons o rest =>
    have ho : o.Ends := hend o rfl
    cases o with
    | bytes data =>
      obtain rfl : data = [] := ho
      rw [readFrom, if_neg hopen]
      exact ⟨rfl, rfl, rfl⟩
    | nothing =>
      rw [readFrom, if_neg hopen]
      exact ⟨rfl, rfl, rfl⟩
    | failure message =>
      rw [readFrom, if_neg hopen]
      exact ⟨rfl, rfl, rfl⟩
    | fault message => exact ho.elim

/-- A chunk is fed, and unless that stops the terminal, the reading goes on behind it. -/
theorem readFrom_chunk (h : t.finished = false) (hchunk : chunk ≠ []) (reads : Nat) :
    t.readFrom room reads (.bytes chunk :: rest) =
      match t.feed room chunk with
      | ⟨t', log, some s⟩ => ⟨t', log.reverse, reads + 1, some (.noRoom s)⟩
      | ⟨t', log, none⟩ =>
        { t'.readFrom room (reads + 1) rest with
          log := log.reverse ++ (t'.readFrom room (reads + 1) rest).log } := by
  obtain ⟨b, bytes, rfl⟩ := List.exists_cons_of_ne_nil hchunk
  have hopen : ¬ t.finished = true := by rw [h]; decide
  exact (if_neg hopen : (if t.finished then t.endReading reads else _) = _)

/-- Parsing goes on behind bytes that did not stop the terminal. -/
theorem parse_append {bytes : List UInt8} {t' : Terminal} {log : List Notice}
    (h : t.feed room bytes = ⟨t', log, none⟩) (more : List UInt8) :
    (t.parse room (bytes ++ more)).terminal = (t'.parse room more).terminal ∧
      (t.parse room (bytes ++ more)).shortage = (t'.parse room more).shortage := by
  rw [parse, parse, feed_append, h, Progress.feed]
  generalize t'.feed room more = p
  obtain ⟨t'', log', shortage⟩ := p
  cases shortage with
  | none => exact ⟨rfl, rfl⟩
  | some s => exact ⟨rfl, rfl⟩

/-- Parsing ends where the terminal was stopped. -/
theorem parse_append_stopped {bytes : List UInt8} {t' : Terminal} {log : List Notice} {s : Shortage}
    (h : t.feed room bytes = ⟨t', log, some s⟩) (more : List UInt8) :
    t.parse room (bytes ++ more) = ⟨t', log, some s⟩ := by
  rw [parse, feed_append, h]
  rfl

/-- Parsing finishes a terminal that is finished once more, and that is all. -/
theorem parse_finished (room : Room) (h : t.finished = true) (bytes : List UInt8) :
    (t.parse room bytes).terminal = t.finish ∧ (t.parse room bytes).shortage = none := by
  rw [parse, feed_finished h]
  exact ⟨rfl, rfl⟩

/-- **Whatever is behind SUB is not parsed**, if SUB ends the text or the text has ended before. -/
theorem parse_append_substitute {bytes : List UInt8} (h : t.TakesSubstitute room bytes)
    (behind : List UInt8) :
    (t.parse room (bytes ++ byteSUB :: behind)).terminal = (t.parse room bytes).terminal ∧
      (t.parse room (bytes ++ byteSUB :: behind)).shortage = (t.parse room bytes).shortage := by
  cases hfeed : t.feed room bytes with
  | mk t' log shortage =>
    rw [TakesSubstitute, hfeed] at h
    cases shortage with
    | some s =>
      rw [parse_append_stopped hfeed, parse, hfeed]
      exact ⟨rfl, rfl⟩
    | none =>
      -- both ways the terminal is finished in the end, and the canvas is the one of the bytes
      obtain ⟨hterminal, hshortage⟩ := parse_append hfeed (byteSUB :: behind)
      rw [hterminal, hshortage, parse, parse, hfeed]
      rcases h with htext | hfinished
      · rw [feed_cons_substitute htext]
        exact ⟨rfl, rfl⟩
      · have hstop : t'.finished = true := by rw [finished, hfinished]; rfl
        rw [feed_finished hstop]
        exact ⟨rfl, rfl⟩

/-- What reading chunks comes to: the terminal is the one that parsing their bytes at once leaves,
and the number of reads says where the text ended. -/
structure ReadsWhole (room : Room) (t : Terminal) (chunks : List (List UInt8)) (r : Reading) :
    Prop where
  terminal_eq : r.terminal = (t.parse room chunks.flatten).terminal
  fault_eq : r.fault = (t.parse room chunks.flatten).shortage.map .noRoom
  reads_of_finished : t.finished = true → r.reads = 0
  reads_of_endsInChunk : ∀ n, t.EndsInChunk room chunks n → r.reads = n
  reads_of_not_endsInChunk : t.finished = false → (∀ n, ¬ t.EndsInChunk room chunks n) →
    (t.parse room chunks.flatten).shortage = none → r.reads = chunks.length + 1

theorem readsText_append_iff {bytes more : List UInt8} :
    t.ReadsText room (bytes ++ more) ↔
      (t.feed room bytes).shortage = none ∧ (t.feed room bytes).terminal.ReadsText room more := by
  rw [ReadsText, ReadsText, feed_append]
  generalize t.feed room bytes = p
  obtain ⟨t', log, shortage⟩ := p
  cases shortage with
  | none => simp [Progress.feed]
  | some s => simp [Progress.feed]

/-- The text still ends only in a terminal that is not finished. -/
theorem EndsInChunk.finished_eq_false {n : Nat} (h : t.EndsInChunk room chunks n) :
    t.finished = false := by
  obtain ⟨front, before, behind, rest, -, -, -, hmode⟩ := h
  rw [← Bool.not_eq_true]
  intro hfinished
  rw [feed_finished hfinished] at hmode
  rw [finished, hmode] at hfinished
  cases hfinished

/-- The text ends in the first chunk, or in one of the chunks behind it. -/
theorem endsInChunk_cons_iff (h : t.finished = false) {rest : List (List UInt8)} {n : Nat} :
    t.EndsInChunk room (chunk :: rest) n ↔
      (t.feed room chunk).shortage = none ∧
        (n = 1 ∧ (t.feed room chunk).terminal.finished = true ∨
          ∃ m, n = m + 1 ∧ (t.feed room chunk).terminal.EndsInChunk room rest m) := by
  constructor
  · rintro ⟨front, before, behind, rest', hsplit, hn, htext⟩
    -- SUB is in the first chunk if no chunk is in front of the one that it is in
    cases front with
    | nil =>
      obtain ⟨rfl, rfl⟩ := List.cons.inj hsplit
      obtain ⟨hnone, -⟩ := feed_substitute htext behind
      exact ⟨hnone, .inl ⟨hn.symm, finished_feed_iff.mpr (.inr ⟨before, behind, rfl, htext⟩)⟩⟩
    | cons first front =>
      obtain ⟨rfl, rfl⟩ := List.cons.inj hsplit
      rw [List.flatten_cons, List.append_assoc, readsText_append_iff] at htext
      obtain ⟨hnone, htext⟩ := htext
      exact ⟨hnone, .inr ⟨front.length + 1, hn.symm, front, before, behind, rest', rfl, rfl, htext⟩⟩
  · rintro ⟨hnone, ⟨rfl, hfinished⟩ | ⟨m, rfl, front, before, behind, rest', rfl, rfl, htext⟩⟩
    · -- the terminal was not finished before, so SUB is in this chunk
      rcases finished_feed_iff.mp hfinished with hf | ⟨before, behind, rfl, htext⟩
      · rw [h] at hf
        cases hf
      · exact ⟨[], before, behind, rest, rfl, rfl, htext⟩
    · refine ⟨chunk :: front, before, behind, rest', rfl, rfl, ?_⟩
      rw [List.flatten_cons, List.append_assoc, readsText_append_iff]
      exact ⟨hnone, htext⟩

section

variable {ending : List ReadOutcome} (hending : ∀ o ∈ ending.head?, o.Ends)

include hending

/-- **Reading chunks leaves what parsing their bytes at once leaves.** -/
theorem terminal_readFrom (room : Room) (hchunks : ∀ chunk ∈ chunks, chunk ≠ []) (t : Terminal)
    (reads : Nat) :
    (t.readFrom room reads (chunks.map .bytes ++ ending)).terminal =
        (t.parse room chunks.flatten).terminal ∧
      (t.readFrom room reads (chunks.map .bytes ++ ending)).fault =
        (t.parse room chunks.flatten).shortage.map .noRoom := by
  induction chunks generalizing t reads with
  | nil =>
    cases h : t.finished with
    | true =>
      rw [readFrom_finished h]
      exact ⟨rfl, rfl⟩
    | false =>
      obtain ⟨hterminal, hfault, -⟩ := readFrom_end room h hending reads
      exact ⟨hterminal, hfault⟩
  | cons chunk chunks ih =>
    obtain ⟨hchunk, hchunks⟩ := List.forall_mem_cons.mp hchunks
    rw [List.map_cons, List.cons_append, List.flatten_cons]
    cases h : t.finished with
    | true =>
      obtain ⟨hterminal, hshortage⟩ := parse_finished room h (chunk ++ chunks.flatten)
      rw [readFrom_finished h, hterminal, hshortage]
      exact ⟨rfl, rfl⟩
    | false =>
      rw [readFrom_chunk h hchunk]
      cases hfeed : t.feed room chunk with
      | mk t' log shortage =>
        cases shortage with
        | none =>
          obtain ⟨hterminal, hshortage⟩ := parse_append hfeed chunks.flatten
          rw [hterminal, hshortage]
          exact ih hchunks t' (reads + 1)
        | some s =>
          rw [parse_append_stopped hfeed]
          exact ⟨rfl, rfl⟩

omit hending in
/-- If the text ends in a chunk, that chunk is the last one read. -/
theorem reads_readFrom_of_endsInChunk (hchunks : ∀ chunk ∈ chunks, chunk ≠ []) {n : Nat}
    (hends : t.EndsInChunk room chunks n) (reads : Nat) :
    (t.readFrom room reads (chunks.map .bytes ++ ending)).reads = reads + n := by
  induction chunks generalizing t n reads with
  | nil =>
    obtain ⟨front, before, behind, rest, hsplit, -⟩ := hends
    exact absurd hsplit.symm (List.append_ne_nil_of_right_ne_nil front (List.cons_ne_nil _ _))
  | cons chunk chunks ih =>
    obtain ⟨hchunk, hchunks⟩ := List.forall_mem_cons.mp hchunks
    have hopen : t.finished = false := hends.finished_eq_false
    obtain ⟨hnone, hends⟩ := (endsInChunk_cons_iff hopen).mp hends
    rw [List.map_cons, List.cons_append, readFrom_chunk hopen hchunk]
    cases hfeed : t.feed room chunk with
    | mk t' log shortage =>
      rw [hfeed] at hnone hends
      obtain rfl : shortage = none := hnone
      show (t'.readFrom room (reads + 1) (chunks.map .bytes ++ ending)).reads = reads + n
      rcases hends with ⟨hn, hfinished⟩ | ⟨m, hn, hends⟩
      · rw [readFrom_finished hfinished, hn]
        rfl
      · rw [ih hchunks hends, hn, Nat.add_assoc, Nat.add_comm 1]

/-- If the text does not end before the stream does, all chunks are read, and then the end. -/
theorem reads_readFrom_of_not_endsInChunk (hchunks : ∀ chunk ∈ chunks, chunk ≠ [])
    (hends : ∀ n, ¬ t.EndsInChunk room chunks n) (h : t.finished = false)
    (hnone : (t.parse room chunks.flatten).shortage = none) (reads : Nat) :
    (t.readFrom room reads (chunks.map .bytes ++ ending)).reads = reads + (chunks.length + 1) := by
  induction chunks generalizing t reads with
  | nil => exact (readFrom_end room h hending reads).2.2
  | cons chunk chunks ih =>
    obtain ⟨hchunk, hchunks⟩ := List.forall_mem_cons.mp hchunks
    rw [List.map_cons, List.cons_append, readFrom_chunk h hchunk]
    rw [List.flatten_cons] at hnone
    cases hfeed : t.feed room chunk with
    | mk t' log shortage =>
      cases shortage with
      | some s =>
        rw [parse_append_stopped hfeed] at hnone
        cases hnone
      | none =>
        have hopen : t'.finished = false := by
          rw [← Bool.not_eq_true]
          intro hfinished
          exact hends 1 ((endsInChunk_cons_iff h).mpr
            ⟨by rw [hfeed], .inl ⟨rfl, by rw [hfeed]; exact hfinished⟩⟩)
        have hrest : ∀ n, ¬ t'.EndsInChunk room chunks n := by
          intro n hn
          exact hends (n + 1) ((endsInChunk_cons_iff h).mpr
            ⟨by rw [hfeed], .inr ⟨n, rfl, by rw [hfeed]; exact hn⟩⟩)
        rw [(parse_append hfeed chunks.flatten).2] at hnone
        show (t'.readFrom room (reads + 1) (chunks.map .bytes ++ ending)).reads = _
        rw [ih hchunks hrest hopen hnone, List.length_cons]
        omega

end

/-- **Reading a stream is parsing its bytes at once**, however it is cut into chunks and whatever
takes the place of its end. It takes no read if the terminal is finished; otherwise the reading ends
with the chunk in which SUB ends the text, or else with the end of the stream behind the last chunk.
Feeding the chunks one after another is feeding all bytes at once, and no byte has an effect on a
terminal that is finished. -/
theorem readsWhole_read (room : Room) (t : Terminal) {chunks : List (List UInt8)}
    {ending : List ReadOutcome} (hchunks : ∀ chunk ∈ chunks, chunk ≠ [])
    (hending : ∀ o ∈ ending.head?, o.Ends) :
    t.ReadsWhole room chunks (t.read room (chunks.map .bytes ++ ending)) ∧
      t.feedChunks room chunks = t.feed room chunks.flatten ∧
      ∀ bytes more : List UInt8, (t.feed room bytes).terminal.finished = true →
        t.feed room (bytes ++ more) = t.feed room bytes := by
  refine ⟨?_, feedChunks_eq_feed room t chunks, fun bytes more h => feed_append_finished h more⟩
  obtain ⟨hterminal, hfault⟩ := terminal_readFrom hending room hchunks t 0
  refine ⟨hterminal, hfault, ?_, ?_, ?_⟩
  · intro hfinished
    rw [read, readFrom_finished hfinished]
    rfl
  · intro n hends
    rw [read, reads_readFrom_of_endsInChunk hchunks hends, Nat.zero_add]
  · intro hopen hends hnone
    rw [read, reads_readFrom_of_not_endsInChunk hending hchunks hends hopen hnone, Nat.zero_add]

/-- A control sequence that is cut behind its first byte, and SUB in the second of three chunks: the
failure behind them is never met. -/
theorem readsWhole_read_cut_sequence :
    let t : Terminal := ⟨{}, .blank 4 2 (by decide)⟩
    let chunks : List (List UInt8) := [[0x1b], [0x5b, 0x43, 0x41, 0x1a, 0x42], [0x43]]
    let ending : List ReadOutcome := [.failure "closed"]
    (∀ chunk ∈ chunks, chunk ≠ []) ∧ (∀ o ∈ ending.head?, o.Ends) ∧
      t.EndsInChunk .unlimited chunks 2 ∧
      (t.read .unlimited (chunks.map .bytes ++ ending)).reads = 2 ∧
      (t.read .unlimited (chunks.map .bytes ++ ending)).terminal =
        (t.parse .unlimited [0x1b, 0x5b, 0x43, 0x41, 0x1a, 0x42, 0x43]).terminal := by
  intro t chunks ending
  have hchunks : ∀ chunk ∈ chunks, chunk ≠ [] := by decide
  have hending : ∀ o ∈ ending.head?, o.Ends := by
    intro o ho
    obtain rfl : ReadOutcome.failure "closed" = o := Option.some.inj ho
    exact trivial
  have htext : t.ReadsText .unlimited [0x1b, 0x5b, 0x43, 0x41] := ⟨by decide, by decide⟩
  have hends : t.EndsInChunk .unlimited chunks 2 :=
    ⟨[[0x1b]], [0x5b, 0x43, 0x41], [0x42], [[0x43]], rfl, rfl, htext⟩
  obtain ⟨hwhole, -, -⟩ := readsWhole_read .unlimited t hchunks hending
  exact ⟨hchunks, hending, hends, hwhole.reads_of_endsInChunk 2 hends, hwhole.terminal_eq⟩

end Terminal

end AnsiArt
