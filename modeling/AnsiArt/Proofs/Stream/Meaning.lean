import AnsiArt.Proofs.Control.Collecting
import AnsiArt.Proofs.Control.Quiet
import AnsiArt.Proofs.Stream.Reachable
import AnsiArt.Proofs.Stream.Script

/-!
# What a byte stream means

Each token of a script has an effect of its own on the canvas, which depends on nothing but the
token and the canvas: a character is written, a stray escape is written with the byte behind it, a
control sequence is handled with the pieces of its body as parameters. The ending has none.

The terminal works byte by byte through four modes and an accumulator. The main statement,
`Terminal.parse_eq_foldl_tokens`, is that all of it comes to the tokens' effects, one after
another. The proof follows the terminal from token to token: in front of each, its decoder is
fresh, unless it was stopped for good (`Progress.Follows`).
-/

namespace AnsiArt

open Decoder

/-! ### The effect of a token -/

/-- What a token does to a canvas. A control sequence is never left unfinished: what its handling
could not do is given up. -/
def Token.attempt (room : Room) (c : Canvas) : Token → Attempt
  | character b _ => c.tryWrite room (CodePage437.decode b)
  | lineFeed => ⟨Command.lineFeed.run c, none⟩
  | carriageReturn => ⟨Command.carriageReturn.run c, none⟩
  | tab => c.tryBlanks room (Canvas.tabBlanks c.cursor.x)
  | stray b _ =>
    c.attemptAll room [.write (CodePage437.decode byteESC), .write (CodePage437.decode b)]
  | sequence body final _ _ =>
    ⟨(handling room c (.ofTexts (splitAll byteSemicolon body)) final).canvas, none⟩

/-- Goes on with one token, unless a character found no room before. -/
def Token.advance (room : Room) (a : Attempt) (t : Token) : Attempt :=
  match a with
  | ⟨c, none⟩ => t.attempt room c
  | ⟨c, some s⟩ => ⟨c, some s⟩

/-! ### One byte -/

namespace Terminal

variable (room : Room) (c : Canvas)

/-- Outside a sequence, a byte leaves what its commands leave, and stops the terminal if they do. -/
theorem step_of_mode_ne {d : Decoder} (hm : d.mode ≠ .sequence) (b : UInt8) :
    ((Terminal.mk d c).step room b).terminal.canvas = (c.attemptAll room (d.commands b)).canvas ∧
      ((Terminal.mk d c).step room b).shortage = (c.attemptAll room (d.commands b)).shortage ∧
      ((c.attemptAll room (d.commands b)).shortage = none →
        ((Terminal.mk d c).step room b).terminal.decoder = d.next b) := by
  simp only [step]
  split
  · next heq => simp [heq]
  · next heq => simp [heq, hm]

/-- Inside a sequence, a byte of the body only goes to the parameters. -/
theorem foldl_advance_body (ps : Parameters) (log : List Notice) {body : List UInt8}
    (hbody : IsBody body) :
    body.foldl (advance room) ⟨⟨⟨.sequence, ps⟩, c⟩, log, none⟩ =
      ⟨⟨⟨.sequence, body.foldl Parameters.take ps⟩, c⟩, log, none⟩ := by
  induction body generalizing ps with
  | nil => rfl
  | cons b body ih =>
    have hb : isFinal b = false := hbody b List.mem_cons_self
    have hstep : advance room ⟨⟨⟨.sequence, ps⟩, c⟩, log, none⟩ b =
        ⟨⟨⟨.sequence, ps.take b⟩, c⟩, log, none⟩ := by
      simp [advance, step, commands, notices, hb, next_body ps hb, Canvas.attemptAll]
    rw [List.foldl_cons, hstep, List.foldl_cons]
    exact ih _ fun b' hb' => hbody b' (List.mem_cons_of_mem _ hb')

/-- A control sequence comes down to the step of its final letter, with the pieces of its body as
parameters. -/
theorem foldl_advance_sequence (log : List Notice) {body : List UInt8} (hbody : IsBody body)
    (final : UInt8) :
    (sequenceBytes body final).foldl (advance room) ⟨⟨{}, c⟩, log, none⟩ =
      advance room ⟨⟨⟨.sequence, body.foldl Parameters.take {}⟩, c⟩, log, none⟩ final := by
  show (body ++ [final]).foldl (advance room) ⟨⟨⟨.sequence, {}⟩, c⟩, log, none⟩ = _
  rw [List.foldl_append, foldl_advance_body room c _ _ hbody]
  rfl

/-- Feeding a control sequence is the step of its final letter. -/
theorem feed_sequence_eq_step {body : List UInt8} (hbody : IsBody body) (final : UInt8) :
    (Terminal.mk {} c).feed room (sequenceBytes body final) =
      (Terminal.mk ⟨.sequence, body.foldl Parameters.take {}⟩ c).step room final := by
  rw [feed, foldl_advance_sequence room c [] hbody]
  simp only [advance, List.append_nil]

/-- Nothing has an effect on a terminal that is finished. -/
theorem foldl_advance_finished (ps : Parameters) (log : List Notice) (bytes : List UInt8) :
    bytes.foldl (advance room) ⟨⟨⟨.finished, ps⟩, c⟩, log, none⟩ =
      ⟨⟨⟨.finished, ps⟩, c⟩, log, none⟩ := by
  induction bytes with
  | nil => rfl
  | cons b bytes ih => exact ih

end Terminal

/-! ### One token -/

/-- A terminal between two tokens: it has come as far as the attempt, and its decoder is fresh
unless it was stopped. -/
structure Progress.Follows (p : Progress) (a : Attempt) : Prop where
  canvas_eq : p.terminal.canvas = a.canvas
  shortage_eq : p.shortage = a.shortage
  decoder_eq : p.shortage = none → p.terminal.decoder = {}

namespace Progress.Follows

open Terminal

variable {room : Room} {p : Progress} {a : Attempt}

/-- A byte of its own in text mode follows its commands, if the decoder stays in text mode. -/
theorem byte (room : Room) (c : Canvas) (log : List Notice) {b : UInt8}
    (hnext : ({} : Decoder).next b = {}) :
    (advance room ⟨⟨{}, c⟩, log, none⟩ b).Follows (c.attemptAll room (textCommands b)) := by
  obtain ⟨hcanvas, hshortage, hdecoder⟩ :=
    step_of_mode_ne room c (show ({} : Decoder).mode ≠ .sequence by decide) b
  refine ⟨hcanvas, hshortage, fun h => ?_⟩
  exact (hdecoder (hshortage.symm.trans h)).trans hnext

/-- **The terminal follows a token.** -/
theorem token (h : p.Follows a) (t : Token) :
    (t.bytes.foldl (advance room) p).Follows (t.advance room a) := by
  obtain ⟨⟨d, c⟩, log, shortage⟩ := p
  obtain ⟨c', shortage'⟩ := a
  obtain ⟨rfl, rfl, hd⟩ := h
  cases shortage with
  | some s =>
    rw [foldl_advance_stopped]
    exact ⟨rfl, rfl, nofun⟩
  | none =>
    obtain rfl : d = {} := hd rfl
    show (t.bytes.foldl (advance room) ⟨⟨{}, c⟩, log, none⟩).Follows (t.attempt room c)
    cases t with
    | character b hb =>
      obtain ⟨hs, he, hl, hr, ht⟩ := hb
      have hcommands : textCommands b = [.write (CodePage437.decode b)] := by
        simp [textCommands, hs, he, hl, hr, ht]
      have := byte room c log (b := b) (by simp [next, hs, he])
      rwa [hcommands, attemptAll_singleton] at this
    | lineFeed => exact byte room c log (b := byteLF) rfl
    | carriageReturn => exact byte room c log (b := byteCR) rfl
    | tab =>
      have := byte room c log (b := byteTAB) rfl
      rwa [show textCommands byteTAB = [.tab] from rfl, attemptAll_singleton] at this
    | stray b hb =>
      -- the escape itself has no effect before the byte behind it is known
      obtain ⟨hcanvas, hshortage, hdecoder⟩ :=
        step_of_mode_ne room c (d := { mode := .escape }) (by decide) b
      rw [show ({ mode := .escape } : Decoder).commands b =
          [.write (CodePage437.decode byteESC), .write (CodePage437.decode b)] by
        simp [commands, hb]] at hcanvas hshortage hdecoder
      refine ⟨hcanvas, hshortage, fun hnone => ?_⟩
      rw [show ({ mode := .escape } : Decoder).next b = {} by simp [next, hb]] at hdecoder
      exact hdecoder (hshortage.symm.trans hnone)
    | sequence body final hbody hfinal =>
      have hparameters : (body.foldl Parameters.take {}).flush =
          .ofTexts (splitAll byteSemicolon body) := Parameters.ofBody_eq_ofTexts body
      obtain ⟨hterminal, hshortage⟩ := step_final room c
        (body.foldl Parameters.take {}) hfinal
      rw [hparameters] at hterminal
      rw [Token.bytes, foldl_advance_sequence room c log hbody]
      exact ⟨congrArg Terminal.canvas hterminal, hshortage,
        fun _ => congrArg Terminal.decoder hterminal⟩

/-- The terminal follows a row of tokens. -/
theorem tokens (h : p.Follows a) (ts : List Token) :
    ((ts.flatMap Token.bytes).foldl (advance room) p).Follows
      (ts.foldl (Token.advance room) a) := by
  induction ts generalizing p a with
  | nil => exact h
  | cons t ts ih =>
    rw [List.flatMap_cons, List.foldl_append]
    exact ih (h.token t)

/-- An ending leaves the canvas alone. -/
theorem ending (h : p.Follows a) (e : Ending) :
    (e.bytes.foldl (advance room) p).terminal.canvas = a.canvas ∧
      (e.bytes.foldl (advance room) p).shortage = a.shortage := by
  obtain ⟨⟨d, c⟩, log, shortage⟩ := p
  obtain ⟨c', shortage'⟩ := a
  obtain ⟨rfl, rfl, hd⟩ := h
  cases shortage with
  | some s =>
    rw [foldl_advance_stopped]
    exact ⟨rfl, rfl⟩
  | none =>
    obtain rfl : d = {} := hd rfl
    cases e with
    | complete => exact ⟨rfl, rfl⟩
    | substitute rest =>
      show (rest.foldl (advance room) ⟨⟨{ mode := .finished }, c⟩, log, none⟩).terminal.canvas = c ∧
        (rest.foldl (advance room) ⟨⟨{ mode := .finished }, c⟩, log, none⟩).shortage = none
      rw [foldl_advance_finished]
      exact ⟨rfl, rfl⟩
    | escape => exact ⟨rfl, rfl⟩
    | sequence body hbody =>
      show (body.foldl (advance room) ⟨⟨⟨.sequence, {}⟩, c⟩, log, none⟩).terminal.canvas = c ∧
        (body.foldl (advance room) ⟨⟨⟨.sequence, {}⟩, c⟩, log, none⟩).shortage = none
      rw [foldl_advance_body room c _ _ hbody]
      exact ⟨rfl, rfl⟩

end Progress.Follows

/-! ### The whole stream -/

namespace Terminal

variable (room : Room) (c : Canvas)

/-- The end of the input changes the decoder only. -/
theorem parse_eq_feed (t : Terminal) (bytes : List UInt8) :
    (t.parse room bytes).terminal.canvas = (t.feed room bytes).terminal.canvas ∧
      (t.parse room bytes).shortage = (t.feed room bytes).shortage := by
  simp only [parse]
  split
  · next heq => simp [heq, finish]
  · next heq => simp [heq]

/-- Feeding the bytes of a script has the effects of its tokens. -/
theorem feed_script (s : Script) :
    ((Terminal.mk {} c).feed room s.bytes).terminal.canvas =
        (s.tokens.foldl (Token.advance room) ⟨c, none⟩).canvas ∧
      ((Terminal.mk {} c).feed room s.bytes).shortage =
        (s.tokens.foldl (Token.advance room) ⟨c, none⟩).shortage := by
  have fresh : Progress.Follows { terminal := ⟨{}, c⟩ } ⟨c, none⟩ := ⟨rfl, rfl, fun _ => rfl⟩
  rw [feed, Script.bytes, List.foldl_append]
  exact (fresh.tokens s.tokens).ending s.ending

/-- **A byte stream has exactly one script, and parsing it on a terminal with a fresh decoder
has the effects of the script's tokens, from left to right.** It stops where they stop. Whatever
is done to the terminal, its decoder holds no parameter outside a control sequence. -/
theorem parse_eq_foldl_tokens (bytes : List UInt8) :
    (∃ s : Script, s.bytes = bytes ∧ (∀ s' : Script, s'.bytes = bytes → s' = s) ∧
      ((Terminal.mk {} c).parse room bytes).terminal.canvas =
        (s.tokens.foldl (Token.advance room) ⟨c, none⟩).canvas ∧
      ((Terminal.mk {} c).parse room bytes).shortage =
        (s.tokens.foldl (Token.advance room) ⟨c, none⟩).shortage) ∧
    ∀ t, Reachable room ⟨{}, c⟩ t → t.decoder.mode ≠ .sequence → t.decoder.parameters = {} := by
  refine ⟨⟨Script.ofBytes bytes, Script.bytes_ofBytes bytes, ?_, ?_⟩, ?_⟩
  · rintro s rfl
    exact (Script.ofBytes_bytes s).symm
  · obtain ⟨hcanvas, hshortage⟩ := parse_eq_feed room ⟨{}, c⟩ bytes
    obtain ⟨hfeed, hstop⟩ := feed_script room c (Script.ofBytes bytes)
    rw [Script.bytes_ofBytes] at hfeed hstop
    exact ⟨hcanvas.trans hfeed, hshortage.trans hstop⟩
  · intro t ht
    exact ht.decoder_clean fun _ => rfl

end Terminal

end AnsiArt
