import AnsiArt.Control.Decoder
import AnsiArt.Text.Split

/-!
# Collecting parameters is splitting

The parameters of a control sequence are collected byte by byte, a semicolon closing the open one.
Taken together that is splitting the body at its semicolons (`Parameters.ofBody_eq_ofTexts`), and
the collected parameters spell the body again (`Parameters.text_ofBody`). Inside a control sequence,
the decoder collects in this way (`Decoder.nextAll_body`).
-/

namespace AnsiArt

namespace Parameters

/-- Closed parameters with the given texts. -/
def ofTexts (texts : List (List UInt8)) : Parameters := ⟨(texts.map List.toArray).toArray, #[]⟩

/-- The parameters after one more byte of the body. -/
def take (ps : Parameters) (b : UInt8) : Parameters := if b = 0x3b then ps.flush else ps.push b

@[simp] theorem text_ofTexts (texts : List (List UInt8)) :
    (ofTexts texts).text = [0x3b].intercalate texts := by
  simp [ofTexts, text, Function.comp_def]

/-- What taking a body leaves once the last parameter is closed: its first piece ends the parameter
that was open, and the others are parameters of their own. -/
theorem flush_foldl_take (ps : Parameters) {body piece : List UInt8} {pieces : List (List UInt8)}
    (h : splitAll 0x3b body = piece :: pieces) :
    (body.foldl take ps).flush =
      ⟨ps.closed.push (ps.pending ++ piece.toArray) ++ (pieces.map List.toArray).toArray, #[]⟩ := by
  induction body generalizing ps piece pieces with
  | nil =>
    obtain ⟨rfl, rfl⟩ := List.cons.inj h
    simp [flush]
  | cons b body ih =>
    rw [splitAll] at h
    rw [List.foldl_cons, take]
    split at h
    · next hb =>
      obtain ⟨rfl, rfl⟩ := List.cons.inj h
      obtain ⟨p, rest, hrest⟩ := List.exists_cons_of_ne_nil (splitAll_ne_nil 0x3b body)
      rw [if_pos hb, ih ps.flush hrest, hrest]
      simp [flush]
    · next hb =>
      obtain ⟨p, rest, hrest⟩ := List.exists_cons_of_ne_nil (splitAll_ne_nil 0x3b body)
      rw [hrest] at h
      obtain ⟨rfl, rfl⟩ := List.cons.inj h
      rw [if_neg hb, ih (ps.push b) hrest]
      simp [push]

/-- **Collecting a body is splitting it at its semicolons.** -/
theorem ofBody_eq_ofTexts (body : List UInt8) : ofBody body = ofTexts (splitAll 0x3b body) := by
  obtain ⟨piece, pieces, h⟩ := List.exists_cons_of_ne_nil (splitAll_ne_nil 0x3b body)
  show (body.foldl take empty).flush = _
  rw [flush_foldl_take empty h, h]
  simp [empty, ofTexts]

/-- The parameters collected from a body spell it. -/
theorem text_ofBody (body : List UInt8) : (ofBody body).text = body := by
  rw [ofBody_eq_ofTexts, text_ofTexts, intercalate_splitAll]

/-- A body without a semicolon is a single parameter. -/
theorem ofBody_of_not_mem {body : List UInt8} (h : 0x3b ∉ body) : ofBody body = ofTexts [body] := by
  rw [ofBody_eq_ofTexts, splitAll_of_not_mem h]

end Parameters

namespace Decoder

theorem next_body (ps : Parameters) {b : UInt8} (h : isFinal b = false) :
    (Decoder.mk .sequence ps).next b = ⟨.sequence, ps.take b⟩ := by
  simp only [next, Parameters.take, h, byteSemicolon]
  split <;> rfl

/-- Inside a sequence, bytes that are no letters only go to the parameters. -/
theorem nextAll_body (ps : Parameters) {body : List UInt8} (h : ∀ b ∈ body, isFinal b = false) :
    (Decoder.mk .sequence ps).nextAll body = ⟨.sequence, body.foldl Parameters.take ps⟩ := by
  induction body generalizing ps with
  | nil => rfl
  | cons b body ih =>
    obtain ⟨hb, hbody⟩ := List.forall_mem_cons.mp h
    rw [nextAll, List.foldl_cons, next_body ps hb]
    exact ih (ps.take b) hbody

end Decoder

end AnsiArt
