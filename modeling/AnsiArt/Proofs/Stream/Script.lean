import AnsiArt.Control.Decoder
import Mathlib.Data.List.TakeWhile

/-!
# The grammar of a byte stream

A byte stream is a **script**: a row of tokens and an ending. A token is a character, one of the
controls LF, CR and TAB, a stray escape with the byte behind it, or a complete control sequence. The
ending is the end of input, the byte SUB with whatever follows it, or a token that the input breaks
off in the middle.

The tokens carry what makes them readable without a look behind them: a character is none of the
controls, the byte of a stray escape is not the bracket, and the body of a control sequence holds no
letter. The grammar says nothing about what a token does.

Main statements:

* `Script.bytes_ofBytes` — reading splits a stream into a script, so each stream has one;
* `Script.ofBytes_bytes` — reading a script's bytes gives the script back, so no stream has two.
-/

namespace AnsiArt

namespace Decoder

/-- A byte that stands for its character in text. -/
def IsCharacter (b : UInt8) : Prop :=
  b ≠ byteSUB ∧ b ≠ byteESC ∧ b ≠ byteLF ∧ b ≠ byteCR ∧ b ≠ byteTAB

/-- A body of a control sequence: no byte of it is a letter. -/
def IsBody (body : List UInt8) : Prop := ∀ b ∈ body, isFinal b = false

/-- A whole control sequence. -/
def sequenceBytes (body : List UInt8) (final : UInt8) : List UInt8 :=
  byteESC :: byteBracket :: (body ++ [final])

end Decoder

open Decoder

/-! ### Tokens, endings and scripts -/

/-- A complete unit of a byte stream. -/
inductive Token
  | character (b : UInt8) (h : IsCharacter b)
  | lineFeed
  | carriageReturn
  | tab
  | stray (b : UInt8) (h : b ≠ byteBracket)
  | sequence (body : List UInt8) (final : UInt8) (hbody : IsBody body)
      (hfinal : isFinal final = true)

/-- How a byte stream ends behind its last token. -/
inductive Ending
  | complete
  | substitute (rest : List UInt8)
  | escape
  | sequence (body : List UInt8) (hbody : IsBody body)

/-- Tokens in their order and an ending. -/
structure Script where
  tokens : List Token
  ending : Ending

/-- The bytes of a token. -/
def Token.bytes : Token → List UInt8
  | character b _ => [b]
  | lineFeed => [byteLF]
  | carriageReturn => [byteCR]
  | tab => [byteTAB]
  | stray b _ => [byteESC, b]
  | sequence body final _ _ => sequenceBytes body final

/-- The bytes of an ending. -/
def Ending.bytes : Ending → List UInt8
  | complete => []
  | substitute rest => byteSUB :: rest
  | escape => [byteESC]
  | sequence body _ => byteESC :: byteBracket :: body

namespace Script

/-- The bytes of a script. -/
def bytes (s : Script) : List UInt8 := s.tokens.flatMap Token.bytes ++ s.ending.bytes

/-- A script with a token in front. -/
def cons (t : Token) (s : Script) : Script := { s with tokens := t :: s.tokens }

@[simp] theorem bytes_cons (t : Token) (s : Script) : (s.cons t).bytes = t.bytes ++ s.bytes := by
  simp [cons, bytes]

/-! ### Reading -/

theorem isBody_takeWhile (bytes : List UInt8) :
    IsBody (bytes.takeWhile fun b => !isFinal b) := by
  intro b hb
  simpa using List.mem_takeWhile_imp hb

theorem isFinal_of_dropWhile {bytes rest : List UInt8} {b : UInt8}
    (h : (bytes.dropWhile fun b => !isFinal b) = b :: rest) : isFinal b = true := by
  have := List.head?_dropWhile_not (fun b => !isFinal b) bytes
  rw [h] at this
  simpa using this

/-- Splits a byte stream into its tokens and its ending. -/
def ofBytes : List UInt8 → Script
  | [] => ⟨[], .complete⟩
  | b :: rest =>
    if hs : b = byteSUB then ⟨[], .substitute rest⟩
    else if he : b = byteESC then
      match rest with
      | [] => ⟨[], .escape⟩
      | c :: rest =>
        if hc : c = byteBracket then
          match h : rest.dropWhile fun b => !isFinal b with
          | [] => ⟨[], .sequence (rest.takeWhile fun b => !isFinal b) (isBody_takeWhile rest)⟩
          | final :: behind =>
            (ofBytes behind).cons (.sequence (rest.takeWhile fun b => !isFinal b) final
              (isBody_takeWhile rest) (isFinal_of_dropWhile h))
        else (ofBytes rest).cons (.stray c hc)
    else if hl : b = byteLF then (ofBytes rest).cons .lineFeed
    else if hr : b = byteCR then (ofBytes rest).cons .carriageReturn
    else if ht : b = byteTAB then (ofBytes rest).cons .tab
    else (ofBytes rest).cons (.character b ⟨hs, he, hl, hr, ht⟩)
termination_by bytes => bytes.length
decreasing_by
  · have := List.length_dropWhile_le rest (p := fun b => !isFinal b)
    rw [h] at this
    simp only [List.length_cons] at this ⊢
    omega
  all_goals simp only [List.length_cons]; omega

/-- **Every byte stream is the bytes of the script that it is read as.** -/
theorem bytes_ofBytes (bytes : List UInt8) : (ofBytes bytes).bytes = bytes := by
  fun_induction ofBytes bytes with
  | case1 | case2 | case3 => rfl
  | case4 rest h =>
    have whole := List.takeWhile_append_dropWhile (p := fun b => !isFinal b) (l := rest)
    rw [h, List.append_nil] at whole
    simp [bytes, Ending.bytes, whole]
  | case5 rest final behind h _ ih =>
    -- the body and what begins with its final letter make up the rest
    have whole := List.takeWhile_append_dropWhile (p := fun b => !isFinal b) (l := rest)
    rw [h] at whole
    simp [ih, Token.bytes, sequenceBytes, whole]
  | case6 c rest _ _ ih => simp [ih, Token.bytes]
  | case7 rest _ _ ih => simp [ih, Token.bytes]
  | case8 rest _ _ _ ih => simp [ih, Token.bytes]
  | case9 rest _ _ _ _ ih => simp [ih, Token.bytes]
  | case10 c rest _ _ _ _ _ ih => simp [ih, Token.bytes]

/-! ### No stream has two scripts -/

theorem takeWhile_body {body rest : List UInt8} {final : UInt8} (hbody : IsBody body)
    (hfinal : isFinal final = true) :
    ((body ++ final :: rest).takeWhile fun b => !isFinal b) = body := by
  rw [List.takeWhile_append_of_pos (fun b hb => by simp [hbody b hb])]
  simp [hfinal]

theorem dropWhile_body {body rest : List UInt8} {final : UInt8} (hbody : IsBody body)
    (hfinal : isFinal final = true) :
    ((body ++ final :: rest).dropWhile fun b => !isFinal b) = final :: rest := by
  rw [List.dropWhile_append_of_pos (fun b hb => by simp [hbody b hb])]
  simp [hfinal]

/-- Reading takes a token off the front of a stream, whatever is behind it. -/
theorem ofBytes_token (t : Token) (rest : List UInt8) :
    ofBytes (t.bytes ++ rest) = (ofBytes rest).cons t := by
  cases t with
  | character b h =>
    show ofBytes (b :: rest) = _
    rw [ofBytes.eq_def]
    obtain ⟨hs, he, hl, hr, ht⟩ := h
    simp only [hs, he, hl, hr, ht, dite_false]
  | lineFeed => rw [Token.bytes, List.singleton_append, ofBytes.eq_def]; rfl
  | carriageReturn => rw [Token.bytes, List.singleton_append, ofBytes.eq_def]; rfl
  | tab => rw [Token.bytes, List.singleton_append, ofBytes.eq_def]; rfl
  | stray b h =>
    show ofBytes (byteESC :: b :: rest) = _
    rw [ofBytes, dif_neg (by decide), dif_pos rfl, dif_neg h]
  | sequence body final hbody hfinal =>
    show ofBytes (byteESC :: byteBracket :: ((body ++ [final]) ++ rest)) = _
    rw [List.append_assoc, List.singleton_append, ofBytes, dif_neg (by decide), dif_pos rfl,
      dif_pos rfl]
    -- the body ends at its first letter, so it is not longer than it was written
    split
    · next h => simp [dropWhile_body hbody hfinal] at h
    · next h =>
      rw [dropWhile_body hbody hfinal] at h
      obtain ⟨rfl, rfl⟩ := List.cons.inj h
      simp only [takeWhile_body hbody hfinal]

/-- What an ending leaves is read as that ending. -/
theorem ofBytes_ending (e : Ending) : ofBytes e.bytes = ⟨[], e⟩ := by
  cases e with
  | complete => rw [Ending.bytes, ofBytes]
  | substitute rest => rw [Ending.bytes, ofBytes.eq_def]; rfl
  | escape => rw [Ending.bytes, ofBytes]; rfl
  | sequence body hbody =>
    have keep : ∀ b ∈ body, (!isFinal b) = true := fun b hb => by simp [hbody b hb]
    rw [Ending.bytes, ofBytes, dif_neg (by decide), dif_pos rfl, dif_pos rfl]
    split
    · simp only [List.takeWhile_eq_self_iff.mpr keep]
    · next h => simp [List.dropWhile_eq_nil_iff.mpr keep] at h

/-- **Reading the bytes of a script gives the script back.** -/
theorem ofBytes_bytes (s : Script) : ofBytes s.bytes = s := by
  obtain ⟨tokens, ending⟩ := s
  induction tokens with
  | nil => exact ofBytes_ending ending
  | cons t tokens ih =>
    -- reading takes the first token off, and the rest is the bytes of a shorter script
    show ofBytes ((cons t ⟨tokens, ending⟩).bytes) = _
    rw [bytes_cons, ofBytes_token, ih]
    rfl

end Script

end AnsiArt
