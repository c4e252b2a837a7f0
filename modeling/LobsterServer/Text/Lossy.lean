import LobsterServer.Text.Basic

set_option autoImplicit false

/-!
# Lossy decoding of UTF-8

Whatever bytes a process prints become a text.  Each maximal run of bytes that starts a
character but does not finish it, and each byte that can start none, becomes one replacement
character U+FFFD.
-/

namespace LobsterServer.Text

/-- A character whose encoding has begun: its value so far, how many bytes are missing, and the
bounds of the next one. -/
structure Unfinished where
  value : Nat
  missing : Nat
  low : UInt8
  high : UInt8
  deriving DecidableEq, Repr

/-- What a byte begins: a whole character, a longer one, or nothing. -/
inductive Lead where
  | whole (c : Char)
  | longer (u : Unfinished)
  | invalid

/-- Classifies a byte at a character boundary.  The bounds of the second byte shut out overlong
forms, surrogates and values past U+10FFFF. -/
def lead (b : UInt8) : Lead :=
  if b < 0x80 then .whole (Char.ofNat b.toNat)
  else if b < 0xC2 then .invalid
  else if b < 0xE0 then .longer ⟨b.toNat - 0xC0, 1, 0x80, 0xBF⟩
  else if b < 0xF0 then
    .longer ⟨b.toNat - 0xE0, 2, if b = 0xE0 then 0xA0 else 0x80, if b = 0xED then 0x9F else 0xBF⟩
  else if b < 0xF5 then
    .longer ⟨b.toNat - 0xF0, 3, if b = 0xF0 then 0x90 else 0x80, if b = 0xF4 then 0x8F else 0xBF⟩
  else .invalid

/-- The character shown for bytes that encode none. -/
def replacement : Char := '\uFFFD'

/-- Decodes bytes that follow the unfinished character `u`, if there is one. -/
def decodeFrom : Option Unfinished → List UInt8 → Text
  | none, [] => []
  | some _, [] => [replacement]
  | none, b :: bytes =>
    match lead b with
    | .whole c => c :: decodeFrom none bytes
    | .longer u => decodeFrom (some u) bytes
    | .invalid => replacement :: decodeFrom none bytes
  | some u, b :: bytes =>
    if u.low ≤ b ∧ b ≤ u.high then
      let value := u.value * 64 + (b.toNat - 0x80)
      if u.missing ≤ 1 then Char.ofNat value :: decodeFrom none bytes
      else decodeFrom (some ⟨value, u.missing - 1, 0x80, 0xBF⟩) bytes
    else
      match lead b with
      | .whole c => replacement :: c :: decodeFrom none bytes
      | .longer u' => replacement :: decodeFrom (some u') bytes
      | .invalid => replacement :: replacement :: decodeFrom none bytes

/-- The text that bytes stand for, with a replacement character wherever they stand for none. -/
def decodeLossy (bytes : List UInt8) : Text := decodeFrom none bytes

/-- Whether bytes are well-formed UTF-8: then, and only then, encoding gives them back. -/
def isEncoding (bytes : List UInt8) : Bool := encode (decodeLossy bytes) == bytes

example : decodeLossy [0x61, 0xFF, 0xC3] = ['a', replacement, replacement] := by decide
example : decodeLossy [0xF0, 0x9D, 0x84, 0x9E] = [Char.ofNat 0x1D11E] := by decide
example : decodeLossy [0xED, 0xA0, 0x80] = [replacement, replacement, replacement] := by decide

end LobsterServer.Text
