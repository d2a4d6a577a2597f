/-
# Base64

`base64.b64decode` without validation: characters outside of the alphabet are skipped, and
the padding that completes a group of four ends the text.
-/
import Mathlib.Data.List.Basic
import ImageDescriptor.Python.Exceptions

namespace ImageDescriptor

abbrev Bytes := List UInt8

/-- The six bits of a character of the alphabet. -/
def base64Value (c : Char) : Option ℕ :=
  if 'A' ≤ c ∧ c ≤ 'Z' then some (c.toNat - 65)
  else if 'a' ≤ c ∧ c ≤ 'z' then some (c.toNat - 71)
  else if '0' ≤ c ∧ c ≤ '9' then some (c.toNat + 4)
  else if c = '+' then some 62
  else if c = '/' then some 63
  else none

/-- The loop of `binascii.a2b_base64`: `quadPos` characters of the current group have been
read, `left` holds the bits of them that belong to the next byte, `pads` padding characters
have come since the last character of the alphabet, and `written` bytes have been made. -/
def a2bBase64 (quadPos left pads written : ℕ) : List Char → Except Exc Bytes
  | [] =>
    if quadPos = 0 then .ok []
    else if quadPos = 1 then
      .error ⟨.binasciiError, "Invalid base64-encoded string: number of data characters (" ++
        toString (written / 3 * 4 + 1) ++ ") cannot be 1 more than a multiple of 4"⟩
    else .error ⟨.binasciiError, "Incorrect padding"⟩
  | c :: rest =>
    if c = '=' then
      if 2 ≤ quadPos then
        if 4 ≤ quadPos + (pads + 1) then .ok [] else a2bBase64 quadPos left (pads + 1) written rest
      else a2bBase64 quadPos left pads written rest
    else
      match base64Value c with
      | none => a2bBase64 quadPos left pads written rest
      | some v =>
        match quadPos with
        | 0 => a2bBase64 1 v 0 written rest
        | 1 =>
          (a2bBase64 2 (v % 16) 0 (written + 1) rest).map (UInt8.ofNat (left * 4 + v / 16) :: ·)
        | 2 => (a2bBase64 3 (v % 4) 0 (written + 1) rest).map (UInt8.ofNat (left * 16 + v / 4) :: ·)
        | _ => (a2bBase64 0 0 0 (written + 1) rest).map (UInt8.ofNat (left * 64 + v) :: ·)

/-- `base64.b64decode(s)`. -/
def b64decode (s : List Char) : Except Exc Bytes :=
  if s.all fun c => decide (c.toNat < 128) then a2bBase64 0 0 0 0 s
  else .error ⟨.valueError, "string argument should contain only ASCII characters"⟩

end ImageDescriptor
