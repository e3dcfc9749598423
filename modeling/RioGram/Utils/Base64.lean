import RioGram.Core.Wire

/-!
# Textual forms of byte strings

The decoders `from_link` tries one after another on the text of a proxy secret, and the encoder
behind the `basic` authorization of an HTTP proxy.  Texts are byte strings, as in the source; the
kind of a decoder's error is never looked at, so that a failure is `none`.
-/

namespace RioGram

open Wire

/-- The bytes of a string. -/
def utf8 (s : String) : Bytes := s.toUTF8.data.toList

/-! ## Hexadecimal -/

/-- `hex_to_int`. -/
def hexToInt (c : UInt8) : Option ℕ :=
  let n := c.toNat
  if 48 ≤ n ∧ n ≤ 57 then some (n - 48)
  else if 97 ≤ n ∧ n ≤ 102 then some (n - 87)
  else if 65 ≤ n ∧ n ≤ 70 then some (n - 55)
  else none

/-- `hex_decode`. -/
def hexDecode : Bytes → Option Bytes
  | [] => some []
  | [_] => none
  | a :: b :: s => do
      let high ← hexToInt a
      let low ← hexToInt b
      let rest ← hexDecode s
      return UInt8.ofNat (high * 16 + low) :: rest

/-! ## Base64 -/

/-- The character of a six-bit number. -/
def base64Character (isUrl : Bool) (n : ℕ) : UInt8 :=
  UInt8.ofNat (if n < 26 then 65 + n else if n < 52 then 71 + n else if n < 62 then n - 4
    else if n = 62 then (if isUrl then 45 else 43) else (if isUrl then 95 else 47))

/-- `get_character_table`: the six-bit number of a character. -/
def base64Value (isUrl : Bool) (c : UInt8) : Option ℕ :=
  (List.range 64).find? fun n => base64Character isUrl n == c

/-- `base64_encode`. -/
def base64Encode : Bytes → Bytes
  | a :: b :: c :: s =>
      base64Character false (a.toNat / 4) ::
      base64Character false (a.toNat % 4 * 16 + b.toNat / 16) ::
      base64Character false (b.toNat % 16 * 4 + c.toNat / 64) ::
      base64Character false (c.toNat % 64) :: base64Encode s
  | [a, b] =>
      [base64Character false (a.toNat / 4),
        base64Character false (a.toNat % 4 * 16 + b.toNat / 16),
        base64Character false (b.toNat % 16 * 4), 61]
  | [a] => [base64Character false (a.toNat / 4), base64Character false (a.toNat % 4 * 16), 61, 61]
  | [] => []

/-- `base64_drop_padding`. -/
def base64DropPadding (isUrl : Bool) (text : Bytes) : Option Bytes :=
  let body := (text.reverse.dropWhile (· == 61)).reverse
  let padding := text.length - body.length
  if padding ≥ 3 then none
  else if (!isUrl || 0 < padding) && text.length % 4 != 0 then none
  else if isUrl && body.length % 4 == 1 then none
  else some body

/-- `do_base64_decode_impl`: bits left over in the last group have to be zero.  A last group of one
character has been refused by `base64DropPadding`. -/
def base64DecodeGroups (isUrl : Bool) : Bytes → Option Bytes
  | [] => some []
  | [_] => none
  | [a, b] => do
      let x ← base64Value isUrl a
      let y ← base64Value isUrl b
      if y % 16 ≠ 0 then none else return [UInt8.ofNat (x * 4 + y / 16)]
  | [a, b, c] => do
      let x ← base64Value isUrl a
      let y ← base64Value isUrl b
      let z ← base64Value isUrl c
      if z % 4 ≠ 0 then none
      else return [UInt8.ofNat (x * 4 + y / 16), UInt8.ofNat (y % 16 * 16 + z / 4)]
  | a :: b :: c :: d :: s => do
      let x ← base64Value isUrl a
      let y ← base64Value isUrl b
      let z ← base64Value isUrl c
      let w ← base64Value isUrl d
      let rest ← base64DecodeGroups isUrl s
      return UInt8.ofNat (x * 4 + y / 16) :: UInt8.ofNat (y % 16 * 16 + z / 4) ::
        UInt8.ofNat (z % 4 * 64 + w) :: rest

/-- `base64url_decode` and `base64_decode`. -/
def base64Decode (isUrl : Bool) (text : Bytes) : Option Bytes :=
  (base64DropPadding isUrl text).bind (base64DecodeGroups isUrl)

end RioGram
