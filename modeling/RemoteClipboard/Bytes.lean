/-! # Byte strings

Text and data are both plain byte strings here: a peer's name, a path or a format name need not be
UTF-8 and may hold zero bytes.  This module has the few ways in which such strings are written and
cut; `Bytes.beforeNul` is the one place where a zero byte matters. -/

namespace RemoteClipboard

/-- A sequence of bytes, whether it stands for text or for data. -/
abbrev Bytes := List UInt8

namespace Bytes

/-- The UTF-8 bytes of a string. -/
def ofString (s : String) : Bytes := s.toByteArray.data.toList

/-- A text up to, and without, its first zero byte: all that a log line shows of it. -/
def beforeNul (b : Bytes) : Bytes := b.takeWhile (· ≠ 0)

/-- An integer in decimal, with a minus sign when negative and no leading zeros. -/
def decimal (n : Int) : Bytes := ofString (toString n)

/-- A word in lower-case hexadecimal, with no leading zeros. -/
def hex (n : UInt32) : Bytes := ofString (String.ofList (Nat.toDigits 16 n.toNat))

/-- A word as exactly eight lower-case hexadecimal digits. -/
def hex8 (n : UInt32) : Bytes :=
  ofString (String.ofList ((Nat.toDigits 16 n.toNat).leftpad 8 '0'))

end Bytes

end RemoteClipboard
