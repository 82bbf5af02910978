import RemoteClipboard.Wire.LittleEndian

/-! # A cursor over a payload

A `Cursor` reads fields one after the other and never past the end.  The first read that asks for
more bytes than remain fails, and so does every read after it: a failed read yields zero or nothing,
and the cursor stays where it is.  A whole layout can so be read without a check between its
fields; one look at `ok` at the end tells whether all of it was there.

`take` is the only reader that touches the bytes, all others are made of it. -/

namespace RemoteClipboard

/-- A place in a byte string of `size` bytes: what is unread, how much is read, and whether every
read so far found its bytes. -/
structure Cursor where
  unread : Bytes
  offset : Nat
  size : Nat
  ok : Bool
  deriving DecidableEq

abbrev Reader := StateM Cursor

namespace Cursor

def ofBytes (data : Bytes) : Cursor := ⟨data, 0, data.length, true⟩

/-- How many bytes are still to be read. -/
def remaining (c : Cursor) : Nat := c.size - c.offset

end Cursor

namespace Reader

/-- The next `n` bytes, or nothing. -/
def take (n : Nat) : Reader (Option Bytes) := fun c =>
  if c.ok && n ≤ c.remaining then
    (some (c.unread.take n), { c with unread := c.unread.drop n, offset := c.offset + n })
  else (none, { c with ok := false })

/-- The next `n` bytes, or the empty string. -/
def bytes (n : Nat) : Reader Bytes := return (← take n).getD []

/-- The number that the next `n` bytes spell, or zero. -/
def number (n : Nat) : Reader Nat := return ofLE (← bytes n)

def u8 : Reader UInt8 := return UInt8.ofNat (← number 1)

def u16 : Reader UInt16 := return UInt16.ofNat (← number 2)

def u32 : Reader UInt32 := return UInt32.ofNat (← number 4)

def int32 : Reader Int32 := return Int32.ofUInt32 (← u32)

/-- A byte string behind its length. -/
def counted : Reader Bytes := do bytes (← u32).toNat

/-- Whether every read so far found its bytes. -/
def ok : Reader Bool := return (← get).ok

end Reader

end RemoteClipboard
