import RemoteClipboard.Bytes
import RemoteClipboard.Fault.SystemCause

/-! # Files

A `File` is a size and the byte at each place below it.  Files of many gigabytes, most of them
zero, are written down as easily as short ones, since nothing is stored until it is read.

Knowing its size is not being able to read it.  What the system allows of that is the `File.Access`:
the file opens or not, a place in it is found or not, and reading from there goes well or not. -/

namespace RemoteClipboard

/-- A regular file: its size, and its bytes.  What `byteAt` says at and past the size means
nothing. -/
structure File where
  size : Nat
  byteAt : Nat → UInt8

namespace File

/-- The file that holds some bytes. -/
def ofBytes (b : Bytes) : File :=
  let content := b.toArray
  ⟨content.size, fun i => content.getD i 0⟩

/-- The file of `n` bytes in which the byte at place `i` is `i` modulo some number. -/
def ramp (n modulus : Nat) : File := ⟨n, fun i => UInt8.ofNat (i % modulus)⟩

/-- The same file cut or filled up with zeros to another size. -/
def resize (f : File) (size : Nat) : File :=
  ⟨size, fun i => if i < f.size then f.byteAt i else 0⟩

/-- The same file with some bytes put in from a place on.  A file that is too short for them grows;
where there are none, nothing changes. -/
def overwrite (f : File) (offset : Nat) (b : Bytes) : File :=
  if b.isEmpty then f else
  let longer := f.resize (max f.size (offset + b.length))
  let content := b.toArray
  ⟨longer.size, fun i =>
    if offset ≤ i then content.getD (i - offset) (longer.byteAt i) else longer.byteAt i⟩

/-- Up to `count` bytes from a place on, fewer where the file ends. -/
def read (f : File) (offset count : Nat) : Bytes :=
  (List.range (min count (f.size - offset))).map (fun i => f.byteAt (offset + i))

/-- All bytes of the file. -/
def content (f : File) : Bytes := (List.range f.size).map f.byteAt

@[simp] theorem length_read (f : File) (offset count : Nat) :
    (f.read offset count).length = min count (f.size - offset) := by
  simp [read]

/-! ## Access -/

/-- How far the system lets a file be read whose size it tells.  Unless told otherwise it is read
from every place that a stream can be set to. -/
structure Access where
  /-- Why the file does not open, if it does not; the system may keep the reason to itself. -/
  refusal : Option SystemCause := none
  /-- Whether a stream can be set to a place. -/
  seeks : Nat → Bool := fun place => place < 0x8000000000000000
  /-- Whether so many bytes are read from a place, or all up to the end, without trouble. -/
  reads : Nat → Nat → Bool := fun _ _ => true

end File

end RemoteClipboard
