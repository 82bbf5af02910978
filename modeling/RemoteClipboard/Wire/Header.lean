import RemoteClipboard.Wire.Codec

/-! # Packet headers

A packet is a header of twelve bytes and the wire form of one message.  The header holds a magic
number, the version, a reserved byte, reserved flags and the size of what follows.  `Header.read`
refuses exactly the headers that are not `isValid`, and says which field is at fault. -/

namespace RemoteClipboard

/-- The version of the wire protocol. -/
def protocolVersion : UInt8 := 1

/-- The largest size that a packet may announce unless told otherwise: 16 MiB. -/
def maxPayloadSize : UInt32 := 16 * 1024 * 1024

structure Header where
  magic : UInt32 := 0x50494C43
  version : UInt8 := protocolVersion
  reserved : UInt8 := 0
  flags : UInt16 := 0
  payloadSize : UInt32 := 0
  deriving DecidableEq

namespace Header

/-- The number that every header starts with; its bytes spell `CLIP`. -/
def protocolMagic : UInt32 := 0x50494C43

def byteCount : Nat := 12

/-- The header of a packet around so many bytes. -/
def forSize (size : UInt32) : Header := { payloadSize := size }

/-- Whether a header is of this protocol and announces no more than `limit` bytes. -/
def isValid (h : Header) (limit : UInt32) : Bool :=
  h.magic = protocolMagic && h.version = protocolVersion && h.payloadSize ≤ limit

def bytes (h : Header) : Bytes :=
  le32 h.magic ++ [h.version, h.reserved] ++ le16 h.flags ++ le32 h.payloadSize

@[simp] theorem length_bytes (h : Header) : h.bytes.length = byteCount := by
  simp [bytes, byteCount]

/-- The header that twelve bytes spell; what follows them is not looked at. -/
def ofBytes? : Bytes → Option Header
  | m₀ :: m₁ :: m₂ :: m₃ :: version :: reserved :: f₀ :: f₁ :: s₀ :: s₁ :: s₂ :: s₃ :: _ =>
    some {
      magic := UInt32.ofNat (ofLE [m₀, m₁, m₂, m₃])
      version, reserved
      flags := UInt16.ofNat (ofLE [f₀, f₁])
      payloadSize := UInt32.ofNat (ofLE [s₀, s₁, s₂, s₃]) }
  | _ => none

/-- What is wrong with a header, if anything: the magic number before the version before the
size. -/
def fault? (h : Header) (limit : UInt32) : Option Fault :=
  if h.magic ≠ protocolMagic then some Fault.wrongMagic
  else if h.version ≠ protocolVersion then some (Fault.wrongVersion h.version)
  else if limit < h.payloadSize then some (Fault.payloadTooLarge h.payloadSize)
  else none

/-- Reads the header at the front of some bytes. -/
def read (limit : UInt32) (data : Bytes) : Except Fault Header :=
  match ofBytes? data with
  | none => .error Fault.packetHeaderTooShort
  | some h =>
    match h.fault? limit with
    | some fault => .error fault
    | none => .ok h

end Header

def Message.packet (m : Message) : Bytes :=
  (Header.forSize (UInt32.ofNat m.encode.length)).bytes ++ m.encode

end RemoteClipboard
