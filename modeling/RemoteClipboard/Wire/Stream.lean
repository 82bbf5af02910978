import RemoteClipboard.Wire.Header

/-! # Packets out of a stream

A `PacketStream` collects the bytes that arrive and gives back the messages of the packets among
them.  Only the bytes that are not yet used up are kept, so what it does next depends on those and
on nothing else, however they were cut when they arrived.

A header that is no header ends all hope of finding the next packet, so `next` throws away all that
is kept; a packet whose message cannot be read is dropped alone. -/

namespace RemoteClipboard

/-- How much a packet may announce, and how many formats a list may have. -/
structure Limits where
  maxPayload : UInt32 := maxPayloadSize
  maxEntries : Nat := defaultMaxEntries
  deriving DecidableEq

/-- The bytes of a stream that are not used up, and the limits that hold for it. -/
structure PacketStream where
  limits : Limits := {}
  buffer : Array UInt8 := #[]

namespace PacketStream

def unread (s : PacketStream) : Bytes := s.buffer.toList

def feed (s : PacketStream) (data : Bytes) : PacketStream :=
  { s with buffer := s.buffer ++ data }

def reset (s : PacketStream) : PacketStream := { s with buffer := #[] }

@[simp] theorem unread_feed (s : PacketStream) (data : Bytes) :
    (s.feed data).unread = s.unread ++ data := by
  simp [unread, feed]

@[simp] theorem unread_reset (s : PacketStream) : s.reset.unread = [] := rfl

/-- The header in front, once all of it is there. -/
def header? (s : PacketStream) : Option (Except Fault Header) :=
  if s.buffer.size < Header.byteCount then none
  else some (Header.read s.limits.maxPayload (s.buffer.extract 0 Header.byteCount).toList)

/-- The number of bytes of the packet with a given header. -/
def packetSize (h : Header) : Nat := Header.byteCount + h.payloadSize.toNat

/-- Whether there is something to take out: a whole packet, or a header that is no header. -/
def hasPacket (s : PacketStream) : Bool :=
  match s.header? with
  | none => false
  | some (.error _) => true
  | some (.ok h) => packetSize h ≤ s.buffer.size

def next (s : PacketStream) : Outcome PacketStream (Except Fault Message) :=
  match s.header? with
  | none => ⟨.error Fault.noPacket, s, []⟩
  | some (.error fault) =>
    ⟨.error fault, s.reset,
      [.line .protocol .warning ["dropping ", s.buffer.size, " buffered bytes: ", fault.text]]⟩
  | some (.ok h) =>
    if packetSize h ≤ s.buffer.size then
      let body := (s.buffer.extract Header.byteCount (packetSize h)).toList
      let result := Message.decode s.limits.maxEntries body
      ⟨result, { s with buffer := s.buffer.extract (packetSize h) s.buffer.size },
        Message.decodeJournal result⟩
    else ⟨.error Fault.noPacket, s, []⟩

/-- Whatever is taken out makes the stream shorter. -/
theorem size_next_lt {s : PacketStream} (h : s.hasPacket) :
    s.next.state.buffer.size < s.buffer.size := by
  unfold hasPacket at h
  unfold next
  split at h
  · simp at h
  · rename_i fault found
    have full : Header.byteCount ≤ s.buffer.size := by
      unfold header? at found
      split at found
      · simp at found
      · omega
    have positive : 0 < Header.byteCount := by decide
    simp only [reset, List.size_toArray, List.length_nil]
    omega
  · rename_i header found
    have whole : packetSize header ≤ s.buffer.size := by simpa using h
    have positive : 0 < packetSize header := by unfold packetSize Header.byteCount; omega
    simp only [whole, if_true, Array.size_extract]
    omega

/-- One thing taken out of a stream, and what it made known. -/
structure Taken where
  result : Except Fault Message
  journal : Journal

/-- Takes out everything there is to take out. -/
def drain (s : PacketStream) : List Taken × PacketStream :=
  if _h : s.hasPacket then
    let first := s.next
    let (rest, last) := drain first.state
    (⟨first.result, first.journal⟩ :: rest, last)
  else ([], s)
termination_by s.buffer.size
decreasing_by exact size_next_lt _h

/-- Takes in bytes one at a time and after each takes out everything there is to take out. -/
def feedEach (s : PacketStream) (data : Bytes) : List Taken × PacketStream :=
  let (taken, last) := data.foldl
    (fun (taken, s) b =>
      let (new, s) := (s.feed [b]).drain
      (taken ++ new, s))
    ((#[] : Array Taken), s)
  (taken.toList, last)

end PacketStream

end RemoteClipboard
