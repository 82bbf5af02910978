import RemoteClipboard.Journal
import RemoteClipboard.Wire.Cursor

/-! # The wire form of a message

A message is written as its tag and its payload, each behind its length:

* two bytes: length of the tag;
* the tag;
* four bytes: length of the payload;
* the payload: the fields of the message in a fixed order.

`Message.encode` writes this form and `Message.decode` reads it.  A payload may go on after the
fields that are known here; such bytes are ignored, so that a newer side can add fields. -/

namespace RemoteClipboard

/-- The longest tag that is read. -/
def maxTagLength : Nat := 64

/-- The most entries of a format list that are read unless told otherwise. -/
def defaultMaxEntries : Nat := 1024

namespace Message

/-! ## Writing -/

/-- A byte string behind its length. -/
def counted (b : Bytes) : Bytes := le32 (UInt32.ofNat b.length) ++ b

/-- The fields of one format on offer. -/
def FormatEntry.fields (e : FormatEntry) : Bytes := leInt32 e.id ++ counted e.name

/-- The fields of a request for file contents.  A flag says whether there is clipboard data to
refer to; if not, its number is written as zero. -/
def FileRequest.fields (r : FileRequest) : Bytes :=
  leInt32 r.stream ++ leInt32 r.index ++ leInt32 r.operation ++ leInt32 r.offsetLow
    ++ leInt32 r.offsetHigh ++ leInt32 r.requested
    ++ [if r.clipData.isSome then 1 else 0] ++ leInt32 (r.clipData.getD 0)

/-- The fields of an answer with file contents. -/
def FileReply.fields (r : FileReply) : Bytes :=
  leInt32 r.status ++ leInt32 r.stream ++ counted r.payload

/-- The fields of a message, in their order. -/
def payload : Message → Bytes
  | notifyCallback kind title text => counted kind ++ counted title ++ counted text
  | monitorReady => []
  | formatList entries => le32 (UInt32.ofNat entries.length) ++ entries.flatMap FormatEntry.fields
  | formatListResponse status => leInt32 status
  | formatDataRequest format => leInt32 format
  | formatDataResponse status payload => leInt32 status ++ counted payload
  | fileContentsRequest request => request.fields
  | fileContentsResponse reply => reply.fields

/-- The wire form of a tag and a payload. -/
def frame (tag payload : Bytes) : Bytes :=
  le16 (UInt16.ofNat tag.length) ++ tag ++ counted payload

def encode (m : Message) : Bytes := frame m.kind.wireTag m.payload

/-! ## Reading -/

namespace Kind

/-- Reads `n` formats on offer, or stops where a read fails. -/
def readEntries : Nat → Reader (List FormatEntry)
  | 0 => return []
  | n + 1 => do
    if ← Reader.ok then
      let entry : FormatEntry := ⟨← Reader.int32, ← Reader.counted⟩
      return entry :: (← readEntries n)
    else return []

/-- Reads the fields of a request for file contents; any flag but zero says that there is clipboard
data to refer to. -/
def readFileRequest : Reader FileRequest := do
  let stream ← Reader.int32
  let index ← Reader.int32
  let operation ← Reader.int32
  let offsetLow ← Reader.int32
  let offsetHigh ← Reader.int32
  let requested ← Reader.int32
  let flag ← Reader.u8
  let clipData ← Reader.int32
  return { stream, index, operation, offsetLow, offsetHigh, requested,
           clipData := if flag = 0 then none else some clipData }

/-- Reads the fields of a message of some kind.  What comes out means something only if the cursor
is still `ok` afterwards. -/
def readFields (maxEntries : Nat) : Kind → Reader (Except Fault Message)
  | notifyCallback =>
    return .ok (.notifyCallback (← Reader.counted) (← Reader.counted) (← Reader.counted))
  | monitorReady => return .ok .monitorReady
  | formatList => do
    let count ← Reader.u32
    if maxEntries < count.toNat then return .error (Fault.tooManyFormats count.toNat)
    else return .ok (.formatList (← readEntries count.toNat))
  | formatListResponse => return .ok (.formatListResponse (← Reader.int32))
  | formatDataRequest => return .ok (.formatDataRequest (← Reader.int32))
  | formatDataResponse =>
    return .ok (.formatDataResponse (← Reader.int32) (← Reader.counted))
  | fileContentsRequest => return .ok (.fileContentsRequest (← readFileRequest))
  | fileContentsResponse =>
    return .ok (.fileContentsResponse
      ⟨← Reader.int32, ← Reader.int32, ← Reader.counted⟩)

def readPayload (maxEntries : Nat) (k : Kind) (payload : Bytes) : Except Fault Message :=
  let (message, cursor) := (k.readFields maxEntries).run (Cursor.ofBytes payload)
  if cursor.ok then message else .error (Fault.payloadTruncated k)

end Kind

/-- Reads the two lengths and the tag in front of a payload. -/
def readFrame : Reader (Except Fault (Bytes × Nat)) := do
  let tagLength ← Reader.u16
  if !(← Reader.ok) || tagLength = 0 || maxTagLength < tagLength.toNat then
    return .error Fault.invalidTagLength
  else
    let tag ← Reader.bytes tagLength.toNat
    let payloadLength ← Reader.u32
    if ← Reader.ok then return .ok (tag, payloadLength.toNat)
    else return .error Fault.headerTruncated

/-- Reads exactly one message.  A list of more than `maxEntries` formats is refused. -/
def decode (maxEntries : Nat) (data : Bytes) : Except Fault Message :=
  let (front, cursor) := readFrame.run (Cursor.ofBytes data)
  match front with
  | .error fault => .error fault
  | .ok (tag, payloadLength) =>
    match Kind.ofTag? tag with
    | none => .error (Fault.unknownTag tag)
    | some kind =>
      if payloadLength ≠ cursor.remaining then .error (Fault.payloadLengthMismatch tag)
      else kind.readPayload maxEntries cursor.unread

/-- What reading a message makes known: a warning if its tag is unknown, else nothing. -/
def decodeJournal : Except Fault Message → Journal
  | .ok _ => []
  | .error fault =>
    if fault.code = Fault.Code.unknownMessageTag then
      [.line .protocol .warning ["rejecting message with unknown tag '", fault.details, "'"]]
    else []

end Message

end RemoteClipboard
