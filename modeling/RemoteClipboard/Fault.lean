import RemoteClipboard.Fault.Code
import RemoteClipboard.Fault.SystemCause
import RemoteClipboard.Log
import RemoteClipboard.Message

/-! # Faults

A `Fault` says what went wrong: a code, a message for people, and details.  Two kinds carry more: a
file fault has the path and the system's reason, an unknown backend status has the raw status word.
Backends may report faults of any shape, also one whose code is `success`.

The faults that this library itself reports are all made by the constructors of the last sections,
one for each cause, so that the wording of each stands in one place. -/

namespace RemoteClipboard

structure Fault where
  code : Fault.Code := Fault.Code.success
  message : Bytes := []
  details : Bytes := []
  path : Bytes := []
  cause : SystemCause := SystemCause.unset
  rawCode : UInt32 := 0
  deriving DecidableEq

namespace Fault

def isOk (f : Fault) : Bool := f.code = Code.success

def isError (f : Fault) : Bool := f.code ≠ Code.success

/-- A fault in words: the name of its code, the message and the details if there are any, then the
file or the raw status for the two codes that carry them. -/
def text (f : Fault) : Bytes :=
  Bytes.ofString f.code.name
    ++ (if f.message.isEmpty then [] else Bytes.ofString ": " ++ f.message)
    ++ (if f.details.isEmpty then [] else Bytes.ofString " (" ++ f.details ++ Bytes.ofString ")")
    ++ (if f.code = Code.fileError then
          Bytes.ofString " [path=" ++ f.path ++ Bytes.ofString ", cause="
            ++ Bytes.ofString f.cause.text ++ Bytes.ofString "]"
        else [])
    ++ (if f.code = Code.backendUnknown then
          Bytes.ofString " [raw_code=0x" ++ Bytes.hex f.rawCode ++ Bytes.ofString "]"
        else [])

/-- The line by which a domain logs a fault, after a word on where it arose.  An unknown backend
status is always shown as its raw word. -/
def record (domain : Log.Domain) (f : Fault) (context : Option Bytes) : Log.Record :=
  let place := context.getD (Bytes.ofString "error")
  let text :=
    if f.code = Code.backendUnknown then
      Log.text [place, ": backend returned unknown status 0x", .status f.rawCode]
    else Log.text [place, ": ", f.text]
  ⟨domain, Log.Level.error, text⟩

/-- Fails with a code and a message unless a condition holds. -/
def require (condition : Bool) (code : Code) (message : Bytes) : Except Fault Unit :=
  if condition then .ok () else .error { code, message }

/-- A fault with fixed words. -/
def worded (code : Code) (message : String) (details : Bytes := []) : Fault :=
  { code, message := Bytes.ofString message, details }

/-! ## Backends -/

def success : Fault := {}

def fileError (path : Bytes) (cause : SystemCause) : Fault :=
  { worded Code.fileError "Failed to access file" with path, cause }

/-- A request makes no sense, for the reason given. -/
def invalidRequest (reason : Bytes) : Fault := { code := Code.invalidRequest, message := reason }

/-- A backend reported a status that nobody knows. -/
def backendUnknown (rawCode : UInt32) : Fault :=
  { worded Code.backendUnknown "Unrecognized backend status" with rawCode }

/-! ## File requests -/

/-- A connection asks for a file and has no list. -/
def noFilesOffered (conn : Int32) : Fault :=
  invalidRequest (Log.text ["no files offered to connection ", conn])

/-- A request names a place that its list does not have. -/
def indexOutOfRange (index : Int32) (count : Nat) : Fault :=
  invalidRequest (Log.text ["list index ", index, " out of range (", count, " files)"])

/-- A request asks for neither a size nor a range. -/
def unsupportedOperation (operation : Int32) : Fault :=
  invalidRequest (Log.text ["unsupported file contents operation ", operation])

def negativeSize : Fault := invalidRequest (Bytes.ofString "negative requested size")

/-- A request asks for more bytes than are read at once. -/
def sizeOverLimit (requested : Int32) (limit : UInt32) : Fault :=
  invalidRequest (Log.text ["requested size ", requested, " exceeds limit ", limit.toNat])

def serviceStopped : Fault := invalidRequest (Bytes.ofString "service stopped")

/-- The backend was given a message that is not for it. -/
def notFileMessage (kind : Message.Kind) : Fault :=
  invalidRequest (Log.text ["not a file message: ", kind.tag])

/-! ## Reading messages -/

/-- The length of the tag is missing, zero or too large. -/
def invalidTagLength : Fault := worded Code.malformedMessage "Invalid message tag length"

/-- The tag or the length of the payload is cut off. -/
def headerTruncated : Fault := worded Code.malformedMessage "Message header truncated"

/-- No kind of message has the tag, which is kept in the details. -/
def unknownTag (tag : Bytes) : Fault := worded Code.unknownMessageTag "Unknown message tag" tag

def payloadLengthMismatch (tag : Bytes) : Fault :=
  worded Code.malformedMessage "Payload length does not match message size" tag

/-- A format list is longer than allowed; the details have its length. -/
def tooManyFormats (count : Nat) : Fault :=
  worded Code.malformedMessage "Too many formats in list" (Bytes.decimal count)

def payloadTruncated (kind : Message.Kind) : Fault :=
  worded Code.malformedMessage (kind.tag ++ " payload truncated")

/-! ## Reading packets -/

def packetHeaderTooShort : Fault := worded Code.invalidArgument "Header too short"

def wrongMagic : Fault := worded Code.invalidArgument "Invalid magic number"

/-- The header is of another version, which is kept in the details. -/
def wrongVersion (version : UInt8) : Fault :=
  worded Code.versionMismatch "Protocol version mismatch" (Bytes.decimal version.toNat)

/-- The header announces more than allowed; the details have how much. -/
def payloadTooLarge (size : UInt32) : Fault :=
  worded Code.payloadTooLarge "Payload too large" (Bytes.decimal size.toNat)

def noPacket : Fault := worded Code.invalidState "No complete packet available"

/-! ## Exchanges and delivery -/

/-- A message came before any that may open an exchange. -/
def beforeBeginning (kind : Message.Kind) : Fault :=
  worded Code.protocolViolation (kind.tag ++ " received before MonitorReady or FormatList")

def negativeConnection (conn : Int32) : Fault :=
  { code := Code.invalidArgument
    message := Log.text ["Connection id must not be negative: ", conn] }

def noConnection (conn : Int32) : Fault :=
  { code := Code.connectionNotFound, message := Log.text ["No session for connection ", conn] }

def queueClosed (conn : Int32) : Fault :=
  { code := Code.channelClosed
    message := Log.text ["Session queue closed for connection ", conn] }

/-! ## Settings -/

def negativeDefault : Fault :=
  worded Code.invalidArgument "Default connection id must be >= 0"

/-- Settings that allow only empty packets. -/
def zeroPayload : Fault := worded Code.invalidArgument "Maximum payload size must be non-zero"

/-- Settings that allow larger packets than the wire does. -/
def payloadOverProtocol : Fault :=
  worded Code.invalidArgument "Maximum payload size exceeds protocol limit (16 MiB)"

def zeroEntries : Fault := worded Code.invalidArgument "Maximum format entries must be non-zero"

def alreadyInitialized : Fault :=
  worded Code.alreadyInitialized "ClipboardBridge already initialized"

end Fault

end RemoteClipboard
