/-! # Fault codes

A code is any 32-bit number; the ones with a meaning of their own are listed in `Code.known` with
their names and descriptions.  Numbers are grouped: 1 to 99 general, 100 to 199 delivery, 200 to
299 wire, 300 to 399 clipboard backends. -/

namespace RemoteClipboard

/-- What kind of fault something is, as a number. -/
structure Fault.Code where
  value : Int32
  deriving DecidableEq

namespace Fault.Code

def success : Code := ⟨0⟩
def unknown : Code := ⟨1⟩
def invalidArgument : Code := ⟨2⟩
def invalidState : Code := ⟨3⟩
def notSupported : Code := ⟨4⟩
def alreadyInitialized : Code := ⟨6⟩
def connectionNotFound : Code := ⟨100⟩
def channelClosed : Code := ⟨101⟩
def unknownMessageTag : Code := ⟨200⟩
def malformedMessage : Code := ⟨201⟩
def protocolViolation : Code := ⟨202⟩
def payloadTooLarge : Code := ⟨203⟩
def versionMismatch : Code := ⟨204⟩
def invalidName : Code := ⟨300⟩
def initFailed : Code := ⟨301⟩
def outOfMemory : Code := ⟨302⟩
def internalError : Code := ⟨303⟩
def occupied : Code := ⟨304⟩
def conversionFailure : Code := ⟨305⟩
def openFailed : Code := ⟨306⟩
def fileError : Code := ⟨307⟩
def invalidRequest : Code := ⟨308⟩
def backendUnknown : Code := ⟨399⟩

/-- Every code with a meaning of its own, its name and what it says. -/
def known : List (Code × String × String) := [
  (success, "Success", "Operation completed successfully"),
  (unknown, "Unknown", "An unknown error occurred"),
  (invalidArgument, "InvalidArgument", "Invalid argument provided"),
  (invalidState, "InvalidState", "Operation not valid in current state"),
  (notSupported, "NotSupported", "Operation not supported"),
  (alreadyInitialized, "AlreadyInitialized", "Component already initialized"),
  (connectionNotFound, "ConnectionNotFound", "No session registered for connection id"),
  (channelClosed, "ChannelClosed", "Session queue has no consumer"),
  (unknownMessageTag, "UnknownMessageTag", "Unknown clipboard message tag"),
  (malformedMessage, "MalformedMessage", "Clipboard message payload is malformed"),
  (protocolViolation, "ProtocolViolation", "Clipboard message arrived out of order"),
  (payloadTooLarge, "PayloadTooLarge", "Payload exceeds configured limit"),
  (versionMismatch, "VersionMismatch", "Protocol version mismatch"),
  (invalidName, "InvalidName", "Invalid clipboard channel name"),
  (initFailed, "InitFailed", "Failed to initialize clipboard channel"),
  (outOfMemory, "OutOfMemory", "Clipboard channel out of memory"),
  (internalError, "InternalError", "Clipboard internal error"),
  (occupied, "Occupied", "Clipboard is held by another operation"),
  (conversionFailure, "ConversionFailure", "Clipboard format conversion failed"),
  (openFailed, "OpenFailed", "Failed to open clipboard"),
  (fileError, "FileError", "Failed to read file metadata or content"),
  (invalidRequest, "InvalidRequest", "Invalid clipboard request"),
  (backendUnknown, "BackendUnknown", "Unrecognized clipboard backend status")]

/-- The short name of a code; all codes without a meaning share one. -/
def name (c : Code) : String := ((known.lookup c).map (·.1)).getD "UnknownError"

/-- One sentence on what a code stands for. -/
def description (c : Code) : String :=
  ((known.lookup c).map (·.2)).getD "Unknown error occurred"

/-- Whether carrying on after such a fault can make sense. -/
def isRecoverable (c : Code) : Bool :=
  c ∉ [notSupported, outOfMemory, backendUnknown, versionMismatch]

/-- Whether a code is one of those that clipboard backends report. -/
def isBackend (c : Code) : Bool := 300 ≤ c.value && c.value ≤ 399

/-- Whether a code says that the addressed connection is gone. -/
def isNotFound (c : Code) : Bool := c = connectionNotFound || c = channelClosed

end Fault.Code

end RemoteClipboard
