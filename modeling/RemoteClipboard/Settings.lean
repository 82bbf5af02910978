import RemoteClipboard.Wire.Stream

/-! # Settings

What can be set about a bridge: how it routes messages to nobody in particular, how much it reads
from the wire, and how much it logs.  `Settings.validate` says which settings make sense, and names
the first one that does not. -/

namespace RemoteClipboard

/-- The settings of a bridge. -/
structure Settings where
  /-- Whether a message to connection 0 goes to every connection. -/
  broadcastSupported : Bool := true
  /-- Where a message to connection 0 goes otherwise. -/
  defaultConn : Int32 := 0
  /-- The largest size that a packet may announce. -/
  maxPayload : UInt32 := maxPayloadSize
  /-- The most formats that a list may have. -/
  maxEntries : Nat := defaultMaxEntries
  /-- The level of every log domain. -/
  logLevel : Log.Level := Log.Level.info
  deriving DecidableEq

namespace Settings

/-- Refuses settings that make no sense. -/
def validate (s : Settings) : Except Fault Unit :=
  if s.defaultConn < 0 then .error Fault.negativeDefault
  else if s.maxPayload = 0 then .error Fault.zeroPayload
  else if maxPayloadSize < s.maxPayload then .error Fault.payloadOverProtocol
  else if s.maxEntries = 0 then .error Fault.zeroEntries
  else .ok ()

end Settings

end RemoteClipboard
