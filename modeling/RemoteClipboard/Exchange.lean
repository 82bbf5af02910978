import RemoteClipboard.Journal

/-! # The order of an exchange

An `Exchange` follows the messages of one connection.  It starts with `MonitorReady` or
`FormatList`, and refuses what comes before; one of these later on starts it anew.  Notifications
stand outside the exchange and leave no trace in it. -/

namespace RemoteClipboard

/-- Where a connection is in its exchange. -/
structure Exchange where
  /-- Whether a message that may open the exchange was seen. -/
  started : Bool := false
  /-- The kind of the last message that counts. -/
  last : Option Message.Kind := none
  /-- Whether the backend may be stopped at this point. -/
  canStop : Bool := true
  deriving DecidableEq

namespace Exchange

/-- Follows one more message.  A refused message changes nothing. -/
def observe (x : Exchange) (m : Message) : Outcome Exchange (Except Fault Unit) :=
  if m.kind = .notifyCallback then ⟨.ok (), x, []⟩
  else if !m.isBeginning && !x.started then ⟨.error (Fault.beforeBeginning m.kind), x, []⟩
  else
    let journal : Journal :=
      if m.isBeginning && x.started then
        [.line .protocol .debug [m.tag, " restarts the exchange"]]
      else []
    ⟨.ok (), { started := true, last := some m.kind, canStop := m.isStopAllowed }, journal⟩

def reset (_ : Exchange) : Exchange := {}

end Exchange

end RemoteClipboard
