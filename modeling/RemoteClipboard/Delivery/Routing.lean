import RemoteClipboard.Delivery.Registry
import RemoteClipboard.Settings

/-! # Delivering messages

A message goes to one connection (`Registry.post`) or to all of them (`Registry.broadcast`).  A
`Routing` says which of the two is meant by connection 0: everyone, or one default connection. -/

namespace RemoteClipboard

namespace Registry

/-- Puts a message into the queue of one connection.  Nothing changes if there is no such
connection, or if its queue is closed. -/
def post (r : Registry) (conn : Int32) (m : Message) : Outcome Registry (Except Fault Unit) :=
  match r.push? conn m with
  | none =>
    ⟨.error (Fault.noConnection conn), r,
      [.line .dispatch .verbose ["no session for conn ", conn]]⟩
  | some (false, _) =>
    ⟨.error (Fault.queueClosed conn), r,
      [.line .dispatch .verbose ["session ", conn, " queue is closed"]]⟩
  | some (true, r) =>
    ⟨.ok (), r, [.line .dispatch .debug ["queued ", m.tag, " for conn ", conn]]⟩

/-- Puts a copy of a message into every queue that is open, and counts them.  Closed queues are
passed over with a warning each. -/
def broadcast (r : Registry) (m : Message) : Outcome Registry Nat :=
  { result := r.entries.toList.countP (!·.queue.closed)
    state := { r with
      entries := r.entries.map (fun e => { e with queue := (e.queue.push m).2 }) }
    journal := r.entries.toList.filterMap fun e =>
      if e.queue.closed then
        some (.line .dispatch .warning
          ["broadcast of ", m.tag, " to conn ", e.conn, " failed: queue closed"])
      else none }

end Registry

/-- What connection 0 stands for. -/
structure Routing where
  /-- Everyone. -/
  broadcast : Bool
  /-- Otherwise this connection. -/
  fallback : Int32
  deriving DecidableEq

namespace Routing

/-- The routing that some settings ask for. -/
def ofSettings (s : Settings) : Routing := ⟨s.broadcastSupported, s.defaultConn⟩

/-- Delivers a message to a connection, or to what connection 0 stands for.  Delivering to everyone
never fails. -/
def send (routing : Routing) (r : Registry) (conn : Int32) (m : Message) :
    Outcome Registry (Except Fault Unit) :=
  if conn ≠ 0 then r.post conn m
  else if !routing.broadcast then r.post routing.fallback m
  else
    let sent := r.broadcast m
    ⟨.ok (), sent.state, sent.journal ++
      [.line .dispatch .verbose ["broadcast ", m.tag, " to ", sent.result, " session(s)"]]⟩

end Routing

end RemoteClipboard
