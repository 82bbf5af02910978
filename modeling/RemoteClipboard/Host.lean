import RemoteClipboard.Backend.FileShare
import RemoteClipboard.Backend.Script
import RemoteClipboard.Bridge
import RemoteClipboard.Server

/-! # A whole host

A `Host` is one process with everything put together: a bridge for the outbound side, a registry
for the inbound side with a routing of its own, the shared files, a server over the inbound side,
and the stream from which the inbound messages come.  The server's backend is the file share, or a
script in its place.

Callers get at queues by receivers.  Receivers are numbered in the order in which they were first
handed out, on both sides together (`Host.receive`). -/

namespace RemoteClipboard

inductive Side
  | outbound
  | inbound
  deriving DecidableEq

/-- One process with everything put together. -/
structure Host where
  levels : Log.Levels := {}
  bridge : Bridge := {}
  inbound : Registry := {}
  inboundRouting : Routing := Routing.ofSettings {}
  stream : PacketStream := {}
  disk : FileTree := {}
  share : FileShare := {}
  script : Script := {}
  /-- Whether the server's backend is the script. -/
  scripted : Bool := false
  server : Server := {}
  /-- The side and the slot of each receiver that was handed out. -/
  receivers : Array (Side × Nat) := #[]

namespace Host

/-! ## The two sides -/

def registry (h : Host) : Side → Registry
  | .outbound => h.bridge.registry
  | .inbound => h.inbound

def setRegistry (h : Host) (side : Side) (r : Registry) : Host :=
  match side with
  | .outbound => { h with bridge := { h.bridge with registry := r } }
  | .inbound => { h with inbound := r }

def routing (h : Host) : Side → Routing
  | .outbound => h.bridge.routing
  | .inbound => h.inboundRouting

def setRouting (h : Host) (side : Side) (r : Routing) : Host :=
  match side with
  | .outbound => { h with bridge := { h.bridge with routing := r } }
  | .inbound => { h with inboundRouting := r }

def send (h : Host) (side : Side) (conn : Int32) (m : Message) :
    Outcome Host (Except Fault Unit) :=
  ((h.routing side).send (h.registry side) conn m).mapState (h.setRegistry side)

/-! ## Receivers -/

/-- The number of the receiver for a slot, which is handed out if it was not yet. -/
def receive (h : Host) (side : Side) (slot : Nat) : Nat × Host :=
  match h.receivers.idxOf? (side, slot) with
  | some rx => (rx, h)
  | none => (h.receivers.size, { h with receivers := h.receivers.push (side, slot) })

def queue? (h : Host) (rx : Nat) : Option (Queue Message) := do
  let (side, slot) ← h.receivers[rx]?
  (h.registry side).queue? slot

def setQueue (h : Host) (rx : Nat) (queue : Queue Message) : Host :=
  match h.receivers[rx]? with
  | none => h
  | some (side, slot) => h.setRegistry side ((h.registry side).setQueue slot queue)

/-- The receiver of a peer's connection, and its number. -/
def openPeer (h : Host) (side : Side) (peer : Bytes) : Outcome Host (Int32 × Nat) :=
  let opened := (h.registry side).openPeer peer
  let (conn, slot) := opened.result
  let (rx, h) := (h.setRegistry side opened.state).receive side slot
  ⟨(conn, rx), h, opened.journal⟩

/-- The receiver of the connection with a number. -/
def openConn (h : Host) (side : Side) (conn : Int32) : Outcome Host (Except Fault Nat) :=
  let opened := (h.registry side).openConn conn
  let h := h.setRegistry side opened.state
  match opened.result with
  | .error fault => ⟨.error fault, h, opened.journal⟩
  | .ok slot =>
    let (rx, h) := h.receive side slot
    ⟨.ok rx, h, opened.journal⟩

/-! ## The server and its backend -/

/-- File sharing over the outbound side, as a backend. -/
def fileBackend (h : Host) : Backend Host :=
  (FileShare.backend h.disk.asDisk (h.routing .outbound)).within
    (fun h => (h.share, h.bridge.registry))
    (fun h (share, registry) => { h.setRegistry .outbound registry with share })

def scriptBackend : Backend Host :=
  Script.backend.within (·.script) ({ · with script := · })

def backend (h : Host) : Backend Host :=
  if h.scripted then scriptBackend else h.fileBackend

def handle (h : Host) (conn : Int32) (m : Message) : Outcome Host (Except Fault Unit) :=
  (Server.handle h.backend h.server h conn m).mapState fun (server, h) => { h with server }

/-- Closes the inbound queue of a connection, which is opened for that if there is none. -/
def closeInbound (h : Host) (conn : Int32) : Outcome Host Unit :=
  let opened := h.inbound.openConn conn
  let inbound :=
    match opened.result with
    | .error _ => opened.state
    | .ok slot =>
      opened.state.setQueue slot ((opened.state.queue? slot).getD {}).close
  ⟨(), { h with inbound }, opened.journal⟩

/-- Has the server work off the inbound queue of a connection. -/
def run (h : Host) (conn : Int32) : Outcome Host Nat :=
  (Server.run h.backend h.server h.inbound h conn).mapState
    fun (server, inbound, h) => { h with server, inbound }

/-- Closes the inbound queue of a connection and has the server work it off. -/
def runToEnd (h : Host) (conn : Int32) : Outcome Host Nat :=
  if conn < 0 then h.run conn
  else
    let closed := h.closeInbound conn
    let ran := closed.state.run conn
    { ran with journal := closed.journal ++ ran.journal }

/-- Has the server stop its backend if a connection allows it. -/
def tryStop (h : Host) (conn : Int32) : Outcome Host (Except Fault Bool) :=
  h.server.tryStop h.backend h conn

/-- Has the server's backend forget the clipboard of a connection. -/
def empty (h : Host) (conn : Int32) : Outcome Host (Except Fault Bool) :=
  Server.empty h.backend h conn

/-! ## The inbound stream -/

/-- Delivers what was taken out of the stream, one thing after the other, and says what became of
each. -/
def deliverTaken (h : Host) (conn : Int32) :
    List PacketStream.Taken → Outcome Host (List (Except Fault Unit))
  | [] => ⟨[], h, []⟩
  | taken :: rest =>
    let first : Outcome Host (Except Fault Unit) :=
      match taken.result with
      | .error fault => ⟨.error fault, h, []⟩
      | .ok m => h.send .inbound conn m
    let later := first.state.deliverTaken conn rest
    ⟨first.result :: later.result, later.state,
      taken.journal ++ first.journal ++ later.journal⟩

/-- Takes in bytes from the other side and delivers the messages that are complete to a
connection. -/
def deliver (h : Host) (conn : Int32) (data : Bytes) :
    Outcome Host (List (Except Fault Unit)) :=
  let (taken, stream) := (h.stream.feed data).drain
  { h with stream }.deliverTaken conn taken

/-! ## The bridge -/

def init (h : Host) (settings : Settings) : Outcome Host (Except Fault Unit) :=
  (h.bridge.init h.levels settings).mapState fun (bridge, levels) => { h with bridge, levels }

/-- Shuts the bridge down, as it also is when the host ends. -/
def shutdown (h : Host) : Outcome Host Unit :=
  h.bridge.shutdown.mapState fun bridge => { h with bridge }

end Host

end RemoteClipboard
