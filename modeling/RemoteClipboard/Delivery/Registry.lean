import RemoteClipboard.Journal
import RemoteClipboard.Delivery.Queue
import Std.Data.HashMap

/-! # The registry of connections

A `Registry` keeps one queue per connection.  A connection is found by its number, and by the name
of its peer if it was opened by name.  Entries are only ever added, at the end; the place of an
entry, its *slot*, names its queue for as long as the registry lives.  Two indexes lead from names
and from numbers to slots.

Connections opened by name get the next number that is free: the allocator never gives a number
twice, and numbers that were opened as such are skipped. -/

namespace RemoteClipboard

/-- A source of connection numbers: 1, 2, 3 and so on. -/
structure IdAllocator where
  last : Int32 := 0
  deriving DecidableEq

namespace IdAllocator

def next (a : IdAllocator) : Int32 × IdAllocator := (a.last + 1, ⟨a.last + 1⟩)

/-- The last of the next `n` numbers, or zero if `n` is. -/
def nextOf (a : IdAllocator) (n : Nat) : Int32 × IdAllocator :=
  n.fold (fun _ _ (_, a) => a.next) (0, a)

/-- The next number that is not in use, skipping at most `tries` of them. -/
def nextFree (inUse : Int32 → Bool) : Nat → IdAllocator → Int32 × IdAllocator
  | 0, a => a.next
  | tries + 1, a => if inUse a.next.1 then nextFree inUse tries a.next.2 else a.next

end IdAllocator

/-- One connection: the peer it was opened for, if it was opened by name, its number and its
queue. -/
structure Registry.Entry where
  peer : Option Bytes
  conn : Int32
  queue : Queue Message := {}
  deriving DecidableEq

/-- The connections, in the order in which they were opened, and the indexes that find them. -/
structure Registry where
  entries : Array Registry.Entry := #[]
  byPeer : Std.HashMap Bytes Nat := {}
  byConn : Std.HashMap Int32 Nat := {}
  ids : IdAllocator := {}

namespace Registry

/-! ## Finding connections -/

/-- The slot and the entry of a peer. -/
def findPeer? (r : Registry) (peer : Bytes) : Option (Nat × Entry) := do
  let slot ← r.byPeer[peer]?
  let entry ← r.entries[slot]?
  return (slot, entry)

/-- The slot and the entry of a number. -/
def findConn? (r : Registry) (conn : Int32) : Option (Nat × Entry) := do
  let slot ← r.byConn[conn]?
  let entry ← r.entries[slot]?
  return (slot, entry)

/-- The number of the connection that was opened for a peer. -/
def connOf? (r : Registry) (peer : Bytes) : Option Int32 := (r.findPeer? peer).map (·.2.conn)

def size (r : Registry) : Nat := r.entries.size

/-! ## Opening connections -/

/-- Adds an entry with an open, empty queue, and returns its slot. -/
def add (r : Registry) (peer : Option Bytes) (conn : Int32) : Nat × Registry :=
  let slot := r.entries.size
  (slot, { r with
    entries := r.entries.push { peer, conn }
    byPeer := match peer with
      | some peer => r.byPeer.insertIfNew peer slot
      | none => r.byPeer
    byConn := r.byConn.insertIfNew conn slot })

/-- The number and the slot of a peer's connection, which is opened if there is none.  The empty
name is a name like any other. -/
def openPeer (r : Registry) (peer : Bytes) : Outcome Registry (Int32 × Nat) :=
  match r.findPeer? peer with
  | some (slot, entry) => ⟨(entry.conn, slot), r, []⟩
  | none =>
    let (conn, ids) := r.ids.nextFree (fun id => (r.findConn? id).isSome) r.entries.size
    let (slot, r) := { r with ids }.add (some peer) conn
    ⟨(conn, slot), r,
      [.line .registry .info ["registered conn ", conn, " for peer '", peer, "'"]]⟩

/-- The slot of the connection with a number, which is opened if there is none.  Zero is a number
like any other; negative numbers are refused. -/
def openConn (r : Registry) (conn : Int32) : Outcome Registry (Except Fault Nat) :=
  if conn < 0 then
    ⟨.error (Fault.negativeConnection conn), r,
      [.line .registry .warning ["rejected negative conn id ", conn]]⟩
  else
    match r.findConn? conn with
    | some (slot, _) => ⟨.ok slot, r, []⟩
    | none =>
      let (slot, r) := r.add none conn
      ⟨.ok slot, r, [.line .registry .info ["registered server conn ", conn]]⟩

/-! ## Queues -/

def queue? (r : Registry) (slot : Nat) : Option (Queue Message) := r.entries[slot]?.map (·.queue)

def setQueue (r : Registry) (slot : Nat) (queue : Queue Message) : Registry :=
  { r with entries := r.entries.modify slot ({ · with queue }) }

def closeAll (r : Registry) : Registry :=
  { r with entries := r.entries.map (fun e => { e with queue := e.queue.close }) }

/-- Puts a message into the queue of a connection and says whether the queue took it, if there is
such a connection. -/
def push? (r : Registry) (conn : Int32) (m : Message) : Option (Bool × Registry) := do
  let (slot, entry) ← r.findConn? conn
  let (taken, queue) := entry.queue.push m
  return (taken, r.setQueue slot queue)

end Registry

end RemoteClipboard
