import RemoteClipboard.Host

/-! # Commands to a host

All that callers can do to a `Host` is a `Command`, and what they get back is a `Reply`.
`Host.step` carries out one command; `Host.observe` also shows what reaches the log, after the
filter of the levels that hold when the command is done. -/

namespace RemoteClipboard

namespace Host

inductive Observer
  | messages
  | faults
  | contents
  deriving DecidableEq

/-- What is done to the queue behind a receiver. -/
inductive Take
  /-- Takes a message and insists on one. -/
  | wait
  /-- Takes a message if there is one. -/
  | one
  /-- Takes all messages. -/
  | all
  /-- Takes all messages, as packets. -/
  | packets
  | close
  | count
  | isClosed
  deriving DecidableEq

inductive Command
  -- the bridge and the levels
  | init (settings : Settings)
  | shutdown
  | isInitialized
  | settings
  | levels
  | setLevels (level : Log.Level)
  -- registries
  | openPeer (side : Side) (peer : Bytes)
  | openConn (side : Side) (conn : Int32)
  | lookup (side : Side) (peer : Bytes)
  | size (side : Side)
  | push (side : Side) (conn : Int32) (m : Message)
  -- receivers
  | receiver (rx : Nat) (take : Take)
  -- delivery
  | send (side : Side) (conn : Int32) (m : Message)
  | broadcast (side : Side) (m : Message)
  | configure (side : Side) (settings : Settings)
  | broadcastSupported (side : Side)
  -- shared files
  | offer (conn : Int32) (paths : List Bytes)
  | offered (conn : Int32)
  | stopShare
  | withdraw (conn : Int32)
  | serve (conn : Int32) (m : Message)
  | putFile (path : Bytes) (node : FileTree.Node)
  | removeFile (path : Bytes)
  -- the server
  | handle (conn : Int32) (m : Message)
  | run (conn : Int32)
  | tryStop (conn : Int32)
  | canStop (conn : Int32)
  | empty (conn : Int32)
  | resetExchange (conn : Int32)
  | observe (who : Observer) (on : Bool)
  | setScript (change : Script → Script)
  -- the inbound stream
  | deliver (conn : Int32) (data : Bytes)

inductive Reply
  | done
  | refused (fault : Fault)
  | flag (b : Bool)
  | count (n : Nat)
  | number (conn : Option Int32)
  | opened (conn : Option Int32) (rx : Nat)
  | noChannel
  | noReceiver
  | wouldBlock
  | message (m : Option Message)
  | messages (ms : List Message)
  | packets (ps : List Bytes)
  | paths (ps : List Bytes)
  | settings (s : Settings)
  | levels (ls : Log.Levels)
  | delivered (rs : List (Except Fault Unit))

namespace Reply

/-- The reply to something that succeeds without more to say. -/
def ofUnit : Except Fault Unit → Reply
  | .ok () => done
  | .error fault => refused fault

/-- The reply to something that succeeds with yes or no. -/
def ofFlag : Except Fault Bool → Reply
  | .ok b => flag b
  | .error fault => refused fault

/-- The reply to something that succeeds with a receiver. -/
def ofReceiver : Except Fault Nat → Reply
  | .ok rx => opened none rx
  | .error fault => refused fault

end Reply

/-- Does something to a queue, which is then as returned. -/
def Take.apply (q : Queue Message) : Take → Reply × Queue Message
  | wait =>
    if q.wouldBlock then (.wouldBlock, q)
    else
      let (m, q) := q.take
      (.message m, q)
  | one =>
    let (m, q) := q.take
    (.message m, q)
  | all =>
    let (ms, q) := q.takeAll
    (.messages ms, q)
  | packets =>
    let (ms, q) := q.takeAll
    (.packets (ms.map Message.packet), q)
  | close => (.done, q.close)
  | count => (.count q.size, q)
  | isClosed => (.flag q.closed, q)

/-- Registers or removes an observer. -/
def setObserver (h : Host) (on : Bool) : Observer → Host
  | .messages => { h with server := { h.server with wantsMessages := on } }
  | .faults => { h with server := { h.server with wantsFaults := on } }
  | .contents => { h with share := { h.share with wantsContents := on } }

def step (h : Host) : Command → Outcome Host Reply
  | .init settings => (h.init settings).map .ofUnit
  | .shutdown => h.shutdown.map fun () => .done
  | .isInitialized => ⟨.flag h.bridge.initialized, h, []⟩
  | .settings => ⟨.settings h.bridge.settings, h, []⟩
  | .levels => ⟨.levels h.levels, h, []⟩
  | .setLevels level => ⟨.done, { h with levels := Log.Levels.uniform level }, []⟩
  | .openPeer side peer => (h.openPeer side peer).map fun (conn, rx) => .opened (some conn) rx
  | .openConn side conn => (h.openConn side conn).map .ofReceiver
  | .lookup side peer => ⟨.number ((h.registry side).connOf? peer), h, []⟩
  | .size side => ⟨.count (h.registry side).size, h, []⟩
  | .push side conn m =>
    match (h.registry side).push? conn m with
    | none => ⟨.noChannel, h, []⟩
    | some (taken, registry) => ⟨.flag taken, h.setRegistry side registry, []⟩
  | .receiver rx take =>
    match h.queue? rx with
    | none => ⟨.noReceiver, h, []⟩
    | some queue =>
      let (reply, queue) := take.apply queue
      ⟨reply, h.setQueue rx queue, []⟩
  | .send side conn m => (h.send side conn m).map .ofUnit
  | .broadcast side m =>
    (((h.registry side).broadcast m).mapState (h.setRegistry side)).map .count
  | .configure side settings => ⟨.done, h.setRouting side (Routing.ofSettings settings), []⟩
  | .broadcastSupported side => ⟨.flag (h.routing side).broadcast, h, []⟩
  | .offer conn paths =>
    ((h.share.offer conn paths).mapState fun share => { h with share }).map fun () => .done
  | .offered conn => ⟨.paths (h.share.offered conn), h, []⟩
  | .stopShare => (h.fileBackend.stop h).map .ofUnit
  | .withdraw conn => (h.fileBackend.empty h conn).map .ofFlag
  | .serve conn m => (h.fileBackend.serve h conn m).map .ofUnit
  | .putFile path node => ⟨.done, { h with disk := h.disk.put path node }, []⟩
  | .removeFile path => ⟨.done, { h with disk := h.disk.remove path }, []⟩
  | .handle conn m => (h.handle conn m).map .ofUnit
  | .run conn => (h.runToEnd conn).map .count
  | .tryStop conn => (h.tryStop conn).map .ofFlag
  | .canStop conn => ⟨.flag (h.server.canStop conn), h, []⟩
  | .empty conn => (h.empty conn).map .ofFlag
  | .resetExchange conn => ⟨.done, { h with server := h.server.resetExchange conn }, []⟩
  | .observe who on => ⟨.done, h.setObserver on who, []⟩
  | .setScript change => ⟨.done, { h with script := change h.script }, []⟩
  | .deliver conn data => (h.deliver conn data).map .delivered

/-- What can be seen of a command: its reply, the log lines that were let through, and the
events. -/
structure Sight where
  reply : Reply
  records : List Log.Record
  events : List Event

/-- Carries out a command and shows what can be seen of it. -/
def observe (h : Host) (c : Command) : Sight × Host :=
  let out := h.step c
  (⟨out.result, out.journal.records out.state.levels, out.journal.events⟩, out.state)

end Host

end RemoteClipboard
