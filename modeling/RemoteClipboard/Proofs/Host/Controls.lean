import RemoteClipboard.Host.Command

/-! # The controls of a host

Few commands decide about those that come after them: whether the bridge is in use and with which
settings, whom connection 0 stands for, what reaches the log, and whether files are served.  That is
kept in the `Controls` of a host, and no other command touches them (`controls_step`).

Most commands only move messages, and the whole host is as before but for the messages and those who
wait for them (`still_step`). -/

namespace RemoteClipboard

/-! ## What a backend keeps -/

namespace Server

variable {σ : Type} {b : Backend σ} {s : Server} {state : σ} {conn : Int32} {P : σ → Prop}

theorem handle_keeps (serves : ∀ state m, P state → P (b.serve state conn m).state)
    (holds : P state) (m : Message) : P (handle b s state conn m).state.2 := by
  unfold handle
  dsimp only
  split
  next => exact holds
  next =>
    split
    next => exact serves state m holds
    next => exact holds

theorem handleAll_keeps (serves : ∀ state m, P state → P (b.serve state conn m).state)
    (holds : P state) (ms : List Message) : P (handleAll b s state conn ms).state.2 := by
  induction ms generalizing s state with
  | nil => exact holds
  | cons m ms ih => exact ih (handle_keeps serves holds m)

/-- What each message that is served keeps is kept by the loop. -/
theorem run_keeps {inbound : Registry}
    (serves : ∀ state m, P state → P (b.serve state conn m).state) (holds : P state) :
    P (run b s inbound state conn).state.2.2 := by
  unfold run
  dsimp only
  split
  next => exact holds
  next => exact handleAll_keeps serves holds _

end Server

namespace Host

def after (h : Host) : List Command → Host
  | [] => h
  | c :: cs => (h.step c).state.after cs

/-- What commands decide about those that come after them. -/
structure Controls where
  initialized : Bool
  settings : Settings
  /-- The routing of the bridge's dispatcher. -/
  routing : Routing
  levels : Log.Levels
  /-- Whether the server's backend is the script. -/
  scripted : Bool
  /-- Whether the shared files are stopped. -/
  stopped : Bool

def controls (h : Host) : Controls :=
  ⟨h.bridge.initialized, h.bridge.settings, h.bridge.routing, h.levels, h.scripted,
    h.share.stopped⟩

/-- Whether a command may change the controls. -/
def Command.isControl : Command → Bool
  | .init _ | .shutdown | .setLevels _ | .configure .. | .stopShare | .tryStop _ => true
  | _ => false

/-! ## Traffic -/

/-- A host apart from what passes through it: without connections and messages, and with a server that
has not heard of any. -/
def still (h : Host) : Host :=
  { h with
    bridge := { h.bridge with registry := {} }
    inbound := {}
    stream := {}
    server := {}
    receivers := #[] }

/-- Whether a command opens connections, moves messages, or only asks for something. -/
def Command.isTraffic : Command → Bool
  | .init _ | .shutdown | .setLevels _ | .configure .. | .offer .. | .stopShare | .withdraw _
  | .putFile .. | .removeFile _ | .tryStop _ | .empty _ | .observe .. | .setScript _ => false
  | _ => true

variable {c : Command}

theorem still_setRegistry (h : Host) (side : Side) (r : Registry) :
    (h.setRegistry side r).still = h.still := by
  cases side <;> rfl

theorem still_receive (h : Host) (side : Side) (slot : Nat) :
    (h.receive side slot).2.still = h.still := by
  unfold receive
  split <;> rfl

theorem still_setQueue (h : Host) (rx : Nat) (q : Queue Message) :
    (h.setQueue rx q).still = h.still := by
  unfold setQueue
  split
  next => rfl
  next => exact still_setRegistry ..

theorem still_openConn (h : Host) (side : Side) (conn : Int32) :
    (h.openConn side conn).state.still = h.still := by
  unfold openConn
  dsimp only
  split
  next => exact still_setRegistry ..
  next => exact (still_receive ..).trans (still_setRegistry ..)

theorem still_deliverTaken (h : Host) (conn : Int32) (taken : List PacketStream.Taken) :
    (h.deliverTaken conn taken).state.still = h.still := by
  induction taken generalizing h with
  | nil => rfl
  | cons first taken ih =>
    refine (ih _).trans ?_
    cases first.result with
    | error fault => rfl
    | ok m => exact still_setRegistry h .inbound _

theorem still_serve (h g : Host) (conn : Int32) (m : Message) :
    (h.backend.serve g conn m).state.still = g.still := by
  unfold backend
  split <;> rfl

theorem still_run (h : Host) (conn : Int32) : (h.run conn).state.still = h.still := by
  have kept : (Server.run h.backend h.server h.inbound h conn).state.2.2.still = h.still :=
    Server.run_keeps (P := fun g => g.still = h.still)
      (fun g m same => (still_serve h g conn m).trans same) rfl
  exact kept

theorem still_runToEnd (h : Host) (conn : Int32) :
    (h.runToEnd conn).state.still = h.still := by
  unfold runToEnd
  split
  next => exact still_run ..
  next => exact still_run ..

/-- Traffic changes nothing but what passes through. -/
theorem still_step (h : Host) (traffic : c.isTraffic = true) :
    (h.step c).state.still = h.still := by
  cases c with
  | openPeer side peer => exact (still_receive ..).trans (still_setRegistry ..)
  | openConn side conn => exact still_openConn h side conn
  | push side conn m =>
    simp only [step]
    split
    next => rfl
    next => exact still_setRegistry ..
  | receiver rx take =>
    simp only [step]
    split
    next => rfl
    next => exact still_setQueue ..
  | send side conn m => exact still_setRegistry ..
  | broadcast side m => exact still_setRegistry ..
  | handle conn m =>
    exact Server.handle_keeps (P := fun g => g.still = h.still)
      (fun g m same => (still_serve h g conn m).trans same) rfl m
  | run conn => exact still_runToEnd h conn
  | deliver conn data => exact still_deliverTaken ..
  | isInitialized | settings | levels | lookup | size | broadcastSupported | offered | serve
  | canStop | resetExchange => rfl
  | _ => cases traffic

/-! ## Commands that are no traffic -/

theorem state_stop (h g : Host) :
    (h.backend.stop g).state = g ∨
      (h.backend.stop g).state = { g with share := { g.share with stopped := true } } := by
  unfold backend
  split
  next => exact .inl rfl
  next => exact .inr rfl

/-- The server stops the shared files, or it changes nothing. -/
theorem state_tryStop (h : Host) (conn : Int32) :
    (h.step (.tryStop conn)).state = h ∨
      (h.step (.tryStop conn)).state = { h with share := { h.share with stopped := true } } := by
  simp only [step, tryStop, Server.tryStop]
  cases h.server.canStop conn with
  | false => exact .inl rfl
  | true => exact state_stop h h

theorem controls_empty (h : Host) (conn : Int32) :
    (h.empty conn).state.controls = h.controls := by
  unfold empty Server.empty backend
  split <;> rfl

/-- Most commands leave the controls alone. -/
theorem controls_step (h : Host) (other : c.isControl = false) :
    (h.step c).state.controls = h.controls := by
  cases traffic : c.isTraffic with
  | true =>
    have same : (h.step c).state.still.controls = h.still.controls :=
      congrArg controls (still_step h traffic)
    exact same
  | false =>
    cases c with
    | offer | withdraw | putFile | removeFile | setScript => rfl
    | empty conn => exact controls_empty h conn
    | observe who on => cases who <;> rfl
    | init | shutdown | setLevels | configure | stopShare | tryStop => cases other
    | _ => cases traffic

end Host

end RemoteClipboard
