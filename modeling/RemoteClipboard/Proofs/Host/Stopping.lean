import RemoteClipboard.Proofs.Host.Controls
import RemoteClipboard.Proofs.Server.Gate

/-! # Stopping for good

The shared files of a host are stopped by hand, or by the server where the exchange of the connection
that asks allows it.  No other command touches what says so (`gate_step`), and nothing takes it back,
so that a run has stopped the files exactly if one of its commands did (`stopped_after`).

Files that are stopped turn away every message before anything is looked at (`serve_of_stopped`).  The
server is not stopped with them: it goes on checking the order of messages, and hands on those that are
in order (`handle_of_stopped`). -/

namespace RemoteClipboard

/-! ## The order of messages -/

namespace Server

variable {σ : Type} {b : Backend σ} {s : Server} {state : σ} {conn : Int32}

/-- A message that is out of order does not get to the backend. -/
theorem handle_of_refused {m : Message} {fault : Fault}
    (refused : ((s.exchange conn).observe m).result = .error fault) :
    handle b s state conn m =
      ⟨.error fault, (s.setExchange conn ((s.exchange conn).observe m).state, state),
        ((s.exchange conn).observe m).journal ++
          [.line .protocol .warning ["conn ", conn, ": ", fault.message]]⟩ := by
  simp [handle, refused]

/-- A connection may stop the backend unless its exchange is at a point where it may not. -/
theorem canStop_iff (s : Server) (conn : Int32) :
    s.canStop conn = true ↔ ∀ x, s.exchanges[conn]? = some x → x.canStop = true := by
  rw [canStop, exchange, Std.HashMap.getD_eq_getD_getElem?]
  cases s.exchanges[conn]? with
  | none => simp
  | some x => simp

end Server

namespace Host

/-- Whether a command stops the shared files. -/
def Stops (h : Host) (c : Command) : Prop :=
  c = .stopShare ∨ ∃ conn, c = .tryStop conn ∧ (h.step c).result = .flag true

/-- The same host with files that are not stopped. -/
def running (h : Host) : Host := { h with share := { h.share with stopped := false } }

variable {h g : Host} {c : Command} {conn : Int32} {m : Message}

/-! ## Commands that leave the files running -/

/-- Whether the server's backend is the script, and whether the shared files are stopped. -/
def gate (h : Host) : Bool × Bool := (h.scripted, h.share.stopped)

/-- Only two commands can stop the shared files. -/
theorem gate_step (h : Host) (byHand : c ≠ .stopShare) (bySession : ∀ conn, c ≠ .tryStop conn) :
    (h.step c).state.gate = h.gate := by
  cases control : c.isControl with
  | false => exact congrArg (fun x => (x.scripted, x.stopped)) (controls_step h control)
  | true =>
    cases c with
    | init settings => rfl
    | shutdown => rfl
    | setLevels level => rfl
    | configure side settings => cases side <;> rfl
    | stopShare => exact absurd rfl byHand
    | tryStop conn => exact absurd rfl (bySession conn)
    | _ => cases control

/-! ## Commands that stop them -/

section

variable (sharing : h.scripted = false)
include sharing

theorem backend_of_sharing : h.backend = h.fileBackend := by
  simp [backend, sharing]

/-- The server stops the shared files if the connection allows it, and else does nothing. -/
theorem step_tryStop (conn : Int32) :
    (h.step (.tryStop conn)).result = .flag (h.server.canStop conn) ∧
      (h.step (.tryStop conn)).state =
        if h.server.canStop conn then { h with share := { h.share with stopped := true } }
        else h := by
  simp only [step, tryStop, backend_of_sharing sharing, Server.tryStop]
  cases h.server.canStop conn with
  | true => exact ⟨rfl, rfl⟩
  | false => exact ⟨rfl, rfl⟩

theorem stops_tryStop (conn : Int32) :
    h.Stops (.tryStop conn) ↔ h.server.canStop conn = true := by
  simp [Stops, (step_tryStop sharing conn).1]

theorem gate_step_iff (c : Command) :
    (h.step c).state.scripted = false ∧
      ((h.step c).state.share.stopped = true ↔ h.share.stopped = true ∨ h.Stops c) := by
  by_cases byHand : c = .stopShare
  · subst byHand
    exact ⟨sharing, by simp [Stops, step, Outcome.map, Outcome.mapState, fileBackend,
      Backend.within, FileShare.backend, FileShare.stop]⟩
  by_cases bySession : ∃ conn, c = .tryStop conn
  · obtain ⟨conn, rfl⟩ := bySession
    rw [stops_tryStop sharing, (step_tryStop sharing conn).2]
    cases h.server.canStop conn with
    | true => simp [sharing]
    | false => simp [sharing]
  · have others : ∀ conn, c ≠ .tryStop conn := fun conn same => bySession ⟨conn, same⟩
    have gate := gate_step h byHand others
    have running : ¬ h.Stops c := by
      rintro (same | ⟨conn, same, -⟩)
      · exact byHand same
      · exact others conn same
    simp only [Host.gate, Prod.mk.injEq] at gate
    simp [gate, sharing, running]

end

/-- The shared files are stopped once one of the commands stopped them, and from then on. -/
theorem stopped_after (sharing : h.scripted = false) (cs : List Command) :
    (h.after cs).scripted = false ∧
      ((h.after cs).share.stopped = true ↔ h.share.stopped = true ∨
        ∃ before c rest, cs = before ++ c :: rest ∧ (h.after before).Stops c) := by
  induction cs generalizing h with
  | nil => simp [after, sharing]
  | cons c cs ih =>
    obtain ⟨sharingNext, stopped⟩ := gate_step_iff sharing c
    obtain ⟨sharingLater, later⟩ := ih sharingNext
    refine ⟨sharingLater, ?_⟩
    rw [after, later, stopped, or_assoc]
    apply or_congr_right
    -- The command that stopped them is the first one or one of the others.
    constructor
    · rintro (first | ⟨before, c', rest, rfl, stops⟩)
      · exact ⟨[], c, cs, rfl, first⟩
      · exact ⟨c :: before, c', rest, rfl, stops⟩
    · rintro ⟨before, c', rest, split, stops⟩
      cases before with
      | nil =>
        obtain ⟨rfl, -⟩ := List.cons_eq_cons.mp split
        exact .inl stops
      | cons first before =>
        obtain ⟨rfl, rfl⟩ := List.cons_eq_cons.mp split
        exact .inr ⟨before, c', rest, rfl, stops⟩

/-! ## Files that are stopped -/

theorem serve_of_stopped (h : Host) (stopped : g.share.stopped = true) (conn : Int32)
    (m : Message) : h.fileBackend.serve g conn m = ⟨.error Fault.serviceStopped, g, []⟩ := by
  simp only [fileBackend, Backend.within, FileShare.backend, FileShare.serve, stopped, if_true]
  rfl

/-- A server whose files are stopped turns away what is out of order, as it always does, and file
messages; all that it changes is the exchange. -/
theorem handle_of_stopped (h : Host) (stopped : g.share.stopped = true) (s : Server)
    (conn : Int32) (m : Message) :
    let seen := (s.exchange conn).observe m
    let out := Server.handle h.fileBackend s g conn m
    out.state = (s.setExchange conn seen.state, g) ∧
      (seen.result = .ok () → m.kind = .fileContentsRequest ∨ m.kind = .fileContentsResponse →
        out.result = .error Fault.serviceStopped ∧ out.journal.events = []) ∧
      ∀ e ∈ out.journal.events, e = .message conn m := by
  intro seen out
  have silent : seen.journal.events = [] := Exchange.events_observe ..
  rw [← Message.isFile_iff]
  simp only [out, Server.handle, serve_of_stopped h stopped]
  cases verdict : seen.result with
  | error fault => simp [seen, silent]
  | ok =>
    cases file : m.isFile with
    | true => simp [seen, silent]
    | false => cases (s.setExchange conn seen.state).wantsMessages <;> simp [seen, silent]

theorem handleAll_of_stopped (h : Host) (stopped : g.share.stopped = true) (s : Server)
    (conn : Int32) (ms : List Message) :
    let out := Server.handleAll h.fileBackend s g conn ms
    out.state.2 = g ∧ ∀ other reply, .fileContents other reply ∉ out.journal.events := by
  induction ms generalizing s with
  | nil => simp [Server.handleAll]
  | cons m ms ih =>
    obtain ⟨state, -, told⟩ := handle_of_stopped h stopped s conn m
    obtain ⟨states, quiet⟩ := ih (s.setExchange conn ((s.exchange conn).observe m).state)
    simp only [Server.handleAll, state, Journal.events_append, List.mem_append, not_or]
    refine ⟨states, fun other reply => ⟨⟨?_, ?_⟩, quiet other reply⟩⟩
    · intro member
      cases told _ member
    · cases (Server.handle h.fileBackend s g conn m).result with
      | ok => simp
      | error fault => simp [Server.events_report]

theorem events_openConn (r : Registry) (conn : Int32) :
    (r.openConn conn).journal.events = [] := by
  unfold Registry.openConn
  split
  next => rfl
  next => split <;> rfl

/-- The loop neither answers nor hands on file data once the files are stopped. -/
theorem run_of_stopped (stopped : h.share.stopped = true) (sharing : h.scripted = false)
    (conn : Int32) :
    (h.run conn).state.bridge = h.bridge ∧
      ∀ other reply, .fileContents other reply ∉ (h.run conn).journal.events := by
  have silent := events_openConn h.inbound conn
  simp only [run, backend_of_sharing sharing, Server.run, Outcome.mapState]
  split
  next fault _ => simp [silent, Server.events_report]
  next slot _ =>
    obtain ⟨state, quiet⟩ := handleAll_of_stopped h stopped h.server conn
      (((h.inbound.openConn conn).state.queue? slot).getD {}).takeAll.1
    exact ⟨congrArg Host.bridge state, by simpa [silent] using quiet⟩

theorem runToEnd_of_stopped (stopped : h.share.stopped = true) (sharing : h.scripted = false)
    (conn : Int32) :
    (h.runToEnd conn).state.bridge = h.bridge ∧
      ∀ other reply, .fileContents other reply ∉ (h.runToEnd conn).journal.events := by
  unfold runToEnd
  split
  next => exact run_of_stopped stopped sharing conn
  next =>
    obtain ⟨bridge, quiet⟩ :=
      run_of_stopped (h := (h.closeInbound conn).state) stopped sharing conn
    refine ⟨bridge, ?_⟩
    intro other reply
    have silent : (h.closeInbound conn).journal.events = [] := events_openConn h.inbound conn
    simpa [silent] using quiet other reply

/-! ## Every run -/

/-- Whatever is done with a host that shares files: the server stops them exactly if the connection
that asks is new or at a point where it may, and else changes nothing; nothing but that and a stop by
hand stops them, and nothing starts them again.  From then on no message gets an answer or has its data
handed on, whether it comes by itself or through the server, while the server keeps the order of
messages as it would with files that are not stopped. -/
theorem stopped_for_good {h : Host} (sharing : h.scripted = false) (cs : List Command) :
    let later := h.after cs
    (∀ conn,
      ((later.step (.tryStop conn)).result = .flag true ↔
        ∀ x, later.server.exchanges[conn]? = some x → x.canStop = true) ∧
      ((later.step (.tryStop conn)).result = .flag true →
        (later.step (.tryStop conn)).state.share.stopped = true) ∧
      ((later.step (.tryStop conn)).result ≠ .flag true →
        (later.step (.tryStop conn)).result = .flag false ∧
          (later.step (.tryStop conn)).state = later)) ∧
    (later.share.stopped = true ↔ h.share.stopped = true ∨
      ∃ before c rest, cs = before ++ c :: rest ∧ (h.after before).Stops c) ∧
    (later.share.stopped = true →
      (∀ conn m, later.step (.serve conn m) = ⟨.refused Fault.serviceStopped, later, []⟩) ∧
      (∀ (s : Server) conn m,
        let seen := (s.exchange conn).observe m
        let out := Server.handle later.backend s later conn m
        let before := Server.handle later.running.backend s later.running conn m
        out.state = (s.setExchange conn seen.state, later) ∧
          (seen.result = .ok () → m.kind = .fileContentsRequest ∨ m.kind = .fileContentsResponse →
            out.result = .error Fault.serviceStopped ∧ out.journal.events = []) ∧
          (∀ fault, seen.result = .error fault →
            out.result = .error fault ∧ before.result = .error fault ∧
              out.journal = before.journal) ∧
          before.state.1 = out.state.1) ∧
      (∀ conn, (later.step (.run conn)).state.bridge = later.bridge ∧
        ∀ other reply, .fileContents other reply ∉ (later.step (.run conn)).journal.events) ∧
      ∀ conn, (later.step (.canStop conn)).result =
        (later.running.step (.canStop conn)).result) := by
  intro later
  obtain ⟨sharingLater, stoppedIff⟩ := stopped_after sharing cs
  refine ⟨?_, stoppedIff, ?_⟩
  · intro conn
    obtain ⟨result, state⟩ := step_tryStop sharingLater conn
    rw [result, state, ← Server.canStop_iff]
    cases later.server.canStop conn with
    | true => simp
    | false => simp [later]
  · intro stopped
    refine ⟨?_, ?_, fun conn => runToEnd_of_stopped stopped sharingLater conn, fun conn => rfl⟩
    · intro conn m
      rw [step, serve_of_stopped _ stopped]
      rfl
    · intro s conn m
      rw [backend_of_sharing sharingLater]
      obtain ⟨state, turned, -⟩ := handle_of_stopped later stopped s conn m
      refine ⟨state, turned, ?_, ?_⟩
      · intro fault refused
        rw [Server.handle_of_refused refused, Server.handle_of_refused refused]
        exact ⟨rfl, rfl, rfl⟩
      · rw [state, Server.server_handle]

/-! ## A stop that is put off -/

theorem exchange_handle (h : Host) (conn other : Int32) (m : Message) :
    (h.step (.handle conn m)).state.server.exchange other =
      if conn = other then ((h.server.exchange conn).observe m).state
      else h.server.exchange other := by
  change (Server.handle h.backend h.server h conn m).state.1.exchange other = _
  rw [Server.server_handle, Server.exchange_setExchange]

namespace Deferred

/-- File data is under way on connection 1. -/
def earlier : List Command :=
  [.handle 1 .monitorReady, .handle 1 Server.Three.data]

/-- Connection 2 has the files stopped, and connection 1 is offered some and starts anew. -/
def later : List Command :=
  earlier ++ [.tryStop 2, .offer 1 [[102]], .resetExchange 1, .handle 1 .monitorReady]

theorem exchange_earlier :
    (after {} earlier).server.exchange 1 = ⟨true, some .fileContentsResponse, false⟩ ∧
      (after {} earlier).server.exchange 2 = {} := by
  have fresh (conn : Int32) : Server.exchange {} conn = {} := by simp [Server.exchange]
  constructor
  · simp only [earlier, after, exchange_handle, fresh]
    rfl
  · simp only [earlier, after, exchange_handle, fresh]
    rfl

theorem started_later : ((after {} later).server.exchange 1).started = true := by
  have reset (h : Host) : (h.step (.resetExchange 1)).state.server.exchange 1 = {} := by
    simp [step, Server.exchange_resetExchange]
  simp only [later, earlier, List.cons_append, List.nil_append, after, exchange_handle, reset]
  rfl

end Deferred

/-- A stop is put off while file data is under way, and holds for the exchange that comes next. -/
theorem stopped_of_deferred :
    let earlier := after {} Deferred.earlier
    let later := after {} Deferred.later
    (earlier.step (.tryStop 1)).result = .flag false ∧
      (earlier.step (.tryStop 1)).state = earlier ∧
      (earlier.step (.tryStop 2)).result = .flag true ∧
      (earlier.step (.tryStop 2)).state.share.stopped = true ∧
      later.share.stopped = true ∧
      later.step (.serve 1 Server.Three.data) = ⟨.refused Fault.serviceStopped, later, []⟩ ∧
      (Server.handle later.backend later.server later 1 Server.Three.data).result =
        .error Fault.serviceStopped := by
  intro earlier later
  obtain ⟨one, two⟩ := Deferred.exchange_earlier
  have sharing : ({} : Host).scripted = false := rfl
  obtain ⟨gate, -, -⟩ := stopped_for_good sharing Deferred.earlier
  obtain ⟨-, stoppedIff, since⟩ := stopped_for_good sharing Deferred.later
  have allowed : (earlier.step (.tryStop 2)).result = .flag true :=
    ((gate 2).1.mpr ((Server.canStop_iff _ 2).mp (by rw [Server.canStop, two])))
  have deferred : (earlier.step (.tryStop 1)).result ≠ .flag true := by
    intro stops
    have may := (Server.canStop_iff _ 1).mpr ((gate 1).1.mp stops)
    rw [Server.canStop, one] at may
    cases may
  have stopped : later.share.stopped = true :=
    stoppedIff.mpr (.inr ⟨Deferred.earlier, .tryStop 2, _, rfl, .inr ⟨2, rfl, allowed⟩⟩)
  obtain ⟨serve, handle, -⟩ := since stopped
  have accepted : ((later.server.exchange 1).observe Server.Three.data).result = .ok () :=
    (Exchange.observe_file _ rfl).mpr Deferred.started_later
  exact ⟨((gate 1).2.2 deferred).1, ((gate 1).2.2 deferred).2, allowed, (gate 2).2.1 allowed,
    stopped, serve 1 _, ((handle later.server 1 _).2.1 accepted (.inr rfl)).1⟩

end Host

end RemoteClipboard
