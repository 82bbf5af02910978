import RemoteClipboard.Proofs.Delivery.Arrival

/-! # What the loop of a server does

The loop is no more than calls of `handle`, one for each message that waits, and each call that
fails is reported right after it (`handleAll_eq_handleEach`).  With what is known of the way to the
queue, this reaches from the wire to the handler: messages whose packets arrive in pieces are
handled as if the server were called with them (`run_of_packets`). -/

namespace RemoteClipboard

namespace Server

variable {σ : Type} (b : Backend σ)

/-! ## Calls of a server -/

/-- What one call of a server ends with, and what observers hear of it. -/
structure Handled where
  result : Except Fault Unit
  events : List Event
  deriving DecidableEq

/-- Calls a server with messages of a connection, one after the other. -/
def handleEach (s : Server) (state : σ) (conn : Int32) :
    List Message → Outcome (Server × σ) (List Handled)
  | [] => ⟨[], (s, state), []⟩
  | m :: rest =>
    let first := handle b s state conn m
    let later := handleEach first.state.1 first.state.2 conn rest
    ⟨⟨first.result, first.journal.events⟩ :: later.result, later.state,
      first.journal ++ later.journal⟩

/-- What observers hear of a call that the loop made: a fault is reported if someone wants it. -/
def heard (s : Server) (conn : Int32) (call : Handled) : List Event :=
  match call.result with
  | .ok () => call.events
  | .error fault => call.events ++ if s.wantsFaults then [.fault conn fault] else []

theorem wantsFaults_handle (s : Server) (state : σ) (conn : Int32) (m : Message) :
    (handle b s state conn m).state.1.wantsFaults = s.wantsFaults := by
  unfold handle
  dsimp only
  split
  next => rfl
  next => split <;> rfl

/-! ## The loop -/

theorem events_report (s : Server) (conn : Int32) (fault : Fault) :
    (s.report conn fault).events = if s.wantsFaults then [.fault conn fault] else [] := by
  unfold report
  split <;> rfl

/-- The loop calls the server with one message after the other. -/
theorem handleAll_eq_handleEach (s : Server) (state : σ) (conn : Int32) (ms : List Message) :
    (handleAll b s state conn ms).state = (handleEach b s state conn ms).state ∧
      (handleAll b s state conn ms).journal.events =
        (handleEach b s state conn ms).result.flatMap (s.heard conn) := by
  induction ms generalizing s state with
  | nil => exact ⟨rfl, rfl⟩
  | cons m ms ih =>
    -- The calls that follow are made to another server, but the same faults are wanted.
    have wants := wantsFaults_handle b s state conn m
    obtain ⟨states, events⟩ :=
      ih (handle b s state conn m).state.1 (handle b s state conn m).state.2
    refine ⟨states, ?_⟩
    have same : heard (handle b s state conn m).state.1 conn = s.heard conn := by
      funext call
      rw [heard, heard, wants]
    simp only [handleAll, handleEach, List.flatMap_cons, Journal.events_append, events, same, heard]
    cases (handle b s state conn m).result with
    | ok => simp
    | error fault => simp [events_report]

theorem run_of_queue (s : Server) {inbound : Registry} (state : σ) {conn : Int32}
    {waiting : List Message} {closed : Bool} (nonnegative : 0 ≤ conn)
    (holds : inbound.queueOf? conn = some ⟨waiting, closed⟩) :
    let ran := run b s inbound state conn
    let handled := handleAll b s state conn waiting
    ran.result = waiting.length ∧ ran.state.2.1.queueOf? conn = some ⟨[], closed⟩ ∧
      ran.state.1 = handled.state.1 ∧ ran.state.2.2 = handled.state.2 ∧
      ran.journal.events = handled.journal.events := by
  obtain ⟨slot, entry, found, queue⟩ := Registry.exists_of_queueOf? holds
  have held := Registry.queue?_of_findConn? found
  have emptied := Registry.queueOf?_setQueue (q := ⟨[], closed⟩) found
  simp only [run, Registry.openConn_of_findConn? nonnegative found, held, Option.getD_some,
    Queue.takeAll, queue, true_and]
  exact ⟨emptied, by simp⟩

end Server

/-! ## From the wire to the handler -/

theorem Host.closeInbound_of_queue {h : Host} {conn : Int32} {q : Queue Message}
    (nonnegative : 0 ≤ conn) (holds : h.inbound.queueOf? conn = some q) :
    (h.closeInbound conn).state.inbound.queueOf? conn = some q.close ∧
      (h.closeInbound conn).journal = [] := by
  obtain ⟨slot, entry, found, rfl⟩ := Registry.exists_of_queueOf? holds
  have held := Registry.queue?_of_findConn? found
  simp only [closeInbound, Registry.openConn_of_findConn? nonnegative found, held,
    Option.getD_some, and_true]
  exact Registry.queueOf?_setQueue found

namespace Server

/-- From the wire to the handler nothing is lost, doubled or put in another order: messages that
keep to the limits, whose packets arrive cut anywhere, are all delivered, and once the queue is
closed the loop handles them as if the server were called with one after the other.  Observers hear
what the calls tell, and each fault, if someone wants them, right after the call that it ended. -/
theorem run_of_packets {σ : Type} (b : Backend σ) (s : Server) (state : σ) (h : Host) {conn : Int32}
    {ms : List Message} {chunks : List Bytes} (positive : 0 < conn)
    (fits : ∀ m ∈ ms, m.Fits h.stream.limits) (fresh : h.stream.unread = [])
    (cut : chunks.flatten = ms.flatMap Message.packet)
    (isOpen : h.inbound.queueOf? conn = some {}) :
    let delivered := h.deliverAll conn chunks
    let closed := delivered.state.closeInbound conn
    let ran := run b s closed.state.inbound state conn
    let calls := handleEach b s state conn ms
    delivered.result = List.replicate ms.length (.ok ()) ∧
      ran.result = ms.length ∧ ran.state.2.1.queueOf? conn = some ⟨[], true⟩ ∧
      ran.state.1 = calls.state.1 ∧ ran.state.2.2 = calls.state.2 ∧
      (delivered.journal ++ closed.journal ++ ran.journal).events =
        calls.result.flatMap (s.heard conn) := by
  intro delivered closed ran calls
  have directed : conn ≠ 0 := (Int32.ne_of_lt positive).symm
  have nonnegative : 0 ≤ conn := Int32.le_of_lt positive
  have owes : h.stream.Owes chunks.flatten ms := ⟨by rw [fresh, List.nil_append, cut], fits⟩
  have isOpen : h.inbound.queueOf? conn = some ⟨[], false⟩ := isOpen
  obtain ⟨results, arrived⟩ := Host.deliverAll_of_owes directed owes
    (PacketStream.hasPacket_of_unread_eq_nil fresh) isOpen
  obtain ⟨holds, silent⟩ := Host.closeInbound_of_queue nonnegative arrived
  obtain ⟨count, emptied, server, served, events⟩ := run_of_queue b s state nonnegative holds
  obtain ⟨states, heard⟩ := handleAll_eq_handleEach b s state conn ms
  refine ⟨results, count, emptied, ?_, ?_, ?_⟩
  · exact server.trans (congrArg Prod.fst states)
  · exact served.trans (congrArg Prod.snd states)
  · rw [Journal.events_append, Journal.events_append, Host.events_deliverAll, silent]
    exact events.trans heard

/-! ## Three messages -/

namespace Three

/-- A host at which connection 5 waits for what arrives. -/
def host : Host := { inbound := (({} : Registry).add none 5).2 }

def script : Script := { serve := some Fault.serviceStopped }

/-- A server that everyone listens to. -/
def server : Server := { wantsMessages := true, wantsFaults := true }

/-- File data that nobody serves. -/
def data : Message := .fileContentsResponse ⟨1, 9, [7]⟩

def messages : List Message := [.monitorReady, data, .formatListResponse 1]

/-- The packets of the messages, cut inside the first header and inside the last message. -/
def chunks : List Bytes :=
  let bytes := messages.flatMap Message.packet
  [bytes.take 5, [], (bytes.drop 5).take 110, (bytes.drop 5).drop 110]

theorem fits_messages : ∀ m ∈ messages, m.Fits host.stream.limits := by
  simp only [messages, List.forall_mem_cons]
  exact ⟨⟨by decide, nofun⟩, ⟨by decide, nofun⟩, ⟨by decide, nofun⟩, nofun⟩

theorem flatten_chunks : chunks.flatten = messages.flatMap Message.packet := by
  simp only [chunks, List.flatten_cons, List.flatten_nil, List.nil_append, List.append_nil,
    List.take_append_drop]

theorem queueOf?_host : host.inbound.queueOf? 5 = some {} :=
  Registry.queueOf?_add none (by simp)

/-- Called with the three messages, the server turns none of them away. -/
theorem handleEach_messages :
    (handleEach Script.backend server script 5 messages).result =
      [⟨.ok (), [.message 5 .monitorReady]⟩,
        ⟨.error Fault.serviceStopped, [.scriptServed 5 data]⟩,
        ⟨.ok (), [.message 5 (.formatListResponse 1)]⟩] := by
  simp [handleEach, handle, messages, data, server, script, exchange, setExchange,
    Exchange.observe, Script.backend, Script.answer, Message.kind, Message.isBeginning,
    Message.isFile, Message.Kind.isBeginning, Message.Kind.isFile]

end Three

/-- Three messages arrive in four pieces.  The second fails, which is reported before the third is
handled. -/
theorem run_of_three_packets :
    let delivered := Three.host.deliverAll 5 Three.chunks
    let closed := delivered.state.closeInbound 5
    let ran := run Script.backend Three.server closed.state.inbound Three.script 5
    delivered.result = [.ok (), .ok (), .ok ()] ∧ ran.result = 3 ∧
      ran.state.2.1.queueOf? 5 = some ⟨[], true⟩ ∧
      (delivered.journal ++ closed.journal ++ ran.journal).events =
        [.message 5 .monitorReady, .scriptServed 5 Three.data, .fault 5 Fault.serviceStopped,
          .message 5 (.formatListResponse 1)] := by
  obtain ⟨results, count, emptied, -, -, events⟩ :=
    run_of_packets Script.backend Three.server Three.script Three.host (by decide)
      Three.fits_messages rfl Three.flatten_chunks Three.queueOf?_host
  rw [Three.handleEach_messages] at events
  exact ⟨results, count, emptied, events⟩

end Server

end RemoteClipboard
