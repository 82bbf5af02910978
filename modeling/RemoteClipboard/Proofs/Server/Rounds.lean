import RemoteClipboard.Proofs.Delivery.Runs
import RemoteClipboard.Proofs.Server.Gate
import RemoteClipboard.Proofs.Server.Ways

/-! # The loop, one message at a time

A server takes the messages of a queue one after the other, and is done when it is told that there
will be no more.  `Loop.EndsIn` says so round by round, and nothing about how many rounds there are.
Over a queue that is closed the loop comes to its end after one round for each message, in the one
state that `run` gives (`endsIn_run`).  A message that fails takes a round like any other. -/

namespace RemoteClipboard

namespace Server

variable {σ : Type}

/-! ## Rounds -/

/-- Where the loop over a queue stands: what it works on, how many messages it has handled, and what
observers have heard. -/
structure Loop (σ : Type) where
  server : Server
  inbound : Registry
  state : σ
  count : Nat := 0
  heard : List Event := []

namespace Loop

/-- What the loop gets from its queue, where it has to wait for something. -/
def receive (l : Loop σ) (slot : Nat) : Outcome Registry Host.Reply :=
  l.inbound.step (.receiver slot .wait)

/-- The loop after a round: the message was handled, and what went wrong was reported. -/
def next (b : Backend σ) (conn : Int32) (slot : Nat) (l : Loop σ) (m : Message) : Loop σ :=
  let handled := handle b l.server l.state conn m
  let reported : Journal :=
    match handled.result with
    | .error fault => handled.state.1.report conn fault
    | .ok () => []
  { server := handled.state.1
    inbound := (l.receive slot).state
    state := handled.state.2
    count := l.count + 1
    heard := l.heard ++ (handled.journal ++ reported).events }

/-- The loop goes round as long as it gets a message, and ends where it is told that there is none.
Where it waits for ever it has no end. -/
inductive EndsIn (b : Backend σ) (conn : Int32) (slot : Nat) : Loop σ → Loop σ → Prop
  | done {l : Loop σ} : (l.receive slot).result = .message none →
      EndsIn b conn slot l { l with inbound := (l.receive slot).state }
  | round {l last : Loop σ} {m : Message} : (l.receive slot).result = .message (some m) →
      EndsIn b conn slot (l.next b conn slot m) last → EndsIn b conn slot l last

variable {b : Backend σ} {conn : Int32} {slot : Nat} {l last other : Loop σ}

theorem EndsIn.unique (one : EndsIn b conn slot l last) (two : EndsIn b conn slot l other) :
    last = other := by
  induction one with
  | done none =>
    cases two with
    | done => rfl
    | round some => cases none.symm.trans some
  | round some _ ih =>
    cases two with
    | done none => cases none.symm.trans some
    | round some' rest =>
      cases some.symm.trans some'
      exact ih rest

theorem receive_of_closed {ms : List Message} (holds : l.inbound.queue? slot = some ⟨ms, true⟩) :
    (l.receive slot).result = .message ms.head? ∧
      (l.receive slot).state = l.inbound.setQueue slot ⟨ms.tail, true⟩ := by
  simp [receive, Registry.step, holds, Host.Take.apply, Queue.wouldBlock, Queue.take_eq]

theorem report_handle (b : Backend σ) (s : Server) (state : σ) (conn : Int32) (m : Message)
    (fault : Fault) :
    (handle b s state conn m).state.1.report conn fault = s.report conn fault := by
  simp only [report, wantsFaults_handle]

theorem endsIn_of_closed {ms : List Message}
    (holds : l.inbound.queue? slot = some ⟨ms, true⟩) :
    let handled := handleAll b l.server l.state conn ms
    EndsIn b conn slot l ⟨handled.state.1, l.inbound.setQueue slot ⟨[], true⟩, handled.state.2,
      l.count + ms.length, l.heard ++ handled.journal.events⟩ := by
  -- A round leaves the queue closed and with one message less: what is left to do is the same loop,
  -- from where the round ends.
  induction ms generalizing l with
  | nil =>
    obtain ⟨result, state⟩ := receive_of_closed holds
    have ended : EndsIn b conn slot l _ := .done result
    rw [state] at ended
    simpa [handleAll] using ended
  | cons m ms ih =>
    obtain ⟨result, state⟩ := receive_of_closed holds
    have left : (l.next b conn slot m).inbound.queue? slot = some ⟨ms, true⟩ := by
      simp [next, state, Registry.queue?_setQueue, holds]
    have rest := ih left
    refine .round result ?_
    -- Whether the message failed makes a difference to what is reported and to nothing else.
    cases verdict : (handle b l.server l.state conn m).result with
    | ok => simpa [next, verdict, state, Registry.setQueue_setQueue, handleAll, Nat.add_assoc,
        Nat.add_comm 1] using rest
    | error fault => simpa [next, verdict, state, Registry.setQueue_setQueue, handleAll,
        report_handle, Nat.add_assoc, Nat.add_comm 1] using rest

end Loop

/-! ## All of a queue -/

theorem exchange_handleEach_of_ne (b : Backend σ) (s : Server) (state : σ) (conn : Int32)
    (ms : List Message) {other : Int32} (apart : other ≠ conn) :
    (handleEach b s state conn ms).state.1.exchange other = s.exchange other := by
  induction ms generalizing s state with
  | nil => rfl
  | cons m ms ih => rw [handleEach, ih, server_handle, exchange_setExchange, if_neg apart.symm]

theorem inbound_run_of_findConn? (b : Backend σ) (s : Server) {inbound : Registry} (state : σ)
    {conn : Int32} {slot : Nat} {entry : Registry.Entry} (nonnegative : 0 ≤ conn)
    (found : inbound.findConn? conn = some (slot, entry)) :
    (run b s inbound state conn).state.2.1 = inbound.setQueue slot ⟨[], entry.queue.closed⟩ := by
  simp only [run, Registry.openConn_of_findConn? nonnegative found,
    Registry.queue?_of_findConn? found, Option.getD_some, Queue.takeAll]

/-- The loop that takes one message after the other ends as the one that takes them all at once. -/
theorem endsIn_run (b : Backend σ) (s : Server) {inbound : Registry} (state : σ) {conn : Int32}
    {slot : Nat} {entry : Registry.Entry} {ms : List Message} (nonnegative : 0 ≤ conn)
    (found : inbound.findConn? conn = some (slot, entry)) (queue : entry.queue = ⟨ms, true⟩) :
    let ran := run b s inbound state conn
    Loop.EndsIn b conn slot ⟨s, inbound, state, 0, []⟩
      ⟨ran.state.1, ran.state.2.1, ran.state.2.2, ran.result, ran.journal.events⟩ := by
  have holds : inbound.queueOf? conn = some ⟨ms, true⟩ := by
    rw [Registry.queueOf?_of_findConn? found, queue]
  have waits : inbound.queue? slot = some ⟨ms, true⟩ := by
    rw [Registry.queue?_of_findConn? found, queue]
  obtain ⟨count, -, server, served, events⟩ := run_of_queue b s state nonnegative holds
  have emptied := inbound_run_of_findConn? b s state nonnegative found
  have ended : Loop.EndsIn b conn slot ⟨s, inbound, state, 0, []⟩ _ := Loop.endsIn_of_closed waits
  simp only [server, served, count, events, emptied, queue]
  simpa using ended

theorem run_of_negative (b : Backend σ) (s : Server) (inbound : Registry) (state : σ) {conn : Int32}
    (negative : conn < 0) :
    (run b s inbound state conn).result = 0 ∧
      (run b s inbound state conn).state = (s, inbound, state) ∧
      (run b s inbound state conn).journal.events =
        if s.wantsFaults then [.fault conn (Fault.negativeConnection conn)] else [] := by
  simp [run, Registry.openConn, negative, events_report]

/-- The loop over a queue that is closed handles each message that is there, once and in order,
whatever comes of those before.  Taking one message after the other, it ends with their number, in
the state that the calls lead to, and observers hear of each call and then of its fault, if it has
one.  The queue is left empty, and nothing else is touched.  A negative number is refused and
reported. -/
theorem run_handles_each (b : Backend σ) (s : Server) (inbound : Registry) (state : σ)
    (conn : Int32) :
    let ran := run b s inbound state conn
    (∀ ms, 0 ≤ conn → inbound.queueOf? conn = some ⟨ms, true⟩ →
      let calls := handleEach b s state conn ms
      (∃ slot, (inbound.openConn conn).result = .ok slot ∧
        ∀ last, Loop.EndsIn b conn slot ⟨s, inbound, state, 0, []⟩ last ↔
          last = ⟨ran.state.1, ran.state.2.1, ran.state.2.2, ran.result, ran.journal.events⟩) ∧
      ran.result = ms.length ∧
      ran.state.1 = calls.state.1 ∧ ran.state.2.2 = calls.state.2 ∧
      ran.journal.events = calls.result.flatMap (s.heard conn) ∧
      ran.state.2.1.queueOf? conn = some ⟨[], true⟩ ∧
      inbound.AgreeBut conn ran.state.2.1 ∧
      ∀ other ≠ conn, ran.state.1.exchange other = s.exchange other) ∧
    (conn < 0 →
      ran.result = 0 ∧ ran.state = (s, inbound, state) ∧
      ∃ fault, fault.code = .invalidArgument ∧
        ran.journal.events = if s.wantsFaults then [.fault conn fault] else []) := by
  intro ran
  constructor
  · intro ms nonnegative holds calls
    obtain ⟨slot, entry, found, queue⟩ := Registry.exists_of_queueOf? holds
    obtain ⟨count, emptied, server, served, events⟩ := run_of_queue b s state nonnegative holds
    obtain ⟨states, heard⟩ := handleAll_eq_handleEach b s state conn ms
    have sameServer : ran.state.1 = calls.state.1 := server.trans (congrArg Prod.fst states)
    have ended := endsIn_run b s state nonnegative found queue
    -- There is an end, and no other, so that the loop does not go on for ever either.
    refine ⟨⟨slot, ?_, fun last => ⟨fun other => other.unique ended, ?_⟩⟩, count, sameServer,
      served.trans (congrArg Prod.snd states), events.trans heard, emptied, ?_, ?_⟩
    · rw [Registry.openConn_of_findConn? nonnegative found]
    · rintro rfl
      exact ended
    · rw [inbound_run_of_findConn? b s state nonnegative found]
      exact Registry.agreeBut_setQueue found _
    · intro other apart
      rw [sameServer]
      exact exchange_handleEach_of_ne b s state conn ms apart
  · intro negative
    obtain ⟨count, same, events⟩ := run_of_negative b s inbound state negative
    exact ⟨count, same, _, rfl, events⟩

/-! ## A loop with two failures -/

namespace Failing

theorem queueOf?_inbound :
    Gated.inbound.queueOf? 1 = some ⟨[Three.data, .monitorReady, Three.data], true⟩ := by
  have slot : Gated.inbound.byConn[(1 : Int32)]? = some 0 := Std.HashMap.getElem?_insert_self
  rw [Registry.queueOf?, Registry.findConn?, slot]
  rfl

theorem handleEach_inbound :
    (handleEach Script.backend Three.server Blank.script 1
        [Three.data, .monitorReady, Three.data]).result =
      [⟨.error (Fault.beforeBeginning .fileContentsResponse), []⟩,
        ⟨.ok (), [.message 1 .monitorReady]⟩,
        ⟨.error Fault.success, [.scriptServed 1 Three.data]⟩] := by
  simp [handleEach, handle, Three.data, Three.server, Blank.script, exchange, setExchange,
    Exchange.observe, Script.backend, Script.answer, Message.kind, Message.isBeginning,
    Message.isFile, Message.Kind.isBeginning, Message.Kind.isFile]

end Failing

/-- The first message comes too early and the third is answered with a blank fault.  Both are
reported, and all three are handled. -/
theorem run_of_failing :
    let ran := run Script.backend Three.server Gated.inbound Blank.script 1
    let refused := run Script.backend Three.server Gated.inbound Blank.script (-1)
    ran.result = 3 ∧ ran.state.2.1.queueOf? 1 = some ⟨[], true⟩ ∧
      ran.journal.events =
        [.fault 1 (Fault.beforeBeginning .fileContentsResponse), .message 1 .monitorReady,
          .scriptServed 1 Three.data, .fault 1 Fault.success] ∧
      ran.state.1.exchange 2 = Three.server.exchange 2 ∧
      refused.result = 0 ∧
      ∃ fault, fault.code = .invalidArgument ∧ refused.journal.events = [.fault (-1) fault] := by
  obtain ⟨handles, -⟩ :=
    run_handles_each Script.backend Three.server Gated.inbound Blank.script 1
  obtain ⟨-, refuses⟩ :=
    run_handles_each Script.backend Three.server Gated.inbound Blank.script (-1)
  obtain ⟨-, count, -, -, events, emptied, -, others⟩ :=
    handles _ (by decide) Failing.queueOf?_inbound
  obtain ⟨nothing, -, reported⟩ := refuses (by decide)
  rw [Failing.handleEach_inbound] at events
  exact ⟨count, emptied, events, others 2 (by decide), nothing, reported⟩

end Server

end RemoteClipboard
