import RemoteClipboard.Proofs.Server.Requests

/-! # The gate before the backend

A file message gets to the backend only on a connection whose exchange has begun.  `Begun` says so
of the requests that were made before: one of them was a message that opens the exchange of this very
connection, and the exchange was not forgotten since.  It is what the server's own flag stands for
(`started_iff_begun`), and so the gate opens for these file messages and for nothing else
(`served_iff_begun`). -/

namespace RemoteClipboard

namespace Exchange

/-- A file message is accepted once the exchange has begun. -/
theorem observe_file (x : Exchange) {m : Message} (file : m.isFile = true) :
    (x.observe m).result = .ok () ↔ x.started = true := by
  cases m with
  | fileContentsRequest r => cases started : x.started <;> simp [observe, Message.kind,
      Message.isBeginning, Message.Kind.isBeginning, started]
  | fileContentsResponse r => cases started : x.started <;> simp [observe, Message.kind,
      Message.isBeginning, Message.Kind.isBeginning, started]
  | _ => cases file

theorem started_observe (x : Exchange) (m : Message) :
    (x.observe m).state.started = true ↔ x.started = true ∨ m.IsOpening := by
  by_cases early : x.OutOfOrder m
  · rw [observe_of_outOfOrder early]
    simp [early.2.1]
  · rw [(observe_of_inOrder early).2, noting]
    by_cases notification : m.kind = .notifyCallback
    · simp [notification, Message.IsOpening]
    · -- A message that counts has opened the exchange, or found it open.
      have opens : x.started = true ∨ m.IsOpening := by
        simpa [OutOfOrder, notification, or_iff_not_imp_right] using early
      simpa [notification] using opens

end Exchange

namespace Server

variable {σ : Type}

/-! ## Exchanges that have begun -/

/-- Whether a request has a server handle a message that opens the exchange of a connection. -/
def Request.Opens (conn : Int32) (q : Request) : Prop :=
  ∃ m, q = .handle conn m ∧ m.IsOpening

/-- Whether the exchange of a connection was opened by one of some requests, and not forgotten
since. -/
def Begun (conn : Int32) (past : List Request) : Prop :=
  ∃ earlier opening later, past = earlier ++ opening :: later ∧ opening.Opens conn ∧
    .reset conn ∉ later

variable {conn : Int32} {q : Request} {past later : List Request}

theorem not_begun_nil : ¬ Begun conn [] := by
  rintro ⟨earlier, opening, later, split, -⟩
  simp at split

theorem begun_cons :
    Begun conn (q :: past) ↔ Begun conn past ∨ (q.Opens conn ∧ .reset conn ∉ past) := by
  constructor
  · rintro ⟨earlier, opening, later, split, opens, kept⟩
    cases earlier with
    | nil =>
      obtain ⟨rfl, rfl⟩ := List.cons_eq_cons.mp split
      exact .inr ⟨opens, kept⟩
    | cons first earlier =>
      obtain ⟨-, rest⟩ := List.cons_eq_cons.mp split
      exact .inl ⟨earlier, opening, later, rest, opens, kept⟩
  · rintro (⟨earlier, opening, later, rfl, opens, kept⟩ | ⟨opens, kept⟩)
    · exact ⟨q :: earlier, opening, later, rfl, opens, kept⟩
    · exact ⟨[], q, past, rfl, opens, kept⟩

theorem begun_append :
    Begun conn (past ++ later) ↔ Begun conn later ∨ (Begun conn past ∧ .reset conn ∉ later) := by
  induction past with
  | nil => simp [not_begun_nil]
  | cons q past ih =>
    rw [List.cons_append, begun_cons, begun_cons, ih, List.mem_append]
    -- What is left only says which of the three parts has the opening.
    tauto

/-! ## The flag -/

theorem started_step (b : Backend σ) (w : Server × σ) (q : Request) (conn : Int32) :
    ((step b w q).state.1.exchange conn).started = true ↔
      q.Opens conn ∨ ((w.1.exchange conn).started = true ∧ .reset conn ≠ q) := by
  rw [exchange_step]
  cases q with
  | handle other m =>
    by_cases same : other = conn
    · subst same
      simp [Request.toExchange?, Request.Opens, Exchange.next, Exchange.started_observe, or_comm]
    · simp [Request.toExchange?, Request.Opens, same]
  | reset other =>
    by_cases same : other = conn
    · subst same
      simp [Request.toExchange?, Request.Opens, Exchange.next, Exchange.reset]
    · simp [Request.toExchange?, Request.Opens, same, Ne.symm same]
  | canStop other =>
    by_cases same : other = conn <;>
      simp [Request.toExchange?, Request.Opens, Exchange.next, same]
  | tryStop other => simp [Request.toExchange?, Request.Opens]
  | empty other => simp [Request.toExchange?, Request.Opens]
  | listen messages faults => simp [Request.toExchange?, Request.Opens]

/-- The flag of an exchange says that it has begun, or had before and was not forgotten. -/
theorem started_after (b : Backend σ) (w : Server × σ) (qs : List Request) (conn : Int32) :
    ((after b w qs).1.exchange conn).started = true ↔
      Begun conn qs ∨ ((w.1.exchange conn).started = true ∧ .reset conn ∉ qs) := by
  -- The server is any one here, since the first request may leave one with its flag up.
  induction qs generalizing w with
  | nil => simp [after, not_begun_nil]
  | cons q qs ih =>
    rw [after, ih, started_step, begun_cons, List.mem_cons]
    tauto

theorem started_iff_begun (b : Backend σ) (state : σ) (qs : List Request) (conn : Int32) :
    ((after b ({}, state) qs).1.exchange conn).started = true ↔ Begun conn qs := by
  have fresh : (exchange {} conn).started = false := by simp [exchange]
  simp [started_after, fresh]

/-! ## The gate -/

theorem serve_mem_asks {s : Server} {m : Message} :
    .serve conn m ∈ s.asks q ↔ q = .handle conn m ∧
      (m.kind = .fileContentsRequest ∨ m.kind = .fileContentsResponse) ∧
        (s.exchange conn).started = true := by
  rw [← Message.isFile_iff]
  cases q with
  | handle other n =>
    simp only [asks]
    split
    next served =>
      have started := ((s.exchange other).observe_file served.1).mp served.2
      rw [List.mem_singleton]
      constructor
      · intro same
        cases same
        exact ⟨rfl, served.1, started⟩
      · rintro ⟨same, -, -⟩
        cases same
        rfl
    next closed =>
      constructor
      · intro member
        cases member
      · rintro ⟨same, file, started⟩
        cases same
        exact absurd ⟨file, ((s.exchange conn).observe_file file).mpr started⟩ closed
  | tryStop other =>
    simp only [asks]
    split <;> simp
  | empty other => simp [asks]
  | canStop other => simp [asks]
  | reset other => simp [asks]
  | listen messages faults => simp [asks]

/-- Whatever the backend answers, the calls it gets are those of the turns, the loop's among them,
and a message is served exactly if it is a file message, and the exchange of its connection was
opened by an earlier message on this connection and not forgotten since.  Messages on other
connections and notifications open nothing. -/
theorem served_iff_begun (b : Backend σ) (state : σ) (ops : List Op) (conn : Int32) :
    let made := turns b ({}, state) (ops.flatMap Op.requests)
    (perform b.recorded ({}, state, []) ops).2.2 = made.flatMap Turn.calls ∧
      (∀ before t later m, made = before ++ t :: later →
        (.serve conn m ∈ t.calls ↔ t.request = .handle conn m ∧
          (m.kind = .fileContentsRequest ∨ m.kind = .fileContentsResponse) ∧
          Begun conn (before.map Turn.request))) ∧
      ∀ past other m, other ≠ conn ∨ m.kind = .notifyCallback →
        (Begun conn (past ++ [.handle other m]) ↔ Begun conn past) := by
  intro made
  refine ⟨?_, ?_, ?_⟩
  · rw [perform_eq_after, after_recorded, List.nil_append]
  · intro before t later m split
    have here := turn_of_split b split
    rw [turn_eq] at here
    rw [here, serve_mem_asks, started_iff_begun]
  · intro past other m elsewhere
    have closed : ¬ Begun conn [.handle other m] := by
      rw [begun_cons]
      rintro (begun | ⟨⟨n, eq, opens⟩, -⟩)
      · exact not_begun_nil begun
      · cases eq
        rcases elsewhere with other | kind
        · exact other rfl
        · simp [Message.IsOpening, kind] at opens
    simp [begun_append, closed]

/-! ## Two connections -/

namespace Gated

/-- File data, an opening and file data wait for connection 1. -/
def inbound : Registry where
  entries := #[⟨none, 1, ⟨[Three.data, .monitorReady, Three.data], true⟩⟩]
  byConn := ({} : Std.HashMap Int32 Nat).insert 1 0

/-- Connection 2 opens its exchange before connection 1 opens its own. -/
def ops : List Op := [.ask (.handle 2 .monitorReady), .run inbound 1]

def requests : List Request :=
  [.handle 2 .monitorReady, .handle 1 Three.data, .handle 1 .monitorReady, .handle 1 Three.data]

theorem requests_ops : ops.flatMap Op.requests = requests := by
  have slot : inbound.byConn[(1 : Int32)]? = some 0 := Std.HashMap.getElem?_insert_self
  have waiting : inbound.waiting 1 = [Three.data, .monitorReady, Three.data] := by
    rw [Registry.waiting, Registry.queueOf?, Registry.findConn?, slot]
    rfl
  simp [ops, requests, Op.requests, waiting]

theorem turns_requests :
    turns Script.backend ({}, Three.script) requests =
      [⟨.handle 2 .monitorReady, .done, []⟩,
        ⟨.handle 1 Three.data, .refused (Fault.beforeBeginning .fileContentsResponse), []⟩,
        ⟨.handle 1 .monitorReady, .done, []⟩,
        ⟨.handle 1 Three.data, .refused Fault.serviceStopped, [.serve 1 Three.data]⟩] := by
  simp [turns, turn_eq, requests, step, asks, handle, Three.data, Three.script, exchange,
    setExchange, Exchange.observe, Script.backend, Script.answer, Message.kind,
    Message.isBeginning, Message.isFile, Message.Kind.isBeginning, Message.Kind.isFile,
    Outcome.map, Host.Reply.ofUnit, Std.HashMap.getD_insert]

end Gated

/-- Both connections have an exchange that has begun when the last message comes, and it is served;
the same message was not served before. -/
theorem served_of_gated :
    (perform Script.backend.recorded ({}, Three.script, []) Gated.ops).2.2 =
        [.serve 1 Three.data] ∧
      Begun 1 [.handle 2 .monitorReady, .handle 1 Three.data, .handle 1 .monitorReady] ∧
      ¬ Begun 1 [.handle 2 .monitorReady] := by
  have made := served_iff_begun Script.backend Three.script Gated.ops 1
  simp only [Gated.requests_ops, Gated.turns_requests] at made
  obtain ⟨record, gate, -⟩ := made
  refine ⟨record, ?_, ?_⟩
  · have last := gate
      [⟨.handle 2 .monitorReady, .done, []⟩,
        ⟨.handle 1 Three.data, .refused (Fault.beforeBeginning .fileContentsResponse), []⟩,
        ⟨.handle 1 .monitorReady, .done, []⟩] _ [] Three.data rfl
    exact (last.mp List.mem_cons_self).2.2
  · have first := gate [⟨.handle 2 .monitorReady, .done, []⟩] _ _ Three.data rfl
    intro begun
    cases first.mpr ⟨rfl, .inr rfl, begun⟩

end Server

end RemoteClipboard
