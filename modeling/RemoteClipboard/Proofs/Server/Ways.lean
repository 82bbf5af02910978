import RemoteClipboard.Proofs.Server.Requests

/-! # The three ways of a message

A server that is called with a message turns it away, has the backend serve it, or tells the
observer of it.  Which of the three it is depends on the order and on the kind of the message and on
nothing else (`handle_goes_one_way`).  What the backend answers comes back as it is and decides
nothing: the exchange has taken note of the message by then.

The result alone would not tell the three apart, since a backend may answer with a fault that looks
as if the message had come too early, or with none.  So each way also says which calls the backend
gets, and whom the server tells. -/

namespace RemoteClipboard

namespace Server

variable {σ : Type}

section

variable (b : Backend σ) (s : Server) (state : σ) (conn : Int32) (m : Message)

/-- The message is turned away for its order, and nothing else happens. -/
structure IsRefused : Prop where
  order : (s.exchange conn).OutOfOrder m
  result : ∃ fault, (handle b s state conn m).result = .error fault ∧
    fault.code = .protocolViolation
  exchange : (handle b s state conn m).state.1.exchange conn = s.exchange conn
  calls : (turn b (s, state) (.handle conn m)).calls = []
  backend : (handle b s state conn m).state.2 = state
  events : (handle b s state conn m).journal.events = []

/-- The backend is called with the message, once, and the answer is the backend's.  Whatever it is,
the exchange has taken note of the message. -/
structure IsServed : Prop where
  order : ¬ (s.exchange conn).OutOfOrder m
  file : m.kind = .fileContentsRequest ∨ m.kind = .fileContentsResponse
  result : (handle b s state conn m).result = (b.serve state conn m).result
  exchange : (handle b s state conn m).state.1.exchange conn = ⟨true, some m.kind, false⟩
  calls : (turn b (s, state) (.handle conn m)).calls = [.serve conn m]
  backend : (handle b s state conn m).state.2 = (b.serve state conn m).state
  events : (handle b s state conn m).journal.events = (b.serve state conn m).journal.events

/-- Whoever listens is told of the message, once, and the backend hears nothing of it. -/
structure IsTold : Prop where
  order : ¬ (s.exchange conn).OutOfOrder m
  file : m.kind ≠ .fileContentsRequest ∧ m.kind ≠ .fileContentsResponse
  result : (handle b s state conn m).result = .ok ()
  exchange : (handle b s state conn m).state.1.exchange conn = (s.exchange conn).noting m
  calls : (turn b (s, state) (.handle conn m)).calls = []
  backend : (handle b s state conn m).state.2 = state
  events : (handle b s state conn m).journal.events =
    if s.wantsMessages then [.message conn m] else []

/-- What can become of a message. -/
inductive Way
  | refused
  | served
  | told

/-- Whether it is this that becomes of a message. -/
def Goes : Way → Prop
  | .refused => IsRefused b s state conn m
  | .served => IsServed b s state conn m
  | .told => IsTold b s state conn m

end

variable {b : Backend σ} {s : Server} {state : σ} {conn : Int32} {m : Message}

/-! ## Each way -/

theorem isRefused_of_outOfOrder (early : (s.exchange conn).OutOfOrder m) :
    IsRefused b s state conn m := by
  have seen := Exchange.observe_of_outOfOrder early
  exact {
    order := early
    result := ⟨Fault.beforeBeginning m.kind, by simp [handle, seen], rfl⟩
    exchange := by rw [server_handle, exchange_setExchange, if_pos rfl, seen]
    calls := by simp [turn_eq, asks, seen]
    backend := by simp [handle, seen]
    events := by simp [handle, seen] }

/-- The backend may not be stopped after a file message. -/
theorem noting_of_isFile (x : Exchange) (file : m.isFile = true) :
    x.noting m = ⟨true, some m.kind, false⟩ := by
  rcases Message.isFile_iff.mp file with kind | kind
  · simp [Exchange.noting, kind]
  · simp [Exchange.noting, kind]

theorem isServed_of_isFile (ordered : ¬ (s.exchange conn).OutOfOrder m) (file : m.isFile = true) :
    IsServed b s state conn m := by
  obtain ⟨accepted, noted⟩ := Exchange.observe_of_inOrder ordered
  have silent := (s.exchange conn).events_observe m
  exact {
    order := ordered
    file := Message.isFile_iff.mp file
    result := by simp [handle, accepted, file]
    exchange := by
      rw [server_handle, exchange_setExchange, if_pos rfl, noted, noting_of_isFile _ file]
    calls := by simp [turn_eq, asks, accepted, file]
    backend := by simp [handle, accepted, file]
    events := by
      -- What the server says of a fault goes to the log.
      cases answer : (b.serve state conn m).result with
      | ok => simp [handle, accepted, file, answer, silent]
      | error fault => simp [handle, accepted, file, answer, silent] }

theorem isTold_of_not_isFile (ordered : ¬ (s.exchange conn).OutOfOrder m)
    (other : m.isFile = false) : IsTold b s state conn m := by
  obtain ⟨accepted, noted⟩ := Exchange.observe_of_inOrder ordered
  have silent := (s.exchange conn).events_observe m
  have listens : (s.setExchange conn ((s.exchange conn).observe m).state).wantsMessages =
      s.wantsMessages := rfl
  exact {
    order := ordered
    file := not_or.mp (mt Message.isFile_iff.mpr (Bool.eq_false_iff.mp other))
    result := by simp [handle, accepted, other]
    exchange := by rw [server_handle, exchange_setExchange, if_pos rfl, noted]
    calls := by simp [turn_eq, asks, other]
    backend := by simp [handle, accepted, other]
    events := by
      cases wants : s.wantsMessages with
      | true => simp [handle, accepted, other, silent, listens, wants]
      | false => simp [handle, accepted, other, silent, listens, wants] }

/-! ## One way and no other -/

theorem existsUnique_goes (b : Backend σ) (s : Server) (state : σ) (conn : Int32) (m : Message) :
    ∃! way, Goes b s state conn m way := by
  by_cases early : (s.exchange conn).OutOfOrder m
  · refine ⟨.refused, isRefused_of_outOfOrder early, ?_⟩
    intro way goes
    cases way with
    | refused => rfl
    | served => exact absurd early goes.order
    | told => exact absurd early goes.order
  cases file : m.isFile with
  | true =>
    refine ⟨.served, isServed_of_isFile early file, ?_⟩
    intro way goes
    cases way with
    | refused => exact absurd goes.order early
    | served => rfl
    | told => exact absurd (Message.isFile_iff.mp file) (not_or.mpr goes.file)
  | false =>
    refine ⟨.told, isTold_of_not_isFile early file, ?_⟩
    intro way goes
    cases way with
    | refused => exact absurd goes.order early
    | served => cases file.symm.trans (Message.isFile_iff.mpr goes.file)
    | told => rfl

theorem fault_of_goes {way : Way} (goes : Goes b s state conn m way) {other : Int32} {fault : Fault}
    (told : .fault other fault ∈ (handle b s state conn m).journal.events) :
    .fault other fault ∈ (b.serve state conn m).journal.events := by
  -- Only the backend has events of its own that could be faults.
  cases way with
  | refused =>
    rw [goes.events] at told
    cases told
  | served => rwa [goes.events] at told
  | told =>
    rw [goes.events] at told
    split at told
    next => simp at told
    next => cases told

/-- Whatever the state of a server, the message and the answer of the backend, exactly one of three
things happens: the message is turned away for its order, it is served, or it is told of.  No fault
is reported in any of them, unless by the backend, and other connections have no part in it. -/
theorem handle_goes_one_way (b : Backend σ) (s : Server) (state : σ) (conn : Int32) (m : Message) :
    (∃! way, Goes b s state conn m way) ∧
      (∀ other fault, .fault other fault ∈ (handle b s state conn m).journal.events →
        .fault other fault ∈ (b.serve state conn m).journal.events) ∧
      ∀ other ≠ conn, (handle b s state conn m).state.1.exchange other = s.exchange other := by
  have unique := existsUnique_goes b s state conn m
  refine ⟨unique, ?_, ?_⟩
  · intro other fault
    obtain ⟨way, goes, -⟩ := unique
    exact fault_of_goes goes
  · intro other apart
    rw [server_handle, exchange_setExchange, if_neg apart.symm]

/-! ## An answer that says nothing -/

namespace Blank

/-- A backend that fails with a fault whose code says that nothing is wrong. -/
def script : Script := { serve := some Fault.success }

/-- A server with one exchange that has begun, to which everyone listens. -/
def server : Server where
  exchanges := ({} : Std.HashMap Int32 Exchange).insert 5 { started := true }
  wantsMessages := true
  wantsFaults := true

def request : Message := .fileContentsRequest ⟨1, 0, 2, 0, 0, 8, none⟩

theorem exchange_server : server.exchange 5 = { started := true } := by
  simp [server, exchange]

theorem inOrder : ¬ (server.exchange 5).OutOfOrder request := by
  rw [exchange_server]
  decide

end Blank

/-- The fault comes back as the backend gave it and is told nobody, and the request is remembered on
its own connection. -/
theorem handle_of_blank_fault :
    let handled := handle Script.backend Blank.server Blank.script 5 Blank.request
    handled.result = .error Fault.success ∧
      handled.journal.events = [.scriptServed 5 Blank.request] ∧
      handled.state.1.exchange 5 = ⟨true, some .fileContentsRequest, false⟩ ∧
      handled.state.1.exchange 6 = Blank.server.exchange 6 ∧
      ∀ fault, .fault 5 fault ∉ handled.journal.events := by
  intro handled
  obtain ⟨⟨way, goes, -⟩, faults, others⟩ :=
    handle_goes_one_way Script.backend Blank.server Blank.script 5 Blank.request
  have served : IsServed Script.backend Blank.server Blank.script 5 Blank.request := by
    cases way with
    | refused => exact absurd goes.order Blank.inOrder
    | served => exact goes
    | told => exact absurd rfl goes.file.1
  refine ⟨served.result, served.events, served.exchange, others 6 (by decide), ?_⟩
  intro fault told
  cases faults 5 fault told with
  | tail _ rest => cases rest

end Server

end RemoteClipboard
