import RemoteClipboard.Host.Command
import RemoteClipboard.Proofs.Server.Loop

/-! # Servers at work

A `Request` is something that a server is asked for, and its `Turn` is what came of it: the reply,
and the calls that the backend got meanwhile.  The loop is no request of its own, since all it does
is handle the messages that wait (`perform_eq_after`).

Which calls a backend gets is seen by putting a record between it and the server.  The record changes
nothing else, and what is added to it depends only on the server and the request
(`step_recorded`). -/

namespace RemoteClipboard

/-! ## A backend with a record -/

inductive Backend.Call
  | stop
  | empty (conn : Int32)
  | serve (conn : Int32) (m : Message)
  deriving DecidableEq

/-- A backend with a record of the calls that it gets. -/
def Backend.recorded {σ : Type} (b : Backend σ) : Backend (σ × List Call) where
  stop s := (b.stop s.1).mapState fun state => (state, s.2 ++ [.stop])
  empty s conn := (b.empty s.1 conn).mapState fun state => (state, s.2 ++ [.empty conn])
  serve s conn m := (b.serve s.1 conn m).mapState fun state => (state, s.2 ++ [.serve conn m])

/-! ## The exchange by itself -/

/-- Whether a message is of one of the two kinds that open an exchange. -/
def Message.IsOpening (m : Message) : Prop := m.kind = .monitorReady ∨ m.kind = .formatList

instance (m : Message) : Decidable m.IsOpening := inferInstanceAs (Decidable (_ ∨ _))

theorem Message.isBeginning_eq (m : Message) : m.isBeginning = decide m.IsOpening := by
  rw [Bool.eq_iff_iff, isBeginning_iff, decide_eq_true_iff, IsOpening]

namespace Exchange

inductive Request
  | observe (m : Message)
  | canStop
  | reset
  deriving DecidableEq

def next (x : Exchange) : Request → Exchange
  | .observe m => (x.observe m).state
  | .canStop => x
  | .reset => x.reset

/-- Whether a message comes before any that opens the exchange, although it has to come after one. -/
def OutOfOrder (x : Exchange) (m : Message) : Prop :=
  m.kind ≠ .notifyCallback ∧ ¬ m.IsOpening ∧ x.started = false

instance (x : Exchange) (m : Message) : Decidable (x.OutOfOrder m) :=
  inferInstanceAs (Decidable (_ ∧ _))

/-- The exchange after a message that is in order.  The backend may be stopped after one that opens
the exchange, and after one that asks for data. -/
def noting (x : Exchange) (m : Message) : Exchange :=
  if m.kind = .notifyCallback then x
  else {
    started := true
    last := some m.kind
    canStop := decide
      (m.kind = .monitorReady ∨ m.kind = .formatList ∨ m.kind = .formatDataRequest) }

theorem observe_of_outOfOrder {x : Exchange} {m : Message} (early : x.OutOfOrder m) :
    x.observe m = ⟨.error (Fault.beforeBeginning m.kind), x, []⟩ := by
  obtain ⟨ordinary, later, closed⟩ := early
  simp [observe, ordinary, later, closed, Message.isBeginning_eq]

theorem observe_of_inOrder {x : Exchange} {m : Message} (ordered : ¬ x.OutOfOrder m) :
    (x.observe m).result = .ok () ∧ (x.observe m).state = x.noting m := by
  by_cases notification : m.kind = .notifyCallback
  · simp [observe, noting, notification]
  · have opened : (!m.isBeginning && !x.started) = false := by
      simpa [OutOfOrder, notification, Message.isBeginning_eq, or_iff_not_imp_left] using ordered
    have stoppable : m.isStopAllowed = decide
        (m.kind = .monitorReady ∨ m.kind = .formatList ∨ m.kind = .formatDataRequest) := by
      rw [Bool.eq_iff_iff, Message.isStopAllowed_iff, decide_eq_true_iff]
    simp [observe, noting, notification, opened, stoppable]

/-- An exchange tells observers nothing. -/
theorem events_observe (x : Exchange) (m : Message) : (x.observe m).journal.events = [] := by
  unfold Exchange.observe
  split
  next => rfl
  next =>
    split
    next => rfl
    next =>
      dsimp only
      split <;> rfl

end Exchange

namespace Server

variable {σ : Type}

/-! ## Requests -/

inductive Request
  | handle (conn : Int32) (m : Message)
  | tryStop (conn : Int32)
  | canStop (conn : Int32)
  | empty (conn : Int32)
  | reset (conn : Int32)
  /-- Says who listens from now on. -/
  | listen (messages faults : Bool)
  deriving DecidableEq

def step (b : Backend σ) (w : Server × σ) : Request → Outcome (Server × σ) Host.Reply
  | .handle conn m => (handle b w.1 w.2 conn m).map .ofUnit
  | .tryStop conn => ((w.1.tryStop b w.2 conn).mapState fun state => (w.1, state)).map .ofFlag
  | .canStop conn => ⟨.flag (w.1.canStop conn), w, []⟩
  | .empty conn => ((empty b w.2 conn).mapState fun state => (w.1, state)).map .ofFlag
  | .reset conn => ⟨.done, (w.1.resetExchange conn, w.2), []⟩
  | .listen messages faults =>
    ⟨.done, ({ w.1 with wantsMessages := messages, wantsFaults := faults }, w.2), []⟩

def after (b : Backend σ) (w : Server × σ) : List Request → Server × σ
  | [] => w
  | q :: rest => after b (step b w q).state rest

/-- What came of a request. -/
structure Turn where
  request : Request
  reply : Host.Reply
  calls : List Backend.Call

def turn (b : Backend σ) (w : Server × σ) (q : Request) : Turn :=
  let out := step b.recorded (w.1, w.2, []) q
  ⟨q, out.result, out.state.2.2⟩

def turns (b : Backend σ) (w : Server × σ) : List Request → List Turn
  | [] => []
  | q :: rest => turn b w q :: turns b (step b w q).state rest

variable (b : Backend σ) {w : Server × σ} {q : Request} {conn : Int32}

theorem after_append (w : Server × σ) (qs rest : List Request) :
    after b w (qs ++ rest) = after b (after b w qs) rest := by
  induction qs generalizing w with
  | nil => rfl
  | cons q qs ih => exact ih (step b w q).state

/-- Each turn is one in the state that those before it have led to. -/
theorem turn_of_split {qs : List Request} {before later : List Turn} {t : Turn}
    (split : turns b w qs = before ++ t :: later) :
    t = turn b (after b w (before.map Turn.request)) t.request := by
  -- Each turn that stands before is made first, and changes the server.
  induction before generalizing w qs with
  | nil =>
    cases qs with
    | nil => cases split
    | cons q qs =>
      obtain ⟨rfl, -⟩ := List.cons_eq_cons.mp split
      rfl
  | cons first before ih =>
    cases qs with
    | nil => cases split
    | cons q qs =>
      obtain ⟨rfl, rest⟩ := List.cons_eq_cons.mp split
      exact ih rest

/-! ## What is asked of the backend -/

/-- The calls that a server makes for a request. -/
def asks (s : Server) : Request → List Backend.Call
  | .handle conn m =>
    if m.isFile = true ∧ ((s.exchange conn).observe m).result = .ok () then [.serve conn m] else []
  | .tryStop conn => if s.canStop conn then [.stop] else []
  | .empty conn => [.empty conn]
  | _ => []

/-- A record changes nothing, and is added to as the server and the request have it. -/
theorem step_recorded (s : Server) (state : σ) (log : List Backend.Call) (q : Request) :
    step b.recorded (s, state, log) q =
      (step b (s, state) q).mapState fun w => (w.1, w.2, log ++ s.asks q) := by
  cases q with
  | handle conn m =>
    simp only [step, handle, asks]
    cases ((s.exchange conn).observe m).result with
    | error fault => simp [Outcome.map, Outcome.mapState]
    | ok =>
      cases m.isFile <;> simp [Outcome.map, Outcome.mapState, Backend.recorded]
  | tryStop conn =>
    cases stoppable : s.canStop conn <;>
      simp [step, tryStop, asks, stoppable, Outcome.map, Outcome.mapState, Outcome.andTell,
        Backend.recorded]
  | empty conn => rfl
  | canStop conn => simp [step, asks, Outcome.mapState]
  | reset conn => simp [step, asks, Outcome.mapState]
  | listen messages faults => simp [step, asks, Outcome.mapState]

theorem turn_eq (w : Server × σ) (q : Request) :
    turn b w q = ⟨q, (step b w q).result, w.1.asks q⟩ := by
  simp [turn, step_recorded, Outcome.mapState]

/-- The record of a run is made up of the calls of its turns. -/
theorem after_recorded (s : Server) (state : σ) (log : List Backend.Call) (qs : List Request) :
    after b.recorded (s, state, log) qs =
      ((after b (s, state) qs).1, (after b (s, state) qs).2,
        log ++ (turns b (s, state) qs).flatMap Turn.calls) := by
  induction qs generalizing s state log with
  | nil => simp [after, turns]
  | cons q qs ih =>
    simp only [after, turns, step_recorded, Outcome.mapState, ih, List.flatMap_cons, turn_eq,
      List.append_assoc]

/-! ## The loop -/

/-- A request, or the loop over a queue of the inbound registry as it is at the time. -/
inductive Op
  | ask (q : Request)
  | run (inbound : Registry) (conn : Int32)

/-- What the loop is asked for: to handle the messages that wait. -/
def Op.requests : Op → List Request
  | .ask q => [q]
  | .run inbound conn => if conn < 0 then [] else (inbound.waiting conn).map (.handle conn)

def perform (b : Backend σ) (w : Server × σ) : List Op → Server × σ
  | [] => w
  | .ask q :: ops => perform b (step b w q).state ops
  | .run inbound conn :: ops =>
    let ran := run b w.1 inbound w.2 conn
    perform b (ran.state.1, ran.state.2.2) ops

theorem state_handleAll (w : Server × σ) (conn : Int32) (ms : List Message) :
    (handleAll b w.1 w.2 conn ms).state = after b w (ms.map (.handle conn)) := by
  induction ms generalizing w with
  | nil => rfl
  | cons m ms ih => exact ih (handle b w.1 w.2 conn m).state

theorem state_run (w : Server × σ) (inbound : Registry) (conn : Int32) :
    ((run b w.1 inbound w.2 conn).state.1, (run b w.1 inbound w.2 conn).state.2.2) =
      after b w (Op.requests (.run inbound conn)) := by
  by_cases negative : conn < 0
  · simp [run, Registry.openConn, Op.requests, negative, after]
  have nonnegative := Int32.not_lt.mp negative
  rw [Op.requests, if_neg negative, ← state_handleAll]
  cases found : inbound.findConn? conn with
  | none =>
    -- The connection is opened for the loop, which finds nothing to do.
    obtain ⟨result, state⟩ := Registry.openConn_of_none nonnegative found
    have new : (inbound.add none conn).2.queue? inbound.entries.size = some {} := by
      simp [Registry.add, Registry.queue?]
    simp [run, result, state, new, Queue.takeAll, Registry.waiting, Registry.queueOf?, found]
  | some place =>
    have held := Registry.queueOf?_of_findConn? found
    obtain ⟨-, -, server, served, -⟩ := run_of_queue b w.1 w.2 nonnegative held
    simp only [Registry.waiting, held, Option.map_some, Option.getD_some]
    exact Prod.ext server served

theorem perform_eq_after (w : Server × σ) (ops : List Op) :
    perform b w ops = after b w (ops.flatMap Op.requests) := by
  induction ops generalizing w with
  | nil => rfl
  | cons op ops ih =>
    rw [List.flatMap_cons, after_append]
    cases op with
    | ask q => exact ih (step b w q).state
    | run inbound conn => rw [perform, state_run, ih]

/-! ## Each connection has its own exchange -/

/-- What a request is to the exchange of a connection. -/
def Request.toExchange? (conn : Int32) : Request → Option Exchange.Request
  | .handle other m => if other = conn then some (.observe m) else none
  | .canStop other => if other = conn then some .canStop else none
  | .reset other => if other = conn then some .reset else none
  | _ => none

theorem exchange_setExchange (s : Server) (other conn : Int32) (x : Exchange) :
    (s.setExchange other x).exchange conn = if other = conn then x else s.exchange conn := by
  simp [setExchange, exchange, Std.HashMap.getD_insert]

/-- A connection whose exchange is forgotten has a fresh one, as one that was never heard of. -/
theorem exchange_resetExchange (s : Server) (other conn : Int32) :
    (s.resetExchange other).exchange conn = if other = conn then {} else s.exchange conn := by
  rw [resetExchange]
  cases known : s.exchanges[other]? with
  | some x => exact exchange_setExchange s other conn x.reset
  | none =>
    by_cases same : other = conn
    · subst same
      simp [exchange, Std.HashMap.getD_eq_getD_getElem?, known]
    · rw [if_neg same]

theorem server_handle (s : Server) (state : σ) (conn : Int32) (m : Message) :
    (handle b s state conn m).state.1 =
      s.setExchange conn ((s.exchange conn).observe m).state := by
  simp only [handle]
  split
  next => rfl
  next => split <;> rfl

/-- A request changes the exchange of a connection as it would change an exchange by itself. -/
theorem exchange_step (w : Server × σ) (q : Request) (conn : Int32) :
    (step b w q).state.1.exchange conn =
      ((q.toExchange? conn).map (w.1.exchange conn).next).getD (w.1.exchange conn) := by
  cases q with
  | handle other m =>
    simp only [step, Outcome.map, server_handle, exchange_setExchange, Request.toExchange?]
    by_cases same : other = conn
    · subst same
      simp [Exchange.next]
    · simp [same]
  | reset other =>
    simp only [step, exchange_resetExchange, Request.toExchange?]
    by_cases same : other = conn
    · subst same
      simp [Exchange.next, Exchange.reset]
    · simp [same]
  | canStop other =>
    simp only [step, Request.toExchange?]
    split <;> rfl
  | tryStop other => rfl
  | empty other => rfl
  | listen messages faults => rfl

end Server

end RemoteClipboard
