import RemoteClipboard.Proofs.Server.Requests

/-! # One exchange for each connection

What a server says to one connection about the order of its messages, and about stopping, is what an
exchange by itself says when it is told of that connection's messages only
(`answers_of_connection`).  What other connections do, what the backend answers and whether the
server has heard of the connection before leave no trace in it: each request changes the exchange of
its own connection, whatever comes of it afterwards (`exchange_step`), and a connection that is new
has a fresh one. -/

namespace RemoteClipboard

namespace Exchange

/-- What an exchange says to what it is told or asked. -/
inductive Answer
  | accepted
  | refused (fault : Fault)
  | canStop (stoppable : Bool)

def answer? (x : Exchange) : Request → Option Answer
  | .observe m =>
    match (x.observe m).result with
    | .ok () => some .accepted
    | .error fault => some (.refused fault)
  | .canStop => some (.canStop x.canStop)
  | .reset => none

def answers (x : Exchange) : List Request → List Answer
  | [] => []
  | q :: rest => (x.answer? q).toList ++ (x.next q).answers rest

/-- An exchange refuses a message only for coming too early. -/
theorem observe_eq_error {x : Exchange} {m : Message} {fault : Fault}
    (refused : (x.observe m).result = .error fault) : fault.code = .protocolViolation := by
  simp only [observe] at refused
  split at refused
  next => cases refused
  next =>
    split at refused
    next =>
      cases refused
      rfl
    next => cases refused

end Exchange

namespace Server

variable {σ : Type}

/-- What a turn says about the order of messages: one was refused if it was a violation that the
backend never heard of. -/
def Turn.verdict (t : Turn) : Exchange.Answer :=
  match t.reply with
  | .refused fault =>
    if fault.code = .protocolViolation ∧ t.calls = [] then .refused fault else .accepted
  | _ => .accepted

/-- What a turn says to a connection about its exchange. -/
def Turn.answer? (conn : Int32) (t : Turn) : Option Exchange.Answer :=
  match t.request, t.reply with
  | .handle other _, _ => if other = conn then some t.verdict else none
  | .canStop other, .flag stoppable => if other = conn then some (.canStop stoppable) else none
  | _, _ => none

variable (b : Backend σ)

theorem verdict_turn_handle (w : Server × σ) (conn : Int32) (m : Message) :
    some (turn b w (.handle conn m)).verdict = (w.1.exchange conn).answer? (.observe m) := by
  simp only [turn_eq, Turn.verdict, Exchange.answer?, step, handle, asks, Outcome.map]
  cases seen : ((w.1.exchange conn).observe m).result with
  | error fault => simp [Host.Reply.ofUnit, Exchange.observe_eq_error seen]
  | ok =>
    -- Whatever the backend says of a file message, it was called.
    cases file : m.isFile with
    | false => simp [Host.Reply.ofUnit]
    | true => cases (b.serve w.2 conn m).result <;> simp [Host.Reply.ofUnit]

theorem answer?_turn (w : Server × σ) (q : Request) (conn : Int32) :
    (turn b w q).answer? conn = (q.toExchange? conn).bind (w.1.exchange conn).answer? := by
  cases q with
  | handle other m =>
    have verdict := verdict_turn_handle b w other m
    rw [turn_eq] at verdict
    simp only [turn_eq, Turn.answer?, Request.toExchange?]
    by_cases same : other = conn
    · subst same
      simpa using verdict
    · simp [same]
  | canStop other =>
    simp only [turn_eq, Turn.answer?, Request.toExchange?, step]
    by_cases same : other = conn
    · subst same
      simp [canStop, Exchange.answer?]
    · simp [same]
  | reset other =>
    simp only [turn_eq, Turn.answer?, Request.toExchange?]
    split <;> rfl
  | tryStop other => simp [turn_eq, Turn.answer?, Request.toExchange?]
  | empty other => simp [turn_eq, Turn.answer?, Request.toExchange?]
  | listen messages faults => simp [turn_eq, Turn.answer?, Request.toExchange?]

theorem answers_turns (w : Server × σ) (qs : List Request) (conn : Int32) :
    (turns b w qs).filterMap (Turn.answer? conn) =
      (w.1.exchange conn).answers (qs.filterMap (Request.toExchange? conn)) := by
  induction qs generalizing w with
  | nil => rfl
  | cons q qs ih =>
    have here := answer?_turn b w q conn
    rw [turns, List.filterMap_cons, List.filterMap_cons, here, ih, exchange_step]
    cases q.toExchange? conn with
    | none => rfl
    | some request =>
      simp only [Option.bind_some, Option.map_some, Option.getD_some, Exchange.answers]
      cases (w.1.exchange conn).answer? request with
      | none => rfl
      | some answer => rfl

/-- Whatever is asked of a server and whatever its backend answers, what it says to a connection
about its exchange is what a fresh exchange says that gets the requests of this connection only. -/
theorem answers_of_connection (b : Backend σ) (state : σ) (qs : List Request) (conn : Int32) :
    (turns b ({}, state) qs).filterMap (Turn.answer? conn) =
      Exchange.answers {} (qs.filterMap (Request.toExchange? conn)) := by
  have fresh : exchange {} conn = {} := by simp [exchange]
  rw [answers_turns, fresh]

end Server

end RemoteClipboard
