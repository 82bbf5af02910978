import RemoteClipboard.Backend
import RemoteClipboard.Delivery.Registry
import RemoteClipboard.Exchange

/-! # The server

A `Server` takes in the messages of its connections.  Each connection has an `Exchange` of its own,
which turns away what is out of order.  What is accepted goes to the backend if it is a file
message, and to the registered observer otherwise.

The queues that the server works off are those of an inbound registry; its backend answers through
some other registry, so that no answer comes back to the server. -/

namespace RemoteClipboard

/-- The exchange of each connection, and who wants to know what. -/
structure Server where
  exchanges : Std.HashMap Int32 Exchange := {}
  /-- Whether someone wants the messages that are not for the backend. -/
  wantsMessages : Bool := false
  /-- Whether someone wants the faults that arise in the loop. -/
  wantsFaults : Bool := false

namespace Server

variable {σ : Type}

/-- The exchange of a connection; one that was never heard of has a fresh one. -/
def exchange (s : Server) (conn : Int32) : Exchange := s.exchanges.getD conn {}

def setExchange (s : Server) (conn : Int32) (x : Exchange) : Server :=
  { s with exchanges := s.exchanges.insert conn x }

/-! ## Single messages -/

def handle (b : Backend σ) (s : Server) (state : σ) (conn : Int32) (m : Message) :
    Outcome (Server × σ) (Except Fault Unit) :=
  let seen := (s.exchange conn).observe m
  let s := s.setExchange conn seen.state
  match seen.result with
  | .error fault =>
    let refused : Notice := .line .protocol .warning ["conn ", conn, ": ", fault.message]
    ⟨.error fault, (s, state), seen.journal ++ [refused]⟩
  | .ok () =>
    if m.isFile then
      let served := b.serve state conn m
      let complaint : Journal :=
        match served.result with
        | .error fault => [.faultLine .service fault m.tag]
        | .ok () => []
      ⟨served.result, (s, served.state), seen.journal ++ served.journal ++ complaint⟩
    else
      let told : Journal := if s.wantsMessages then [.event (.message conn m)] else []
      ⟨.ok (), (s, state), seen.journal ++ told⟩

def report (s : Server) (conn : Int32) (fault : Fault) : Journal :=
  if s.wantsFaults then [.event (.fault conn fault)] else []

/-! ## The loop -/

/-- Handles messages of a connection one after the other and reports each that fails; none of them
ends the loop. -/
def handleAll (b : Backend σ) (s : Server) (state : σ) (conn : Int32) :
    List Message → Outcome (Server × σ) Unit
  | [] => ⟨(), (s, state), []⟩
  | m :: rest =>
    let first := handle b s state conn m
    let reported : Journal :=
      match first.result with
      | .error fault => s.report conn fault
      | .ok () => []
    let later := handleAll b first.state.1 first.state.2 conn rest
    ⟨(), later.state, first.journal ++ reported ++ later.journal⟩

/-- Works off the inbound queue of a connection and returns the number of messages that it handled.
The loop ends when the queue is closed and empty; the queue is to be closed beforehand, since here
nobody else can close it meanwhile. -/
def run (b : Backend σ) (s : Server) (inbound : Registry) (state : σ) (conn : Int32) :
    Outcome (Server × Registry × σ) Nat :=
  let opened := inbound.openConn conn
  match opened.result with
  | .error fault =>
    ⟨0, (s, opened.state, state),
      opened.journal ++ [.faultLine .service fault "run"] ++ s.report conn fault⟩
  | .ok slot =>
    let queue := (opened.state.queue? slot).getD {}
    let (messages, emptied) := queue.takeAll
    let handled := handleAll b s state conn messages
    ⟨messages.length, (handled.state.1, opened.state.setQueue slot emptied, handled.state.2),
      opened.journal
        ++ [.line .service .info ["conn ", conn, ": server loop started"]]
        ++ handled.journal
        ++ [.line .service .info
            ["conn ", conn, ": server loop ended after ", messages.length, " message(s)"]]⟩

/-! ## Stopping and emptying -/

/-- Whether a connection is at a point where the backend may be stopped. -/
def canStop (s : Server) (conn : Int32) : Bool := (s.exchange conn).canStop

/-- Stops the backend if a connection is at a point where it may be stopped, and says whether it
did. -/
def tryStop (b : Backend σ) (s : Server) (state : σ) (conn : Int32) :
    Outcome σ (Except Fault Bool) :=
  if !s.canStop conn then
    ⟨.ok false, state, [.line .service .verbose
      ["conn ", conn, ": stop deferred, file transfer in flight"]]⟩
  else
    ((b.stop state).map (·.map fun () => true)).andTell fun
      | .error fault => [.faultLine .service fault "mark_stopped"]
      | .ok _ => []

def empty (b : Backend σ) (state : σ) (conn : Int32) : Outcome σ (Except Fault Bool) :=
  (b.empty state conn).andTell fun
    | .error fault => [.faultLine .service fault "empty_clipboard"]
    | .ok _ => []

/-- Forgets the exchange of a connection; one that was never heard of stays so. -/
def resetExchange (s : Server) (conn : Int32) : Server :=
  match s.exchanges[conn]? with
  | some x => s.setExchange conn x.reset
  | none => s

end Server

end RemoteClipboard
