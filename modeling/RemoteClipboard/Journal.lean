import RemoteClipboard.Fault

/-! # What operations make known

An operation changes a state, has a result, and makes things known on the way: lines for the log
and events for whoever registered an interest.  All three come back together as an `Outcome`; the
journal is in order and complete, and which of its lines are written is decided afterwards by the
levels (`Journal.records`). -/

namespace RemoteClipboard

/-- Something that a registered observer is told. -/
inductive Event
  /-- The server accepted a message that is not for the backend. -/
  | message (conn : Int32) (m : Message)
  /-- A message failed inside the server's loop. -/
  | fault (conn : Int32) (f : Fault)
  /-- File data arrived. -/
  | fileContents (conn : Int32) (reply : Message.FileReply)
  /-- A scripted backend was told to stop. -/
  | scriptStopped
  /-- A scripted backend was told to empty a connection's clipboard. -/
  | scriptEmptied (conn : Int32)
  /-- A scripted backend was given a message to serve. -/
  | scriptServed (conn : Int32) (m : Message)
  deriving DecidableEq

inductive Notice
  | log (r : Log.Record)
  | event (e : Event)
  deriving DecidableEq

namespace Notice

def record? : Notice → Option Log.Record
  | log r => some r
  | event _ => none

def event? : Notice → Option Event
  | log _ => none
  | event e => some e

def line (domain : Log.Domain) (level : Log.Level) (pieces : List Log.Piece) : Notice :=
  log ⟨domain, level, Log.text pieces⟩

def faultLine (domain : Log.Domain) (f : Fault) (context : String) : Notice :=
  log (f.record domain (some (Bytes.ofString context)))

end Notice

/-- What was made known, in order. -/
abbrev Journal := List Notice

namespace Journal

/-- The log lines that are written at some levels. -/
def records (ls : Log.Levels) (j : Journal) : List Log.Record :=
  ls.keep (j.filterMap Notice.record?)

/-- What is written is what the levels let through. -/
theorem records_eq (ls : Log.Levels) (j : Journal) :
    j.records ls = (j.filterMap Notice.record?).filter fun r => ls.admits r.domain r.level :=
  ls.keep_eq_filter _

def events (j : Journal) : List Event := j.filterMap Notice.event?

@[simp] theorem events_nil : events [] = [] := rfl

@[simp] theorem events_append (i j : Journal) : events (i ++ j) = events i ++ events j :=
  List.filterMap_append

@[simp] theorem events_line (domain : Log.Domain) (level : Log.Level) (pieces : List Log.Piece)
    (j : Journal) : events (Notice.line domain level pieces :: j) = events j := rfl

@[simp] theorem events_faultLine (domain : Log.Domain) (f : Fault) (context : String)
    (j : Journal) : events (Notice.faultLine domain f context :: j) = events j := rfl

@[simp] theorem events_event (e : Event) (j : Journal) :
    events (Notice.event e :: j) = e :: events j := rfl

end Journal

/-- How an operation on a state ends. -/
structure Outcome (σ α : Type) where
  result : α
  state : σ
  journal : Journal := []

namespace Outcome

variable {σ τ α β : Type}

/-- The same outcome seen as one of a larger state. -/
def mapState (f : σ → τ) (o : Outcome σ α) : Outcome τ α :=
  ⟨o.result, f o.state, o.journal⟩

/-- The same outcome with another form of its result. -/
def map (f : α → β) (o : Outcome σ α) : Outcome σ β :=
  ⟨f o.result, o.state, o.journal⟩

/-- The same outcome with more to tell, depending on the result. -/
def andTell (o : Outcome σ α) (f : α → Journal) : Outcome σ α :=
  { o with journal := o.journal ++ f o.result }

end Outcome

end RemoteClipboard
