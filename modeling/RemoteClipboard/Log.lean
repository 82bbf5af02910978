import RemoteClipboard.Bytes

/-! # Logging

A log line belongs to a `Domain` and has a `Level`.  Each domain has a level of its own, and a line
is let through when its level is at least that of its domain (`Levels.admits`).  Levels never do
anything but let lines through: the operations of this library report every line, and only then are
the levels looked at, once before a line is composed (`Levels.report`) and again before it is
written (`Levels.write`).  Both ask the same, so that together they are one filter
(`Levels.keep_eq_filter`). -/

namespace RemoteClipboard

namespace Log

/-- The areas that log on their own account. -/
inductive Domain
  | registry
  | dispatch
  | service
  | protocol
  deriving DecidableEq

namespace Domain

def all : List Domain := [registry, dispatch, service, protocol]

def name : Domain → String
  | registry => "Registry"
  | dispatch => "Dispatch"
  | service => "Service"
  | protocol => "Protocol"

/-- The domain with a given name; a zero byte ends the name. -/
def named? (name : Bytes) : Option Domain :=
  all.find? (fun d => Bytes.ofString d.name = name.beforeNul)

end Domain

/-- How much a line matters.  Any signed byte is a level; six of them have names. -/
structure Level where
  value : Int8
  deriving DecidableEq

namespace Level

/-- Steps of interest to whoever looks for a mistake. -/
def debug : Level := ⟨0⟩
/-- Single actions. -/
def verbose : Level := ⟨1⟩
/-- What happens once in a while. -/
def info : Level := ⟨2⟩
/-- Something was turned away or lost. -/
def warning : Level := ⟨3⟩
/-- Something failed. -/
def error : Level := ⟨4⟩

/-- As a domain's level, lets nothing through that has a name; no line is ever written at it. -/
def off : Level := ⟨5⟩

def known : List (Level × String) :=
  [(debug, "DEBUG"), (verbose, "VERBOSE"), (info, "INFO"), (warning, "WARNING"),
    (error, "ERROR"), (off, "NONE")]

/-- The name of a level, or a question mark. -/
def name (l : Level) : String := (known.lookup l).getD "?"

/-- The levels at which an area can write, from the least to the most pressing. -/
def writable : List Level := [debug, verbose, info, warning, error]

end Level

structure Levels where
  registry : Level := Level.info
  dispatch : Level := Level.info
  service : Level := Level.info
  protocol : Level := Level.info
  deriving DecidableEq

namespace Levels

def uniform (l : Level) : Levels := ⟨l, l, l, l⟩

def of (ls : Levels) : Domain → Level
  | .registry => ls.registry
  | .dispatch => ls.dispatch
  | .service => ls.service
  | .protocol => ls.protocol

def set (ls : Levels) (d : Domain) (l : Level) : Levels :=
  match d with
  | .registry => { ls with registry := l }
  | .dispatch => { ls with dispatch := l }
  | .service => { ls with service := l }
  | .protocol => { ls with protocol := l }

/-- Whether a line of some level in some domain is let through. -/
def admits (ls : Levels) (d : Domain) (l : Level) : Bool :=
  l ≠ Level.off && (ls.of d).value ≤ l.value

@[simp] theorem of_uniform (l : Level) (d : Domain) : (uniform l).of d = l := by
  cases d <;> rfl

end Levels

structure Record where
  domain : Domain
  level : Level
  text : Bytes
  deriving DecidableEq

namespace Levels

variable (ls : Levels)

/-- What is written of a line: whoever writes looks at its level. -/
def write (r : Record) : List Record := if ls.admits r.domain r.level then [r] else []

/-- What a place in this library that logs has written of a line.  It looks at the level itself, so
that a line that is not wanted is not even composed. -/
def report (r : Record) : List Record := if ls.admits r.domain r.level then ls.write r else []

/-- What is written of the lines that operations report, in order. -/
def keep (records : List Record) : List Record := records.flatMap ls.report

/-- Who asks first asks for nothing that the writer does not ask for as well. -/
@[simp] theorem report_eq_write (r : Record) : ls.report r = ls.write r := by
  rw [report, write]
  split
  next => rfl
  next => rfl

/-- The two questions together are one filter. -/
theorem keep_eq_filter (records : List Record) :
    ls.keep records = records.filter fun r => ls.admits r.domain r.level := by
  induction records with
  | nil => rfl
  | cons r records ih =>
    rw [keep, List.flatMap_cons, ← keep, ih, report_eq_write, write]
    cases admitted : ls.admits r.domain r.level <;> simp [admitted]

end Levels

/-- The form of a line on a terminal. -/
def Record.line (r : Record) : Bytes :=
  Bytes.ofString ("[" ++ r.domain.name ++ "] " ++ r.level.name ++ ": ") ++ r.text.beforeNul ++
    Bytes.ofString "\n"

/-! ## Composing a line -/

inductive Piece
  | words (s : String)
  | number (n : Int)
  /-- A text from outside, up to its first zero byte. -/
  | quote (b : Bytes)
  /-- A status word in eight hexadecimal digits. -/
  | status (n : UInt32)

instance : Coe String Piece := ⟨.words⟩
instance : Coe Nat Piece := ⟨fun n => .number n⟩
instance : Coe Int32 Piece := ⟨fun n => .number n.toInt⟩
instance : Coe Bytes Piece := ⟨.quote⟩

def Piece.bytes : Piece → Bytes
  | words s => Bytes.ofString s
  | number n => Bytes.decimal n
  | quote b => b.beforeNul
  | status n => Bytes.hex8 n

def text (pieces : List Piece) : Bytes := pieces.flatMap Piece.bytes

/-- A line that names a connection, its peer and a status word. -/
def connectionStatus (conn : Int32) (peer : Bytes) (status : UInt32) : Bytes :=
  text ["conn ", conn, " for peer '", peer, "' status 0x", .status status]

/-! ## Where lines go -/

/-- Who receives the lines that are let through. -/
inductive Sink
  /-- A collector that keeps them as records. -/
  | collector
  /-- A terminal, which shows them as text. -/
  | terminal
  deriving DecidableEq

/-- What has become of some lines: records kept and text shown. -/
structure Delivered where
  records : List Record := []
  shown : Bytes := []

/-- Hands over what is written of the lines that were reported. -/
def Sink.deliver (sink : Sink) (ls : Levels) (records : List Record) : Delivered :=
  match sink with
  | collector => { records := ls.keep records }
  | terminal => { shown := (ls.keep records).flatMap Record.line }

end Log

end RemoteClipboard
