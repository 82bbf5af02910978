import RemoteClipboard.Bytes

/-! # Clipboard messages

One exchange between two sides runs through eight kinds of message:

* `MonitorReady` or `FormatList` opens it, or opens it anew;
* `FormatListResponse` acknowledges the formats on offer;
* `FormatDataRequest` and `FormatDataResponse` fetch the bytes of one format;
* `FileContentsRequest` and `FileContentsResponse` fetch ranges of copied files;
* `NotifyCallback` stands outside the exchange and may come at any time.

Each kind has a tag, the same for ever, by which the wire and the logs name it. -/

namespace RemoteClipboard

namespace Message

inductive Kind
  | notifyCallback
  | monitorReady
  | formatList
  | formatListResponse
  | formatDataRequest
  | formatDataResponse
  | fileContentsRequest
  | fileContentsResponse
  deriving DecidableEq

namespace Kind

def all : List Kind :=
  [notifyCallback, monitorReady, formatList, formatListResponse, formatDataRequest,
    formatDataResponse, fileContentsRequest, fileContentsResponse]

def tag : Kind → String
  | notifyCallback => "NotifyCallback"
  | monitorReady => "MonitorReady"
  | formatList => "FormatList"
  | formatListResponse => "FormatListResponse"
  | formatDataRequest => "FormatDataRequest"
  | formatDataResponse => "FormatDataResponse"
  | fileContentsRequest => "FileContentsRequest"
  | fileContentsResponse => "FileContentsResponse"

/-- The tag of a kind as it stands on the wire. -/
def wireTag (k : Kind) : Bytes := Bytes.ofString k.tag

/-- The kind with a given tag, if there is one. -/
def ofTag? (tag : Bytes) : Option Kind := all.find? (fun k => k.wireTag = tag)

/-- The number of a kind: its place in `all`. -/
def number : Kind → Nat
  | notifyCallback => 0
  | monitorReady => 1
  | formatList => 2
  | formatListResponse => 3
  | formatDataRequest => 4
  | formatDataResponse => 5
  | fileContentsRequest => 6
  | fileContentsResponse => 7

/-- The tag for a kind's number; numbers past the last kind share one word. -/
def tagOfNumber (n : Nat) : String := (all[n]?.map tag).getD "Unknown"

/-- The kinds that may open an exchange. -/
def isBeginning : Kind → Bool
  | monitorReady | formatList => true
  | _ => false

/-- The kinds after which no file transfer is in flight, so that the backend may be stopped. -/
def isStopAllowed : Kind → Bool
  | monitorReady | formatList | formatDataRequest => true
  | _ => false

/-- The kinds that the backend serves. -/
def isFile : Kind → Bool
  | fileContentsRequest | fileContentsResponse => true
  | _ => false

@[simp] theorem ofTag?_wireTag (k : Kind) : ofTag? k.wireTag = some k := by
  cases k <;> decide

/-- A tag names at most one kind, and that kind has it. -/
theorem ofTag?_eq_some_iff {tag : Bytes} {k : Kind} : ofTag? tag = some k ↔ tag = k.wireTag := by
  refine ⟨fun h => ?_, fun h => h ▸ ofTag?_wireTag k⟩
  have found : k.wireTag = tag := by simpa using List.find?_some h
  exact found.symm

end Kind

structure FormatEntry where
  id : Int32
  name : Bytes
  deriving DecidableEq

/-- A request for the size of a copied file, or for a range of its bytes.  The offset comes in two
signed halves. -/
structure FileRequest where
  stream : Int32
  index : Int32
  operation : Int32
  offsetLow : Int32
  offsetHigh : Int32
  requested : Int32
  clipData : Option Int32 := none
  deriving DecidableEq

namespace FileRequest

/-- Operation: answer with the size of the file. -/
def sizeOperation : Int32 := 1

/-- Operation: answer with a range of its bytes. -/
def rangeOperation : Int32 := 2

/-- The offset that the two halves stand for, each taken as an unsigned word. -/
def offset (r : FileRequest) : Nat :=
  r.offsetHigh.toUInt32.toNat * UInt32.size + r.offsetLow.toUInt32.toNat

end FileRequest

/-- The answer to a `FileRequest`, matched to it by its stream number. -/
structure FileReply where
  status : Int32
  stream : Int32
  payload : Bytes
  deriving DecidableEq

namespace FileReply

/-- Status of an answer that carries what was asked for. -/
def okStatus : Int32 := 1

/-- Status of an answer that only says that the request failed. -/
def failStatus : Int32 := 2

end FileReply

end Message

open Message in
inductive Message
  | notifyCallback (kind title text : Bytes)
  | monitorReady
  | formatList (entries : List FormatEntry)
  | formatListResponse (status : Int32)
  | formatDataRequest (format : Int32)
  | formatDataResponse (status : Int32) (payload : Bytes)
  | fileContentsRequest (request : FileRequest)
  | fileContentsResponse (reply : FileReply)
  deriving DecidableEq

namespace Message

instance : Inhabited Message := ⟨.monitorReady⟩

def kind : Message → Kind
  | notifyCallback .. => .notifyCallback
  | monitorReady => .monitorReady
  | formatList _ => .formatList
  | formatListResponse _ => .formatListResponse
  | formatDataRequest _ => .formatDataRequest
  | formatDataResponse .. => .formatDataResponse
  | fileContentsRequest _ => .fileContentsRequest
  | fileContentsResponse _ => .fileContentsResponse

def tag (m : Message) : String := m.kind.tag

def isBeginning (m : Message) : Bool := m.kind.isBeginning

/-- Whether the backend may be stopped right after a message. -/
def isStopAllowed (m : Message) : Bool := m.kind.isStopAllowed

def isFile (m : Message) : Bool := m.kind.isFile

theorem isBeginning_iff {m : Message} :
    m.isBeginning = true ↔ m.kind = .monitorReady ∨ m.kind = .formatList := by
  cases m <;> simp [isBeginning, Kind.isBeginning, kind]

theorem isStopAllowed_iff {m : Message} :
    m.isStopAllowed = true ↔
      m.kind = .monitorReady ∨ m.kind = .formatList ∨ m.kind = .formatDataRequest := by
  cases m <;> simp [isStopAllowed, Kind.isStopAllowed, kind]

theorem isFile_iff {m : Message} :
    m.isFile = true ↔ m.kind = .fileContentsRequest ∨ m.kind = .fileContentsResponse := by
  cases m <;> simp [isFile, Kind.isFile, kind]

end Message

end RemoteClipboard
