import RemoteClipboard.Backend
import RemoteClipboard.Delivery.Routing
import RemoteClipboard.Files.Tree

/-! # Sharing files

A `FileShare` is the backend that offers local files.  Each connection has its own list of files;
a request names one by its place in the list of the connection that asks, and is answered with the
size of the file or a range of its bytes.

`FileShare.read` finds the answer, and has no effect: what it says depends on the list of one
connection and on the files named there.  `FileShare.serve` sends it: an answer goes out for every
request, also for one that failed. -/

namespace RemoteClipboard

open Message (FileRequest FileReply)

structure FileShare where
  lists : Std.HashMap Int32 (List Bytes) := {}
  stopped : Bool := false
  /-- The largest range that is read at once. -/
  maxRead : UInt32 := maxPayloadSize
  /-- Whether someone wants the file data that arrives. -/
  wantsContents : Bool := false

namespace FileShare

/-! ## Offering files -/

/-- Offers a list of files to a connection in place of what was offered before. -/
def offer (s : FileShare) (conn : Int32) (paths : List Bytes) : Outcome FileShare Unit :=
  ⟨(), { s with lists := s.lists.insert conn paths },
    [.line .service .verbose ["conn ", conn, ": offering ", paths.length, " file(s)"]]⟩

def offered (s : FileShare) (conn : Int32) : List Bytes := s.lists.getD conn []

/-- Withdraws all files from a connection, and says whether it had a list. -/
def withdraw (s : FileShare) (conn : Int32) : Outcome FileShare (Except Fault Bool) :=
  ⟨.ok (s.lists.contains conn), { s with lists := s.lists.erase conn }, []⟩

def stop (s : FileShare) : Outcome FileShare (Except Fault Unit) :=
  ⟨.ok (), { s with stopped := true },
    if s.stopped then [] else [.line .service .info ["file service stopped"]]⟩

/-! ## Reading files -/

/-- The path that a request of a connection names. -/
def resolve (s : FileShare) (conn index : Int32) : Except Fault Bytes :=
  match s.lists[conn]? with
  | none => .error (Fault.noFilesOffered conn)
  | some paths =>
    let outOfRange := Fault.indexOutOfRange index paths.length
    if index < 0 then .error outOfRange
    else
      match paths[index.toInt.toNat]? with
      | none => .error outOfRange
      | some path => .ok path

def findFile (disk : Disk) (path : Bytes) : Except Fault (File × File.Access) :=
  (disk path).mapError (Fault.fileError path)

def readSize (disk : Disk) (path : Bytes) : Except Fault Bytes :=
  (findFile disk path).map fun (file, _) => le64 (UInt64.ofNat file.size)

/-- Opens a file, goes to a place in it and reads so many bytes, fewer where the file ends. -/
def readFrom (path : Bytes) (file : File) (access : File.Access) (offset count : Nat) :
    Except Fault Bytes :=
  match access.refusal with
  | some cause => .error (Fault.fileError path cause.orInputOutput)
  | none =>
    if !access.seeks offset then .error (Fault.fileError path SystemCause.inputOutput)
    else if !access.reads offset count then .error (Fault.fileError path SystemCause.inputOutput)
    else .ok (file.read offset count)

/-- The bytes of a file that a request asks for.  A size that is refused is refused before the file
is looked for, and where nothing is left to read the file is not opened. -/
def readRange (s : FileShare) (disk : Disk) (path : Bytes) (r : FileRequest) :
    Except Fault Bytes :=
  if r.requested < 0 then .error Fault.negativeSize
  else if s.maxRead < r.requested.toUInt32 then
    .error (Fault.sizeOverLimit r.requested s.maxRead)
  else (findFile disk path).bind fun (file, access) =>
    if file.size ≤ r.offset ∨ r.requested = 0 then .ok []
    else readFrom path file access r.offset r.requested.toInt.toNat

/-- What a request of a connection is answered with. -/
def read (s : FileShare) (disk : Disk) (conn : Int32) (r : FileRequest) : Except Fault Bytes :=
  match s.resolve conn r.index with
  | .error fault => .error fault
  | .ok path =>
    if r.operation = FileRequest.sizeOperation then readSize disk path
    else if r.operation = FileRequest.rangeOperation then s.readRange disk path r
    else .error (Fault.unsupportedOperation r.operation)

/-! ## Serving messages -/

/-- Answers a request of a connection over its outbound queue.  A request that fails is answered as
failed, and ends with the fault that made it fail, whether or not the answer arrives. -/
def reply (s : FileShare) (disk : Disk) (routing : Routing) (outbound : Registry) (conn : Int32)
    (r : FileRequest) : Outcome Registry (Except Fault Unit) :=
  match s.read disk conn r with
  | .error fault =>
    let failed : FileReply := ⟨FileReply.failStatus, r.stream, []⟩
    let sent := (routing.send outbound conn (.fileContentsResponse failed)).andTell fun
      | .ok () => []
      | .error undelivered =>
        [.faultLine .service undelivered "failure reply not delivered"]
    sent.map fun _ => .error fault
  | .ok data =>
    let found : FileReply := ⟨FileReply.okStatus, r.stream, data⟩
    let sent := routing.send outbound conn (.fileContentsResponse found)
    let announced : Notice := .line .service .verbose
      ["conn ", conn, " stream ", r.stream, ": replying with ", data.length, " bytes"]
    { sent with journal := announced :: sent.journal }

/-- Handles a file message of a connection: answers a request, hands on data that arrives, and
refuses everything else.  Once stopped it refuses all. -/
def serve (s : FileShare) (disk : Disk) (routing : Routing) (outbound : Registry) (conn : Int32)
    (m : Message) : Outcome Registry (Except Fault Unit) :=
  if s.stopped then ⟨.error Fault.serviceStopped, outbound, []⟩
  else
    match m with
    | .fileContentsRequest r => s.reply disk routing outbound conn r
    | .fileContentsResponse arrived =>
      ⟨.ok (), outbound,
        if s.wantsContents then [.event (.fileContents conn arrived)]
        else [.line .service .verbose
          ["conn ", conn, ": file contents dropped, no consumer"]]⟩
    | other => ⟨.error (Fault.notFileMessage other.kind), outbound, []⟩

/-- File sharing as a backend: its state is the share and the outbound registry. -/
def backend (disk : Disk) (routing : Routing) : Backend (FileShare × Registry) where
  stop s := s.1.stop.mapState fun share => (share, s.2)
  empty s conn := (s.1.withdraw conn).mapState fun share => (share, s.2)
  serve s conn m := (s.1.serve disk routing s.2 conn m).mapState fun outbound => (s.1, outbound)

end FileShare

end RemoteClipboard
