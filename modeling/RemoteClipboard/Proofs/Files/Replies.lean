import Mathlib.Tactic.MkIffOfInductiveProp
import RemoteClipboard.Backend.FileShare
import RemoteClipboard.Proofs.Delivery.Sending
import RemoteClipboard.Proofs.Wire.Packets
import RemoteClipboard.Proofs.Wire.RoundTrip

/-! # Which replies get through

A share and the reader on the other side may go by one and the same limit, yet they measure
differently: the share the bytes that it reads from a file, the reader the whole message around
them.  A range that comes within `replyOverhead` bytes of the limit is therefore read and sent, and
then refused at its header (`next_of_served_reply`). -/

namespace RemoteClipboard

open Message (FileRequest FileReply)

/-! ## What a share finds -/

/-- Whether so many bytes are read from a place of a file, or all up to its end. -/
@[mk_iff]
structure File.Access.Grants (access : File.Access) (offset count : Nat) : Prop where
  opens : access.refusal = none
  seeks : access.seeks offset = true
  reads : access.reads offset count = true

/-- A file of which nothing is refused is read from all places that a stream can be set to. -/
theorem File.Access.grants_all {offset : Nat} (below : offset < 0x8000000000000000) (count : Nat) :
    ({} : File.Access).Grants offset count :=
  ⟨rfl, decide_eq_true below, rfl⟩

namespace FileShare

section

variable {s : FileShare} {disk : Disk} {conn : Int32} {r : FileRequest} {file : File}
  {access : File.Access}

/-- Whether a range of a file is had: nothing of it is left to read, or the system lets it be
read. -/
def Readable (r : FileRequest) (file : File) (access : File.Access) : Prop :=
  (file.size ≤ r.offset ∨ r.requested = 0) ∨ access.Grants r.offset r.requested.toInt.toNat

theorem findFile_eq_ok_iff {path : Bytes} {found : File × File.Access} :
    findFile disk path = .ok found ↔ disk path = .ok found := by
  unfold findFile
  cases disk path with
  | error cause =>
    constructor
    · intro ok
      cases ok
    · intro ok
      cases ok
  | ok found =>
    constructor
    · intro ok
      cases ok
      rfl
    · intro ok
      cases ok
      rfl

theorem readSize_eq_ok_iff {path data : Bytes} :
    readSize disk path = .ok data ↔
      ∃ file access, disk path = .ok (file, access) ∧ le64 (UInt64.ofNat file.size) = data := by
  simp only [← findFile_eq_ok_iff, readSize]
  cases findFile disk path with
  | error fault => simp [Except.map]
  | ok found => simp [Except.map, Prod.ext_iff]

theorem readFrom_eq_ok_iff {path data : Bytes} {offset count : Nat} :
    readFrom path file access offset count = .ok data ↔
      access.Grants offset count ∧ file.read offset count = data := by
  unfold readFrom
  rw [File.Access.grants_iff]
  cases access.refusal with
  | some cause => simp
  | none => cases access.seeks offset <;> cases access.reads offset count <;> simp

/-- Nothing is read where nothing is left, or is asked for. -/
theorem read_of_ended (ended : file.size ≤ r.offset ∨ r.requested = 0) :
    file.read r.offset r.requested.toInt.toNat = [] := by
  apply List.eq_nil_of_length_eq_zero
  rw [File.length_read]
  rcases ended with behind | none
  · omega
  · simp [none]

theorem part_eq_ok_iff {path data : Bytes} :
    (if file.size ≤ r.offset ∨ r.requested = 0 then .ok []
      else readFrom path file access r.offset r.requested.toInt.toNat) = .ok data ↔
        Readable r file access ∧ file.read r.offset r.requested.toInt.toNat = data := by
  by_cases ended : file.size ≤ r.offset ∨ r.requested = 0
  · simp only [Readable, ended, if_true, true_or, true_and, read_of_ended ended, Except.ok.injEq]
  · simp only [Readable, ended, if_false, false_or, readFrom_eq_ok_iff]

theorem readRange_eq_ok_iff {path data : Bytes} :
    s.readRange disk path r = .ok data ↔
      0 ≤ r.requested ∧ r.requested.toUInt32 ≤ s.maxRead ∧
        ∃ file access, disk path = .ok (file, access) ∧ Readable r file access ∧
          file.read r.offset r.requested.toInt.toNat = data := by
  unfold readRange
  by_cases negative : r.requested < 0
  · simp [negative, Int32.not_le.mpr negative]
  by_cases beyond : s.maxRead < r.requested.toUInt32
  · simp [negative, beyond, UInt32.not_le.mpr beyond]
  simp only [negative, beyond, if_false, Int32.not_lt.mp negative, UInt32.not_lt.mp beyond,
    true_and, ← findFile_eq_ok_iff]
  cases findFile disk path with
  | error fault => simp [Except.bind]
  | ok found =>
    constructor
    · intro had
      exact ⟨found.1, found.2, rfl, part_eq_ok_iff.mp had⟩
    · rintro ⟨_, _, same, had⟩
      cases same
      exact part_eq_ok_iff.mpr had

/-- What a share finds is the size of the file or a range of its bytes. -/
theorem read_eq_ok_iff {data : Bytes} :
    s.read disk conn r = .ok data ↔
      ∃ path, s.resolve conn r.index = .ok path ∧
        (r.operation = FileRequest.sizeOperation ∧ readSize disk path = .ok data ∨
          r.operation = FileRequest.rangeOperation ∧ s.readRange disk path r = .ok data) := by
  have differ : FileRequest.rangeOperation ≠ FileRequest.sizeOperation := by decide
  unfold read
  cases s.resolve conn r.index with
  | error fault => simp
  | ok path =>
    by_cases size : r.operation = FileRequest.sizeOperation
    · simp [size, differ.symm]
    by_cases range : r.operation = FileRequest.rangeOperation
    · simp [range, differ]
    · simp [size, range]

theorem read_of_size {path : Bytes} (resolved : s.resolve conn r.index = .ok path)
    (operation : r.operation = FileRequest.sizeOperation) (found : disk path = .ok (file, access)) :
    s.read disk conn r = .ok (le64 (UInt64.ofNat file.size)) := by
  have size : readSize disk path = .ok (le64 (UInt64.ofNat file.size)) :=
    readSize_eq_ok_iff.mpr ⟨file, access, found, rfl⟩
  exact read_eq_ok_iff.mpr ⟨path, resolved, .inl ⟨operation, size⟩⟩

theorem read_of_range {path : Bytes} (resolved : s.resolve conn r.index = .ok path)
    (operation : r.operation = FileRequest.rangeOperation)
    (found : disk path = .ok (file, access)) (readable : Readable r file access)
    (nonnegative : 0 ≤ r.requested) (allowed : r.requested.toUInt32 ≤ s.maxRead) :
    s.read disk conn r = .ok (file.read r.offset r.requested.toInt.toNat) := by
  have range : s.readRange disk path r = .ok (file.read r.offset r.requested.toInt.toNat) :=
    readRange_eq_ok_iff.mpr ⟨nonnegative, allowed, file, access, found, readable, rfl⟩
  exact read_eq_ok_iff.mpr ⟨path, resolved, .inr ⟨operation, range⟩⟩

/-! ## What a share answers -/

/-- What a request of a connection is answered with. -/
def answer (s : FileShare) (disk : Disk) (conn : Int32) (r : FileRequest) : FileReply :=
  match s.read disk conn r with
  | .error _ => ⟨FileReply.failStatus, r.stream, []⟩
  | .ok data => ⟨FileReply.okStatus, r.stream, data⟩

theorem answer_of_read {data : Bytes} (found : s.read disk conn r = .ok data) :
    s.answer disk conn r = ⟨FileReply.okStatus, r.stream, data⟩ := by
  rw [answer, found]

/-- Serving a request sends the answer to it, unless the share is stopped. -/
theorem state_serve_request (s : FileShare) (disk : Disk) (routing : Routing) (outbound : Registry)
    (conn : Int32) (r : FileRequest) :
    (s.serve disk routing outbound conn (.fileContentsRequest r)).state =
      if s.stopped then outbound
      else (routing.send outbound conn (.fileContentsResponse (s.answer disk conn r))).state := by
  unfold serve
  by_cases stopped : s.stopped = true
  · simp only [stopped, if_true]
  · simp only [stopped]
    unfold reply answer
    cases s.read disk conn r with
    | error fault => rfl
    | ok data => rfl

/-- An answer carries no more than the eight bytes of a size, or it carries a range of a file. -/
theorem payload_answer (s : FileShare) (disk : Disk) (conn : Int32) (r : FileRequest) :
    (s.answer disk conn r).payload.length ≤ 8 ∨
      r.operation = FileRequest.rangeOperation ∧ r.requested.toUInt32 ≤ s.maxRead ∧
        ∃ path file access, s.resolve conn r.index = .ok path ∧
          disk path = .ok (file, access) ∧ Readable r file access ∧
          (s.answer disk conn r).payload = file.read r.offset r.requested.toInt.toNat := by
  unfold answer
  cases read : s.read disk conn r with
  | error fault => exact .inl (Nat.zero_le 8)
  | ok data =>
    obtain ⟨path, resolved, ⟨-, size⟩ | ⟨range, found⟩⟩ := read_eq_ok_iff.mp read
    · obtain ⟨_, _, -, eight⟩ := readSize_eq_ok_iff.mp size
      rw [← eight]
      exact .inl (Nat.le_of_eq (length_le64 _))
    · obtain ⟨-, allowed, file, access, found, readable, eq⟩ := readRange_eq_ok_iff.mp found
      exact .inr ⟨range, allowed, path, file, access, resolved, found, readable, eq.symm⟩

/-! ## Answers that are too long -/

/-- The number of bytes around the payload of a reply as it is written: the lengths of its tag and
of its fields, the tag, and the fields themselves. -/
def replyOverhead : Nat := 38

theorem length_encode_reply (reply : FileReply) :
    (Message.fileContentsResponse reply).encode.length =
      replyOverhead + reply.payload.length := by
  have tag : Message.Kind.fileContentsResponse.wireTag.length = 20 := by decide
  simp only [Message.encode, Message.frame, Message.kind, Message.payload, FileReply.fields,
    Message.length_counted, List.length_append, length_le16, length_leInt32, tag, replyOverhead]
  omega

/-- Whether a request is for a range that its share may read and that, with what stands around it,
is longer than the most that its share may read. -/
def Overfills (s : FileShare) (disk : Disk) (conn : Int32) (r : FileRequest) : Prop :=
  r.operation = FileRequest.rangeOperation ∧ r.requested.toUInt32 ≤ s.maxRead ∧
    ∃ path file access, s.resolve conn r.index = .ok path ∧ disk path = .ok (file, access) ∧
      Readable r file access ∧
      s.maxRead.toNat < replyOverhead + min r.requested.toInt.toNat (file.size - r.offset)

theorem payload_of_overfills (large : 64 ≤ s.maxRead.toNat) (overfills : s.Overfills disk conn r) :
    s.maxRead.toNat < replyOverhead + (s.answer disk conn r).payload.length := by
  obtain ⟨range, allowed, path, file, access, resolved, found, readable, long⟩ := overfills
  -- A range of negative size would be empty, and its reply far below the limit.
  have positive : 0 ≤ r.requested := by
    refine Int32.not_lt.mp ?_
    intro negative
    have below := Int32.lt_iff_toInt_lt.mp negative
    have none : r.requested.toInt.toNat = 0 := Int.toNat_of_nonpos (Int.le_of_lt below)
    simp only [none, replyOverhead] at long
    omega
  have read := read_of_range resolved range found readable positive allowed
  simpa only [answer_of_read read, File.length_read] using long

theorem overfills_iff (large : 64 ≤ s.maxRead.toNat) :
    s.Overfills disk conn r ↔
      s.maxRead.toNat < replyOverhead + (s.answer disk conn r).payload.length := by
  refine ⟨payload_of_overfills large, ?_⟩
  intro long
  rcases payload_answer s disk conn r with eight | ranged
  · unfold replyOverhead at long
    omega
  · obtain ⟨range, allowed, path, file, access, resolved, found, readable, eq⟩ := ranged
    rw [eq, File.length_read] at long
    exact ⟨range, allowed, path, file, access, resolved, found, readable, long⟩

theorem length_answer_lt (s : FileShare) (disk : Disk) (conn : Int32) (r : FileRequest) :
    replyOverhead + (s.answer disk conn r).payload.length < UInt32.size := by
  unfold replyOverhead UInt32.size
  rcases payload_answer s disk conn r with eight | ranged
  · omega
  · obtain ⟨-, -, _, file, _, -, -, -, eq⟩ := ranged
    have bound := r.requested.toInt_lt
    rw [eq, File.length_read]
    omega

/-! ## Answers on the wire -/

/-- A reply comes back from the wire if it keeps to the limit with all that stands around it, and is
refused as too large if it does not. -/
theorem next_of_reply (limits : Limits) {reply : FileReply}
    (short : replyOverhead + reply.payload.length < UInt32.size) :
    (({ limits } : PacketStream).feed (Message.fileContentsResponse reply).packet).next.result =
      if replyOverhead + reply.payload.length ≤ limits.maxPayload.toNat then
        .ok (.fileContentsResponse reply)
      else
        .error (Fault.payloadTooLarge (UInt32.ofNat (replyOverhead + reply.payload.length))) := by
  have length := length_encode_reply reply
  have small : (Message.fileContentsResponse reply).encode.length < UInt32.size := by
    rw [length]
    exact short
  have payload : (Message.fileContentsResponse reply).payload.length < UInt32.size := by
    simp only [Message.payload, FileReply.fields, Message.length_counted, List.length_append,
      length_leInt32]
    unfold replyOverhead at short
    omega
  have fed := PacketStream.unread_feed { limits } (Message.fileContentsResponse reply).packet
  have empty : ({ limits } : PacketStream).unread = [] := rfl
  rw [empty, List.nil_append] at fed
  have unread := fed.trans (List.append_nil _).symm
  rw [← length]
  split
  next fits =>
    rw [(PacketStream.next_of_packet_of_le small unread fits).1]
    exact Message.decode_encode payload (by intro _ eq; cases eq)
  next beyond =>
    exact (PacketStream.next_of_packet_of_lt small unread (Nat.not_le.mp beyond)).1

/-- Where serving a request changes a queue, the queue has taken in the answer. -/
theorem waiting_of_serve_request {routing : Routing} {outbound : Registry} {slot : Nat}
    {before after : Queue Message} (held : outbound.queue? slot = some before)
    (holds : (s.serve disk routing outbound conn (.fileContentsRequest r)).state.queue? slot =
      some after) (changed : after ≠ before) :
    after.waiting = before.waiting ++ [.fileContentsResponse (s.answer disk conn r)] := by
  rw [state_serve_request] at holds
  split at holds
  next => exact absurd (Option.some.inj (holds.symm.trans held)) changed
  next =>
    rcases Routing.queue?_send routing conn held with same | pushed
    · exact absurd (Option.some.inj (holds.symm.trans same)) changed
    · have eq := Option.some.inj (holds.symm.trans pushed)
      unfold Queue.push at eq
      split at eq
      next => exact absurd eq changed
      next => rw [eq]

end

/-! ## One file of the size of the limit -/

namespace Single

/-- A share that offers connection 5 one file and reads no more than 64 bytes at once. -/
def share : FileShare where
  lists := ({} : Std.HashMap Int32 (List Bytes)).insert 5 [[102]]
  maxRead := 64

/-- The disk on which every path leads to a file of 64 bytes. -/
def disk : Disk := fun _ => .ok (File.ramp 64 251, {})

/-- The registry in which connection 5 waits for what is sent to it. -/
def outbound : Registry := (({} : Registry).add none 5).2

/-- A request for the first bytes of the file. -/
def request (count : Int32) : FileRequest :=
  ⟨1, 0, FileRequest.rangeOperation, 0, 0, count, none⟩

theorem resolve_share : share.resolve 5 0 = .ok [102] := by
  simp [resolve, share]

theorem offset_request (count : Int32) : (request count).offset = 0 := by
  have zero : (0 : Int32).toUInt32.toNat = 0 := by decide
  rw [FileRequest.offset, request, zero, Nat.zero_mul]

theorem readable_request (count : Int32) (file : File) : Readable (request count) file {} := by
  refine .inr (File.Access.grants_all ?_ _)
  rw [offset_request]
  decide

theorem answer_request (count : Int32) (positive : 0 ≤ count) (allowed : count.toUInt32 ≤ 64) :
    share.answer disk 5 (request count) =
      ⟨FileReply.okStatus, 1, (File.ramp 64 251).read 0 count.toInt.toNat⟩ := by
  have found : disk [102] = .ok (File.ramp 64 251, {}) := rfl
  have read := read_of_range (r := request count) resolve_share rfl found
    (readable_request count _) positive allowed
  rw [answer_of_read read, offset_request]
  rfl

theorem queue?_outbound : outbound.queue? 0 = some {} := by
  simp [outbound, Registry.add, Registry.queue?]

theorem findConn?_outbound : outbound.findConn? 5 = some (0, ⟨none, 5, {}⟩) := by
  have slot : outbound.byConn[(5 : Int32)]? = some 0 := by
    rw [outbound, Registry.add, Std.HashMap.getElem?_insertIfNew]
    simp
  rw [Registry.findConn?, slot]
  simp [outbound, Registry.add]

theorem queue?_serve (r : FileRequest) :
    (share.serve disk ⟨true, 0⟩ outbound 5 (.fileContentsRequest r)).state.queue? 0 =
      some ⟨[.fileContentsResponse (share.answer disk 5 r)], false⟩ := by
  have running : share.stopped = false := rfl
  rw [state_serve_request, running]
  simp [Routing.send, Registry.post, Registry.push?, findConn?_outbound, Queue.push,
    Registry.queue?_setQueue, queue?_outbound]

end Single

/-! ## Which answers come back -/

/-- The answer that a share puts into a queue comes back from the wire, for a reader that goes by
the limit of the share, exactly if the request does not overfill; else it is refused as too
large. -/
theorem next_of_served_reply {s : FileShare} {disk : Disk} {routing : Routing} {outbound : Registry}
    {conn : Int32} {r : FileRequest} {limits : Limits} {slot : Nat} {before after : Queue Message}
    (shared : limits.maxPayload = s.maxRead) (large : 64 ≤ s.maxRead.toNat)
    (held : outbound.queue? slot = some before)
    (holds : (s.serve disk routing outbound conn (.fileContentsRequest r)).state.queue? slot =
      some after) (changed : after ≠ before) :
    ∃ reply, after.waiting = before.waiting ++ [.fileContentsResponse reply] ∧
      let stream := ({ limits } : PacketStream).feed (Message.fileContentsResponse reply).packet
      (stream.next.result = .ok (.fileContentsResponse reply) ↔ ¬ s.Overfills disk conn r) ∧
        (s.Overfills disk conn r → stream.next.result = .error
          (Fault.payloadTooLarge (UInt32.ofNat (replyOverhead + reply.payload.length)))) := by
  refine ⟨s.answer disk conn r, waiting_of_serve_request held holds changed, ?_⟩
  have next := next_of_reply limits (length_answer_lt s disk conn r)
  rw [shared] at next
  simp only [next, overfills_iff large, Nat.not_lt]
  split
  next fits => simp [fits, Nat.not_lt.mpr fits]
  next beyond => simp [beyond, Nat.not_le.mp beyond]

/-- A range of eight bytes comes back, with 64 as the limit of both sides. -/
theorem next_of_short_range :
    let m := Message.fileContentsResponse ⟨FileReply.okStatus, 1, [0, 1, 2, 3, 4, 5, 6, 7]⟩
    (Single.share.serve Single.disk ⟨true, 0⟩ Single.outbound 5
      (.fileContentsRequest (Single.request 8))).state.queue? 0 = some ⟨[m], false⟩ ∧
    (({ limits := { maxPayload := 64 } } : PacketStream).feed m.packet).next.result = .ok m := by
  intro m
  have answered := Single.answer_request 8 (by decide) (by decide)
  have holds := Single.queue?_serve (Single.request 8)
  rw [answered] at holds
  have fits : ¬ Single.share.Overfills Single.disk 5 (Single.request 8) := by
    rw [overfills_iff (by decide), answered]
    decide
  have shared : ({ maxPayload := 64 } : Limits).maxPayload = Single.share.maxRead := rfl
  obtain ⟨reply, waiting, back, -⟩ :=
    next_of_served_reply shared (by decide) Single.queue?_outbound holds (by decide)
  cases waiting
  exact ⟨holds, back.mpr fits⟩

/-- The whole file does not come back, although it is no longer than the limit of both sides. -/
theorem next_of_full_range :
    let m := Message.fileContentsResponse
      ⟨FileReply.okStatus, 1, (File.ramp 64 251).content⟩
    (Single.share.serve Single.disk ⟨true, 0⟩ Single.outbound 5
      (.fileContentsRequest (Single.request 64))).state.queue? 0 = some ⟨[m], false⟩ ∧
    (({ limits := { maxPayload := 64 } } : PacketStream).feed m.packet).next.result =
      .error (Fault.payloadTooLarge 102) := by
  intro m
  have answered := Single.answer_request 64 (by decide) (by decide)
  have holds := Single.queue?_serve (Single.request 64)
  rw [answered] at holds
  have length : (File.ramp 64 251).content.length = 64 := by simp [File.content, File.ramp]
  refine ⟨holds, ?_⟩
  rw [next_of_reply _ (by rw [length]; decide), length]
  rfl

end FileShare

end RemoteClipboard
