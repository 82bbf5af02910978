import RemoteClipboard.Proofs.Files.Answers

/-! # Fetching a whole file

A file is fetched by asking for its size first and then for its bytes, range by range.  `Divides`
lists the requests for these: each range starts where the one before ends, and the last ends with
the file.  However the file is divided, the answers wait for the connection in the order of the
requests, and what they carry, put together, is the file (`serveAll_whole_file`).

A single answer is the matter of `serve_of_read`.  The rest is two inductions that have nothing to
do with each other: one over the requests served (`serveAll_of_reads`), one over the division
(`reads_of_divides`). -/

namespace RemoteClipboard

open Message (FileRequest FileReply)

/-! ## Ranges of a file -/

/-- A range that a file holds, and the range behind it. -/
theorem File.read_append {file : File} {offset count : Nat} (more : Nat)
    (inside : offset + count ≤ file.size) :
    file.read offset count ++ file.read (offset + count) more =
      file.read offset (count + more) := by
  have first : min count (file.size - offset) = count := by omega
  have both : min (count + more) (file.size - offset) =
      count + min more (file.size - (offset + count)) := by omega
  simp only [read, first, both, List.range_add, List.map_append, List.map_map, Function.comp_def,
    Nat.add_assoc]

/-- A range as long as the file holds every byte of it. -/
theorem File.read_zero_size (file : File) :
    file.read 0 file.size = (List.range file.size).map file.byteAt := by
  simp only [read, Nat.sub_zero, Nat.min_self, Nat.zero_add]

namespace Message.FileRequest

/-- The request for so many bytes of a file from a place on, with the place cut into its halves. -/
def range (stream index : Int32) (clipData : Option Int32) (offset count : Nat) : FileRequest where
  stream := stream
  index := index
  operation := rangeOperation
  offsetLow := (UInt32.ofNat offset).toInt32
  offsetHigh := (UInt32.ofNat (offset / UInt32.size)).toInt32
  requested := Int32.ofNat count
  clipData := clipData

section

variable {stream index : Int32} {clipData : Option Int32} {offset count : Nat}

/-- The halves stand for the place that was cut, also where they come out negative. -/
theorem offset_range (small : offset < UInt64.size) :
    (range stream index clipData offset count).offset = offset := by
  simp only [FileRequest.offset, range, UInt32.toUInt32_toInt32, UInt32.toNat_ofNat', UInt32.size,
    UInt64.size] at *
  omega

theorem requested_range (small : count < 0x80000000) :
    (range stream index clipData offset count).requested.toInt = count :=
  Int32.toInt_ofNat_of_lt small

theorem requested_range_nonneg (small : count < 0x80000000) :
    0 ≤ (range stream index clipData offset count).requested := by
  rw [Int32.le_iff_toInt_le, requested_range small]
  exact Int.natCast_nonneg count

theorem requested_range_le {limit : UInt32} (allowed : count ≤ limit.toNat) :
    (range stream index clipData offset count).requested.toUInt32 ≤ limit := by
  rw [range, Int32.toUInt32_ofNat', UInt32.le_iff_toNat_le, UInt32.toNat_ofNat']
  exact Nat.le_trans (Nat.mod_le ..) allowed

end

end Message.FileRequest

namespace FileShare

/-- Requests for the bytes of a file from a place to its end, one range behind the other, none of
them empty and none longer than a limit or than a request can say. -/
inductive Divides (index : Int32) (limit : UInt32) (size : Nat) : Nat → List FileRequest → Prop
  | done : Divides index limit size size []
  | next (stream : Int32) (clipData : Option Int32) {offset count : Nat} {rest : List FileRequest} :
      0 < count → count ≤ limit.toNat → count < 0x80000000 →
      Divides index limit size (offset + count) rest →
      Divides index limit size offset (.range stream index clipData offset count :: rest)

theorem Divides.le {index : Int32} {limit : UInt32} {size offset : Nat}
    {requests : List FileRequest} (divides : Divides index limit size offset requests) :
    offset ≤ size := by
  induction divides with
  | done => exact Nat.le_refl size
  | next _ _ _ _ _ _ ih => omega

/-- Serves requests of a connection one after the other. -/
def serveAll (s : FileShare) (disk : Disk) (routing : Routing) (conn : Int32) :
    Registry → List FileRequest → Outcome Registry (List (Except Fault Unit))
  | outbound, [] => ⟨[], outbound, []⟩
  | outbound, r :: rest =>
    let first := s.serve disk routing outbound conn (.fileContentsRequest r)
    let later := s.serveAll disk routing conn first.state rest
    ⟨first.result :: later.result, later.state, first.journal ++ later.journal⟩

section

variable {s : FileShare} {disk : Disk} {outbound : Registry} {conn : Int32}

/-! ## Serving requests -/

theorem resolve_of_offered {index : Int32} {path : Bytes} (nonnegative : 0 ≤ index)
    (offered : (s.offered conn)[index.toInt.toNat]? = some path) :
    s.resolve conn index = .ok path := by
  rw [FileShare.offered, Std.HashMap.getD_eq_getD_getElem?] at offered
  cases list : s.lists[conn]? with
  | none =>
    rw [list] at offered
    cases offered
  | some paths =>
    rw [list] at offered
    have found : paths[index.toInt.toNat]? = some path := offered
    simp only [resolve, list, Int32.not_lt.mpr nonnegative, if_false, found]

variable (running : s.stopped = false) (directed : conn ≠ 0)
include running directed

/-- What a request finds is put behind what waits for the connection. -/
theorem serve_of_read (routing : Routing) {r : FileRequest} {data : Bytes}
    {waiting : List Message} (found : s.read disk conn r = .ok data)
    (isOpen : outbound.queueOf? conn = some ⟨waiting, false⟩) :
    let served := s.serve disk routing outbound conn (.fileContentsRequest r)
    served.result = .ok () ∧ served.state.queueOf? conn =
      some ⟨waiting ++ [.fileContentsResponse ⟨FileReply.okStatus, r.stream, data⟩], false⟩ := by
  intro served
  obtain ⟨result, after⟩ : served.result = (s.read disk conn r).map (fun _ => ()) ∧
      served.state.queueOf? conn =
        some ⟨waiting ++ [.fileContentsResponse (s.answer disk conn r)], false⟩ :=
    serve_request_of_open running directed isOpen
  rw [found] at result
  rw [answer_of_read found] at after
  exact ⟨result, after⟩

theorem serveAll_of_reads (routing : Routing) {requests : List FileRequest}
    (finds : ∀ r ∈ requests, s.read disk conn r = .ok (s.answer disk conn r).payload)
    {waiting : List Message} (isOpen : outbound.queueOf? conn = some ⟨waiting, false⟩) :
    let served := s.serveAll disk routing conn outbound requests
    served.result = List.replicate requests.length (.ok ()) ∧
      served.state.queueOf? conn = some ⟨waiting ++ requests.map fun r =>
        .fileContentsResponse ⟨FileReply.okStatus, r.stream, (s.answer disk conn r).payload⟩,
        false⟩ := by
  induction requests generalizing outbound waiting with
  | nil => simpa [serveAll] using isOpen
  | cons r rest ih =>
    -- The rest is served behind the answer to the first request, which then waits too.
    obtain ⟨result, after⟩ :=
      serve_of_read running directed routing (finds r List.mem_cons_self) isOpen
    obtain ⟨results, afterAll⟩ := ih (fun r member => finds r (List.mem_cons_of_mem _ member)) after
    simp only [serveAll]
    refine ⟨?_, ?_⟩
    · rw [result, results]
      rfl
    · rw [afterAll, List.append_assoc]
      rfl

end

/-! ## Serving a whole file -/

section

variable {s : FileShare} {disk : Disk} {conn index : Int32} {path : Bytes} {file : File}
  {access : File.Access} (resolved : s.resolve conn index = .ok path)
  (found : disk path = .ok (file, access))
  (granted : ∀ offset count, offset < file.size → access.Grants offset count)
include resolved found granted

theorem read_range {stream : Int32} {clipData : Option Int32} {offset count : Nat}
    (small : offset < UInt64.size) (short : count < 0x80000000) (allowed : count ≤ s.maxRead.toNat) :
    s.read disk conn (.range stream index clipData offset count) =
      .ok (file.read offset count) := by
  have readable : Readable (.range stream index clipData offset count) file access := by
    rw [Readable, FileRequest.offset_range small]
    by_cases behind : file.size ≤ offset
    · exact .inl (.inl behind)
    · exact .inr (granted _ _ (Nat.not_le.mp behind))
  have read := read_of_range (r := .range stream index clipData offset count) resolved rfl found
    readable (FileRequest.requested_range_nonneg short) (FileRequest.requested_range_le allowed)
  rwa [FileRequest.offset_range small, FileRequest.requested_range short] at read

/-- All ranges are found, and put together they are what the file holds from the first one on. -/
theorem reads_of_divides {offset : Nat} {requests : List FileRequest}
    (divides : Divides index s.maxRead file.size offset requests)
    (small : file.size < UInt64.size) :
    (∀ r ∈ requests, s.read disk conn r = .ok (s.answer disk conn r).payload) ∧
      requests.flatMap (fun r => (s.answer disk conn r).payload) =
        file.read offset (file.size - offset) := by
  induction divides with
  | done => simp [File.read]
  | @next stream clipData offset count rest positive allowed short divides ih =>
    obtain ⟨finds, together⟩ := ih
    -- The others start where this range ends, so all of it lies inside the file.
    have inside := divides.le
    have read : s.read disk conn (.range stream index clipData offset count) =
        .ok (file.read offset count) := read_range resolved found granted (by omega) short allowed
    have answered := answer_of_read read
    refine ⟨List.forall_mem_cons.mpr ⟨by rw [read, answered], finds⟩, ?_⟩
    have length : count + (file.size - (offset + count)) = file.size - offset := by omega
    rw [List.flatMap_cons, together, answered, File.read_append _ inside, length]

end

/-- A file that is offered to a connection, and that the system lets be read, arrives byte for byte,
however it is divided into ranges: the size and all ranges are served, the answers wait in the order
of the requests, and what the ranges carry, put together, is the file. -/
theorem serveAll_whole_file {s : FileShare} (disk : Disk) (routing : Routing)
    {outbound : Registry} {conn index : Int32} {path : Bytes} {file : File} {access : File.Access}
    (first : FileRequest) {ranges : List FileRequest} (running : s.stopped = false)
    (positive : 0 < conn) (nonnegative : 0 ≤ index)
    (offered : (s.offered conn)[index.toInt.toNat]? = some path)
    (found : disk path = .ok (file, access))
    (granted : ∀ offset count, offset < file.size → access.Grants offset count)
    (small : file.size < 0x8000000000000000)
    (isOpen : outbound.queueOf? conn = some {}) (named : first.index = index)
    (asksSize : first.operation = FileRequest.sizeOperation)
    (divides : Divides index s.maxRead file.size 0 ranges) :
    let served := s.serveAll disk routing conn outbound (first :: ranges)
    let payload r := (s.answer disk conn r).payload
    served.result = List.replicate (1 + ranges.length) (.ok ()) ∧
      served.state.queueOf? conn = some ⟨(first :: ranges).map fun r =>
        .fileContentsResponse ⟨FileReply.okStatus, r.stream, payload r⟩, false⟩ ∧
      (payload first).length = 8 ∧ ofLE (payload first) = file.size ∧
      ranges.flatMap payload = (List.range file.size).map file.byteAt := by
  have resolved := resolve_of_offered nonnegative offered
  have small : file.size < UInt64.size := Nat.lt_trans small (by decide)
  have directed : conn ≠ 0 := (Int32.ne_of_lt positive).symm
  have size := read_of_size (named ▸ resolved) asksSize found
  have answered := answer_of_read size
  obtain ⟨finds, together⟩ := reads_of_divides resolved found granted divides small
  have finds : ∀ r ∈ first :: ranges, s.read disk conn r = .ok (s.answer disk conn r).payload :=
    List.forall_mem_cons.mpr ⟨by rw [size, answered], finds⟩
  have isOpen : outbound.queueOf? conn = some ⟨[], false⟩ := isOpen
  obtain ⟨results, after⟩ := serveAll_of_reads running directed routing finds isOpen
  refine ⟨?_, after, ?_, ?_, together.trans file.read_zero_size⟩
  · rw [results, List.length_cons, Nat.add_comm]
  · simp only [answered, length_le64]
  · simp only [answered, ofLE_le64, UInt64.toNat_ofNat_of_lt' small]

/-! ## A file of more than four gigabytes -/

namespace Large

/-- A share that offers connection 5 one file and reads as much at once as can be asked for. -/
def share : FileShare := { Single.share with maxRead := 0x7FFFFFFF }

/-- The file, five bytes longer than a word can count. -/
def file : File := File.ramp 0x100000005 251

def size : FileRequest := ⟨1, 0, FileRequest.sizeOperation, 0, 0, 0, none⟩

/-- Requests for all of it.  The low half of the second place is the largest there is, that of the
third is negative, and the last place takes the high half. -/
def ranges : List FileRequest :=
  [.range 2 0 none 0 0x7FFFFFFF, .range 3 0 none 0x7FFFFFFF 0x7FFFFFFF,
    .range 4 0 (some 9) 0xFFFFFFFE 2, .range 4 0 none 0x100000000 5]

theorem divides_ranges : Divides 0 share.maxRead file.size 0 ranges :=
  .next 2 none (by decide) (by decide) (by decide) <|
  .next 3 none (by decide) (by decide) (by decide) <|
  .next 4 (some 9) (by decide) (by decide) (by decide) <|
  .next 4 none (by decide) (by decide) (by decide) .done

theorem offered_share : (share.offered 5)[(0 : Int32).toInt.toNat]? = some [102] := by
  simp [offered, share, Single.share]

end Large

/-- A file that ends beyond four gigabytes arrives in four ranges. -/
theorem serveAll_large_file :
    let disk : Disk := fun _ => .ok (Large.file, {})
    let served := Large.share.serveAll disk ⟨true, 0⟩ 5 Single.outbound (Large.size :: Large.ranges)
    let payload r := (Large.share.answer disk 5 r).payload
    served.result = [.ok (), .ok (), .ok (), .ok (), .ok ()] ∧
      ofLE (payload Large.size) = 0x100000005 ∧
      Large.ranges.flatMap payload = (List.range 0x100000005).map fun i => UInt8.ofNat (i % 251) := by
  intro disk served payload
  have isOpen : Single.outbound.queueOf? 5 = some {} :=
    Registry.queueOf?_of_findConn? Single.findConn?_outbound
  have granted (offset count : Nat) (inside : offset < Large.file.size) :
      ({} : File.Access).Grants offset count := by
    have size : Large.file.size = 0x100000005 := rfl
    exact File.Access.grants_all (by omega) count
  obtain ⟨results, -, -, size, together⟩ :=
    serveAll_whole_file disk ⟨true, 0⟩ Large.size rfl (by decide) (by decide) Large.offered_share
      rfl granted (by decide) isOpen rfl rfl Large.divides_ranges
  exact ⟨results, size, together⟩

end FileShare

end RemoteClipboard
