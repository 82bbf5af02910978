import RemoteClipboard.Proofs.Files.Answers

/-! # What an answer depends on

A request is answered from the list of the connection that asks and from the bytes of the files that are
named there.  Two shares that agree on these may offer other connections anything, over disks that have
nothing else in common: neither the connection nor the caller can tell one from the other
(`serve_congr`).

A connection that has no list and one whose list is empty are offered the same, namely nothing.  They are
answered alike as well, and only the wording of what the caller gets tells them apart
(`answeredAlike`). -/

namespace RemoteClipboard

open Message (FileRequest)

namespace File

variable (file : File)

theorem length_content : file.content.length = file.size := by
  simp [content]

/-- What is seen of a file from outside: its bytes, and how far they may be read. -/
def seen (found : File × File.Access) : Bytes × File.Access := (found.1.content, found.2)

/-- A file is read by its bytes, whatever it has in store past its end. -/
theorem read_eq_content (offset count : Nat) :
    file.read offset count = (file.content.drop offset).take count := by
  apply List.ext_getElem
  · simp [length_content]
  · intro place inside inside'
    simp [read, content]

end File

namespace FileShare

/-- Whether two shares over two disks offer the same to a connection. -/
structure Agree (conn : Int32) (s s' : FileShare) (disk disk' : Disk) : Prop where
  stopped : s'.stopped = s.stopped
  maxRead : s'.maxRead = s.maxRead
  offered : s'.offered conn = s.offered conn
  files : ∀ path ∈ s.offered conn, (disk' path).map File.seen = (disk path).map File.seen

section

variable {s s' : FileShare} {disk disk' : Disk} {conn : Int32} {r : FileRequest} {path : Bytes}

/-! ## Reading -/

/-- Two disks of which the same is seen at a path have no file there, for the same reason, or each
has one with the same bytes. -/
theorem disk_cases (same : (disk' path).map File.seen = (disk path).map File.seen) :
    (∃ cause, disk path = .error cause ∧ disk' path = .error cause) ∨
      ∃ file file' access, disk path = .ok (file, access) ∧ disk' path = .ok (file', access) ∧
        file'.content = file.content := by
  cases here : disk path with
  | error cause =>
    cases there : disk' path with
    | error cause' =>
      rw [here, there] at same
      cases same
      exact .inl ⟨cause, rfl, rfl⟩
    | ok found' =>
      rw [here, there] at same
      cases same
  | ok found =>
    cases there : disk' path with
    | error cause' =>
      rw [here, there] at same
      cases same
    | ok found' =>
      rw [here, there] at same
      obtain ⟨bytes, access⟩ := Prod.mk.inj (Except.ok.inj same)
      exact .inr ⟨found.1, found'.1, found.2, rfl, by rw [← access], bytes⟩

section

variable (same : (disk' path).map File.seen = (disk path).map File.seen)
include same

theorem readSize_congr : readSize disk' path = readSize disk path := by
  rcases disk_cases same with ⟨cause, here, there⟩ | ⟨file, file', access, here, there, bytes⟩
  · rw [readSize, readSize, findFile, findFile, here, there]
  · have size : file'.size = file.size := by
      rw [← file'.length_content, ← file.length_content, bytes]
    rw [readSize, readSize, findFile, findFile, here, there]
    simp only [Except.mapError, Except.map, size]

theorem readRange_congr (maxRead : s'.maxRead = s.maxRead) :
    s'.readRange disk' path r = s.readRange disk path r := by
  rcases disk_cases same with ⟨cause, here, there⟩ | ⟨file, file', access, here, there, bytes⟩
  · simp only [readRange, maxRead, findFile, here, there]
  · have size : file'.size = file.size := by
      rw [← file'.length_content, ← file.length_content, bytes]
    have reads (offset count : Nat) : file'.read offset count = file.read offset count := by
      rw [File.read_eq_content, File.read_eq_content, bytes]
    simp only [readRange, maxRead, findFile, here, there, Except.mapError, Except.bind, size,
      readFrom, reads]

end

/-- A path that a request names is one of those that are offered. -/
theorem names_iff : s.Names conn r path ↔
    0 ≤ r.index.toInt ∧ (s.offered conn)[r.index.toInt.toNat]? = some path := by
  rw [Names, offered, Std.HashMap.getD_eq_getD_getElem?]
  cases s.lists[conn]? with
  | none => simp
  | some paths => simp

theorem resolve_congr (listed : s'.lists[conn]? = s.lists[conn]?) (index : Int32) :
    s'.resolve conn index = s.resolve conn index := by
  rw [resolve, resolve, listed]

section

variable (agree : Agree conn s s' disk disk')
include agree

theorem read_congr (listed : s'.lists[conn]? = s.lists[conn]?) :
    s'.read disk' conn r = s.read disk conn r := by
  rcases s.resolve_cases conn r with ⟨path, resolved, named⟩ | ⟨fault, refused, -, -⟩
  · have same := agree.files path (List.mem_of_getElem? (names_iff.mp named).2)
    rw [read, read, resolve_congr listed, resolved]
    dsimp only
    rw [readSize_congr same, readRange_congr same agree.maxRead]
  · rw [read, read, resolve_congr listed, refused]

/-- One of two shares that agree can have an empty list where the other has none.  No request names a file
then. -/
theorem invalid_of_unlisted (unlisted : s'.lists[conn]? ≠ s.lists[conn]?) :
    s.Invalid conn r ∧ s'.Invalid conn r := by
  have nothing : s.offered conn = [] := by
    have offered := agree.offered
    simp only [FileShare.offered, Std.HashMap.getD_eq_getD_getElem?] at offered ⊢
    cases list : s.lists[conn]? with
    | none => rfl
    | some paths =>
      cases list' : s'.lists[conn]? with
      | none => simpa [list, list'] using offered.symm
      | some paths' =>
        rw [list, list'] at offered unlisted
        exact absurd (congrArg some offered) unlisted
  have unnamed (t : FileShare) (empty : t.offered conn = []) : t.Invalid conn r := by
    by_contra valid
    obtain ⟨⟨path, named⟩, -⟩ := valid_iff.mp valid
    have place := (names_iff.mp named).2
    rw [empty] at place
    cases place
  exact ⟨unnamed s nothing, unnamed s' (agree.offered.trans nothing)⟩

/-- A request finds the same in both, or the two fail with faults of one code. -/
theorem read_cases :
    (∃ data, s.read disk conn r = .ok data ∧ s'.read disk' conn r = .ok data) ∨
      ∃ fault fault', s.read disk conn r = .error fault ∧ s'.read disk' conn r = .error fault' ∧
        fault'.code = fault.code := by
  by_cases listed : s'.lists[conn]? = s.lists[conn]?
  · rw [read_congr agree listed]
    cases s.read disk conn r with
    | ok data => exact .inl ⟨data, rfl, rfl⟩
    | error fault => exact .inr ⟨fault, fault, rfl, rfl, rfl⟩
  · obtain ⟨invalid, invalid'⟩ := invalid_of_unlisted (r := r) agree listed
    obtain ⟨fault, refused, code⟩ := read_of_invalid disk invalid
    obtain ⟨fault', refused', code'⟩ := read_of_invalid disk' invalid'
    exact .inr ⟨fault, fault', refused, refused', code'.trans code.symm⟩

/-! ## Serving -/

variable {routing : Routing} {outbound : Registry}

/-- Two shares that agree, and both have a list or none, serve a request in the same way. -/
theorem serve_congr (listed : s'.lists[conn]? = s.lists[conn]?) :
    s'.serve disk' routing outbound conn (.fileContentsRequest r) =
      s.serve disk routing outbound conn (.fileContentsRequest r) := by
  simp only [serve, agree.stopped, reply, read_congr agree listed]

theorem answer_congr : s'.answer disk' conn r = s.answer disk conn r := by
  rcases read_cases (r := r) agree with ⟨data, found, found'⟩ | ⟨fault, fault', refused, refused', -⟩
  · rw [answer_of_read found, answer_of_read found']
  · rw [answer_of_error refused, answer_of_error refused']

end

/-- What comes of a request that is served in two ways: it is answered the same, with the same result but
for the wording of a fault. -/
structure AnsweredAlike (served served' : Outcome Registry (Except Fault Unit)) : Prop where
  state : served'.state = served.state
  code : served'.result.mapError Fault.code = served.result.mapError Fault.code

theorem answeredAlike (agree : Agree conn s s' disk disk') (routing : Routing)
    (outbound : Registry) (r : FileRequest) :
    AnsweredAlike (s.serve disk routing outbound conn (.fileContentsRequest r))
      (s'.serve disk' routing outbound conn (.fileContentsRequest r)) where
  state := by
    rw [state_serve_request, state_serve_request, agree.stopped, answer_congr agree]
  code := by
    cases stopped : s.stopped with
    | true =>
      have stopped' := agree.stopped.trans stopped
      simp [serve, stopped, stopped']
    | false =>
      rw [result_serve_request stopped, result_serve_request (agree.stopped.trans stopped),
        answer_congr agree]
      rcases read_cases (r := r) agree with ⟨data, found, found'⟩ |
        ⟨fault, fault', refused, refused', code⟩
      · rw [found, found']
      · rw [refused, refused']
        exact congrArg Except.error code

end

end FileShare

end RemoteClipboard
