import Mathlib.Data.List.Intervals
import RemoteClipboard.Proofs.Files.Replies

/-! # What a request finds

`FileShare.Invalid` lists all that can be wrong with a request itself: with the place that it names in the
list of its connection, with its operation, and with the size of a range.  The disk has no part in it, and
nothing else is refused before the disk is asked (`read_of_valid`).  So a request that is invalid is refused
as such even where there is no file, and one that is not finds the file, or the system's reason why there is
none.

A file that is found may still not be read.  `File.Access.Refuses` lists what the system can refuse then,
each with the reason that is given for it: to open the file, to go to a place in it, and to read from there.
Nothing of this is met by a request for the size, or for a range of which nothing is left
(`found_of_size`, `found_of_ended`).

Numbers are compared here as integers.  The halves of an offset and the size of a range are signed words on
the wire, and the share compares them as unsigned ones; `maxRead_lt_iff` says why this is the same. -/

namespace RemoteClipboard

open Message (FileRequest)

/-- The bytes of a file from a place on are those at the places up to the end of the range or of the file,
whichever comes first. -/
theorem File.read_eq_map_Ico (file : File) (offset count : Nat) :
    file.read offset count =
      (List.Ico offset (min (offset + count) file.size)).map file.byteAt := by
  have places : min count (file.size - offset) = min (offset + count) file.size - offset := by omega
  rw [File.read, List.Ico, List.range'_eq_map_range, List.map_map, places]
  rfl

/-- Why so many bytes are not read from a place of a file that is there.  Whatever goes wrong once it is
open has the same reason, and so has an opening that fails without one. -/
inductive File.Access.Refuses (access : File.Access) (offset count : Nat) : SystemCause → Prop
  | opening {cause : SystemCause} :
      access.refusal = some cause → cause.number ≠ 0 → Refuses access offset count cause
  | unexplained {cause : SystemCause} :
      access.refusal = some cause → cause.number = 0 → Refuses access offset count ⟨5⟩
  | seeking :
      access.refusal = none → access.seeks offset = false → Refuses access offset count ⟨5⟩
  | reading :
      access.refusal = none → access.seeks offset = true → access.reads offset count = false →
      Refuses access offset count ⟨5⟩

namespace FileShare

section

variable {s : FileShare} {disk : Disk} {conn : Int32} {r : FileRequest} {path : Bytes} {file : File}
  {access : File.Access}

/-- Whether a path is the one that a request of a connection names. -/
def Names (s : FileShare) (conn : Int32) (r : FileRequest) (path : Bytes) : Prop :=
  ∃ paths, s.lists[conn]? = some paths ∧ 0 ≤ r.index.toInt ∧ paths[r.index.toInt.toNat]? = some path

/-- What can be wrong with a request, whatever is on the disk. -/
inductive Invalid (s : FileShare) (conn : Int32) (r : FileRequest) : Prop
  | noList : s.lists[conn]? = none → Invalid s conn r
  | negativeIndex : r.index.toInt < 0 → Invalid s conn r
  | indexBeyond {paths : List Bytes} :
      s.lists[conn]? = some paths → (paths.length : Int) ≤ r.index.toInt → Invalid s conn r
  | operation :
      r.operation ≠ FileRequest.sizeOperation → r.operation ≠ FileRequest.rangeOperation →
      Invalid s conn r
  | negativeSize :
      r.operation = FileRequest.rangeOperation → r.requested.toInt < 0 → Invalid s conn r
  | sizeBeyond :
      r.operation = FileRequest.rangeOperation → (s.maxRead.toNat : Int) < r.requested.toInt →
      Invalid s conn r

/-! ## Finding the path -/

theorem Names.unique {path' : Bytes} (named : s.Names conn r path) (named' : s.Names conn r path') :
    path = path' := by
  obtain ⟨paths, list, -, place⟩ := named
  obtain ⟨paths', list', -, place'⟩ := named'
  cases Option.some.inj (list.symm.trans list')
  exact Option.some.inj (place.symm.trans place')

/-- A place in a list names a path, or it is wrong and refused as such. -/
theorem resolve_cases (s : FileShare) (conn : Int32) (r : FileRequest) :
    (∃ path, s.resolve conn r.index = .ok path ∧ s.Names conn r path) ∨
      ∃ fault, s.resolve conn r.index = .error fault ∧
        fault.code = Fault.Code.invalidRequest ∧ s.Invalid conn r := by
  unfold resolve
  cases list : s.lists[conn]? with
  | none => exact .inr ⟨_, rfl, rfl, .noList list⟩
  | some paths =>
    dsimp only
    by_cases negative : r.index < 0
    · exact .inr ⟨_, if_pos negative, rfl, .negativeIndex (Int32.lt_iff_toInt_lt.mp negative)⟩
    · have above : 0 ≤ r.index.toInt := Int32.le_iff_toInt_le.mp (Int32.not_lt.mp negative)
      rw [if_neg negative]
      cases place : paths[r.index.toInt.toNat]? with
      | none =>
        have beyond := List.getElem?_eq_none_iff.mp place
        exact .inr ⟨_, rfl, rfl, .indexBeyond list (by omega)⟩
      | some path => exact .inl ⟨path, rfl, paths, list, above, place⟩

/-! ## The size of a range -/

theorem maxRead_lt_iff (nonnegative : 0 ≤ r.requested) :
    s.maxRead < r.requested.toUInt32 ↔ (s.maxRead.toNat : Int) < r.requested.toInt := by
  -- A size that is not negative is the same number with and without its sign.
  have above := Int32.le_iff_toInt_le.mp nonnegative
  have same : r.requested.toUInt32.toNat = r.requested.toInt.toNat :=
    Int32.toNat_toUInt32_of_le nonnegative
  rw [UInt32.lt_iff_toNat_lt, same]
  omega

theorem readRange_of_invalid
    (wrong : r.requested.toInt < 0 ∨ (s.maxRead.toNat : Int) < r.requested.toInt) :
    ∃ fault, s.readRange disk path r = .error fault ∧ fault.code = Fault.Code.invalidRequest := by
  unfold readRange
  by_cases negative : r.requested < 0
  · exact ⟨_, if_pos negative, rfl⟩
  · have nonnegative := Int32.not_lt.mp negative
    have above := Int32.le_iff_toInt_le.mp nonnegative
    have beyond := (maxRead_lt_iff nonnegative).mpr (wrong.resolve_left (Int.not_lt.mpr above))
    exact ⟨_, by rw [if_neg negative, if_pos beyond], rfl⟩

theorem readRange_of_valid (nonnegative : 0 ≤ r.requested.toInt)
    (allowed : r.requested.toInt ≤ s.maxRead.toNat) :
    s.readRange disk path r = (findFile disk path).bind fun (file, access) =>
      if file.size ≤ r.offset ∨ r.requested = 0 then .ok []
      else readFrom path file access r.offset r.requested.toInt.toNat := by
  have positive : 0 ≤ r.requested := Int32.le_iff_toInt_le.mpr nonnegative
  rw [readRange, if_neg (Int32.not_lt.mpr positive), if_neg]
  rw [maxRead_lt_iff positive]
  omega

/-! ## What the system refuses -/

theorem grants_or_refuses (access : File.Access) (offset count : Nat) :
    access.Grants offset count ∨ ∃ cause, access.Refuses offset count cause := by
  cases refusal : access.refusal with
  | some cause =>
    by_cases silent : cause.number = 0
    · exact .inr ⟨_, .unexplained refusal silent⟩
    · exact .inr ⟨_, .opening refusal silent⟩
  | none =>
    cases seeks : access.seeks offset with
    | false => exact .inr ⟨_, .seeking refusal seeks⟩
    | true =>
      cases reads : access.reads offset count with
      | false => exact .inr ⟨_, .reading refusal seeks reads⟩
      | true => exact .inl ⟨refusal, seeks, reads⟩

theorem readFrom_of_refuses {offset count : Nat} {cause : SystemCause}
    (refuses : access.Refuses offset count cause) :
    readFrom path file access offset count = .error (Fault.fileError path cause) := by
  unfold readFrom
  cases refuses with
  | opening refusal explained =>
    have known : cause ≠ SystemCause.unset := fun unset => explained (congrArg _ unset)
    simp only [refusal, SystemCause.orInputOutput, if_neg known]
  | @unexplained reason refusal silent =>
    have unknown : reason = SystemCause.unset := congrArg SystemCause.mk silent
    simp only [refusal, SystemCause.orInputOutput, if_pos unknown]
    rfl
  | seeking refusal seeks =>
    simp only [refusal, seeks]
    rfl
  | reading refusal seeks reads =>
    simp only [refusal, seeks, reads]
    rfl

/-! ## Reading -/

theorem rangeOperation_ne : FileRequest.rangeOperation ≠ FileRequest.sizeOperation := by decide

/-- A request that is in order asks for a size, or for a range that may be read. -/
theorem operation_of_valid (valid : ¬ s.Invalid conn r) :
    r.operation = FileRequest.sizeOperation ∨
      r.operation = FileRequest.rangeOperation ∧ 0 ≤ r.requested.toInt ∧
        r.requested.toInt ≤ s.maxRead.toNat := by
  by_cases size : r.operation = FileRequest.sizeOperation
  · exact .inl size
  by_cases range : r.operation = FileRequest.rangeOperation
  · refine .inr ⟨range, ?_, ?_⟩
    · exact Int.not_lt.mp fun negative => valid (.negativeSize range negative)
    · exact Int.not_lt.mp fun beyond => valid (.sizeBeyond range beyond)
  · exact absurd (.operation size range) valid

theorem valid_iff :
    ¬ s.Invalid conn r ↔ (∃ path, s.Names conn r path) ∧
      (r.operation = FileRequest.sizeOperation ∨
        r.operation = FileRequest.rangeOperation ∧ 0 ≤ r.requested.toInt ∧
          r.requested.toInt ≤ s.maxRead.toNat) := by
  constructor
  · intro valid
    rcases s.resolve_cases conn r with ⟨path, -, named⟩ | ⟨_, -, -, invalid⟩
    · exact ⟨⟨path, named⟩, operation_of_valid valid⟩
    · exact absurd invalid valid
  · rintro ⟨⟨path, paths, list, above, place⟩, operation⟩ invalid
    -- Whatever makes the request invalid contradicts one of the conditions.
    obtain ⟨inside, -⟩ := List.getElem?_eq_some_iff.mp place
    have bounds (range : r.operation = FileRequest.rangeOperation) :
        0 ≤ r.requested.toInt ∧ r.requested.toInt ≤ s.maxRead.toNat :=
      (operation.resolve_left fun size => rangeOperation_ne (range.symm.trans size)).2
    cases invalid with
    | noList none =>
      rw [none] at list
      cases list
    | negativeIndex negative => omega
    | indexBeyond list' beyond =>
      cases Option.some.inj (list.symm.trans list')
      omega
    | operation size range => exact range (operation.resolve_left size).1
    | negativeSize range negative => exact Int.not_lt.mpr (bounds range).1 negative
    | sizeBeyond range beyond => exact Int.not_lt.mpr (bounds range).2 beyond

theorem read_of_invalid (disk : Disk) (invalid : s.Invalid conn r) :
    ∃ fault, s.read disk conn r = .error fault ∧ fault.code = Fault.Code.invalidRequest := by
  rcases s.resolve_cases conn r with ⟨path, resolved, named⟩ | ⟨fault, resolved, code, -⟩
  · -- The path is found, so it is the operation or the size that is wrong.
    have wrong := mt (fun ok => valid_iff.mpr ⟨⟨path, named⟩, ok⟩) (not_not.mpr invalid)
    rw [not_or] at wrong
    obtain ⟨size, wrong⟩ := wrong
    simp only [read, resolved]
    rw [if_neg size]
    by_cases range : r.operation = FileRequest.rangeOperation
    · rw [if_pos range]
      apply readRange_of_invalid
      by_contra fits
      rw [not_or, Int.not_lt, Int.not_lt] at fits
      exact wrong ⟨range, fits⟩
    · rw [if_neg range]
      exact ⟨_, rfl, rfl⟩
  · exact ⟨fault, by rw [read, resolved], code⟩

/-- What a request that is in order makes of the file that it names. -/
def found (path : Bytes) (r : FileRequest) (there : File × File.Access) : Except Fault Bytes :=
  if r.operation = FileRequest.sizeOperation then .ok (le64 (UInt64.ofNat there.1.size))
  else if there.1.size ≤ r.offset ∨ r.requested = 0 then .ok []
  else readFrom path there.1 there.2 r.offset r.requested.toInt.toNat

theorem read_of_valid (disk : Disk) (valid : ¬ s.Invalid conn r) :
    ∃ path, s.Names conn r path ∧
      s.read disk conn r = (findFile disk path).bind (found path r) := by
  rcases s.resolve_cases conn r with ⟨path, resolved, named⟩ | ⟨_, -, -, invalid⟩
  · refine ⟨path, named, ?_⟩
    simp only [read, resolved]
    rcases operation_of_valid valid with size | ⟨range, nonnegative, allowed⟩
    · have all : found path r = fun there => .ok (le64 (UInt64.ofNat there.1.size)) :=
        funext fun _ => if_pos size
      rw [if_pos size, all, readSize]
      cases findFile disk path <;> rfl
    · have size : r.operation ≠ FileRequest.sizeOperation := by
        rw [range]
        exact rangeOperation_ne
      have part : found path r = fun there =>
          if there.1.size ≤ r.offset ∨ r.requested = 0 then .ok []
          else readFrom path there.1 there.2 r.offset r.requested.toInt.toNat :=
        funext fun _ => if_neg size
      rw [if_neg size, if_pos range, part, readRange_of_valid nonnegative allowed]
  · exact absurd invalid valid

theorem bind_findFile_of_error {cause : SystemCause} (missing : disk path = .error cause)
    (f : File × File.Access → Except Fault Bytes) :
    (findFile disk path).bind f = .error (Fault.fileError path cause) := by
  rw [findFile, missing]
  rfl

theorem bind_findFile_of_ok (present : disk path = .ok (file, access))
    (f : File × File.Access → Except Fault Bytes) :
    (findFile disk path).bind f = f (file, access) := by
  rw [findFile, present]
  rfl

theorem found_of_size (size : r.operation = FileRequest.sizeOperation) :
    found path r (file, access) = .ok (le64 (UInt64.ofNat file.size)) := if_pos size

section

variable (range : r.operation = FileRequest.rangeOperation)
include range

theorem found_of_range :
    found path r (file, access) =
      if file.size ≤ r.offset ∨ r.requested = 0 then .ok []
      else readFrom path file access r.offset r.requested.toInt.toNat :=
  if_neg (by rw [range]; exact rangeOperation_ne)

theorem found_of_ended (ended : file.size ≤ r.offset ∨ r.requested = 0) :
    found path r (file, access) = .ok [] := by
  rw [found_of_range range, if_pos ended]

theorem found_of_grants (granted : access.Grants r.offset r.requested.toInt.toNat) :
    found path r (file, access) = .ok ((List.Ico r.offset
      (min (r.offset + r.requested.toInt.toNat) file.size)).map file.byteAt) := by
  rw [found_of_range range, ← File.read_eq_map_Ico]
  exact part_eq_ok_iff.mpr ⟨.inr granted, rfl⟩

theorem found_of_refuses {cause : SystemCause} (ahead : r.offset < file.size)
    (some : r.requested ≠ 0) (refuses : access.Refuses r.offset r.requested.toInt.toNat cause) :
    found path r (file, access) = .error (Fault.fileError path cause) := by
  have left : ¬ (file.size ≤ r.offset ∨ r.requested = 0) := by
    rintro (behind | none)
    · omega
    · exact some none
  rw [found_of_range range, if_neg left, readFrom_of_refuses refuses]

end

/-- Whatever is made of a file that is there, what fails is the system's. -/
theorem code_of_found {there : File × File.Access} {fault : Fault}
    (refused : found path r there = .error fault) : fault.code = Fault.Code.fileError := by
  unfold found at refused
  split at refused
  next => cases refused
  next =>
    split at refused
    next => cases refused
    next =>
      rcases grants_or_refuses there.2 r.offset r.requested.toInt.toNat with granted | ⟨_, refuses⟩
      · rw [readFrom_eq_ok_iff.mpr ⟨granted, rfl⟩] at refused
        cases refused
      · rw [readFrom_of_refuses refuses] at refused
        cases refused
        rfl

/-- A request that fails is invalid, or the system has refused the file that it names. -/
theorem read_eq_error {fault : Fault} (refused : s.read disk conn r = .error fault) :
    fault.code = Fault.Code.invalidRequest ∧ s.Invalid conn r ∨
      fault.code = Fault.Code.fileError ∧ ¬ s.Invalid conn r := by
  by_cases invalid : s.Invalid conn r
  · obtain ⟨_, read, code⟩ := read_of_invalid disk invalid
    rw [read] at refused
    cases refused
    exact .inl ⟨code, invalid⟩
  · obtain ⟨path, -, read⟩ := read_of_valid disk invalid
    rw [read] at refused
    cases present : disk path with
    | error cause =>
      rw [bind_findFile_of_error present] at refused
      cases refused
      exact .inr ⟨rfl, invalid⟩
    | ok there =>
      rw [bind_findFile_of_ok present] at refused
      exact .inr ⟨code_of_found refused, invalid⟩

theorem code_eq_invalidRequest_iff :
    (∃ fault, s.read disk conn r = .error fault ∧ fault.code = Fault.Code.invalidRequest) ↔
      s.Invalid conn r := by
  refine ⟨?_, read_of_invalid disk⟩
  rintro ⟨fault, refused, code⟩
  rcases read_eq_error refused with ⟨-, invalid⟩ | ⟨other, -⟩
  · exact invalid
  · rw [code] at other
    exact absurd other (by decide)

end

/-- What a request is answered with, for every request, list, limit and disk.  It is refused as invalid
exactly if something is wrong with it, also where the disk has no such file; otherwise it finds the size
of the file, or the bytes at the places that it asks for and that the file has, or the reason why there is
no file or why it cannot be read. -/
theorem read_refused_or_exact (s : FileShare) (disk : Disk) (conn : Int32) (r : FileRequest) :
    ((∃ fault, s.read disk conn r = .error fault ∧ fault.code = Fault.Code.invalidRequest) ↔
      s.Invalid conn r) ∧
    (¬ s.Invalid conn r → ∃ path, s.Names conn r path ∧
      (∀ cause, disk path = .error cause → s.read disk conn r = .error
        { code := Fault.Code.fileError
          message := Bytes.ofString "Failed to access file"
          path, cause }) ∧
      ∀ file access, disk path = .ok (file, access) →
        (r.operation = FileRequest.sizeOperation →
          ∃ data, s.read disk conn r = .ok data ∧ data.length = 8 ∧
            (file.size < UInt64.size → ofLE data = file.size)) ∧
        (r.operation = FileRequest.rangeOperation →
          let first := r.offsetHigh.toUInt32.toNat * UInt32.size + r.offsetLow.toUInt32.toNat
          let count := r.requested.toInt.toNat
          (access.Grants first count → s.read disk conn r = .ok
            ((List.Ico first (min (first + count) file.size)).map file.byteAt)) ∧
          (file.size ≤ first ∨ r.requested = 0 → s.read disk conn r = .ok []) ∧
          (first < file.size → r.requested ≠ 0 → ∀ cause, access.Refuses first count cause →
            s.read disk conn r = .error
              { code := Fault.Code.fileError
                message := Bytes.ofString "Failed to access file"
                path, cause }))) := by
  refine ⟨code_eq_invalidRequest_iff, ?_⟩
  intro valid
  obtain ⟨path, named, read⟩ := read_of_valid disk valid
  refine ⟨path, named, ?_, ?_⟩
  · intro cause missing
    rw [read, bind_findFile_of_error missing]
    rfl
  · intro file access present
    rw [read, bind_findFile_of_ok present]
    refine ⟨?_, ?_⟩
    · intro size
      refine ⟨_, found_of_size size, length_le64 _, ?_⟩
      intro small
      rw [ofLE_le64, UInt64.toNat_ofNat_of_lt' small]
    · intro range first count
      refine ⟨found_of_grants range, found_of_ended range, ?_⟩
      intro ahead some cause refuses
      exact found_of_refuses range ahead some refuses

/-! ## Two files and a directory -/

namespace Shelf

/-- A share that offers connection 5 a file, a directory and another file. -/
def share : FileShare where
  lists := ({} : Std.HashMap Int32 (List Bytes)).insert 5 [[102], [103], [104]]
  maxRead := 64

def file : File := File.ramp 0x100000005 251

/-- The other file is for somebody else. -/
def permissionDenied : SystemCause := ⟨13⟩

def disk : Disk := fun path =>
  if path = [102] then .ok (file, {})
  else if path = [104] then .ok (file, { refusal := some permissionDenied })
  else .error SystemCause.isADirectory

theorem list_share : share.lists[(5 : Int32)]? = some [[102], [103], [104]] :=
  Std.HashMap.getElem?_insert_self

/-- A request for so many bytes of a file, from the place that the two halves stand for. -/
def range (index high low requested : Int32) : FileRequest :=
  ⟨1, index, FileRequest.rangeOperation, low, high, requested, none⟩

/-- A request for the size of the directory. -/
def size : FileRequest := ⟨1, 1, FileRequest.sizeOperation, 0, 0, -1, none⟩

theorem names_file (high low requested : Int32) :
    share.Names 5 (range 0 high low requested) [102] :=
  ⟨_, list_share, by simp [range], rfl⟩

theorem names_directory : share.Names 5 size [103] :=
  ⟨_, list_share, by decide, rfl⟩

theorem names_locked : share.Names 5 (range 2 0 0 2) [104] :=
  ⟨_, list_share, by decide, rfl⟩

end Shelf

/-- Bytes beyond four gigabytes are found, fewer than asked for at the end of the file, also behind a low
half that is negative.  The size of a directory and the bytes of a file that does not open are faults of the
system, and a range of the directory with a negative size is invalid. -/
theorem read_of_shelf :
    let read := Shelf.share.read Shelf.disk 5
    read (Shelf.range 0 1 2 64) = .ok [125, 126, 127] ∧
      read (Shelf.range 0 0 (-1) 2) = .ok [122, 123] ∧
      read Shelf.size = .error (Fault.fileError [103] SystemCause.isADirectory) ∧
      read (Shelf.range 2 0 0 2) = .error (Fault.fileError [104] Shelf.permissionDenied) ∧
      ∃ fault, read { Shelf.size with operation := FileRequest.rangeOperation } = .error fault ∧
        fault.code = Fault.Code.invalidRequest := by
  intro read
  have ranges (high low requested : Int32)
      (short : 0 ≤ requested.toInt ∧ requested.toInt ≤ 64) :
      let first := high.toUInt32.toNat * UInt32.size + low.toUInt32.toNat
      first < 0x8000000000000000 → read (Shelf.range 0 high low requested) = .ok
        ((List.Ico first (min (first + requested.toInt.toNat) Shelf.file.size)).map
          Shelf.file.byteAt) := by
    intro first below
    obtain ⟨-, valid⟩ := read_refused_or_exact Shelf.share Shelf.disk 5
      (Shelf.range 0 high low requested)
    obtain ⟨path, named, -, present⟩ := valid
      (valid_iff.mpr ⟨⟨_, Shelf.names_file high low requested⟩, .inr ⟨rfl, short⟩⟩)
    cases named.unique (Shelf.names_file high low requested)
    exact ((present Shelf.file {} rfl).2 rfl).1 (File.Access.grants_all below _)
  have directory : read Shelf.size = .error (Fault.fileError [103] SystemCause.isADirectory) := by
    obtain ⟨-, valid⟩ := read_refused_or_exact Shelf.share Shelf.disk 5 Shelf.size
    obtain ⟨path, named, missing, -⟩ := valid
      (valid_iff.mpr ⟨⟨_, Shelf.names_directory⟩, .inl rfl⟩)
    cases named.unique Shelf.names_directory
    exact missing _ rfl
  have locked : read (Shelf.range 2 0 0 2) =
      .error (Fault.fileError [104] Shelf.permissionDenied) := by
    obtain ⟨-, valid⟩ := read_refused_or_exact Shelf.share Shelf.disk 5 (Shelf.range 2 0 0 2)
    obtain ⟨path, named, -, present⟩ := valid
      (valid_iff.mpr ⟨⟨_, Shelf.names_locked⟩, .inr ⟨rfl, by decide⟩⟩)
    cases named.unique Shelf.names_locked
    obtain ⟨-, -, refused⟩ := (present Shelf.file _ rfl).2 rfl
    exact refused (by decide) (by decide) _ (.opening rfl (by decide))
  obtain ⟨invalid, -⟩ := read_refused_or_exact Shelf.share Shelf.disk 5
    { Shelf.size with operation := FileRequest.rangeOperation }
  refine ⟨?_, ?_, directory, locked, invalid.mpr (.negativeSize rfl (by decide))⟩
  · exact (ranges 1 2 64 (by decide) (by decide)).trans rfl
  · exact (ranges 0 (-1) 2 (by decide) (by decide)).trans rfl

end FileShare

end RemoteClipboard
