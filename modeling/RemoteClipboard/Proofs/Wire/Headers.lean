import RemoteClipboard.Proofs.Wire.Packets

/-! # Headers and their bytes

A header and the twelve bytes that it is written as say the same: the bytes give the header back
(`ofBytes?_bytes`), and twelve bytes are the writing of the header that they spell
(`ofBytes?_eq_some_iff`).  So nothing is lost between the two, and all that reading can do beyond
that is to refuse.  It looks for what is wrong field by field, in a fixed order, and yet it refuses
just those headers that are not valid as a whole (`fault?_eq_none_iff`). -/

namespace RemoteClipboard

namespace Header

variable {h : Header} {limit : UInt32} {b : Bytes}

/-! ## What bytes spell -/

theorem bytes_of_ofBytes? (spelled : ofBytes? b = some h) : h.bytes = b.take byteCount := by
  unfold ofBytes? at spelled
  split at spelled
  next =>
    cases spelled
    simp [bytes, byteCount, le32_ofLE, le16_ofLE]
  next => cases spelled

theorem ofBytes?_eq_some_iff : ofBytes? b = some h ↔ h.bytes = b.take byteCount := by
  constructor
  · exact bytes_of_ofBytes?
  · intro written
    -- The bytes are the writing of the header with something behind.
    rw [← List.take_append_drop byteCount b, ← written]
    exact ofBytes?_bytes h _

theorem ofBytes?_of_short (short : b.length < byteCount) : ofBytes? b = none := by
  rw [Option.eq_none_iff_forall_ne_some]
  intro h spelled
  have written := congrArg List.length (bytes_of_ofBytes? spelled)
  rw [length_bytes, List.length_take] at written
  omega

/-! ## What is refused -/

/-- The code of what is wrong with a header that is not valid: the magic number counts before the
version, and the version before the size. -/
def refusal (h : Header) : Fault.Code :=
  if h.magic ≠ protocolMagic then .invalidArgument
  else if h.version ≠ protocolVersion then .versionMismatch
  else .payloadTooLarge

theorem fault?_eq_none_iff : h.fault? limit = none ↔ h.isValid limit = true := by
  -- Both ask the same three questions: one after the other, and all at once.
  unfold fault? isValid
  grind

theorem code_of_fault? {fault : Fault} (wrong : h.fault? limit = some fault) :
    fault.code = h.refusal := by
  -- One case for each check, where those before it have passed.
  unfold fault? at wrong
  split at wrong
  next magic =>
    cases wrong
    simp [refusal, magic, Fault.wrongMagic, Fault.worded]
  next magic =>
    split at wrong
    next version =>
      cases wrong
      simp [refusal, magic, version, Fault.wrongVersion, Fault.worded]
    next version =>
      split at wrong
      next =>
        cases wrong
        simp [refusal, magic, version, Fault.payloadTooLarge, Fault.worded]
      next => cases wrong

theorem read_of_valid (spelled : ofBytes? b = some h) (valid : h.isValid limit = true) :
    read limit b = .ok h := by
  simp only [read, spelled, fault?_eq_none_iff.mpr valid]

theorem read_of_invalid (spelled : ofBytes? b = some h) (invalid : h.isValid limit = false) :
    ∃ fault, read limit b = .error fault ∧ fault.code = h.refusal := by
  cases wrong : h.fault? limit with
  | none =>
    rw [fault?_eq_none_iff, invalid] at wrong
    cases wrong
  | some fault => exact ⟨fault, by simp only [read, spelled, wrong], code_of_fault? wrong⟩

theorem read_of_short (short : b.length < byteCount) :
    read limit b = .error Fault.packetHeaderTooShort := by
  simp only [read, ofBytes?_of_short short]

theorem read_eq_ok_iff :
    read limit b = .ok h ↔ h.isValid limit = true ∧ h.bytes = b.take byteCount := by
  constructor
  · intro accepted
    cases spelled : ofBytes? b with
    | none => simp [read, spelled] at accepted
    | some found =>
      cases valid : found.isValid limit with
      | true =>
        rw [read_of_valid spelled valid] at accepted
        cases accepted
        exact ⟨valid, bytes_of_ofBytes? spelled⟩
      | false =>
        obtain ⟨fault, refused, -⟩ := read_of_invalid spelled valid
        rw [refused] at accepted
        cases accepted
  · rintro ⟨valid, written⟩
    exact read_of_valid (ofBytes?_eq_some_iff.mpr written) valid

/-- A header is read back from its bytes, with all of its fields and whatever comes behind, exactly
if it is valid, and else it is refused with the code of what is wrong with it.  What is read from
any bytes is a valid header that they begin with, and too few bytes are refused. -/
theorem read_back_iff_valid (limit : UInt32) :
    (∀ (h : Header) (rest : Bytes),
      (read limit (h.bytes ++ rest) = .ok h ↔ h.isValid limit = true) ∧
      (h.isValid limit = false →
        ∃ fault, read limit (h.bytes ++ rest) = .error fault ∧ fault.code =
          if h.magic ≠ protocolMagic then .invalidArgument
          else if h.version ≠ protocolVersion then .versionMismatch
          else .payloadTooLarge)) ∧
    ∀ b : Bytes,
      (∀ h, read limit b = .ok h → h.isValid limit = true ∧ h.bytes = b.take byteCount) ∧
      (b.length < byteCount →
        ∃ fault, read limit b = .error fault ∧ fault.code = .invalidArgument) := by
  refine ⟨fun h rest => ⟨?_, ?_⟩, fun b => ⟨?_, ?_⟩⟩
  · have front : (h.bytes ++ rest).take byteCount = h.bytes := List.take_left' (length_bytes h)
    rw [read_eq_ok_iff, front]
    exact and_iff_left rfl
  · exact read_of_invalid (ofBytes?_bytes h rest)
  · intro h
    exact read_eq_ok_iff.mp
  · intro short
    exact ⟨_, read_of_short short, rfl⟩

/-! ## A header of another version -/

namespace Newer

/-- A header of a version to come, which uses what is reserved in this one. -/
def header : Header := { version := 2, reserved := 7, flags := 0x0102, payloadSize := 300 }

/-- The same header in this version. -/
def current : Header := { header with version := protocolVersion }

end Newer

/-- A header that is too large and of another version is refused for its version; of this version it
is refused for its size, and read back where it is not too large. -/
theorem read_back_of_newer :
    (∃ fault, read 299 (Newer.header.bytes ++ [1]) = .error fault ∧
        fault.code = .versionMismatch) ∧
      (∃ fault, read 299 (Newer.current.bytes ++ [1]) = .error fault ∧
        fault.code = .payloadTooLarge) ∧
      read 300 (Newer.current.bytes ++ [1]) = .ok Newer.current ∧
      Newer.current.bytes = (Newer.current.bytes ++ [1]).take byteCount ∧
      ∃ fault, read 300 (Newer.current.bytes.take 11) = .error fault ∧
        fault.code = .invalidArgument := by
  obtain ⟨below, -⟩ := read_back_iff_valid 299
  obtain ⟨upTo, accepted⟩ := read_back_iff_valid 300
  have back := (upTo Newer.current [1]).1.mpr (by decide)
  exact ⟨(below Newer.header [1]).2 (by decide), (below Newer.current [1]).2 (by decide), back,
    ((accepted _).1 _ back).2, (accepted (Newer.current.bytes.take 11)).2 (by decide)⟩

end Header

end RemoteClipboard
