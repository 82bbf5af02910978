import RemoteClipboard.Proofs.Wire.Recovery

/-! # Messages that are passed on

A message may be read from bytes that are never written here: a payload that goes on after its fields,
or a request with any flag and any bytes behind it.  Written anew it has the fields that were read and
nothing behind them (`FieldForm.payload_eq_iff`), so it is never longer than it was.  Whatever limits it
has passed once it passes again, and a relay between two readers with the same limits changes nothing
about a message (`relayed_unchanged`). -/

namespace RemoteClipboard

namespace Message

/-! ## The form that is written -/

theorem CountedForm.eq_counted {a b : Bytes} (written : CountedForm a b) : b = counted a := by
  obtain ⟨small, rfl⟩ := written
  rw [counted, le32, UInt32.toNat_ofNat_of_lt' small]

theorem EntriesForm.eq_fields {entries : List FormatEntry} {b : Bytes}
    (written : EntriesForm entries b) : b = entries.flatMap FormatEntry.fields := by
  induction written with
  | nil => rfl
  | cons name _ ih => rw [List.flatMap_cons, FormatEntry.fields, ← name.eq_counted, ih]

theorem ClipDataForm.length_eq {clipData : Option Int32} {b : Bytes}
    (written : ClipDataForm clipData b) : b.length = 5 := by
  cases written with
  | absent four => simp [four]
  | present => simp

/-- Of the ways to write the number of clipboard data one is used: a flag of one before the number, or
nothing but zeros. -/
theorem ClipDataForm.eq_fields {clipData : Option Int32} {b : Bytes}
    (written : ClipDataForm clipData b)
    (plain : b[0]? = some 1 ∨ b[0]? = some 0 ∧ b.drop 1 = [0, 0, 0, 0]) :
    [if clipData.isSome then 1 else 0] ++ leInt32 (clipData.getD 0) = b := by
  cases written with
  | @absent unused four =>
    have zeros : unused = [0, 0, 0, 0] := by simpa using plain
    rw [zeros]
    rfl
  | @present flag n nonzero =>
    have one : flag = 1 := by simpa [nonzero] using plain
    rw [one]
    rfl

/-- Whether the flag of a request is written as it is here: one, or zero before four zeros.  Six numbers
come before it. -/
def PlainFlag (fields : Bytes) : Prop :=
  fields[24]? = some 1 ∨ fields[24]? = some 0 ∧ fields.drop 25 = [0, 0, 0, 0]

namespace FileRequest

/-- What stands in front of the flag. -/
def numbers (r : FileRequest) : Bytes :=
  leInt32 r.stream ++ leInt32 r.index ++ leInt32 r.operation ++ leInt32 r.offsetLow
    ++ leInt32 r.offsetHigh ++ leInt32 r.requested

theorem plainFlag_numbers_append (r : FileRequest) (clip : Bytes) :
    PlainFlag (r.numbers ++ clip) ↔
      clip[0]? = some 1 ∨ clip[0]? = some 0 ∧ clip.drop 1 = [0, 0, 0, 0] := by
  have length : r.numbers.length = 24 := by simp [numbers]
  have flag : (r.numbers ++ clip)[24]? = clip[0]? := by
    rw [List.getElem?_append_right (Nat.le_of_eq length), length]
  have behind : (r.numbers ++ clip).drop 25 = clip.drop 1 := by
    rw [List.drop_append, length, List.drop_of_length_le (by omega), List.nil_append]
  rw [PlainFlag, flag, behind]

theorem fields_eq (r : FileRequest) :
    r.fields = r.numbers ++ ([if r.clipData.isSome then 1 else 0] ++ leInt32 (r.clipData.getD 0)) :=
  List.append_assoc ..

theorem plainFlag_fields (r : FileRequest) : PlainFlag r.fields := by
  rw [fields_eq, plainFlag_numbers_append]
  cases r.clipData with
  | none => exact .inr ⟨rfl, rfl⟩
  | some n => exact .inl rfl

end FileRequest

namespace FieldForm

variable {maxEntries : Nat} {m : Message} {fields : Bytes}

/-- The fields of a message have one form, but for the flag of a request. -/
theorem payload_eq (written : FieldForm maxEntries m fields)
    (plain : ∀ r, m = .fileContentsRequest r → PlainFlag fields) : m.payload = fields := by
  cases written with
  | notifyCallback kind title text =>
    rw [kind.eq_counted, title.eq_counted, text.eq_counted, payload]
  | monitorReady => rfl
  | formatList count few entries =>
    rw [entries.eq_fields, payload, le32, UInt32.toNat_ofNat_of_lt' count]
  | formatListResponse status => rfl
  | formatDataRequest format => rfl
  | formatDataResponse data => rw [data.eq_counted, payload]
  | @fileContentsRequest r clip written =>
    have flag := (r.plainFlag_numbers_append clip).mp (plain r rfl)
    exact r.fields_eq.trans (congrArg (r.numbers ++ ·) (written.eq_fields flag))
  | fileContentsResponse data =>
    rw [data.eq_counted]
    rfl

theorem payload_eq_iff (written : FieldForm maxEntries m fields) :
    m.payload = fields ↔ ∀ r, m = .fileContentsRequest r → PlainFlag fields := by
  refine ⟨?_, written.payload_eq⟩
  rintro rfl r rfl
  exact r.plainFlag_fields

theorem length_payload (written : FieldForm maxEntries m fields) :
    m.payload.length = fields.length := by
  by_cases request : ∃ r, m = .fileContentsRequest r
  · obtain ⟨r, rfl⟩ := request
    cases written with
    | fileContentsRequest clip => simp [payload, FileRequest.fields, clip.length_eq]
  · rw [written.payload_eq fun r eq => absurd ⟨r, eq⟩ request]

theorem few (written : FieldForm maxEntries m fields) :
    ∀ entries, m = .formatList entries → entries.length ≤ maxEntries := by
  rintro entries rfl
  cases written with
  | formatList _ few _ => exact few

end FieldForm

/-! ## Reading, writing and reading again -/

theorem length_front (tag : Bytes) (size : Nat) : (front tag size).length = 6 + tag.length := by
  simp [front]
  omega

/-- A message that is read can be written in no more bytes and is read again then.  The bytes are the
same if nothing came behind the fields and the flag of a request was a plain one. -/
theorem encode_of_decode {maxEntries : Nat} {data : Bytes} {m : Message}
    (accepted : decode maxEntries data = .ok m) :
    m.encode.length ≤ data.length ∧ decode maxEntries m.encode = .ok m ∧
      ∃ fields trailing, FieldForm maxEntries m fields ∧
        data = front m.kind.wireTag (fields ++ trailing).length ++ (fields ++ trailing) ∧
        (m.encode = data ↔
          trailing = [] ∧ ∀ r, m = .fileContentsRequest r → PlainFlag fields) := by
  obtain ⟨k, payload, small, rfl, read⟩ := front_of_decode accepted
  obtain ⟨rfl, fields, trailing, rfl, written⟩ := readPayload_eq_ok_iff.mp read
  have length := written.length_payload
  rw [List.length_append] at small
  have smallPayload : m.payload.length < UInt32.size := by omega
  have encoded := encode_eq_front smallPayload
  refine ⟨?_, decode_encode smallPayload written.few, fields, trailing, written, rfl, ?_⟩
  · rw [encoded, List.length_append, List.length_append, List.length_append, length_front,
      length_front]
    omega
  · rw [encoded]
    constructor
    · intro same
      have payload : m.payload = fields ++ trailing :=
        (List.append_inj same (by rw [length_front, length_front])).2
      have none : trailing = [] := by
        have total := congrArg List.length payload
        rw [List.length_append] at total
        exact List.length_eq_zero_iff.mp (by omega)
      rw [none, List.append_nil] at payload
      exact ⟨none, written.payload_eq_iff.mp payload⟩
    · rintro ⟨rfl, plain⟩
      rw [written.payload_eq plain, List.append_nil]

end Message

/-! ## From one stream to another -/

namespace PacketStream

variable {s : PacketStream} {m : Message}

theorem decode_of_next (taken : s.next.result = .ok m) :
    ∃ body : Bytes, body.length ≤ s.limits.maxPayload.toNat ∧
      Message.decode s.limits.maxEntries body = .ok m := by
  cases front : lead s.limits.maxPayload s.unread with
  | incomplete =>
    rw [(next_of_incomplete front).2.1] at taken
    cases taken
  | badHeader fault =>
    rw [(next_of_badHeader front).2.1] at taken
    cases taken
  | packet body rest =>
    rw [(next_of_packet front).2.1] at taken
    exact ⟨body, length_body_le front, taken⟩

/-- Whatever has gone through a stream, a message that came out was read from bytes that keep to its
limit. -/
theorem decode_of_run {calls : List Call} (taken : .ok m ∈ (s.run calls).1) :
    ∃ body : Bytes, body.length ≤ s.limits.maxPayload.toNat ∧
      Message.decode s.limits.maxEntries body = .ok m := by
  induction calls generalizing s with
  | nil => cases taken
  | cons call calls ih =>
    cases call with
    | feed data => exact ih (s := s.feed data) taken
    | next =>
      rcases List.mem_cons.mp taken with first | later
      · exact decode_of_next first.symm
      · rw [← limits_next s]
        exact ih later

/-- To pass a message on is safe: what was read can be written anew within the same limits, and every
other reader with these limits reads it unchanged. -/
theorem relayed_unchanged :
    (∀ maxEntries data m, Message.decode maxEntries data = .ok m →
      m.encode.length ≤ data.length ∧ Message.decode maxEntries m.encode = .ok m ∧
        ∃ fields trailing, Message.FieldForm maxEntries m fields ∧
          data = Message.front m.kind.wireTag (fields ++ trailing).length ++ (fields ++ trailing) ∧
          (m.encode = data ↔
            trailing = [] ∧ ∀ r, m = .fileContentsRequest r → Message.PlainFlag fields)) ∧
    ∀ (s : PacketStream) calls m, .ok m ∈ (s.run calls).1 →
      m.encode.length ≤ s.limits.maxPayload.toNat ∧
        ∀ others, arrived others = m.packet →
          (settle { limits := s.limits } others).1 = [.ok m] ∧
            (settle { limits := s.limits } others).2.unread = [] := by
  refine ⟨fun maxEntries data m accepted => Message.encode_of_decode accepted, ?_⟩
  intro s calls m taken
  obtain ⟨body, short, accepted⟩ := decode_of_run taken
  obtain ⟨shorter, again, -⟩ := Message.encode_of_decode accepted
  have fits : m.encode.length ≤ s.limits.maxPayload.toNat := Nat.le_trans shorter short
  refine ⟨fits, ?_⟩
  intro others sent
  have small : m.encode.length < UInt32.size :=
    Nat.lt_of_le_of_lt fits s.limits.maxPayload.toNat_lt_size
  rw [Message.decode_encode_eq_received _ small] at again
  have fitsAll : ∀ m' ∈ [m], m'.encode.length ≤ s.limits.maxPayload.toNat := by simpa using fits
  have written : arrived others = [m].flatMap Message.packet := by simpa using sent
  have settled := settle_packets fitsAll written
  rwa [List.map_singleton, again] at settled

/-! ## A request that is written anew -/

namespace Renewed

def request : Message.FileRequest := ⟨3, 0, 2, 500, -1, 8, some 0⟩

/-- The request with a flag that is never written here, and two bytes behind its fields. -/
def payload : Bytes := request.numbers ++ ([2] ++ leInt32 0) ++ [0xFF, 0]

def data : Bytes :=
  Message.front Message.Kind.fileContentsRequest.wireTag payload.length ++ payload

def limits : Limits := ⟨64, 0⟩

def calls : List Call :=
  [.feed ((Header.forSize (UInt32.ofNat data.length)).bytes ++ data), .next]

theorem decode_data : Message.decode 0 data = .ok (.fileContentsRequest request) := rfl

set_option maxRecDepth 4000 in
theorem run_calls : (run { limits } calls).1 = [.ok (.fileContentsRequest request)] := rfl

end Renewed

/-- The request comes through the next stream unchanged, in two bytes less. -/
theorem relayed_of_renewed :
    let m : Message := .fileContentsRequest Renewed.request
    (run { limits := Renewed.limits } Renewed.calls).1 = [.ok m] ∧ m.encode ≠ Renewed.data ∧
      m.encode.length ≤ Renewed.data.length ∧
      (settle { limits := Renewed.limits } [.feed m.packet]).1 = [.ok m] := by
  intro m
  obtain ⟨messages, streams⟩ := relayed_unchanged
  obtain ⟨shorter, -⟩ := messages 0 Renewed.data m Renewed.decode_data
  have taken : .ok m ∈ (run { limits := Renewed.limits } Renewed.calls).1 := by
    rw [Renewed.run_calls]
    exact List.mem_singleton_self _
  obtain ⟨-, others⟩ := streams { limits := Renewed.limits } Renewed.calls m taken
  obtain ⟨settled, -⟩ := others [.feed m.packet] (List.append_nil _)
  exact ⟨Renewed.run_calls, by decide, shorter, settled⟩

end PacketStream

end RemoteClipboard
