import RemoteClipboard.Wire.Stream

/-! # What stands in front of a stream

`lead` looks at the bytes of a stream that are not used up and says what they begin with: less than
a packet, a header that is none, or a whole packet.  It is told from the layout of a packet and not
from the parser, and it alone decides what `PacketStream.next` does (`next_of_incomplete`,
`next_of_badHeader`, `next_of_packet`).  Once it has decided, more bytes behind change nothing
(`lead_append_of_badHeader`, `lead_append_of_packet`), and this is all that proofs about streams
need. -/

namespace RemoteClipboard

/-- What can be wrong with a header. -/
theorem Header.read_eq_error {limit : UInt32} {data : Bytes} {fault : Fault}
    (refused : Header.read limit data = .error fault) :
    fault = Fault.packetHeaderTooShort ∨ fault = Fault.wrongMagic ∨
      (∃ version, fault = Fault.wrongVersion version) ∨
      ∃ size, fault = Fault.payloadTooLarge size := by
  unfold Header.read at refused
  split at refused
  next =>
    cases refused
    exact .inl rfl
  next h _ =>
    cases found : h.fault? limit with
    | none =>
      rw [found] at refused
      cases refused
    | some fault =>
      rw [found] at refused
      cases refused
      unfold Header.fault? at found
      grind

theorem Header.payloadSize_le_of_read {limit : UInt32} {data : Bytes} {h : Header}
    (read : Header.read limit data = .ok h) : h.payloadSize ≤ limit := by
  unfold Header.read at read
  split at read
  next => cases read
  next found _ =>
    cases verdict : found.fault? limit with
    | some fault =>
      rw [verdict] at read
      cases read
    | none =>
      rw [verdict] at read
      cases read
      unfold Header.fault? at verdict
      grind

namespace PacketStream

/-- What some bytes begin with. -/
inductive Lead
  | incomplete
  | badHeader (fault : Fault)
  | packet (body rest : Bytes)

/-- What some bytes begin with, where a packet may announce no more than `limit` bytes: behind the
header stand as many bytes as it announces, and behind these the rest. -/
def lead (limit : UInt32) (b : Bytes) : Lead :=
  if b.length < Header.byteCount then .incomplete
  else
    match Header.read limit (b.take Header.byteCount) with
    | .error fault => .badHeader fault
    | .ok h =>
      if Header.byteCount + h.payloadSize.toNat ≤ b.length then
        .packet ((b.drop Header.byteCount).take h.payloadSize.toNat)
          (b.drop (Header.byteCount + h.payloadSize.toNat))
      else .incomplete

/-- The ways in which bytes come to begin with something. -/
inductive Leads (limit : UInt32) (b : Bytes) : Lead → Prop
  | short : b.length < Header.byteCount → Leads limit b .incomplete
  | cut {h : Header} : Header.byteCount ≤ b.length →
      Header.read limit (b.take Header.byteCount) = .ok h →
      b.length < Header.byteCount + h.payloadSize.toNat → Leads limit b .incomplete
  | badHeader {fault : Fault} : Header.byteCount ≤ b.length →
      Header.read limit (b.take Header.byteCount) = .error fault →
      Leads limit b (.badHeader fault)
  | packet {h : Header} : Header.byteCount ≤ b.length →
      Header.read limit (b.take Header.byteCount) = .ok h →
      Header.byteCount + h.payloadSize.toNat ≤ b.length →
      Leads limit b (.packet ((b.drop Header.byteCount).take h.payloadSize.toNat)
        (b.drop (Header.byteCount + h.payloadSize.toNat)))

theorem leads_of_lead_eq {limit : UInt32} {b : Bytes} {l : Lead} (eq : lead limit b = l) :
    Leads limit b l := by
  subst eq
  unfold lead
  split
  next short => exact .short short
  next long =>
    have enough : Header.byteCount ≤ b.length := by omega
    split
    next fault read => exact .badHeader enough read
    next h read =>
      split
      next whole => exact .packet enough read whole
      next cut => exact .cut enough read (by omega)

/-! ## More bytes behind -/

theorem lead_append_of_badHeader {limit : UInt32} {b : Bytes} {fault : Fault}
    (eq : lead limit b = .badHeader fault) (more : Bytes) :
    lead limit (b ++ more) = .badHeader fault := by
  cases leads_of_lead_eq eq with
  | badHeader long read =>
    have longer : ¬ (b ++ more).length < Header.byteCount := by
      rw [List.length_append]
      omega
    rw [lead, if_neg longer, List.take_append_of_le_length long, read]

theorem lead_append_of_packet {limit : UInt32} {b body rest : Bytes}
    (eq : lead limit b = .packet body rest) (more : Bytes) :
    lead limit (b ++ more) = .packet body (rest ++ more) := by
  cases leads_of_lead_eq eq with
  | @packet h long read whole =>
    have longer : ¬ (b ++ more).length < Header.byteCount := by
      rw [List.length_append]
      omega
    have wholeStill : Header.byteCount + h.payloadSize.toNat ≤ (b ++ more).length := by
      rw [List.length_append]
      omega
    have body : h.payloadSize.toNat ≤ (b.drop Header.byteCount).length := by
      rw [List.length_drop]
      omega
    rw [lead, if_neg longer, List.take_append_of_le_length long, read]
    simp only [wholeStill, if_true, List.drop_append_of_le_length long,
      List.take_append_of_le_length body, List.drop_append_of_le_length whole]

/-- A packet takes at least its header off the stream. -/
theorem length_rest_lt {limit : UInt32} {b body rest : Bytes}
    (eq : lead limit b = .packet body rest) : rest.length < b.length := by
  cases leads_of_lead_eq eq with
  | @packet h long read whole =>
    have positive : 0 < Header.byteCount := by decide
    rw [List.length_drop]
    omega

/-- A packet holds no more than its header may announce. -/
theorem length_body_le {limit : UInt32} {b body rest : Bytes}
    (eq : lead limit b = .packet body rest) : body.length ≤ limit.toNat := by
  cases leads_of_lead_eq eq with
  | @packet h long read whole =>
    have announced := UInt32.le_iff_toNat_le.mp (Header.payloadSize_le_of_read read)
    exact Nat.le_trans (List.length_take_le ..) announced

/-! ## What a stream does -/

theorem header?_eq (s : PacketStream) :
    s.header? = if s.unread.length < Header.byteCount then none
      else some (Header.read s.limits.maxPayload (s.unread.take Header.byteCount)) := by
  have size : s.unread.length = s.buffer.size := Array.length_toList
  have taken : (s.buffer.extract 0 Header.byteCount).toList = s.unread.take Header.byteCount := by
    simp [unread]
  rw [header?, taken, size]

section

variable {s : PacketStream}

theorem next_of_incomplete (eq : lead s.limits.maxPayload s.unread = .incomplete) :
    s.hasPacket = false ∧ s.next.result = .error Fault.noPacket ∧ s.next.state = s := by
  cases leads_of_lead_eq eq with
  | short short =>
    have none : s.header? = none := by rw [header?_eq, if_pos short]
    simp [hasPacket, next, none]
  | @cut h long read cut =>
    have found : s.header? = some (.ok h) := by rw [header?_eq, if_neg (by omega), read]
    have size : s.buffer.size < packetSize h := by simpa [unread, packetSize] using cut
    simp [hasPacket, next, found, Nat.not_le.mpr size]

theorem next_of_badHeader {fault : Fault}
    (eq : lead s.limits.maxPayload s.unread = .badHeader fault) :
    s.hasPacket = true ∧ s.next.result = .error fault ∧ s.next.state = s.reset := by
  cases leads_of_lead_eq eq with
  | badHeader long read =>
    have found : s.header? = some (.error fault) := by rw [header?_eq, if_neg (by omega), read]
    simp [hasPacket, next, found]

theorem next_of_packet {body rest : Bytes}
    (eq : lead s.limits.maxPayload s.unread = .packet body rest) :
    s.hasPacket = true ∧ s.next.result = Message.decode s.limits.maxEntries body ∧
      s.next.state.unread = rest ∧ s.next.state.limits = s.limits := by
  cases leads_of_lead_eq eq with
  | @packet h long read whole =>
    have found : s.header? = some (.ok h) := by rw [header?_eq, if_neg (by omega), read]
    have size : packetSize h ≤ s.buffer.size := by simpa [unread, packetSize] using whole
    have left : (s.buffer.extract (packetSize h) s.buffer.size).toList =
        s.unread.drop (Header.byteCount + h.payloadSize.toNat) := by
      rw [Array.toList_extract, List.extract_eq_take_drop]
      exact List.take_of_length_le (by simp)
    have body : (s.buffer.extract Header.byteCount (packetSize h)).toList =
        (s.unread.drop Header.byteCount).take h.payloadSize.toNat := by
      simp [unread, packetSize]
    simp only [hasPacket, next, found, size, decide_true, if_true, body, true_and, and_true]
    exact left

theorem limits_next (s : PacketStream) : s.next.state.limits = s.limits := by
  cases front : lead s.limits.maxPayload s.unread with
  | incomplete => rw [(next_of_incomplete front).2.2]
  | badHeader fault =>
    rw [(next_of_badHeader front).2.2]
    rfl
  | packet body rest => exact (next_of_packet front).2.2.2

theorem hasPacket_drain (s : PacketStream) : s.drain.2.hasPacket = false := by
  induction s using drain.induct with
  | case1 s has first rest last eq ih =>
    rw [drain, dif_pos has]
    exact ih
  | case2 s has =>
    rw [drain, dif_neg has]
    exact eq_false_of_ne_true has

end

end PacketStream

end RemoteClipboard
