import RemoteClipboard.Proofs.Wire.Leading

/-! # Packets in front of a stream

Whether the packet of a message gets through is a matter of one number: how long the message is as
it is written.  Up to the limit of the reader the message comes out as it went in
(`next_of_packet_of_le`); past it the header alone is refused (`next_of_packet_of_lt`). -/

namespace RemoteClipboard

namespace Header

/-- Reading a header that was written gives it back. -/
theorem ofBytes?_bytes (h : Header) (rest : Bytes) : ofBytes? (h.bytes ++ rest) = some h := by
  have magic := ofLE_le32 h.magic
  have flags := ofLE_le16 h.flags
  have size := ofLE_le32 h.payloadSize
  simp only [le32, le16, le] at magic flags size
  simp only [bytes, le32, le16, le, List.cons_append, List.nil_append, ofBytes?, magic, flags, size,
    UInt32.ofNat_toNat, UInt16.ofNat_toNat]

theorem fault?_forSize (limit size : UInt32) :
    (forSize size).fault? limit =
      if limit < size then some (Fault.payloadTooLarge size) else none := rfl

theorem read_forSize (limit size : UInt32) (rest : Bytes) :
    read limit ((forSize size).bytes ++ rest) =
      if limit < size then .error (Fault.payloadTooLarge size) else .ok (forSize size) := by
  rw [read, ofBytes?_bytes]
  simp only [fault?_forSize]
  by_cases large : limit < size
  · simp only [large, if_true]
  · simp only [large, if_false]

end Header

namespace PacketStream

section

variable {m : Message} (small : m.encode.length < UInt32.size) (rest : Bytes)
include small

theorem read_packet (limit : UInt32) :
    Header.read limit ((m.packet ++ rest).take Header.byteCount) =
      if limit.toNat < m.encode.length then
        .error (Fault.payloadTooLarge (UInt32.ofNat m.encode.length))
      else .ok (Header.forSize (UInt32.ofNat m.encode.length)) := by
  have taken : (m.packet ++ rest).take Header.byteCount =
      (Header.forSize (UInt32.ofNat m.encode.length)).bytes ++ [] := by
    rw [Message.packet, List.append_assoc, List.append_nil]
    exact List.take_left' (Header.length_bytes _)
  rw [taken, Header.read_forSize]
  simp only [UInt32.lt_iff_toNat_lt, UInt32.toNat_ofNat_of_lt' small]

theorem lead_packet {limit : UInt32} (fits : m.encode.length ≤ limit.toNat) :
    lead limit (m.packet ++ rest) = .packet m.encode rest := by
  have length : m.packet.length = Header.byteCount + m.encode.length := by
    rw [Message.packet, List.length_append, Header.length_bytes]
  have announced :
      (Header.forSize (UInt32.ofNat m.encode.length)).payloadSize.toNat = m.encode.length :=
    UInt32.toNat_ofNat_of_lt' small
  have long : ¬ (m.packet ++ rest).length < Header.byteCount := by
    rw [List.length_append]
    omega
  have whole : Header.byteCount + m.encode.length ≤ (m.packet ++ rest).length := by
    rw [List.length_append]
    omega
  have body : (m.packet ++ rest).drop Header.byteCount = m.encode ++ rest := by
    rw [Message.packet, List.append_assoc]
    exact List.drop_left' (Header.length_bytes _)
  have left : (m.packet ++ rest).drop (Header.byteCount + m.encode.length) = rest := by
    rw [← length, List.drop_left]
  rw [lead, if_neg long, read_packet small rest, if_neg (by omega)]
  simp only [announced, whole, if_true, body, List.take_left, left]

theorem lead_packet_of_lt {limit : UInt32} (beyond : limit.toNat < m.encode.length) :
    lead limit (m.packet ++ rest) =
      .badHeader (Fault.payloadTooLarge (UInt32.ofNat m.encode.length)) := by
  have long : Header.byteCount ≤ (m.packet ++ rest).length := by
    rw [Message.packet, List.length_append, List.length_append, Header.length_bytes]
    omega
  rw [lead, if_neg (by omega), read_packet small rest, if_pos beyond]

variable {rest : Bytes} {s : PacketStream} (unread : s.unread = m.packet ++ rest)
include unread

theorem next_of_packet_of_le (fits : m.encode.length ≤ s.limits.maxPayload.toNat) :
    s.next.result = Message.decode s.limits.maxEntries m.encode ∧ s.next.state.unread = rest := by
  have front : lead s.limits.maxPayload s.unread = .packet m.encode rest := by
    rw [unread, lead_packet small rest fits]
  obtain ⟨-, result, left, -⟩ := next_of_packet front
  exact ⟨result, left⟩

theorem next_of_packet_of_lt (beyond : s.limits.maxPayload.toNat < m.encode.length) :
    s.next.result = .error (Fault.payloadTooLarge (UInt32.ofNat m.encode.length)) ∧
      s.next.state.unread = [] := by
  have front := lead_packet_of_lt small rest beyond
  rw [← unread] at front
  obtain ⟨-, result, state⟩ := next_of_badHeader front
  exact ⟨result, by rw [state, unread_reset]⟩

end

end PacketStream

end RemoteClipboard
