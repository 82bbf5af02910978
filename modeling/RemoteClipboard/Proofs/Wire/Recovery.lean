import RemoteClipboard.Proofs.Wire.Packets
import RemoteClipboard.Proofs.Wire.RoundTrip
import RemoteClipboard.Proofs.Wire.Splitting

/-! # Messages are recovered one by one

The packets of some messages, one after the other, make a stream.  Whoever splits it finds a result
for each message and nothing left over (`split_packets`): the message itself, or word that it is a
list of too many formats.  Such a list is refused behind a header that is in order, so that it costs
nothing but itself.

A message that is longer than the reader's limit is refused by its header, and there the stream ends
(`split_of_oversize`).  The writer knows no limit; this is the place where the two sides differ. -/

namespace RemoteClipboard

/-- What a reader that puts up with `maxEntries` formats makes of a message that it is sent. -/
def Message.received (maxEntries : Nat) : Message → Except Fault Message
  | .formatList entries =>
    if maxEntries < entries.length then
      .error { code := Fault.Code.malformedMessage
               message := Bytes.ofString "Too many formats in list"
               details := Bytes.decimal entries.length }
    else .ok (.formatList entries)
  | m => .ok m

theorem Message.decode_encode_eq_received {m : Message} (maxEntries : Nat)
    (small : m.encode.length < UInt32.size) :
    decode maxEntries m.encode = m.received maxEntries := by
  have payload : m.payload.length < UInt32.size := Nat.lt_of_le_of_lt m.length_payload_le small
  cases m with
  | formatList entries =>
    by_cases tooMany : maxEntries < entries.length
    · rw [decode_encode_tooMany payload tooMany, received, if_pos tooMany]
      rfl
    · have few : entries.length ≤ maxEntries := Nat.not_lt.mp tooMany
      rw [decode_encode payload (by rintro _ ⟨⟩; exact few), received, if_neg tooMany]
  | _ => exact decode_encode payload nofun

namespace PacketStream

open Message (received)

/-! ## What splitting finds -/

section

variable {limits : Limits} {m : Message} {ms : List Message}

/-- The packets of messages that are short enough are split into these, each with its own result. -/
theorem split_packets (short : ∀ m ∈ ms, m.encode.length ≤ limits.maxPayload.toNat) :
    split limits (ms.flatMap Message.packet) =
      ⟨ms.map (received limits.maxEntries), .remainder []⟩ := by
  induction ms with
  | nil => exact split_of_incomplete rfl
  | cons m ms ih =>
    obtain ⟨first, rest⟩ := List.forall_mem_cons.mp short
    have small : m.encode.length < UInt32.size :=
      Nat.lt_of_le_of_lt first limits.maxPayload.toNat_lt_size
    rw [List.flatMap_cons, split_of_packet (lead_packet small _ first), ih rest,
      Message.decode_encode_eq_received _ small, List.map_cons]

/-- Behind the header of a message that is too long nothing is found, whatever comes there. -/
theorem split_of_oversize (small : m.encode.length < UInt32.size)
    (beyond : limits.maxPayload.toNat < m.encode.length) (more : Bytes) :
    split limits (m.packet ++ more) =
      ⟨[], .badHeader (Fault.payloadTooLarge (UInt32.ofNat m.encode.length))⟩ :=
  split_of_badHeader (lead_packet_of_lt small more beyond)

theorem payloadTooLarge_ofNat {n : Nat} (small : n < UInt32.size) :
    Fault.payloadTooLarge (UInt32.ofNat n) =
      { code := Fault.Code.payloadTooLarge
        message := Bytes.ofString "Payload too large"
        details := Bytes.decimal n } := by
  rw [Fault.payloadTooLarge, UInt32.toNat_ofNat_of_lt' small]
  rfl

/-! ## What a stream finds -/

/-- However the packets of some messages are cut and whenever they are asked for, a stream gives back
one result for each message, in their order, and is empty then. -/
theorem settle_packets {calls : List Call}
    (short : ∀ m ∈ ms, m.encode.length ≤ limits.maxPayload.toNat)
    (sent : arrived calls = ms.flatMap Message.packet) :
    (settle { limits } calls).1 = ms.map (received limits.maxEntries) ∧
      (settle { limits } calls).2.unread = [] := by
  have finds : Finds _ (split limits (arrived calls)) := finds_settle calls { limits }
  rw [sent, split_packets short] at finds
  exact finds.whole [] rfl

end

/-- Messages that keep to the limit of a stream come out of it one by one, and a list of too many
formats costs only itself; a message that is longer by as little as one byte is refused by its header
alone, and all that has arrived behind it is lost. -/
theorem recovered_up_to_limit (limits : Limits) :
    (∀ (ms : List Message) calls, (∀ m ∈ ms, m.encode.length ≤ limits.maxPayload.toNat) →
      arrived calls = ms.flatMap Message.packet →
        (settle { limits } calls).1 = ms.map (received limits.maxEntries) ∧
          (settle { limits } calls).2.unread = []) ∧
    ∀ m : Message, limits.maxPayload.toNat < m.encode.length → m.encode.length < UInt32.size →
      let refused : Except Fault Message :=
        .error { code := Fault.Code.payloadTooLarge
                 message := Bytes.ofString "Payload too large"
                 details := Bytes.decimal m.encode.length }
      (∀ more, let fed := feed { limits } (m.packet ++ more)
        fed.next.result = refused ∧ fed.next.state.unread = []) ∧
      ∀ calls more, arrived calls = m.packet ++ more →
        throughFirst isHeaderFault (settle { limits } calls).1 = [refused] := by
  refine ⟨fun ms calls short sent => settle_packets short sent, ?_⟩
  intro m beyond small refused
  have words : refused = .error (Fault.payloadTooLarge (UInt32.ofNat m.encode.length)) := by
    rw [payloadTooLarge_ofNat small]
  constructor
  · intro more fed
    have unread : fed.unread = m.packet ++ more := unread_feed ..
    rw [words]
    exact next_of_packet_of_lt small unread beyond
  · intro calls more sent
    have finds : Finds _ (split limits (arrived calls)) := finds_settle calls { limits }
    rw [sent, split_of_oversize small beyond] at finds
    rw [finds.through, words]
    rfl

/-! ## A long list between two others -/

namespace LongList

def limits : Limits := ⟨64, 1⟩

/-- The list has one format more than the limit allows. -/
def messages : List Message :=
  [.monitorReady, .formatList [⟨1, []⟩, ⟨13, [0x61]⟩], .formatDataRequest 13]

/-- The packets in two pieces, cut inside the first header, with a question too early. -/
def calls : List Call :=
  [.feed ((messages.flatMap Message.packet).take 7), .next, .next,
    .feed ((messages.flatMap Message.packet).drop 7), .next]

theorem arrived_calls : arrived calls = messages.flatMap Message.packet := by
  simp [arrived, calls]

/-- One byte more than the limit allows. -/
def oversize : Message := .formatDataResponse 1 (List.replicate 33 0)

theorem length_oversize : oversize.encode.length = 65 := by decide

end LongList

/-- The list is refused and the messages around it come through. -/
theorem recovered_around_long_list :
    (∀ m ∈ LongList.messages, m.encode.length ≤ LongList.limits.maxPayload.toNat) ∧
      arrived LongList.calls = LongList.messages.flatMap Message.packet ∧
      (settle { limits := LongList.limits } LongList.calls).1 =
        [.ok .monitorReady, .error (Fault.tooManyFormats 2), .ok (.formatDataRequest 13)] ∧
      (feed { limits := LongList.limits } LongList.oversize.packet).next.result =
        .error (Fault.payloadTooLarge 65) := by
  have short : ∀ m ∈ LongList.messages,
      m.encode.length ≤ LongList.limits.maxPayload.toNat := by decide
  obtain ⟨recovered, refused⟩ := recovered_up_to_limit LongList.limits
  obtain ⟨results, -⟩ := recovered LongList.messages LongList.calls short LongList.arrived_calls
  have length := LongList.length_oversize
  obtain ⟨whole, -⟩ := refused LongList.oversize (by rw [length]; decide) (by rw [length]; decide)
  refine ⟨short, LongList.arrived_calls, results, ?_⟩
  have fed := (whole []).1
  rw [List.append_nil, length] at fed
  exact fed

end PacketStream

end RemoteClipboard
