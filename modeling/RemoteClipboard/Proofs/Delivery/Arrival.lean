import RemoteClipboard.Host
import RemoteClipboard.Proofs.Delivery.Addressing
import RemoteClipboard.Proofs.Wire.Packets
import RemoteClipboard.Proofs.Wire.RoundTrip

/-! # From packets to a queue

The packets of messages that keep to the limits come in pieces that are cut anywhere.  At any time
some of the messages are in the queue and the others are still owed: `PacketStream.Owes` says that
what a stream holds, with what is still to come, is the packets of these.  Taking out what is there
moves messages from one side to the other (`Owes.drain`), so in the end all are in the queue, once
and in order (`Host.deliverAll_of_owes`). -/

namespace RemoteClipboard

/-- A message that a reader with some limits takes in. -/
structure Message.Fits (limits : Limits) (m : Message) : Prop where
  short : m.encode.length ≤ limits.maxPayload.toNat
  few : ∀ entries, m = .formatList entries → entries.length ≤ limits.maxEntries

namespace Message.Fits

variable {limits : Limits} {m : Message} (fits : m.Fits limits)
include fits

theorem encode_lt : m.encode.length < UInt32.size :=
  Nat.lt_of_le_of_lt fits.short limits.maxPayload.toNat_lt_size

theorem payload_lt : m.payload.length < UInt32.size :=
  Nat.lt_of_le_of_lt m.length_payload_le fits.encode_lt

theorem decode_encode : decode limits.maxEntries m.encode = .ok m :=
  Message.decode_encode fits.payload_lt fits.few

end Message.Fits

/-! ## Taking messages out -/

namespace PacketStream

/-- Some messages are still to be taken out of a stream: their packets are what the stream holds
and what is still to come. -/
structure Owes (s : PacketStream) (more : Bytes) (ms : List Message) : Prop where
  bytes : s.unread ++ more = ms.flatMap Message.packet
  fits : ∀ m ∈ ms, m.Fits s.limits

variable {s : PacketStream} {more : Bytes} {m : Message} {ms : List Message}

theorem Owes.feed {data : Bytes} (owes : s.Owes (data ++ more) ms) :
    (s.feed data).Owes more ms where
  bytes := by rw [unread_feed, List.append_assoc, owes.bytes]
  fits := owes.fits

theorem Owes.lead_append (owes : s.Owes more (m :: ms)) :
    lead s.limits.maxPayload (s.unread ++ more) =
      .packet m.encode (ms.flatMap Message.packet) := by
  have fits := owes.fits m List.mem_cons_self
  rw [owes.bytes, List.flatMap_cons, lead_packet fits.encode_lt _ fits.short]

/-- A stream begins with the first message that it owes, or with less than a packet. -/
theorem Owes.lead_cons (owes : s.Owes more (m :: ms)) :
    lead s.limits.maxPayload s.unread = .incomplete ∨
      ∃ rest, lead s.limits.maxPayload s.unread = .packet m.encode rest ∧
        rest ++ more = ms.flatMap Message.packet := by
  -- What is still to come does not undo what the bytes in front have decided.
  have whole := owes.lead_append
  cases front : lead s.limits.maxPayload s.unread with
  | incomplete => exact .inl rfl
  | badHeader fault =>
    rw [lead_append_of_badHeader front] at whole
    cases whole
  | packet body rest =>
    rw [lead_append_of_packet front] at whole
    injection whole with body rest
    subst body
    exact .inr ⟨_, rfl, rest⟩

theorem hasPacket_of_unread_eq_nil (empty : s.unread = []) : s.hasPacket = false :=
  (next_of_incomplete (by simp [empty, lead, Header.byteCount])).1

theorem Owes.next (owes : s.Owes more (m :: ms)) (has : s.hasPacket = true) :
    s.next.result = .ok m ∧ s.next.state.Owes more ms := by
  rcases owes.lead_cons with incomplete | ⟨rest, front, bytes⟩
  · rw [(next_of_incomplete incomplete).1] at has
    cases has
  · obtain ⟨-, result, unread, limits⟩ := next_of_packet front
    refine ⟨?_, ?_, ?_⟩
    · rw [result, (owes.fits m List.mem_cons_self).decode_encode]
    · rw [unread, bytes]
    · rw [limits]
      exact fun m member => owes.fits m (List.mem_cons_of_mem _ member)

/-- Nothing is owed any more once all has come and nothing more can be taken out. -/
theorem Owes.eq_nil (owes : s.Owes [] ms) (has : s.hasPacket = false) : ms = [] := by
  cases ms with
  | nil => rfl
  | cons m ms =>
    have front := owes.lead_append
    rw [List.append_nil] at front
    rw [(next_of_packet front).1] at has
    cases has

/-- What is taken out is the first of the messages that are owed, and the others still are. -/
theorem Owes.drain {s : PacketStream} (owes : s.Owes more ms) :
    ∃ taken left, ms = taken ++ left ∧ s.drain.1.map (·.result) = taken.map .ok ∧
      s.drain.2.Owes more left := by
  induction ms generalizing s with
  | nil =>
    have empty := (List.append_eq_nil_iff.mp owes.bytes).1
    rw [PacketStream.drain, dif_neg (by simp [hasPacket_of_unread_eq_nil empty])]
    exact ⟨[], [], rfl, rfl, owes⟩
  | cons m ms ih =>
    by_cases has : s.hasPacket = true
    · obtain ⟨result, owesNext⟩ := owes.next has
      obtain ⟨taken, left, rfl, results, owesLeft⟩ := ih owesNext
      rw [PacketStream.drain, dif_pos has]
      exact ⟨m :: taken, left, rfl, congrArg₂ List.cons result results, owesLeft⟩
    · -- The first message is not all there, and so none is taken out.
      rw [PacketStream.drain, dif_neg has]
      exact ⟨[], m :: ms, rfl, rfl, owes⟩

end PacketStream

namespace Host

variable {h : Host} {conn : Int32} {waiting : List Message}

/-! ## Putting messages into the queue -/

/-- What is taken out of the stream is put into the queue behind what waits there. -/
theorem deliverTaken_of_ok {taken : List PacketStream.Taken} {ms : List Message}
    (directed : conn ≠ 0) (oks : taken.map (·.result) = ms.map .ok)
    (isOpen : h.inbound.queueOf? conn = some ⟨waiting, false⟩) :
    let delivered := h.deliverTaken conn taken
    delivered.result = List.replicate ms.length (.ok ()) ∧
      delivered.state.inbound.queueOf? conn = some ⟨waiting ++ ms, false⟩ ∧
      delivered.state.stream = h.stream := by
  induction taken generalizing h waiting ms with
  | nil =>
    cases ms with
    | nil => simpa [deliverTaken] using isOpen
    | cons m ms => cases oks
  | cons first taken ih =>
    cases ms with
    | nil => cases oks
    | cons m ms =>
      obtain ⟨ok, oks⟩ := List.cons_eq_cons.mp oks
      obtain ⟨result, after⟩ := Registry.post_of_open (m := m) isOpen rfl
      have sent : h.send .inbound conn m =
          (h.inbound.post conn m).mapState fun inbound => { h with inbound } := by
        rw [send, Routing.send_of_ne_zero directed]
        rfl
      have isOpenStill : (h.send .inbound conn m).state.inbound.queueOf? conn =
          some ⟨waiting ++ [m], false⟩ := by
        rw [sent]
        exact after
      obtain ⟨results, afterAll, stream⟩ := ih oks isOpenStill
      simp only [deliverTaken, ok]
      refine ⟨?_, ?_, ?_⟩
      · rw [results, sent]
        exact congrArg (List.cons · _) result
      · rw [afterAll, List.append_assoc]
        rfl
      · rw [stream, sent]
        rfl

theorem deliver_of_owes {data more : Bytes} {ms : List Message} (directed : conn ≠ 0)
    (owes : h.stream.Owes (data ++ more) ms)
    (isOpen : h.inbound.queueOf? conn = some ⟨waiting, false⟩) :
    let delivered := h.deliver conn data
    delivered.state.stream.hasPacket = false ∧ ∃ taken left, ms = taken ++ left ∧
      delivered.result = List.replicate taken.length (.ok ()) ∧
      delivered.state.inbound.queueOf? conn = some ⟨waiting ++ taken, false⟩ ∧
      delivered.state.stream.Owes more left := by
  obtain ⟨taken, left, all, oks, owesLeft⟩ := owes.feed.drain
  obtain ⟨result, after, stream⟩ :=
    deliverTaken_of_ok (h := { h with stream := (h.stream.feed data).drain.2 }) directed oks isOpen
  simp only [deliver, stream]
  exact ⟨PacketStream.hasPacket_drain _, taken, left, all, result, after, owesLeft⟩

/-- Takes in bytes piece by piece. -/
def deliverAll (h : Host) (conn : Int32) : List Bytes → Outcome Host (List (Except Fault Unit))
  | [] => ⟨[], h, []⟩
  | data :: rest =>
    let first := h.deliver conn data
    let later := first.state.deliverAll conn rest
    ⟨first.result ++ later.result, later.state, first.journal ++ later.journal⟩

/-- However the packets of messages are cut, the messages come to wait in the queue, each of them
once and in their order. -/
theorem deliverAll_of_owes {chunks : List Bytes} {ms : List Message} (directed : conn ≠ 0)
    (owes : h.stream.Owes chunks.flatten ms) (has : h.stream.hasPacket = false)
    (isOpen : h.inbound.queueOf? conn = some ⟨waiting, false⟩) :
    let delivered := h.deliverAll conn chunks
    delivered.result = List.replicate ms.length (.ok ()) ∧
      delivered.state.inbound.queueOf? conn = some ⟨waiting ++ ms, false⟩ := by
  induction chunks generalizing h waiting ms with
  | nil =>
    -- Nothing is still to come and nothing can be taken out, so no message is owed.
    cases owes.eq_nil has
    simpa [deliverAll] using isOpen
  | cons data chunks ih =>
    obtain ⟨has, taken, left, rfl, result, after, owesLeft⟩ := deliver_of_owes directed owes isOpen
    obtain ⟨results, afterAll⟩ := ih owesLeft has after
    simp only [deliverAll]
    refine ⟨?_, ?_⟩
    · rw [result, results, List.length_append, List.replicate_add]
    · rw [afterAll, List.append_assoc]

end Host

/-! ## What observers hear -/

@[simp] theorem Registry.events_post (r : Registry) (conn : Int32) (m : Message) :
    (r.post conn m).journal.events = [] := by
  unfold post
  split <;> rfl

@[simp] theorem Registry.events_broadcast (r : Registry) (m : Message) :
    (r.broadcast m).journal.events = [] := by
  simp only [broadcast, Journal.events, List.filterMap_filterMap, List.filterMap_eq_nil_iff]
  intro entry _
  split <;> rfl

@[simp] theorem Routing.events_send (routing : Routing) (r : Registry) (conn : Int32)
    (m : Message) : (routing.send r conn m).journal.events = [] := by
  unfold send
  split
  next => simp
  next => split <;> simp

@[simp] theorem Message.events_decodeJournal (result : Except Fault Message) :
    (decodeJournal result).events = [] := by
  unfold decodeJournal
  split
  next => rfl
  next => split <;> rfl

namespace PacketStream

theorem events_next (s : PacketStream) : s.next.journal.events = [] := by
  unfold next
  split
  next => rfl
  next => rfl
  next => split <;> simp

theorem events_drain (s : PacketStream) : ∀ taken ∈ s.drain.1, taken.journal.events = [] := by
  induction s using drain.induct with
  | case1 s has first rest last eq ih =>
    rw [drain, dif_pos has]
    exact List.forall_mem_cons.mpr ⟨events_next s, ih⟩
  | case2 s has =>
    rw [drain, dif_neg has]
    simp

end PacketStream

namespace Host

theorem events_deliverTaken {h : Host} {conn : Int32} {taken : List PacketStream.Taken}
    (silent : ∀ t ∈ taken, t.journal.events = []) :
    (h.deliverTaken conn taken).journal.events = [] := by
  induction taken generalizing h with
  | nil => rfl
  | cons first taken ih =>
    obtain ⟨here, later⟩ := List.forall_mem_cons.mp silent
    simp only [deliverTaken, Journal.events_append, here, ih later, List.nil_append,
      List.append_nil]
    split
    next => rfl
    next => exact Routing.events_send ..

/-- No observer is told of what arrives. -/
theorem events_deliverAll (h : Host) (conn : Int32) (chunks : List Bytes) :
    (h.deliverAll conn chunks).journal.events = [] := by
  induction chunks generalizing h with
  | nil => rfl
  | cons data chunks ih =>
    have silent : (h.deliver conn data).journal.events = [] :=
      events_deliverTaken (PacketStream.events_drain _)
    simp only [deliverAll, Journal.events_append, silent, ih, List.append_nil]

end Host

end RemoteClipboard
