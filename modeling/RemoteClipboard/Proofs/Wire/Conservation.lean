import RemoteClipboard.Proofs.Wire.Splitting

/-! # No byte goes astray

A stream lets go of bytes in two ways: one frame at a time, or all that it holds.  Which of the two it was
can be told from the result of `PacketStream.next` alone, by the code of its fault (`Tells`).  A caller who
only sees results can so keep account of every byte that it fed (`accounts_balance`).

At least a header is let go of each time.  Taking out everything therefore ends after a number of packets
that is known beforehand (`length_drain`), and what is left is less than the largest packet takes
(`length_unread_lt`). -/

namespace RemoteClipboard

namespace PacketStream

/-! ## Frames -/

/-- A frame: a header that is in order, and behind it as many bytes as it announces. -/
structure IsFrame (limit : UInt32) (frame body : Bytes) : Prop where
  split : frame = frame.take Header.byteCount ++ body
  whole : Header.byteCount ≤ frame.length
  announced : ∃ h, Header.read limit (frame.take Header.byteCount) = .ok h ∧
    body.length = h.payloadSize.toNat

/-- Whether the header in front of a stream is all there and is none. -/
def BadHeader (s : PacketStream) : Prop :=
  Header.byteCount ≤ s.unread.length ∧
    ∃ fault, Header.read s.limits.maxPayload (s.unread.take Header.byteCount) = .error fault

/-- The frame in front of a stream, as its header announces it. -/
def frame (s : PacketStream) : Bytes :=
  match Header.read s.limits.maxPayload (s.unread.take Header.byteCount) with
  | .ok h => s.unread.take (Header.byteCount + h.payloadSize.toNat)
  | .error _ => []

section

variable {s : PacketStream}

theorem badHeader_iff :
    s.BadHeader ↔ ∃ fault, lead s.limits.maxPayload s.unread = .badHeader fault := by
  constructor
  · rintro ⟨long, fault, read⟩
    exact ⟨fault, by rw [lead, if_neg (by omega), read]⟩
  · rintro ⟨fault, front⟩
    cases leads_of_lead_eq front with
    | badHeader long read => exact ⟨long, fault, read⟩

theorem frame_of_lead {body rest : Bytes}
    (front : lead s.limits.maxPayload s.unread = .packet body rest) :
    IsFrame s.limits.maxPayload s.frame body ∧ s.unread = s.frame ++ rest := by
  cases leads_of_lead_eq front with
  | @packet h long read whole =>
    have header : Header.byteCount ≤ Header.byteCount + h.payloadSize.toNat :=
      Nat.le_add_right ..
    have frame : s.frame = s.unread.take (Header.byteCount + h.payloadSize.toNat) := by
      rw [PacketStream.frame, read]
    -- The frame is longer than its header, so it begins with the bytes that were read.
    have taken : s.frame.take Header.byteCount = s.unread.take Header.byteCount := by
      rw [frame, List.take_take, Nat.min_eq_left header]
    have length : s.frame.length = Header.byteCount + h.payloadSize.toNat := by
      rw [frame, List.length_take, Nat.min_eq_left whole]
    have body : (s.unread.drop Header.byteCount).take h.payloadSize.toNat =
        s.frame.drop Header.byteCount := by
      rw [frame, List.drop_take, Nat.add_sub_cancel_left]
    refine ⟨⟨?_, length ▸ header, h, by rw [taken, read], ?_⟩, ?_⟩
    · rw [body, List.take_append_drop]
    · rw [body, List.length_drop, length]
      exact Nat.add_sub_cancel_left ..
    · rw [frame, List.take_append_drop]

end

/-! ## Taking something out -/

section

variable {s : PacketStream}

theorem isPending_next : isPending s.next.result = true ↔ s.hasPacket = false := by
  cases front : lead s.limits.maxPayload s.unread with
  | incomplete =>
    obtain ⟨has, result, -⟩ := next_of_incomplete front
    rw [has, result]
    decide
  | badHeader fault =>
    obtain ⟨has, result, -⟩ := next_of_badHeader front
    rw [has, result, (badHeader_of_lead front).1]
    decide
  | packet body rest =>
    obtain ⟨has, result, -⟩ := next_of_packet front
    rw [has, result, (decode_ordinary _ body).1]
    decide

theorem isHeaderFault_next : isHeaderFault s.next.result = true ↔ s.BadHeader := by
  rw [badHeader_iff]
  cases front : lead s.limits.maxPayload s.unread with
  | incomplete =>
    rw [(next_of_incomplete front).2.1]
    exact ⟨fun fault => absurd fault (by decide), nofun⟩
  | badHeader fault =>
    rw [(next_of_badHeader front).2.1]
    exact ⟨fun _ => ⟨fault, rfl⟩, fun _ => (badHeader_of_lead front).2⟩
  | packet body rest =>
    rw [(next_of_packet front).2.1, (decode_ordinary _ body).2]
    exact ⟨nofun, nofun⟩

theorem lead_of_not_hasPacket (has : s.hasPacket = false) :
    lead s.limits.maxPayload s.unread = .incomplete := by
  cases front : lead s.limits.maxPayload s.unread with
  | incomplete => rfl
  | badHeader fault =>
    rw [(next_of_badHeader front).1] at has
    cases has
  | packet body rest =>
    rw [(next_of_packet front).1] at has
    cases has

theorem next_of_not_hasPacket (has : s.hasPacket = false) : s.next.state = s :=
  (next_of_incomplete (lead_of_not_hasPacket has)).2.2

theorem next_of_bad (bad : s.BadHeader) : s.hasPacket = true ∧ s.next.state.unread = [] := by
  obtain ⟨fault, front⟩ := badHeader_iff.mp bad
  obtain ⟨has, -, state⟩ := next_of_badHeader front
  exact ⟨has, by rw [state, unread_reset]⟩

theorem next_of_good (has : s.hasPacket = true) (good : ¬ s.BadHeader) :
    ∃ body, IsFrame s.limits.maxPayload s.frame body ∧
      s.unread = s.frame ++ s.next.state.unread ∧
      s.next.result = Message.decode s.limits.maxEntries body := by
  cases front : lead s.limits.maxPayload s.unread with
  | incomplete =>
    rw [(next_of_incomplete front).1] at has
    cases has
  | badHeader fault => exact absurd (badHeader_iff.mpr ⟨fault, front⟩) good
  | packet body rest =>
    obtain ⟨isFrame, split⟩ := frame_of_lead front
    obtain ⟨-, result, left, -⟩ := next_of_packet front
    exact ⟨body, isFrame, left ▸ split, result⟩

/-- What the result of taking something out tells about the bytes that a stream holds. -/
structure Tells (s : PacketStream) : Prop where
  /-- There was no packet yet exactly if the result says so, and then nothing has changed. -/
  pending : isPending s.next.result = true ↔ s.hasPacket = false
  kept : s.hasPacket = false → s.next.state = s
  /-- A header was at fault exactly if the result says so, and then nothing is left. -/
  refused : isHeaderFault s.next.result = true ↔ s.BadHeader
  wiped : s.BadHeader → s.hasPacket = true ∧ s.next.state.unread = []
  /-- Otherwise the frame in front is gone, and what is wrong can only be its body. -/
  taken : s.hasPacket = true → ¬ s.BadHeader →
    ∃ body, IsFrame s.limits.maxPayload s.frame body ∧
      s.unread = s.frame ++ s.next.state.unread ∧
      s.next.result = Message.decode s.limits.maxEntries body
  ordinary : s.hasPacket = true → ¬ s.BadHeader → ∀ fault, s.next.result = .error fault →
    fault.code = Fault.Code.unknownMessageTag ∨ fault.code = Fault.Code.malformedMessage

theorem tells (s : PacketStream) : s.Tells where
  pending := isPending_next
  kept := next_of_not_hasPacket
  refused := isHeaderFault_next
  wiped := next_of_bad
  taken := next_of_good
  ordinary has good := by
    intro fault refused
    obtain ⟨_, -, -, result⟩ := next_of_good has good
    exact (Message.code_of_decode_eq_error (result.symm.trans refused)).symm

end

/-! ## How much there is -/

section

variable {s : PacketStream}

theorem length_unread_lt (has : s.hasPacket = false) :
    s.unread.length < Header.byteCount + s.limits.maxPayload.toNat := by
  cases leads_of_lead_eq (lead_of_not_hasPacket has) with
  | short short => omega
  | @cut h long read cut =>
    -- The header was accepted, so what it announces keeps to the limit, and some of that is missing.
    have announced := UInt32.le_iff_toNat_le.mp (Header.payloadSize_le_of_read read)
    omega

theorem length_unread_next (has : s.hasPacket = true) :
    s.next.state.unread.length + Header.byteCount ≤ s.unread.length := by
  -- Either all goes, and a header that is bad was there, or the frame in front goes.
  by_cases bad : s.BadHeader
  · rw [(next_of_bad bad).2, List.length_nil, Nat.zero_add]
    exact bad.1
  · obtain ⟨_, isFrame, split, -⟩ := next_of_good has bad
    have total := congrArg List.length split
    have header := isFrame.whole
    rw [List.length_append] at total
    omega

theorem limits_drain (s : PacketStream) : s.drain.2.limits = s.limits := by
  induction s using drain.induct with
  | case1 s has first rest last eq ih =>
    rw [drain, dif_pos has]
    exact ih.trans (limits_next s)
  | case2 s has => rw [drain, dif_neg has]

theorem length_drain (s : PacketStream) :
    s.drain.1.length * Header.byteCount + s.drain.2.unread.length ≤ s.unread.length := by
  induction s using drain.induct with
  | case1 s has first rest last eq ih =>
    -- The packet that is taken out now pays for itself with its header.
    have shorter := length_unread_next has
    rw [drain, dif_pos has]
    simp only [List.length_cons, Nat.succ_mul]
    change s.next.state.drain.1.length * Header.byteCount +
      s.next.state.drain.2.unread.length ≤ s.next.state.unread.length at ih
    omega
  | case2 s has =>
    rw [drain, dif_neg has]
    simp

end

/-! ## Accounts -/

/-- What a stream lets go of at a time: the frame of one packet, or all that it holds. -/
inductive Loss
  | frame (bytes : Bytes)
  | buffer (bytes : Bytes)

def Loss.bytes : Loss → Bytes
  | frame b => b
  | buffer b => b

inductive Op
  | feed (data : Bytes)
  | next
  | reset

namespace Op

def apply (s : PacketStream) : Op → PacketStream
  | feed data => s.feed data
  | next => s.next.state
  | reset => s.reset

def fed : Op → Bytes
  | feed data => data
  | next | reset => []

/-- What an operation lets go of, as its result tells: nothing if there was no packet yet, all if a
header was at fault, else one frame. -/
def losses (s : PacketStream) : Op → List Loss
  | feed _ => []
  | next =>
    if isPending s.next.result then []
    else if isHeaderFault s.next.result then [.buffer s.unread]
    else [.frame s.frame]
  | reset => [.buffer s.unread]

end Op

def after (s : PacketStream) (ops : List Op) : PacketStream := ops.foldl Op.apply s

/-- What some operations let go of, in order. -/
def losses (s : PacketStream) : List Op → List Loss
  | [] => []
  | op :: ops => op.losses s ++ losses (op.apply s) ops

section

variable {s : PacketStream} {op : Op}

theorem limits_apply (s : PacketStream) (op : Op) : (op.apply s).limits = s.limits := by
  cases op with
  | feed data => rfl
  | next => exact limits_next s
  | reset => rfl

theorem limits_after (s : PacketStream) (ops : List Op) : (s.after ops).limits = s.limits := by
  induction ops generalizing s with
  | nil => rfl
  | cons op ops ih => exact (ih (op.apply s)).trans (limits_apply s op)

/-- Taking something out lets go of nothing, of all that is there, or of the frame in front. -/
theorem losses_next (s : PacketStream) :
    Op.next.losses s = [] ∧ s.next.state = s ∨
      Op.next.losses s = [.buffer s.unread] ∧ s.next.state.unread = [] ∨
      Op.next.losses s = [.frame s.frame] ∧ s.unread = s.frame ++ s.next.state.unread ∧
        ∃ body, IsFrame s.limits.maxPayload s.frame body := by
  unfold Op.losses
  by_cases pending : isPending s.next.result = true
  · exact .inl ⟨if_pos pending, next_of_not_hasPacket (isPending_next.mp pending)⟩
  rw [if_neg pending]
  by_cases refused : isHeaderFault s.next.result = true
  · exact .inr (.inl ⟨if_pos refused, (next_of_bad (isHeaderFault_next.mp refused)).2⟩)
  · have has : s.hasPacket = true := by
      simpa using mt isPending_next.mpr pending
    obtain ⟨body, isFrame, split, -⟩ := next_of_good has (mt isHeaderFault_next.mpr refused)
    exact .inr (.inr ⟨if_neg refused, split, body, isFrame⟩)

/-- An operation leaves what was there and what came with it, less what it let go of in front. -/
theorem unread_apply (s : PacketStream) (op : Op) :
    s.unread ++ op.fed = (op.losses s).flatMap Loss.bytes ++ (op.apply s).unread := by
  cases op with
  | feed data => exact (unread_feed s data).symm
  | reset => simp [Op.fed, Op.losses, Op.apply, Loss.bytes]
  | next =>
    rw [Op.fed, List.append_nil, Op.apply]
    rcases losses_next s with ⟨nothing, same⟩ | ⟨all, wiped⟩ | ⟨one, split, -⟩
    · rw [nothing, same]
      rfl
    · rw [all, wiped]
      simp [Loss.bytes]
    · rw [one]
      simpa [Loss.bytes] using split

theorem isFrame_of_mem_losses {b : Bytes} (lost : .frame b ∈ op.losses s) :
    ∃ body, IsFrame s.limits.maxPayload b body := by
  cases op with
  | feed data => cases lost
  | reset => simp [Op.losses] at lost
  | next =>
    rcases losses_next s with ⟨nothing, -⟩ | ⟨all, -⟩ | ⟨one, -, isFrame⟩
    · simp [nothing] at lost
    · simp [all] at lost
    · rw [one] at lost
      cases List.mem_singleton.mp lost
      exact isFrame

theorem unread_after (s : PacketStream) (ops : List Op) :
    s.unread ++ ops.flatMap Op.fed =
      (s.losses ops).flatMap Loss.bytes ++ (s.after ops).unread := by
  induction ops generalizing s with
  | nil => simp [losses, after]
  | cons op ops ih =>
    calc s.unread ++ (op :: ops).flatMap Op.fed
        = (s.unread ++ op.fed) ++ ops.flatMap Op.fed := by
          rw [List.flatMap_cons, List.append_assoc]
      _ = (op.losses s).flatMap Loss.bytes ++ ((op.apply s).unread ++ ops.flatMap Op.fed) := by
          rw [unread_apply, List.append_assoc]
      _ = (s.losses (op :: ops)).flatMap Loss.bytes ++ (s.after (op :: ops)).unread := by
          rw [ih, losses, List.flatMap_append, List.append_assoc]
          rfl

theorem isFrame_of_mem {ops : List Op} {b : Bytes} (lost : .frame b ∈ s.losses ops) :
    ∃ body, IsFrame s.limits.maxPayload b body := by
  induction ops generalizing s with
  | nil => cases lost
  | cons op ops ih =>
    rcases List.mem_append.mp lost with now | later
    · exact isFrame_of_mem_losses now
    · rw [← limits_apply s op]
      exact ih later

end

/-- Whatever is done to a stream, the bytes that were fed are what it let go of, in order, and behind that
what it holds.  Taking something out tells which of the two it was, takes at least a header, and is done
after as many packets as there are headers in what it holds. -/
theorem accounts_balance (limits : Limits) (ops : List Op) :
    let s := after { limits } ops
    ops.flatMap Op.fed = (losses { limits } ops).flatMap Loss.bytes ++ s.unread ∧
      (∀ b, .frame b ∈ losses { limits } ops → ∃ body, IsFrame limits.maxPayload b body) ∧
      s.limits = limits ∧ s.Tells ∧
      (s.hasPacket = true → s.next.state.unread.length + 12 ≤ s.unread.length) ∧
      s.drain.1.length ≤ s.unread.length / 12 ∧ s.drain.2.hasPacket = false ∧
      s.drain.2.unread.length < 12 + limits.maxPayload.toNat := by
  intro s
  have same : s.limits = limits := limits_after { limits } ops
  have left := length_unread_lt (hasPacket_drain s)
  rw [limits_drain, same] at left
  refine ⟨unread_after { limits } ops, fun b => isFrame_of_mem, same, tells s,
    length_unread_next, ?_, hasPacket_drain s, left⟩
  have counted := length_drain s
  rw [Nat.le_div_iff_mul_le (by decide)]
  exact Nat.le_trans (Nat.le_add_right ..) counted

/-! ## A stream with some of everything -/

namespace Mixed

def limits : Limits := ⟨64, 0⟩

/-- A frame around a message with a tag that no kind has. -/
def foreign : Bytes := (Header.forSize 7).bytes ++ [1, 0, 0x41, 0, 0, 0, 0]

/-- A header of another version, and one byte. -/
def bad : Bytes := ({ version := 2 } : Header).bytes ++ [9]

/-- A packet in two pieces with a question too early, then a foreign one, then a header that is none. -/
def ops : List Op :=
  let packet := Message.monitorReady.packet
  [.feed (packet.take 7), .next, .feed (packet.drop 7 ++ foreign ++ bad), .next, .next, .next,
    .feed [1, 2], .reset, .feed [5]]

set_option maxRecDepth 4000 in
theorem losses_ops : losses { limits } ops =
    [.frame Message.monitorReady.packet, .frame foreign, .buffer bad, .buffer [1, 2]] := rfl

theorem hasPacket_ops : (after { limits } (ops.take 3)).hasPacket = true := rfl

end Mixed

/-- The accounts of all this: two frames, two buffers, and the byte that is still there. -/
theorem accounts_of_mixed :
    Mixed.ops.flatMap Op.fed = Message.monitorReady.packet ++ Mixed.foreign ++ Mixed.bad ++ [1, 2] ++
        (after { limits := Mixed.limits } Mixed.ops).unread ∧
      (∃ body, IsFrame 64 Mixed.foreign body) ∧
      let s := after { limits := Mixed.limits } (Mixed.ops.take 3)
      s.hasPacket = true ∧ s.next.state.unread.length + 12 ≤ s.unread.length := by
  -- The losses are evaluated, the balance of them is not.
  obtain ⟨balance, frames, -⟩ := accounts_balance Mixed.limits Mixed.ops
  obtain ⟨-, -, -, -, shorter, -⟩ := accounts_balance Mixed.limits (Mixed.ops.take 3)
  rw [Mixed.losses_ops] at balance frames
  refine ⟨?_, frames Mixed.foreign (by simp), Mixed.hasPacket_ops, shorter Mixed.hasPacket_ops⟩
  simpa [Loss.bytes] using balance

end PacketStream

end RemoteClipboard
