import RemoteClipboard.Proofs.Wire.Grammar
import RemoteClipboard.Proofs.Wire.Leading

/-! # A stream may be cut anywhere

`split` is the plain way to take a stream apart: it has all bytes at hand and goes through them
once.  A `PacketStream` gets them in pieces, whenever they come, and may be asked for packets at any
time.  Both find the same (`settled_eq_split`).

The proof is an induction on the calls.  What carries it is that the bytes that are not used up and
the bytes still to come, put together, are split as the whole stream was, less what has been taken
out already. -/

namespace RemoteClipboard

namespace PacketStream

/-! ## Splitting all at once -/

/-- Why splitting ends: a header that is none, or less than a packet left. -/
inductive Ending
  | badHeader (fault : Fault)
  | remainder (rest : Bytes)

/-- What a stream holds: the results of its packets, and what comes after them. -/
structure Split where
  results : List (Except Fault Message)
  ending : Ending

/-- All results, that of a bad header included. -/
def Split.all (s : Split) : List (Except Fault Message) :=
  match s.ending with
  | .badHeader fault => s.results ++ [.error fault]
  | .remainder _ => s.results

/-- Splits a stream from front to back. -/
def split (limits : Limits) (b : Bytes) : Split :=
  match _h : lead limits.maxPayload b with
  | .incomplete => ⟨[], .remainder b⟩
  | .badHeader fault => ⟨[], .badHeader fault⟩
  | .packet body rest =>
    let later := split limits rest
    ⟨Message.decode limits.maxEntries body :: later.results, later.ending⟩
termination_by b.length
decreasing_by exact length_rest_lt _h

section

variable {limits : Limits} {b : Bytes}

theorem split_of_incomplete (eq : lead limits.maxPayload b = .incomplete) :
    split limits b = ⟨[], .remainder b⟩ := by
  rw [split]
  split <;> simp_all

theorem split_of_badHeader {fault : Fault} (eq : lead limits.maxPayload b = .badHeader fault) :
    split limits b = ⟨[], .badHeader fault⟩ := by
  rw [split]
  split <;> simp_all

theorem split_of_packet {body rest : Bytes} (eq : lead limits.maxPayload b = .packet body rest) :
    split limits b = ⟨Message.decode limits.maxEntries body :: (split limits rest).results,
      (split limits rest).ending⟩ := by
  rw [split]
  split <;> simp_all

end

theorem Split.all_cons (result : Except Fault Message) (s : Split) :
    Split.all ⟨result :: s.results, s.ending⟩ = result :: s.all := by
  unfold Split.all
  cases s.ending <;> rfl

/-! ## Kinds of results -/

/-- Whether a result only says that there is nothing to take out yet. -/
def isPending : Except Fault Message → Bool
  | .ok _ => false
  | .error fault => fault.code = Fault.Code.invalidState

/-- Whether a result is about a header. -/
def isHeaderFault : Except Fault Message → Bool
  | .ok _ => false
  | .error fault => fault.code = Fault.Code.invalidArgument
      || fault.code = Fault.Code.versionMismatch || fault.code = Fault.Code.payloadTooLarge

/-- A list up to its first element with some property, and including it. -/
def throughFirst {α : Type} (p : α → Bool) : List α → List α
  | [] => []
  | a :: rest => if p a then [a] else a :: throughFirst p rest

theorem decode_ordinary (maxEntries : Nat) (body : Bytes) :
    isPending (Message.decode maxEntries body) = false ∧
      isHeaderFault (Message.decode maxEntries body) = false := by
  cases read : Message.decode maxEntries body with
  | ok m => exact ⟨rfl, rfl⟩
  | error fault =>
    rcases Message.code_of_decode_eq_error read with code | code
    · simp only [isPending, isHeaderFault, code]
      decide
    · simp only [isPending, isHeaderFault, code]
      decide

theorem badHeader_of_lead {limit : UInt32} {b : Bytes} {fault : Fault}
    (eq : lead limit b = .badHeader fault) :
    isPending (.error fault) = false ∧ isHeaderFault (.error fault) = true := by
  cases leads_of_lead_eq eq with
  | badHeader long read =>
    rcases Header.read_eq_error read with short | magic | version | large
    · subst short
      decide
    · subst magic
      decide
    · obtain ⟨version, rfl⟩ := version
      exact ⟨rfl, rfl⟩
    · obtain ⟨size, rfl⟩ := large
      exact ⟨rfl, rfl⟩

/-! ## Calls of a stream -/

/-- What is done to a stream. -/
inductive Call
  | feed (data : Bytes)
  | next

/-- The bytes that come with some calls. -/
def arrived : List Call → Bytes
  | [] => []
  | .feed data :: calls => data ++ arrived calls
  | .next :: calls => arrived calls

/-- Goes through some calls, and gives back what was taken out. -/
def run (s : PacketStream) : List Call → List (Except Fault Message) × PacketStream
  | [] => ([], s)
  | .feed data :: calls => (s.feed data).run calls
  | .next :: calls =>
    let (later, last) := s.next.state.run calls
    (s.next.result :: later, last)

/-- Goes through some calls and then takes out everything there is to take out.  Results that only
say that there was nothing to take out yet are left out. -/
def settle (s : PacketStream) (calls : List Call) : List (Except Fault Message) × PacketStream :=
  let (results, s) := s.run calls
  let (taken, last) := s.drain
  ((results ++ taken.map (·.result)).filter (! isPending ·), last)

/-- Some results and what is left are those of a split stream.  What comes after a bad header is
free: the bytes that arrive later are read from where they are cut. -/
structure Finds (found : List (Except Fault Message) × PacketStream) (s : Split) : Prop where
  through : throughFirst isHeaderFault found.1 = s.all
  whole : ∀ rest, s.ending = .remainder rest → found.1 = s.results ∧ found.2.unread = rest

theorem Finds.cons {found : List (Except Fault Message) × PacketStream} {s : Split}
    {result : Except Fault Message} (ordinary : isHeaderFault result = false)
    (later : Finds found s) :
    Finds (result :: found.1, found.2) ⟨result :: s.results, s.ending⟩ where
  through := by
    rw [Split.all_cons, ← later.through]
    simp [throughFirst, ordinary]
  whole := by
    intro rest ending
    obtain ⟨results, unread⟩ := later.whole rest ending
    exact ⟨by rw [results], unread⟩

theorem Finds.badHeader {fault : Fault} (bad : isHeaderFault (.error fault) = true)
    (found : List (Except Fault Message)) (last : PacketStream) :
    Finds (.error fault :: found, last) ⟨[], .badHeader fault⟩ where
  through := by simp [throughFirst, bad, Split.all]
  whole := nofun

theorem Finds.nothing (s : PacketStream) : Finds ([], s) ⟨[], .remainder s.unread⟩ where
  through := rfl
  whole := by
    intro rest ending
    cases ending
    exact ⟨rfl, rfl⟩

/-! ## One step after the other -/

theorem settle_feed (s : PacketStream) (data : Bytes) (calls : List Call) :
    s.settle (.feed data :: calls) = (s.feed data).settle calls := rfl

theorem settle_next (s : PacketStream) (calls : List Call) :
    s.settle (.next :: calls) =
      ((if isPending s.next.result then [] else [s.next.result]) ++
        (s.next.state.settle calls).1, (s.next.state.settle calls).2) := by
  simp only [settle, run, List.cons_append, List.filter_cons]
  cases isPending s.next.result <;> rfl

theorem settle_nil_of_hasPacket {s : PacketStream} (has : s.hasPacket = true) :
    s.settle [] = s.settle [.next] := by
  simp only [settle, run]
  rw [drain, dif_pos has]
  rfl

theorem settle_nil_of_not_hasPacket {s : PacketStream} (has : s.hasPacket = false) :
    s.settle [] = ([], s) := by
  simp only [settle, run]
  rw [drain, dif_neg (by simp [has])]
  rfl

/-- Taking out what is in front and then finding what the bytes behind it hold, with `more` still to
come, is finding what the whole stream holds. -/
theorem finds_next {s : PacketStream} {calls : List Call} {more : Bytes}
    (later : Finds (s.next.state.settle calls)
      (split s.next.state.limits (s.next.state.unread ++ more))) :
    Finds (s.settle (.next :: calls)) (split s.limits (s.unread ++ more)) := by
  rw [settle_next]
  cases front : lead s.limits.maxPayload s.unread with
  | incomplete =>
    -- Nothing is taken out, and what is left out of the results is all there was to say.
    obtain ⟨-, result, state⟩ := next_of_incomplete front
    have pending : isPending s.next.result = true := by rw [result]; rfl
    rw [pending]
    rw [state] at later ⊢
    exact later
  | badHeader fault =>
    -- Splitting ends here, so it does not matter what the stream makes of the bytes behind.
    obtain ⟨-, result, -⟩ := next_of_badHeader front
    obtain ⟨kept, bad⟩ := badHeader_of_lead front
    rw [split_of_badHeader (lead_append_of_badHeader front more), result, kept]
    exact .badHeader bad _ _
  | packet body rest =>
    obtain ⟨-, result, unread, limits⟩ := next_of_packet front
    obtain ⟨kept, ordinary⟩ := decode_ordinary s.limits.maxEntries body
    rw [unread, limits] at later
    rw [split_of_packet (lead_append_of_packet front more), result, kept]
    exact .cons ordinary later

theorem finds_drain (s : PacketStream) : Finds (s.settle []) (split s.limits s.unread) := by
  induction s using drain.induct with
  | case1 s has first _ _ _ ih =>
    rw [settle_nil_of_hasPacket has, ← List.append_nil s.unread]
    apply finds_next
    rw [List.append_nil]
    exact ih
  | case2 s has =>
    rw [settle_nil_of_not_hasPacket (by simpa using has)]
    cases front : lead s.limits.maxPayload s.unread with
    | incomplete =>
      rw [split_of_incomplete front]
      exact .nothing s
    | badHeader fault => exact absurd (next_of_badHeader front).1 has
    | packet body rest => exact absurd (next_of_packet front).1 has

theorem finds_settle (calls : List Call) (s : PacketStream) :
    Finds (s.settle calls) (split s.limits (s.unread ++ arrived calls)) := by
  induction calls generalizing s with
  | nil =>
    rw [arrived, List.append_nil]
    exact finds_drain s
  | cons call calls ih =>
    cases call with
    | feed data =>
      -- The bytes move from those still to come to those that are there.
      have later := ih (s.feed data)
      rw [unread_feed, List.append_assoc] at later
      rw [settle_feed]
      exact later
    | next => exact finds_next (ih s.next.state)

/-- However a stream is cut and whenever packets are asked for, what is found in it is what
splitting finds: all of it up to the first bad header, and, where no header is bad, just this and
what is left over. -/
theorem settled_eq_split (limits : Limits) (calls : List Call) :
    throughFirst isHeaderFault (settle { limits } calls).1 = (split limits (arrived calls)).all ∧
      ∀ rest, (split limits (arrived calls)).ending = .remainder rest →
        (settle { limits } calls).1 = (split limits (arrived calls)).results ∧
          (settle { limits } calls).2.unread = rest := by
  have finds := finds_settle calls { limits }
  exact ⟨finds.through, finds.whole⟩

end PacketStream

end RemoteClipboard
