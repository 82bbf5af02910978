import RemoteClipboard.Proofs.Delivery.Addressing
import RemoteClipboard.Proofs.Delivery.Runs
import RemoteClipboard.Proofs.Files.Replies

/-! # Whom an answer reaches

A share answers over the number of the connection that asks, and takes number zero for one like any
other.  The routing does not: to it zero means everyone, or one default connection.  So answers stay
with the connection that asked unless that is number zero (`confined_iff`), and what number zero
asks for can be read by others (`answer_to_zero_reaches_another`). -/

namespace RemoteClipboard

open Message (FileRequest FileReply)

namespace FileShare

section

variable {s : FileShare} {disk : Disk} {routing : Routing} {outbound : Registry} {conn : Int32}
  {r : FileRequest}

/-- Whether the answers to a connection reach an open queue other than its own. -/
def Spreads (s : FileShare) (routing : Routing) (outbound : Registry) (conn : Int32) : Prop :=
  s.stopped = false ∧ conn = 0 ∧ ∃ entry ∈ outbound.entries, entry.conn ≠ 0 ∧
    entry.queue.closed = false ∧ (routing.broadcast = true ∨ entry.conn = routing.fallback)

theorem queue?_serve_request_of_held {slot : Nat} {entry : Registry.Entry}
    (wf : outbound.WellFormed) (held : outbound.entries[slot]? = some entry) :
    (s.serve disk routing outbound conn (.fileContentsRequest r)).state.queue? slot =
      some (if s.stopped = false ∧ routing.Addresses conn entry.conn then
          (entry.queue.push (.fileContentsResponse (s.answer disk conn r))).2
        else entry.queue) := by
  rw [state_serve_request]
  cases stopped : s.stopped with
  | true => simp [Registry.queue?_of_held held]
  | false =>
    simp only [Bool.false_eq_true, if_false, true_and]
    exact Routing.queue?_send_of_held wf held

/-- A connection that does not ask is reached by answers to number zero alone. -/
theorem queue?_serve_request_of_ne {slot : Nat} {entry : Registry.Entry}
    (wf : outbound.WellFormed) (held : outbound.entries[slot]? = some entry)
    (other : entry.conn ≠ conn) :
    (s.serve disk routing outbound conn (.fileContentsRequest r)).state.queue? slot =
      some (if s.stopped = false ∧ conn = 0 ∧
          (routing.broadcast = true ∨ entry.conn = routing.fallback) then
        (entry.queue.push (.fileContentsResponse (s.answer disk conn r))).2
      else entry.queue) := by
  rw [queue?_serve_request_of_held wf held]
  by_cases zero : conn = 0
  · simp [Routing.Addresses, zero]
  · simp [Routing.Addresses, zero, other]

/-- What number zero asks for is answered to all whom the routing means by it; any other connection
is answered alone.  So answers stay with the connection that asks exactly when it is another than
zero, or there is nobody else whom they could reach. -/
theorem confined_iff (s : FileShare) (disk : Disk) (routing : Routing) (outbound : Registry)
    (reachable : outbound.Reachable) (conn : Int32) (r : FileRequest) :
    (∀ slot entry, outbound.entries[slot]? = some entry → entry.conn ≠ conn →
      (s.serve disk routing outbound conn (.fileContentsRequest r)).state.queue? slot =
        some (if s.stopped = false ∧ conn = 0 ∧
            (routing.broadcast = true ∨ entry.conn = routing.fallback) then
          (entry.queue.push (.fileContentsResponse (s.answer disk conn r))).2
        else entry.queue)) ∧
    ((∀ slot entry, outbound.entries[slot]? = some entry → entry.conn ≠ conn →
      (s.serve disk routing outbound conn (.fileContentsRequest r)).state.queue? slot =
        some entry.queue) ↔ ¬ s.Spreads routing outbound conn) := by
  have wf := Registry.wellFormed_of_reachable reachable
  refine ⟨fun slot entry held other => queue?_serve_request_of_ne wf held other, ?_⟩
  constructor
  · rintro unchanged ⟨running, rfl, entry, member, other, isOpen, meant⟩
    obtain ⟨slot, held⟩ := Array.mem_iff_getElem?.mp member
    have after : (s.serve disk routing outbound 0 (.fileContentsRequest r)).state.queue? slot = _ :=
      queue?_serve_request_of_ne wf held other
    rw [if_pos ⟨running, rfl, meant⟩, unchanged slot entry held other] at after
    have closed := Queue.push_eq_self_iff.mp (Option.some.inj after).symm
    rw [isOpen] at closed
    cases closed
  · intro confined slot entry held other
    rw [queue?_serve_request_of_ne wf held other]
    split
    next meant =>
      obtain ⟨running, rfl, meant⟩ := meant
      have closed : entry.queue.closed = true := by
        by_contra isOpen
        exact confined ⟨running, rfl, entry, Array.mem_of_getElem? held, other,
          eq_false_of_ne_true isOpen, meant⟩
      rw [Queue.push_eq_self_iff.mpr closed]
    next => rfl

end

/-! ## Two connections -/

namespace Pair

/-- A share that offers one file to connection 0. -/
def share : FileShare where
  lists := ({} : Std.HashMap Int32 (List Bytes)).insert 0 [[102]]

/-- The disk on which every path leads to a file of three bytes. -/
def disk : Disk := fun _ => .ok (File.ofBytes [1, 2, 3], {})

/-- The registry in which connections 0 and 7 wait for what is sent to them. -/
def outbound : Registry := Registry.run {} [.openConn 0, .openConn 7]

theorem reachable_outbound : outbound.Reachable :=
  ⟨[.openConn 0, .openConn 7], ⟨trivial, trivial, trivial⟩, rfl⟩

theorem outbound_eq : outbound = ((({} : Registry).add none 0).2.add none 7).2 := by
  have zero : (({} : Registry).openConn 0).state = (({} : Registry).add none 0).2 :=
    (Registry.openConn_of_none (by decide) (by simp [Registry.findConn?])).2
  have seven : ((({} : Registry).add none 0).2.openConn 7).state =
      ((({} : Registry).add none 0).2.add none 7).2 := by
    refine (Registry.openConn_of_none (by decide) ?_).2
    simp [Registry.findConn?, Registry.add]
  change ((({} : Registry).openConn 0).state.openConn 7).state = _
  rw [zero, seven]

theorem entry_outbound : outbound.entries[1]? = some ⟨none, 7, {}⟩ := by
  simp [outbound_eq, Registry.add]

theorem answer_request :
    share.answer disk 0 (Single.request 3) = ⟨FileReply.okStatus, 1, [1, 2, 3]⟩ := by
  have resolved : share.resolve 0 (Single.request 3).index = .ok [102] := by
    have list : share.lists[(0 : Int32)]? = some [[102]] := Std.HashMap.getElem?_insert_self
    rw [resolve, list]
    rfl
  have found : disk [102] = .ok (File.ofBytes [1, 2, 3], {}) := rfl
  have read := read_of_range (r := Single.request 3) resolved rfl found
    (Single.readable_request 3 _) (by decide) (by decide)
  rw [answer_of_read read, Single.offset_request]
  rfl

end Pair

/-- What connection 7 asks for is not seen by connection 0. -/
theorem confined_of_seven :
    Pair.outbound.Reachable ∧ ∀ slot entry, Pair.outbound.entries[slot]? = some entry →
      entry.conn ≠ 7 →
      (Pair.share.serve Pair.disk ⟨true, 0⟩ Pair.outbound 7
        (.fileContentsRequest (Single.request 3))).state.queue? slot = some entry.queue := by
  have confined := confined_iff Pair.share Pair.disk ⟨true, 0⟩ Pair.outbound
    Pair.reachable_outbound 7 (Single.request 3)
  refine ⟨Pair.reachable_outbound, confined.2.mpr ?_⟩
  rintro ⟨-, zero, -⟩
  cases zero

/-- What connection 0 asks for is put before connection 7, which did not ask. -/
theorem answer_to_zero_reaches_another :
    Pair.outbound.Reachable ∧ Pair.outbound.entries[1]? = some ⟨none, 7, {}⟩ ∧
      (Pair.share.serve Pair.disk ⟨true, 0⟩ Pair.outbound 0
        (.fileContentsRequest (Single.request 3))).state.queue? 1 =
          some ⟨[.fileContentsResponse ⟨FileReply.okStatus, 1, [1, 2, 3]⟩], false⟩ := by
  refine ⟨Pair.reachable_outbound, Pair.entry_outbound, ?_⟩
  have wf := Registry.wellFormed_of_reachable Pair.reachable_outbound
  rw [queue?_serve_request_of_held wf Pair.entry_outbound, Pair.answer_request]
  rfl

end FileShare

end RemoteClipboard
