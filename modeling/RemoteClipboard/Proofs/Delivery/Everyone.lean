import RemoteClipboard.Proofs.Bridge.Closing
import RemoteClipboard.Proofs.Delivery.Arrival
import RemoteClipboard.Proofs.Delivery.Clients

/-! # Sending to everyone

To send to everyone passes through the entries and never looks at an index, and to send to one
connection goes by the index.  Both come to the same: a message to everyone is a message to each
connection, in whatever order they are taken (`postEach_eq_broadcast`).  Each of these sends is a visit
that changes one queue, and no number stands for two queues, so the visits are one visit of all
(`snd_postEach`); whether a queue is open is not changed by sending, so the count does not depend on
the order either (`fst_postEach`). -/

namespace RemoteClipboard

namespace Registry

variable {r : Registry} {m : Message} {conns : List Int32}

/-! ## One after the other -/

/-- Sends a message to connections one after the other, and counts those that took it. -/
def postEach (r : Registry) (m : Message) : List Int32 → Nat × Registry
  | [] => (0, r)
  | conn :: conns =>
    let sent := r.post conn m
    let rest := sent.state.postEach m conns
    (rest.1 + if sent.result = .ok () then 1 else 0, rest.2)

section

variable (wf : r.WellFormed)
include wf

/-- What is sent leaves open what was open, and closed what was closed. -/
theorem isOpen_post (client conn : Int32) (m : Message) :
    (r.post client m).state.isOpen conn = r.isOpen conn := by
  rw [isOpen, isOpen, queueOf?_post wf]
  cases r.queueOf? conn with
  | none => rfl
  | some q => by_cases same : conn = client <;> simp [same]

theorem wellFormed_post (conn : Int32) (m : Message) : (r.post conn m).state.WellFormed :=
  wf.congr (directory_post r conn m)

theorem snd_postEach (distinct : conns.Nodup) :
    (r.postEach m conns).2 = r.visit fun conn q => if conn ∈ conns then (q.push m).2 else q := by
  induction conns generalizing r with
  | nil => simpa [postEach] using (visit_id r).symm
  | cons first conns ih =>
    obtain ⟨apart, distinct⟩ := List.nodup_cons.mp distinct
    rw [postEach, ih (wellFormed_post wf first m) distinct, state_post_eq_visit wf, visit_visit]
    congr 1
    funext conn q
    -- The first connection is not met again.
    by_cases same : conn = first
    · simp [same, apart]
    · simp [same]

theorem fst_postEach : (r.postEach m conns).1 = conns.countP r.isOpen := by
  induction conns generalizing r with
  | nil => rfl
  | cons first conns ih =>
    have others : (r.post first m).state.isOpen = r.isOpen :=
      funext fun conn => isOpen_post wf first conn m
    rw [postEach, ih (wellFormed_post wf first m), others, List.countP_cons]
    simp only [post_eq_ok_iff]

theorem nodup_conns : (r.entries.toList.map Entry.conn).Nodup := by
  have distinct := wf.byConn.nodup
  rwa [List.filterMap_eq_map'] at distinct

/-- As many numbers stand for an open queue as there are entries with one. -/
theorem countP_isOpen :
    (r.entries.toList.map Entry.conn).countP r.isOpen =
      r.entries.toList.countP (!·.queue.closed) := by
  rw [List.countP_map]
  refine List.countP_congr fun entry member => ?_
  obtain ⟨slot, held⟩ := Array.mem_iff_getElem?.mp (Array.mem_toList_iff.mp member)
  rw [Function.comp_apply, isOpen_of_findConn? (findConn?_of_held wf held)]

/-- A message to everyone is a message to each connection, in any order. -/
theorem postEach_eq_broadcast (distinct : conns.Nodup)
    (all : ∀ conn, conn ∈ conns ↔ ∃ entry ∈ r.entries, entry.conn = conn) :
    r.postEach m conns = ((r.broadcast m).result, (r.broadcast m).state) := by
  have listed : conns.Perm (r.entries.toList.map Entry.conn) :=
    (List.perm_ext_iff_of_nodup distinct (nodup_conns wf)).mpr fun conn => by simp [all]
  have counts : (r.postEach m conns).1 = (r.broadcast m).result := by
    rw [fst_postEach wf, listed.countP_eq, countP_isOpen wf]
    rfl
  have states : (r.postEach m conns).2 = (r.broadcast m).state := by
    rw [snd_postEach wf distinct, state_broadcast]
    refine visit_congr fun entry member => ?_
    rw [if_pos ((all entry.conn).mpr ⟨entry, member, rfl⟩)]
  exact Prod.ext counts states

end

/-! ## Who is reached and what is logged -/

/-- The line about an entry that a message to everyone does not reach. -/
def missed (m : Message) (entry : Entry) : Log.Record :=
  ⟨.dispatch, .warning,
    Log.text ["broadcast of ", m.tag, " to conn ", entry.conn, " failed: queue closed"]⟩

theorem record?_broadcast (r : Registry) (m : Message) :
    (r.broadcast m).journal.filterMap Notice.record? =
      (r.entries.toList.filter (·.queue.closed)).map (missed m) := by
  rw [broadcast, List.filterMap_filterMap, ← List.filterMap_eq_map, List.filterMap_filter]
  congr 1
  funext entry
  cases entry.queue.closed <;> rfl

/-- Each entry that is not reached is logged once and in order, and nothing else is. -/
theorem records_broadcast (r : Registry) (m : Message) (ls : Log.Levels) :
    (r.broadcast m).journal.records ls =
      if ls.admits .dispatch .warning then
        (r.entries.toList.filter (·.queue.closed)).map (missed m)
      else [] := by
  rw [Journal.records_eq, record?_broadcast, List.filter_map]
  cases admitted : ls.admits .dispatch .warning <;>
    simp [Function.comp_def, missed, admitted]

/-- What a message to everyone does: each open queue gets it at the back, and everything else is as
before.  Those that are closed are logged, if warnings are. -/
structure ToEveryone (r : Registry) (m : Message) (sent : Outcome Registry Nat) : Prop where
  reached : ∀ (slot : Nat) (entry : Entry), r.entries[slot]? = some entry →
    entry.queue.closed = false →
      sent.state.entries[slot]? = some { entry with queue := ⟨entry.queue.waiting ++ [m], false⟩ }
  passed : ∀ (slot : Nat) (entry : Entry), r.entries[slot]? = some entry →
    entry.queue.closed = true → sent.state.entries[slot]? = some entry
  kept : sent.state.directory = r.directory
  count : sent.result = r.entries.toList.countP (!·.queue.closed)
  records : ∀ ls : Log.Levels, sent.journal.records ls =
    if ls.admits .dispatch .warning then
      (r.entries.toList.filter (·.queue.closed)).map (missed m)
    else []
  events : sent.journal.events = []

theorem toEveryone (r : Registry) (m : Message) : r.ToEveryone m (r.broadcast m) := by
  have after {slot : Nat} {entry : Entry} (held : r.entries[slot]? = some entry) :
      (r.broadcast m).state.entries[slot]? =
        some { entry with queue := (entry.queue.push m).2 } := by
    simp [broadcast, held]
  constructor
  · intro slot entry held isOpen
    rw [after held, Queue.push, isOpen]
    rfl
  · intro slot entry held closed
    rw [after held, Queue.push_eq_self_iff.mpr closed]
  · rw [state_broadcast, directory_visit]
  · rfl
  · exact records_broadcast r m
  · exact events_broadcast r m

/-- A message to everyone reaches all that are open.  It leaves what is left by sending it to each
connection in any order, and counts those that would have taken it then.  Where connection 0 stands for
everyone, sending there is the same and always succeeds. -/
theorem broadcast_of_reachable (reachable : r.Reachable) (m : Message) :
    r.ToEveryone m (r.broadcast m) ∧
      (∀ conns : List Int32, conns.Nodup →
        (∀ conn, conn ∈ conns ↔ ∃ entry ∈ r.entries, entry.conn = conn) →
          r.postEach m conns = ((r.broadcast m).result, (r.broadcast m).state)) ∧
      ∀ routing : Routing, routing.broadcast = true →
        routing.send r 0 m = ⟨.ok (), (r.broadcast m).state, (r.broadcast m).journal ++
          [.line .dispatch .verbose
            ["broadcast ", m.tag, " to ", (r.broadcast m).result, " session(s)"]]⟩ := by
  have wf := wellFormed_of_reachable reachable
  refine ⟨toEveryone r m, fun conns distinct all => postEach_eq_broadcast wf distinct all, ?_⟩
  intro routing everyone
  simp [Routing.send, everyone]

/-! ## A registry with a closed queue -/

namespace PartlyClosed

/-- Connection 0 is one of those that are open, and connection 7 is closed. -/
def ops : List Op := [.openConn 0, .openConn 7, .openPeer [], .receiver 1 .close]

theorem reachable_run : (run {} ops).Reachable :=
  ⟨ops, fitsAll_of_length_lt wellFormed_empty dense_empty (by simp [ops]), rfl⟩

theorem entries_run :
    (run {} ops).entries = #[⟨none, 0, {}⟩, ⟨none, 7, ⟨[], true⟩⟩, ⟨some [], 1, {}⟩] := by
  simp [ops, run, step, Outcome.map, openConn, openPeer, findConn?, findPeer?, add,
    IdAllocator.nextFree, IdAllocator.next, queue?, setQueue, Host.Take.apply, Queue.close]

theorem mem_conns_run (conn : Int32) :
    conn ∈ ([1, 7, 0] : List Int32) ↔ ∃ entry ∈ (run {} ops).entries, entry.conn = conn := by
  simp [entries_run, eq_comm, or_comm, or_left_comm]

end PartlyClosed

/-- Two connections are reached and one is logged, and the same two are reached if they are taken one
after the other, the last one first. -/
theorem broadcast_of_partlyClosed :
    let r := run {} PartlyClosed.ops
    let m := Message.monitorReady
    (r.broadcast m).result = 2 ∧
      (r.broadcast m).journal.records {} = [missed m ⟨none, 7, ⟨[], true⟩⟩] ∧
      (r.postEach m [1, 7, 0]).1 = 2 ∧ (r.postEach m [1, 7, 0]).2 = (r.broadcast m).state ∧
      ((⟨true, 5⟩ : Routing).send r 0 m).result = .ok () := by
  intro r m
  obtain ⟨reached, directed, zero⟩ := broadcast_of_reachable PartlyClosed.reachable_run m
  have entries : r.entries = _ := PartlyClosed.entries_run
  have count : (r.broadcast m).result = 2 := by
    rw [reached.count, entries]
    rfl
  have each := directed [1, 7, 0] (by decide) PartlyClosed.mem_conns_run
  refine ⟨count, ?_, ?_, ?_, ?_⟩
  · rw [reached.records, entries]
    rfl
  · rw [each, count]
  · rw [each]
  · rw [zero ⟨true, 5⟩ rfl]

end Registry

end RemoteClipboard
