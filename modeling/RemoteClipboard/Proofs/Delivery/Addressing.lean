import RemoteClipboard.Proofs.Delivery.Directory

/-! # Whom a message reaches

`Routing.Addresses` says which connections a number stands for.  Sending puts the message into the
queues of these, where they are open, and leaves all others as they were (`queue?_send_of_held`).

A connection is named by its number here, and `queueOf?` is the queue that goes with it. -/

namespace RemoteClipboard

namespace Registry

variable {r : Registry} {m : Message} {slot : Nat} {entry : Entry} {conn : Int32}
  {q : Queue Message}

/-! ## The queue of a number -/

/-- The queue of a connection. -/
def queueOf? (r : Registry) (conn : Int32) : Option (Queue Message) :=
  (r.findConn? conn).map (·.2.queue)

/-- The messages that wait for a connection. -/
def waiting (r : Registry) (conn : Int32) : List Message :=
  ((r.queueOf? conn).map (·.waiting)).getD []

theorem queueOf?_of_findConn? (found : r.findConn? conn = some (slot, entry)) :
    r.queueOf? conn = some entry.queue := by
  rw [queueOf?, found, Option.map_some]

theorem exists_of_queueOf? (waiting : r.queueOf? conn = some q) :
    ∃ slot entry, r.findConn? conn = some (slot, entry) ∧ entry.queue = q := by
  simpa [queueOf?] using waiting

theorem queueOf?_eq_bind (r : Registry) (conn : Int32) :
    r.queueOf? conn = r.byConn[conn]?.bind r.queue? := by
  cases indexed : r.byConn[conn]? with
  | none => simp [queueOf?, findConn?, indexed]
  | some slot =>
    cases held : r.entries[slot]? with
    | none => simp [queueOf?, findConn?, queue?, indexed, held]
    | some entry => simp [queueOf?, findConn?, queue?, indexed, held]

theorem indexed_of_findConn? (found : r.findConn? conn = some (slot, entry)) :
    r.byConn[conn]? = some slot := by
  simp only [findConn?, Option.bind_eq_bind, Option.bind_eq_some_iff] at found
  obtain ⟨_, indexed, _, _, eq⟩ := found
  cases eq
  exact indexed

theorem findConn?_setQueue (found : r.findConn? conn = some (slot, entry)) :
    (r.setQueue slot q).findConn? conn = some (slot, { entry with queue := q }) := by
  simp only [findConn?, Option.bind_eq_bind, Option.bind_eq_some_iff] at found
  obtain ⟨_, indexed, _, held, eq⟩ := found
  cases eq
  simp [findConn?, setQueue, indexed, held, Array.getElem?_modify]

theorem queueOf?_setQueue (found : r.findConn? conn = some (slot, entry)) :
    (r.setQueue slot q).queueOf? conn = some q :=
  queueOf?_of_findConn? (findConn?_setQueue found)

theorem findConn?_visit (r : Registry) (f : Int32 → Queue Message → Queue Message)
    (conn : Int32) :
    (r.visit f).findConn? conn = (r.findConn? conn).map fun (slot, entry) =>
      (slot, { entry with queue := f entry.conn entry.queue }) := by
  cases indexed : r.byConn[conn]? with
  | none => simp [findConn?, visit, indexed]
  | some slot => cases held : r.entries[slot]? <;> simp [findConn?, visit, indexed, held]

/-- A connection that is added waits for messages. -/
theorem queueOf?_add (peer : Option Bytes) (unused : r.byConn[conn]? = none) :
    (r.add peer conn).2.queueOf? conn = some {} := by
  have slot : (r.byConn.insertIfNew conn r.entries.size)[conn]? = some r.entries.size := by
    have absent : conn ∉ r.byConn := by
      rw [Std.HashMap.mem_iff_isSome_getElem?, unused]
      exact Bool.false_ne_true
    rw [Std.HashMap.getElem?_insertIfNew, if_pos ⟨beq_self_eq_true conn, absent⟩]
  simp only [queueOf?, findConn?, add, slot]
  simp

theorem setQueue_self (held : r.entries[slot]? = some entry) :
    r.setQueue slot entry.queue = r := by
  have entries : (r.setQueue slot entry.queue).entries = r.entries := by
    apply Array.ext_getElem?
    intro place
    rw [setQueue, Array.getElem?_modify]
    split
    next same =>
      subst same
      simp [held]
    next => rfl
  cases r
  simpa [setQueue] using entries

theorem setQueue_setQueue (r : Registry) (slot : Nat) (q p : Queue Message) :
    (r.setQueue slot q).setQueue slot p = r.setQueue slot p := by
  have entries : ((r.setQueue slot q).setQueue slot p).entries = (r.setQueue slot p).entries := by
    apply Array.ext_getElem?
    intro place
    simp only [setQueue, Array.getElem?_modify]
    split
    next => simp [Function.comp_def]
    next => rfl
  simpa [setQueue] using entries

/-! ## Sending to one connection -/

theorem state_post (found : r.findConn? conn = some (slot, entry)) :
    (r.post conn m).state = r.setQueue slot (entry.queue.push m).2 := by
  cases closed : entry.queue.closed with
  | false => simp [post, push?, found, Queue.push, closed]
  | true =>
    have same := setQueue_self (held_of_findConn? found)
    simp [post, push?, found, Queue.push, closed, same]

theorem state_post_of_none (missing : r.findConn? conn = none) : (r.post conn m).state = r := by
  simp [post, push?, missing]

/-- An open queue takes a message in. -/
theorem post_of_open (waiting : r.queueOf? conn = some q) (isOpen : q.closed = false) :
    (r.post conn m).result = .ok () ∧
      (r.post conn m).state.queueOf? conn = some ⟨q.waiting ++ [m], false⟩ := by
  obtain ⟨slot, entry, found, rfl⟩ := exists_of_queueOf? waiting
  constructor
  · simp [post, push?, found, Queue.push, isOpen]
  · rw [state_post found, queueOf?_setQueue found]
    simp [Queue.push, isOpen]

/-- A closed queue takes nothing in. -/
theorem post_of_closed (waiting : r.queueOf? conn = some q) (closed : q.closed = true) :
    (r.post conn m).result = .error (Fault.queueClosed conn) ∧ (r.post conn m).state = r := by
  obtain ⟨slot, entry, found, rfl⟩ := exists_of_queueOf? waiting
  simp [post, push?, found, Queue.push, closed]

theorem post_of_none (missing : r.queueOf? conn = none) :
    (r.post conn m).result = .error (Fault.noConnection conn) ∧ (r.post conn m).state = r := by
  have nowhere : r.findConn? conn = none := Option.map_eq_none_iff.mp missing
  simp [post, push?, nowhere]

/-- Two registries that are the same but for the queue of one connection. -/
structure AgreeBut (conn : Int32) (r r' : Registry) : Prop where
  directory : r'.directory = r.directory
  queues : ∀ slot, r.byConn[conn]? ≠ some slot → r'.queue? slot = r.queue? slot

theorem AgreeBut.refl (conn : Int32) (r : Registry) : AgreeBut conn r r :=
  ⟨rfl, fun _ _ => rfl⟩

theorem agreeBut_setQueue (found : r.findConn? conn = some (slot, entry)) (q : Queue Message) :
    AgreeBut conn r (r.setQueue slot q) where
  directory := directory_setQueue r slot q
  queues := by
    intro place elsewhere
    have apart : slot ≠ place := by
      rintro rfl
      exact elsewhere (indexed_of_findConn? found)
    rw [queue?_setQueue, if_neg apart]

theorem agreeBut_post (r : Registry) (conn : Int32) (m : Message) :
    AgreeBut conn r (r.post conn m).state := by
  -- What is sent goes to the slot to which the index leads, or nowhere.
  cases found : r.findConn? conn with
  | none =>
    rw [state_post_of_none found]
    exact .refl conn r
  | some place =>
    rw [state_post found]
    exact agreeBut_setQueue found _

/-! ## Every queue -/

section

variable (wf : r.WellFormed) (held : r.entries[slot]? = some entry)
include wf held

theorem queue?_post_of_held :
    (r.post conn m).state.queue? slot =
      some (if entry.conn = conn then (entry.queue.push m).2 else entry.queue) := by
  have before := queue?_of_held held
  cases found : r.findConn? conn with
  | none =>
    have other := (findConn?_eq_none_iff wf).mp found entry (Array.mem_of_getElem? held)
    rw [state_post_of_none found, if_neg other, before]
  | some place =>
    obtain ⟨place, target⟩ := place
    obtain ⟨heldTarget, rfl⟩ := (findConn?_eq_some_iff wf).mp found
    rw [state_post found, queue?_setQueue, before]
    by_cases same : entry.conn = target.conn
    · have slots : place = slot :=
        wf.byConn.slot_unique heldTarget held (congrArg some same.symm) rfl
      subst slots
      cases Option.some.inj (held.symm.trans heldTarget)
      simp
    · have slots : place ≠ slot := by
        intro slots
        subst slots
        cases Option.some.inj (held.symm.trans heldTarget)
        exact same rfl
      rw [if_neg slots, if_neg same]

end

end Registry

namespace Routing

variable {routing : Routing} {r : Registry} {conn : Int32} {m : Message}

/-- Whether a number stands for a connection. -/
def Addresses (routing : Routing) (conn target : Int32) : Prop :=
  if conn = 0 then routing.broadcast = true ∨ target = routing.fallback else target = conn

instance (routing : Routing) (conn target : Int32) : Decidable (routing.Addresses conn target) :=
  inferInstanceAs (Decidable (ite _ _ _))

theorem send_of_ne_zero (directed : conn ≠ 0) : routing.send r conn m = r.post conn m :=
  if_pos directed

theorem send_zero_of_not_broadcast (single : routing.broadcast = false) :
    routing.send r 0 m = r.post routing.fallback m := by
  simp [send, single]

theorem state_send_zero_of_broadcast (everyone : routing.broadcast = true) :
    (routing.send r 0 m).state = (r.broadcast m).state := by
  simp [send, everyone]

/-- Sending reaches the connections that are meant, and no others. -/
theorem queue?_send_of_held {slot : Nat} {entry : Registry.Entry} (wf : r.WellFormed)
    (held : r.entries[slot]? = some entry) :
    (routing.send r conn m).state.queue? slot =
      some (if routing.Addresses conn entry.conn then (entry.queue.push m).2 else entry.queue) := by
  by_cases zero : conn = 0
  · subst zero
    cases everyone : routing.broadcast with
    | false =>
      rw [send_zero_of_not_broadcast everyone, Registry.queue?_post_of_held wf held]
      simp [Addresses, everyone]
    | true =>
      rw [state_send_zero_of_broadcast everyone,
        Registry.queue?_broadcast (Registry.queue?_of_held held)]
      simp [Addresses, everyone]
  · rw [send_of_ne_zero zero, Registry.queue?_post_of_held wf held]
    simp [Addresses, zero]

end Routing

end RemoteClipboard
