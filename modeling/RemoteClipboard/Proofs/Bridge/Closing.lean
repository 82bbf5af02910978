import RemoteClipboard.Proofs.Bridge.Accounts
import RemoteClipboard.Proofs.Bridge.Lookups

/-! # Queues that are closed

A queue that is closed never takes anything in again, and hands out what it held
(`Registry.shut_of_closed`).  To shut down a bridge closes the queues of that time, and since entries
stay and nobody can open a queue, they are closed however the bridge is used afterwards
(`Bridge.shut_run`).  Connections that are opened later have queues of their own, which close when they
are closed themselves and not before (`Bridge.isClosedAt_run`). -/

namespace RemoteClipboard

/-- What a receiver gets from a closed queue: its first message, or word that there is none. -/
theorem Host.Take.apply_of_closed {q : Queue Message} (closed : q.closed = true) :
    (Host.Take.apply q .wait).1 = .message q.waiting.head? ∧
      (Host.Take.apply q .one).1 = .message q.waiting.head? := by
  simp [apply, Queue.wouldBlock, Queue.take_eq, closed]

theorem Host.Take.closed_apply (take : Host.Take) (q : Queue Message) :
    (take.apply q).2.closed = true ↔ q.closed = true ∨ take = .close := by
  cases take with
  | wait =>
    cases blocks : q.wouldBlock with
    | true => simp [apply, blocks]
    | false => simp [apply, blocks, Queue.take_eq]
  | one => simp [apply, Queue.take_eq]
  | close => simp [apply, Queue.close]
  | all => simp [apply, Queue.takeAll]
  | packets => simp [apply, Queue.takeAll]
  | count => simp [apply]
  | isClosed => simp [apply]

namespace Registry

/-- Whether an operation does no more to queues than receivers and senders do, or closes them: a
visitor of all queues neither opens one nor puts in or takes out. -/
def Op.OnlyCloses : Op → Prop
  | .visit f => ∀ conn queue, f conn queue = queue ∨ f conn queue = queue.close
  | _ => True

/-- The message that an operation tries to put into one queue or several. -/
def Op.puts? : Op → Option Message
  | .send _ _ m | .broadcast m | .push _ m => some m
  | _ => none

/-- Whether an operation is to bring a message to a connection. -/
def Op.Offers (conn : Int32) (m : Message) : Op → Prop
  | .send routing target sent => sent = m ∧ routing.Addresses target conn
  | .broadcast sent => sent = m
  | .push target sent => sent = m ∧ target = conn
  | _ => False

def isClosedAt (r : Registry) (slot : Nat) : Bool := (r.queue? slot).any (·.closed)

/-- Whether an operation closes the queue in a slot. -/
def Closes (r : Registry) (slot : Nat) : Op → Prop
  | .visit f => ∃ entry : Entry,
    r.entries[slot]? = some entry ∧ (f entry.conn entry.queue).closed = true
  | .receiver place take => place = slot ∧ take = .close
  | _ => False

/-- The queue in a slot is closed: nothing is put in any more, and a receiver gets the messages that
are there and then word that there is none. -/
structure Shut (r : Registry) (slot : Nat) (entry : Entry) : Prop where
  held : r.entries[slot]? = some entry
  closed : entry.queue.closed = true
  directed : ∀ routing target m, ¬ (target = 0 ∧ routing.broadcast = true) →
    routing.Addresses target entry.conn →
      (r.step (.send routing target m)).result = .refused (Fault.queueClosed entry.conn)
  pushed : ∀ m, (r.step (.push entry.conn m)).result = .flag false
  passed : ∀ op m, op.puts? = some m → (r.step op).state.entries[slot]? = some entry
  received : ∀ take, take = .wait ∨ take = .one →
    (r.step (.receiver slot take)).result = .message entry.queue.waiting.head?

/-- The queue in a slot takes in whatever is sent to its connection. -/
structure TakesIn (r : Registry) (slot : Nat) (entry : Entry) : Prop where
  held : r.entries[slot]? = some entry
  accepted : ∀ op m, op.Offers entry.conn m → r.accepted entry.conn op = [m]
  put : ∀ op m, op.Offers entry.conn m → (r.step op).state.entries[slot]? =
    some { entry with queue := ⟨entry.queue.waiting ++ [m], false⟩ }

variable {r : Registry} {op : Op} {slot : Nat} {entry : Entry} {conn : Int32} {m : Message}

theorem Op.OnlyCloses.orderly (polite : op.OnlyCloses) : op.Orderly := by
  cases op with
  | visit f =>
    intro conn queue
    rcases polite conn queue with same | closed
    · rw [same]
    · rw [closed]
      rfl
  | _ => trivial

/-! ## One operation -/

theorem isClosedAt_of_held (held : r.entries[slot]? = some entry) :
    r.isClosedAt slot = entry.queue.closed := by
  simp [isClosedAt, queue?_of_held held]

/-- What an operation leaves in a queue is all that it does to the entry. -/
theorem held_step_of_queue? {q : Queue Message} (held : r.entries[slot]? = some entry)
    (after : (r.step op).state.queue? slot = some q) :
    (r.step op).state.entries[slot]? = some { entry with queue := q } := by
  obtain ⟨queue, later⟩ := held_step op held
  cases Option.some.inj (after.symm.trans (queue?_of_held later))
  exact later

theorem queue?_of_puts {q : Queue Message} (puts : op.puts? = some m)
    (before : r.queue? slot = some q) :
    (r.step op).state.queue? slot = some q ∨ (r.step op).state.queue? slot = some (q.push m).2 := by
  cases op with
  | send routing conn sent =>
    cases puts
    exact Routing.queue?_send routing conn before
  | broadcast sent =>
    cases puts
    exact .inr (queue?_broadcast before)
  | push conn sent =>
    cases puts
    simp only [step]
    split
    next => exact .inl before
    next pushed => exact queue?_push? pushed before
  | _ => cases puts

theorem queue?_of_opens (opens : op.opens = true) (held : r.entries[slot]? = some entry) :
    (r.step op).state.queue? slot = some entry.queue := by
  rcases state_step_of_opens (r := r) opens with same | ⟨_, _, _, -, added⟩ | ⟨_, -, added⟩
  · rw [same]
    exact queue?_of_held held
  · rw [added]
    exact queue?_of_held (held_push held _)
  · rw [added]
    exact queue?_of_held (held_push held _)

/-- A queue is closed after an operation if it was before, or if the operation closed it. -/
theorem closed_step (polite : op.OnlyCloses) (held : r.entries[slot]? = some entry) :
    ∃ queue, (r.step op).state.queue? slot = some queue ∧
      (queue.closed = true ↔ entry.queue.closed = true ∨ r.Closes slot op) := by
  have before := queue?_of_held held
  -- What is put in neither opens a queue nor closes it.
  have put (m : Message) (puts : op.puts? = some m) :
      ∃ queue, (r.step op).state.queue? slot = some queue ∧
        queue.closed = entry.queue.closed := by
    rcases queue?_of_puts puts before with same | pushed
    · exact ⟨_, same, rfl⟩
    · exact ⟨_, pushed, Queue.closed_push entry.queue m⟩
  cases op with
  | openPeer _ | openConn _ => exact ⟨_, queue?_of_opens rfl held, by simp [Closes]⟩
  | lookup _ | find _ => exact ⟨_, before, by simp [Closes]⟩
  | visit f =>
    refine ⟨f entry.conn entry.queue, by simp [step, visit, queue?, held], ?_⟩
    rcases polite entry.conn entry.queue with same | closed
    · simp [Closes, same, held]
    · simp [Closes, closed, held, Queue.close]
  | send _ _ m | broadcast m | push _ m =>
    obtain ⟨queue, after, same⟩ := put m rfl
    exact ⟨queue, after, by simp [Closes, same]⟩
  | receiver place take =>
    by_cases here : place = slot
    · subst here
      refine ⟨(take.apply entry.queue).2, by simp [step, before, queue?_setQueue], ?_⟩
      simp [Closes, take.closed_apply]
    · refine ⟨entry.queue, ?_, by simp [Closes, here]⟩
      simp only [step]
      split
      next => exact before
      next => rw [queue?_setQueue, if_neg here, before]

/-- A queue that is new is open. -/
theorem isClosedAt_of_new (new : r.entries[slot]? = none) :
    (r.step op).state.isClosedAt slot = false := by
  have outside : r.entries.size ≤ slot := Array.getElem?_eq_none_iff.mp new
  -- The slot stays empty, or it gets the entry that is added.
  have added {entry : Entry} (isOpen : entry.queue = {})
      (pushed : (r.step op).state.entries = r.entries.push entry) :
      (r.step op).state.isClosedAt slot = false := by
    rw [isClosedAt, queue?, pushed, Array.getElem?_push]
    split
    next => simp [isOpen]
    next => simp [outside]
  rcases entries_step r op with same | ⟨_, _, -, pushed⟩ | ⟨_, -, pushed⟩
  · have size := congrArg (·.entries.size) same
    simp only [directory, Array.size_map] at size
    have still : (r.step op).state.entries[slot]? = none :=
      Array.getElem?_eq_none_iff.mpr (size ▸ outside)
    simp [isClosedAt, queue?, still]
  · exact added rfl pushed
  · exact added rfl pushed

theorem isClosedAt_step (polite : op.OnlyCloses) :
    (r.step op).state.isClosedAt slot = true ↔
      r.isClosedAt slot = true ∨ slot < r.size ∧ r.Closes slot op := by
  cases held : r.entries[slot]? with
  | none =>
    have outside : ¬ slot < r.size := Nat.not_lt.mpr (Array.getElem?_eq_none_iff.mp held)
    have before : r.isClosedAt slot = false := by simp [isClosedAt, queue?, held]
    simp [isClosedAt_of_new held, outside, before]
  | some entry =>
    have inside := lt_size_of_held held
    obtain ⟨queue, after, closedIff⟩ := closed_step polite held
    simp [isClosedAt, after, queue?_of_held held, closedIff, inside]

/-! ## Closed queues and open ones -/

/-- A message that is meant for one connection is put into its queue. -/
theorem send_of_addresses {routing : Routing} {target : Int32}
    (directed : ¬ (target = 0 ∧ routing.broadcast = true))
    (meant : routing.Addresses target conn) : routing.send r target m = r.post conn m := by
  by_cases zero : target = 0
  · subst zero
    have single : routing.broadcast = false := by simpa using directed
    have fallback : conn = routing.fallback := by simpa [Routing.Addresses, single] using meant
    rw [Routing.send_zero_of_not_broadcast single, fallback]
  · have same : conn = target := by simpa [Routing.Addresses, zero] using meant
    rw [Routing.send_of_ne_zero zero, same]

section

variable (wf : r.WellFormed) (held : r.entries[slot]? = some entry)
include wf held

theorem findConn?_of_held : r.findConn? entry.conn = some (slot, entry) :=
  (findConn?_eq_some_iff wf).mpr ⟨held, rfl⟩

theorem push?_of_held (m : Message) :
    r.push? entry.conn m =
      some ((entry.queue.push m).1, r.setQueue slot (entry.queue.push m).2) := by
  simp [push?, findConn?_of_held wf held]

theorem result_post_of_closed (closed : entry.queue.closed = true) (m : Message) :
    (r.post entry.conn m).result = .error (Fault.queueClosed entry.conn) :=
  (post_of_closed (queueOf?_of_findConn? (findConn?_of_held wf held)) closed).1

theorem accepted_of_closed (closed : entry.queue.closed = true) (op : Op) :
    r.accepted entry.conn op = [] := by
  have shut : r.isOpen entry.conn = false := by
    simp [isOpen_of_findConn? (findConn?_of_held wf held), closed]
  cases op with
  | send routing target m =>
    simp only [accepted, shut]
    split
    next => rfl
    next directed =>
      rw [if_neg]
      rintro ⟨meant, ok⟩
      rw [send_of_addresses directed meant, result_post_of_closed wf held closed] at ok
      cases ok
  | broadcast m => simp [accepted, shut]
  | push target m =>
    rw [accepted, if_neg]
    rintro ⟨rfl, ok⟩
    simp [push?_of_held wf held, Queue.push, closed] at ok
  | _ => rfl

theorem shut_of_closed (closed : entry.queue.closed = true) : r.Shut slot entry where
  held := held
  closed := closed
  directed := by
    intro routing target m directed meant
    simp [step, Outcome.map, send_of_addresses directed meant, result_post_of_closed wf held closed,
      Host.Reply.ofUnit]
  pushed := by
    intro m
    simp [step, push?_of_held wf held, Queue.push, closed]
  passed := by
    intro op m puts
    -- Whoever is meant, a closed queue is left as it was.
    have same : (entry.queue.push m).2 = entry.queue := Queue.push_eq_self_iff.mpr closed
    rcases queue?_of_puts puts (queue?_of_held held) with after | after
    · exact held_step_of_queue? held after
    · rw [same] at after
      exact held_step_of_queue? held after
  received := by
    have answers := Host.Take.apply_of_closed closed
    rintro take (rfl | rfl)
    · simp [step, queue?_of_held held, answers.1]
    · simp [step, queue?_of_held held, answers.2]

theorem queue?_of_offers (offers : op.Offers entry.conn m) :
    (r.step op).state.queue? slot = some (entry.queue.push m).2 := by
  cases op with
  | send routing target sent =>
    obtain ⟨rfl, meant⟩ := offers
    exact (Routing.queue?_send_of_held wf held).trans (by rw [if_pos meant])
  | broadcast sent =>
    cases offers
    exact queue?_broadcast (queue?_of_held held)
  | push target sent =>
    obtain ⟨rfl, rfl⟩ := offers
    simp [step, push?_of_held wf held, queue?_setQueue, queue?_of_held held]
  | _ => cases offers

theorem accepted_of_offers (isOpen : entry.queue.closed = false)
    (offers : op.Offers entry.conn m) : r.accepted entry.conn op = [m] := by
  have takes : r.isOpen entry.conn = true := by
    simp [isOpen_of_findConn? (findConn?_of_held wf held), isOpen]
  cases op with
  | send routing target sent =>
    obtain ⟨rfl, meant⟩ := offers
    simp only [accepted, takes]
    split
    next => rfl
    next directed =>
      rw [send_of_addresses directed meant, if_pos ⟨meant, post_eq_ok_iff.mpr takes⟩]
  | broadcast sent =>
    cases offers
    simp [accepted, takes]
  | push target sent =>
    obtain ⟨rfl, rfl⟩ := offers
    simp [accepted, push?_of_held wf held, Queue.push, isOpen]
  | _ => cases offers

theorem takesIn_of_open (isOpen : entry.queue.closed = false) : r.TakesIn slot entry where
  held := held
  accepted := fun _ _ => accepted_of_offers wf held isOpen
  put := by
    intro op m offers
    apply held_step_of_queue? held
    rw [queue?_of_offers wf held offers]
    simp [Queue.push, isOpen]

end

theorem waiting_of_held (wf : r.WellFormed) (held : r.entries[slot]? = some entry) :
    r.waiting entry.conn = entry.queue.waiting := by
  simp [waiting, queueOf?_of_findConn? (findConn?_of_held wf held)]

theorem WellFormed.sound (wf : r.WellFormed) : r.Sound := by
  intro conn slot indexed
  obtain ⟨entry, held, has⟩ := (wf.byConn conn slot).mp indexed
  exact ⟨entry, held, Option.some.inj has⟩

/-! ## Runs -/

theorem acceptedAll_of_closed {ops : List Op} (wf : r.WellFormed) (fits : r.FitsAll ops)
    (polite : ∀ op ∈ ops, op.OnlyCloses) (held : r.entries[slot]? = some entry)
    (closed : entry.queue.closed = true) : r.acceptedAll entry.conn ops = [] := by
  induction ops generalizing r entry with
  | nil => rfl
  | cons op ops ih =>
    obtain ⟨first, rest⟩ := List.forall_mem_cons.mp polite
    obtain ⟨queue, after, closedIff⟩ := closed_step first held
    have later := ih (wellFormed_step wf fits.1) fits.2 rest (held_step_of_queue? held after)
      (closedIff.mpr (.inl closed))
    rw [acceptedAll, accepted_of_closed wf held closed, List.nil_append]
    exact later

end Registry

namespace Bridge

def Op.OnlyCloses : Op → Prop
  | .registry op => op.OnlyCloses
  | _ => True

/-- Whether an operation closes the queue in a slot. -/
def Closes (b : Bridge) (slot : Nat) : Op → Prop
  | .shutdown => b.initialized = true
  | .registry op => b.registry.Closes slot op
  | _ => False

/-- Whether one of some operations closes the queue in a slot, when there is one. -/
def ClosesIn (b : Bridge) (slot : Nat) : List Op → Prop
  | [] => False
  | op :: ops =>
    (slot < b.registry.size ∧ b.Closes slot op) ∨ (b.step op).state.ClosesIn slot ops

variable {b : Bridge} {op : Op} {slot : Nat} {entry : Registry.Entry}

theorem onlyCloses_onRegistry {ops : List Op} (polite : ∀ op ∈ ops, op.OnlyCloses) :
    ∀ op ∈ b.onRegistry ops, op.OnlyCloses := by
  intro seen member
  rcases mem_onRegistry member with rfl | ⟨_, _, _, rfl⟩ | done
  · exact fun _ queue => .inr rfl
  · trivial
  · exact polite _ done

/-- To shut down is to close each queue and nothing else. -/
theorem step_shutdown (inUse : b.initialized = true) :
    (b.step .shutdown).state =
      { b with initialized := false, registry := b.registry.closeAll } := by
  simp [step, shutdown, inUse, Outcome.map]

theorem held_shutdown (inUse : b.initialized = true) (slot : Nat) :
    (b.step .shutdown).state.registry.entries[slot]? =
      b.registry.entries[slot]?.map fun entry => { entry with queue := entry.queue.close } := by
  simp [step_shutdown inUse, Registry.closeAll]

theorem isClosedAt_step (polite : op.OnlyCloses) :
    (b.step op).state.registry.isClosedAt slot = true ↔
      b.registry.isClosedAt slot = true ∨ slot < b.registry.size ∧ b.Closes slot op := by
  cases op with
  | init levels settings =>
    rw [registry_step]
    simp [Op.onRegistry, Registry.run, Closes]
  | shutdown =>
    cases inUse : b.initialized with
    | false => simp [step, shutdown, inUse, Outcome.map, Closes]
    | true =>
      rw [step_shutdown inUse]
      cases held : b.registry.entries[slot]? with
      | none =>
        have outside : ¬ slot < b.registry.size :=
          Nat.not_lt.mpr (Array.getElem?_eq_none_iff.mp held)
        simp [Registry.isClosedAt, Registry.queue?, Registry.closeAll, held, outside]
      | some entry =>
        have inside := Registry.lt_size_of_held held
        simp [Registry.isClosedAt, Registry.queue?, Registry.closeAll, Queue.close, Closes, held,
          inside, inUse]
  | configure settings => simp [step, Closes]
  | send conn m => exact Registry.isClosedAt_step trivial
  | registry op => exact Registry.isClosedAt_step polite

/-- A queue is closed after a run if it was before, or if it was closed in between. -/
theorem isClosedAt_run {ops : List Op} (polite : ∀ op ∈ ops, op.OnlyCloses) :
    (b.run ops).registry.isClosedAt slot = true ↔
      b.registry.isClosedAt slot = true ∨ b.ClosesIn slot ops := by
  induction ops generalizing b with
  | nil => simp [run, ClosesIn]
  | cons op ops ih =>
    obtain ⟨first, rest⟩ := List.forall_mem_cons.mp polite
    rw [run, ih rest, isClosedAt_step first, ClosesIn, or_assoc]

theorem wellFormed_shutdown (wf : b.registry.WellFormed) :
    (b.step .shutdown).state.registry.WellFormed := by
  cases inUse : b.initialized with
  | false => simpa [step, shutdown, inUse, Outcome.map] using wf
  | true =>
    rw [step_shutdown inUse, Registry.closeAll_eq_visit]
    exact wf.congr (Registry.directory_visit ..)

section

variable {ops : List Op} (wf : b.registry.WellFormed) (fits : b.FitsAll ops)
  (polite : ∀ op ∈ ops, op.OnlyCloses)
include wf fits polite

/-- An entry whose queue is closed keeps what it holds for its receiver, and gets no more. -/
theorem shut_run (held : b.registry.entries[slot]? = some entry)
    (closed : entry.queue.closed = true) :
    ∃ rest, (b.run ops).registry.Shut slot { entry with queue := ⟨rest, true⟩ } ∧
      b.taken entry.conn ops ++ rest = entry.queue.waiting ∧ b.accepted entry.conn ops = [] := by
  have wfLater : (b.run ops).registry.WellFormed := by
    rw [registry_run]
    exact Registry.wellFormed_run wf fits
  obtain ⟨queue, heldLater⟩ := Registry.held_run (b.onRegistry ops) held
  rw [← registry_run] at heldLater
  have closedLater : queue.closed = true := by
    have before : b.registry.isClosedAt slot = true := by
      rw [Registry.isClosedAt_of_held held, closed]
    have after := (isClosedAt_run polite).mpr (.inl before)
    rwa [Registry.isClosedAt_of_held heldLater] at after
  have none : b.accepted entry.conn ops = [] :=
    Registry.acceptedAll_of_closed wf fits (onlyCloses_onRegistry polite) held closed
  have orderly : ∀ op ∈ b.onRegistry ops, op.Orderly :=
    fun op member => (onlyCloses_onRegistry polite op member).orderly
  -- The account of the connection, with nothing that was accepted.
  have balance := Registry.takenAll_append_waiting entry.conn wf.sound orderly
  rw [← registry_run, Registry.waiting_of_held wfLater heldLater,
    Registry.waiting_of_held wf held] at balance
  refine ⟨queue.waiting, ?_, ?_, none⟩
  · rw [← closedLater]
    exact Registry.shut_of_closed wfLater heldLater closedLater
  · change b.registry.acceptedAll entry.conn (b.onRegistry ops) = [] at none
    rw [none, List.append_nil] at balance
    exact balance

/-- An entry that is new takes messages in until its queue is closed. -/
theorem takesIn_run (new : b.registry.size ≤ slot)
    (held : (b.run ops).registry.entries[slot]? = some entry) :
    (entry.queue.closed = true ↔ b.ClosesIn slot ops) ∧
      (entry.queue.closed = false → (b.run ops).registry.TakesIn slot entry) := by
  have wfLater : (b.run ops).registry.WellFormed := by
    rw [registry_run]
    exact Registry.wellFormed_run wf fits
  constructor
  · have before : b.registry.isClosedAt slot = false := by
      simp [Registry.isClosedAt, Registry.queue?, Array.getElem?_eq_none_iff.mpr new]
    rw [← Registry.isClosedAt_of_held held, isClosedAt_run polite, before]
    simp
  · exact Registry.takesIn_of_open wfLater held

end

/-- To shut down a bridge closes each queue and loses nothing, and whatever is done afterwards, no
queue of that time takes in a message again; those that are opened later do, until they are closed
in turn. -/
theorem closed_for_good (reachable : b.Reachable) :
    (b.initialized = false → b.step .shutdown = ⟨.done, b, []⟩) ∧
      (b.initialized = true →
        let shut := (b.step .shutdown).state
        shut = { b with
          initialized := false
          registry := b.registry.visit fun _ queue => ⟨queue.waiting, true⟩ } ∧
          ∀ ops, (∀ op ∈ ops, op.OnlyCloses) → shut.FitsAll ops →
            let later := (shut.run ops).registry
            (∀ slot entry, b.registry.entries[slot]? = some entry →
              ∃ rest, later.Shut slot { entry with queue := ⟨rest, true⟩ } ∧
                shut.taken entry.conn ops ++ rest = entry.queue.waiting ∧
                shut.accepted entry.conn ops = []) ∧
            ∀ slot entry, b.registry.size ≤ slot → later.entries[slot]? = some entry →
              (entry.queue.closed = true ↔ shut.ClosesIn slot ops) ∧
              (entry.queue.closed = false → later.TakesIn slot entry)) := by
  have wf := Registry.wellFormed_of_reachable (reachable_registry reachable)
  constructor
  · intro idle
    simp [step, shutdown, idle, Outcome.map]
  · intro inUse shut
    have wfShut : shut.registry.WellFormed := wellFormed_shutdown wf
    refine ⟨step_shutdown inUse, ?_⟩
    intro ops polite fits later
    constructor
    · intro slot entry held
      have closed : shut.registry.entries[slot]? =
          some { entry with queue := ⟨entry.queue.waiting, true⟩ } := by
        rw [held_shutdown inUse, held]
        rfl
      have kept := shut_run wfShut fits polite closed rfl
      exact kept
    · intro slot entry new held
      have size : shut.registry.size = b.registry.size := by
        simp [shut, step_shutdown inUse, Registry.closeAll, Registry.size]
      exact takesIn_run wfShut fits polite (size ▸ new) held

/-! ## A restart with messages left -/

namespace Reopened

def earlier : List Op :=
  [.init {} {}, .registry (.openConn 5), .registry (.openConn 6), .send 5 .monitorReady,
    .send 5 (.formatListResponse 1)]

/-- A bridge in use, with two messages that wait for connection 5. -/
def bridge : Bridge := run {} earlier

/-- One of the messages is taken out, and more are sent, when connection 5 is looked up again and
connection 7 is new. -/
def later : List Op :=
  [.registry (.receiver 0 .wait), .init {} {}, .registry (.openConn 7), .registry (.openConn 5),
    .send 5 (.formatDataRequest 2), .send 0 .monitorReady]

theorem fitsAll_later :
    bridge.Reachable ∧ (bridge.step .shutdown).state.FitsAll later := by
  have few : (earlier ++ .shutdown :: later).length < 0x80000000 := by simp [earlier, later]
  obtain ⟨before, after⟩ := fitsAll_append.mp (fitsAll_of_length_lt few)
  exact ⟨⟨_, before, rfl⟩, (fitsAll_cons.mp after).2⟩

theorem registry_bridge :
    bridge.registry = Rerouted.registry ⟨[.monitorReady, .formatListResponse 1], false⟩ {} := by
  have seen : onRegistry {} earlier = [.openConn 5, .openConn 6, .send ⟨true, 0⟩ 5 .monitorReady,
      .send ⟨true, 0⟩ 5 (.formatListResponse 1)] := rfl
  rw [bridge, registry_run, seen]
  simp [Registry.run, Registry.step, Outcome.map, Routing.send, Rerouted.openConn_registry,
    Rerouted.state_post_registry, Queue.push]

theorem onlyCloses_later : ∀ op ∈ later, op.OnlyCloses := by
  simp [later, Op.OnlyCloses, Registry.Op.OnlyCloses]

theorem held_openConn (five six : Queue Message) :
    ((Rerouted.registry five six).step (.openConn 7)).state.entries[2]? = some ⟨none, 7, {}⟩ := by
  have new : (Rerouted.registry five six).findConn? 7 = none := by
    simp [Registry.findConn?, Rerouted.registry]
  have added := (Registry.openConn_of_none (by decide) new).2
  change ((Rerouted.registry five six).openConn 7).state.entries[2]? = _
  rw [added]
  simp [Registry.add, Rerouted.registry]

/-- Connection 7 comes third and stays there. -/
theorem held_later : ∃ queue,
    ((bridge.step .shutdown).state.run later).registry.entries[2]? = some ⟨none, 7, queue⟩ := by
  have seen : (bridge.step .shutdown).state.onRegistry later = [.receiver 0 .wait, .openConn 7,
      .openConn 5, .send ⟨true, 0⟩ 5 (.formatDataRequest 2), .send ⟨true, 0⟩ 0 .monitorReady] := rfl
  have received : ((bridge.step .shutdown).state.registry.step (.receiver 0 .wait)).state =
      Rerouted.registry ⟨[.formatListResponse 1], true⟩ ⟨[], true⟩ := by
    rw [step_shutdown rfl, Registry.closeAll_eq_visit, registry_bridge, Rerouted.visit_registry]
    simp [Registry.step, Registry.queue?_of_findConn? (Rerouted.findConn?_registry _ _),
      Rerouted.setQueue_registry, Host.Take.apply, Queue.wouldBlock, Queue.take, Queue.close]
  rw [registry_run, seen, Registry.run, received]
  exact Registry.held_run [_, _, _] (held_openConn _ _)

theorem not_closesIn_later : ¬ (bridge.step .shutdown).state.ClosesIn 2 later := by
  simp [later, ClosesIn, Closes, Registry.Closes]

end Reopened

/-- Connection 5 is shut with a message left, and connection 7 is open. -/
theorem closed_of_reopened :
    let shut := (Reopened.bridge.step .shutdown).state
    let after := shut.run Reopened.later
    (∃ rest, after.registry.Shut 0 ⟨none, 5, ⟨rest, true⟩⟩ ∧
      shut.taken 5 Reopened.later ++ rest = [.monitorReady, .formatListResponse 1]) ∧
    ∃ queue, after.registry.TakesIn 2 ⟨none, 7, queue⟩ := by
  intro shut after
  obtain ⟨reachable, fits⟩ := Reopened.fitsAll_later
  have inUse : Reopened.bridge.initialized = true := rfl
  obtain ⟨-, closes⟩ := closed_for_good reachable
  obtain ⟨-, stays⟩ := closes inUse
  obtain ⟨old, new⟩ := stays Reopened.later Reopened.onlyCloses_later fits
  constructor
  · have held : Reopened.bridge.registry.entries[0]? =
        some ⟨none, 5, ⟨[.monitorReady, .formatListResponse 1], false⟩⟩ := by
      simp [Reopened.registry_bridge, Rerouted.registry]
    obtain ⟨rest, isShut, balance, -⟩ := old 0 _ held
    exact ⟨rest, isShut, balance⟩
  · obtain ⟨queue, held⟩ := Reopened.held_later
    have outside : Reopened.bridge.registry.size ≤ 2 := by
      simp [Reopened.registry_bridge, Rerouted.registry, Registry.size]
    obtain ⟨closedIff, takesIn⟩ := new 2 _ outside held
    have isOpen : queue.closed = false :=
      Bool.eq_false_iff.mpr fun closed => Reopened.not_closesIn_later (closedIff.mp closed)
    exact ⟨queue, takesIn isOpen⟩

end Bridge

end RemoteClipboard
