import RemoteClipboard.Proofs.Bridge.Runs
import RemoteClipboard.Proofs.Delivery.Addressing

/-! # What is accepted and what is taken

Each connection has an account: on one side the messages that were accepted for it, on the other
those that were taken out at its receiver and those that still wait.  `Registry.accepted` reads off
what callers are told and which queues are open, and `Registry.taken` what receivers hand out; one
operation keeps the account in balance (`Registry.taken_append_waiting`), and so does a run.

Nothing here depends on whether numbers run out: it is enough that the index by number leads to
entries with that number (`Registry.Sound`), which no operation can undo. -/

namespace RemoteClipboard

/-! ## One queue -/

def Host.Take.handsOut (take : Take) (q : Queue Message) : List Message :=
  match (take.apply q).1 with
  | .message m => m.toList
  | .messages ms => ms
  | .packets _ => q.waiting
  | _ => []

theorem Host.Take.handsOut_append_waiting (take : Take) (q : Queue Message) :
    take.handsOut q ++ (take.apply q).2.waiting = q.waiting := by
  cases take with
  | wait =>
    cases blocks : q.wouldBlock with
    | true => simp [handsOut, apply, blocks]
    | false => simpa [handsOut, apply, blocks] using q.toList_take
  | one => exact q.toList_take
  | all => simp [handsOut, apply, Queue.takeAll]
  | packets => simp [handsOut, apply, Queue.takeAll]
  | close => rfl
  | count => rfl
  | isClosed => rfl

namespace Registry

/-! ## The account of a connection -/

/-- Whether there is a connection with a number and its queue takes messages in. -/
def isOpen (r : Registry) (conn : Int32) : Bool := (r.queueOf? conn).any (!·.closed)

/-- The message that an operation has accepted for a connection: one that is sent to it or put into
its queue with success, or sent to everyone while it is open. -/
def accepted (r : Registry) (conn : Int32) : Op → List Message
  | .send routing target m =>
    -- To send to everyone always succeeds, so the reply does not say who was reached.
    if target = 0 ∧ routing.broadcast = true then
      if r.isOpen conn then [m] else []
    else if routing.Addresses target conn ∧ (routing.send r target m).result = .ok () then [m]
    else []
  | .broadcast m => if r.isOpen conn then [m] else []
  | .push target m =>
    if conn = target ∧ (r.push? target m).map Prod.fst = some true then [m] else []
  | _ => []

/-- The messages that an operation takes out at the receiver of a connection. -/
def taken (r : Registry) (conn : Int32) : Op → List Message
  | .receiver slot take =>
    if (r.findConn? conn).map Prod.fst = some slot then
      ((r.queue? slot).map take.handsOut).getD []
    else []
  | _ => []

def acceptedAll (r : Registry) (conn : Int32) : List Op → List Message
  | [] => []
  | op :: ops => r.accepted conn op ++ (r.step op).state.acceptedAll conn ops

def takenAll (r : Registry) (conn : Int32) : List Op → List Message
  | [] => []
  | op :: ops => r.taken conn op ++ (r.step op).state.takenAll conn ops

/-- Whether an operation leaves it to the receivers to take messages out: a visitor of all queues
may close them, but not put in or take out. -/
def Op.Orderly : Op → Prop
  | .visit f => ∀ conn queue, (f conn queue).waiting = queue.waiting
  | _ => True

/-! ## The index by number -/

/-- The index by number leads to entries that have the number. -/
def Sound (r : Registry) : Prop :=
  ∀ conn slot, r.byConn[conn]? = some slot →
    ∃ entry : Entry, r.entries[slot]? = some entry ∧ entry.conn = conn

variable {r r' : Registry} {conn target : Int32} {m : Message} {slot : Nat} {entry : Entry}

theorem sound_empty : Sound {} := by
  simp [Sound]

theorem sound_directory_iff : r.directory.Sound ↔ r.Sound := by
  simp [Sound, directory]

theorem Sound.congr (same : r'.directory = r.directory) (sound : r.Sound) : r'.Sound := by
  rw [← sound_directory_iff, same]
  exact sound_directory_iff.mpr sound

theorem sound_add {ids : IdAllocator} {peer : Option Bytes} (sound : r.Sound) :
    ({ r with ids }.add peer conn).2.Sound := by
  intro id slot indexed
  simp only [add, Std.HashMap.getElem?_insertIfNew] at indexed ⊢
  -- A number that is in use keeps its slot, and only a new one leads to the new entry.
  split at indexed
  next new =>
    cases indexed
    exact ⟨_, Array.getElem?_push_size, eq_of_beq new.1⟩
  next =>
    obtain ⟨entry, held, has⟩ := sound id slot indexed
    exact ⟨entry, held_push held _, has⟩

theorem sound_step (op : Op) (sound : r.Sound) : (r.step op).state.Sound := by
  cases opens : op.opens with
  | false => exact sound.congr (directory_step opens)
  | true =>
    rcases state_step_of_opens (r := r) opens with same | ⟨_, _, _, -, added⟩ | ⟨_, -, added⟩
    · rw [same]
      exact sound
    · rw [added]
      exact sound_add sound
    · rw [added]
      exact sound_add sound

/-! ## The queue behind a number -/

/-- Where the index is sound, a slot is that of one number only. -/
theorem indexed_iff (sound : r.Sound) (found : r.findConn? target = some (slot, entry)) :
    r.byConn[conn]? = some slot ↔ conn = target := by
  constructor
  · intro indexed
    obtain ⟨one, held, has⟩ := sound conn slot indexed
    obtain ⟨other, heldOther, hasOther⟩ := sound target slot (indexed_of_findConn? found)
    cases Option.some.inj (held.symm.trans heldOther)
    rw [← has, ← hasOther]
  · intro same
    subst same
    exact indexed_of_findConn? found

theorem queueOf?_setQueue_eq (r : Registry) (slot : Nat) (q : Queue Message) (conn : Int32) :
    (r.setQueue slot q).queueOf? conn =
      if r.byConn[conn]? = some slot then (r.queueOf? conn).map fun _ => q
      else r.queueOf? conn := by
  rw [queueOf?_eq_bind, queueOf?_eq_bind]
  change r.byConn[conn]?.bind (r.setQueue slot q).queue? = _
  cases indexed : r.byConn[conn]? with
  | none => rfl
  | some place =>
    simp only [Option.bind_some, queue?_setQueue, Option.some.injEq]
    by_cases same : place = slot
    · simp [same]
    · simp [same, Ne.symm same]

/-! ## What each operation does to the account -/

theorem waiting_of_push (pushed : r'.queueOf? conn = (r.queueOf? conn).map fun q => (q.push m).2) :
    r'.waiting conn = r.waiting conn ++ if r.isOpen conn then [m] else [] := by
  cases before : r.queueOf? conn with
  | none => simp [waiting, isOpen, pushed, before]
  | some q =>
    cases closed : q.closed <;> simp [waiting, isOpen, pushed, before, Queue.waiting_push, closed]

theorem isOpen_of_findConn? (found : r.findConn? conn = some (slot, entry)) :
    r.isOpen conn = !entry.queue.closed := by
  simp [isOpen, queueOf?_of_findConn? found]

theorem waiting_setQueue_push (sound : r.Sound)
    (found : r.findConn? target = some (slot, entry)) :
    (r.setQueue slot (entry.queue.push m).2).waiting conn =
      r.waiting conn ++ if conn = target ∧ r.isOpen target = true then [m] else [] := by
  by_cases same : conn = target
  · subst same
    have pushed : (r.setQueue slot (entry.queue.push m).2).queueOf? conn =
        (r.queueOf? conn).map fun q => (q.push m).2 := by
      rw [queueOf?_setQueue found, queueOf?_of_findConn? found, Option.map_some]
    simpa using waiting_of_push pushed
  · have other : r.byConn[conn]? ≠ some slot := by
      rwa [ne_eq, indexed_iff sound found]
    simp [waiting, queueOf?_setQueue_eq, other, same]

theorem post_eq_ok_iff : (r.post conn m).result = .ok () ↔ r.isOpen conn = true := by
  cases found : r.findConn? conn with
  | none => simp [post, push?, isOpen, queueOf?, found]
  | some place =>
    rw [isOpen_of_findConn? found]
    cases closed : place.2.queue.closed <;> simp [post, push?, Queue.push, found, closed]

theorem waiting_post (sound : r.Sound) :
    (r.post target m).state.waiting conn = r.waiting conn ++
      if conn = target ∧ (r.post target m).result = .ok () then [m] else [] := by
  simp only [post_eq_ok_iff]
  cases found : r.findConn? target with
  | none => simp [state_post_of_none found, isOpen, queueOf?, found]
  | some place => rw [state_post found, waiting_setQueue_push sound found]

theorem waiting_broadcast (r : Registry) (conn : Int32) (m : Message) :
    (r.broadcast m).state.waiting conn =
      r.waiting conn ++ if r.isOpen conn then [m] else [] := by
  apply waiting_of_push
  simp [state_broadcast, queueOf?, findConn?_visit, Function.comp_def]

theorem waiting_send (routing : Routing) (sound : r.Sound) :
    (routing.send r target m).state.waiting conn =
      r.waiting conn ++ r.accepted conn (.send routing target m) := by
  by_cases zero : target = 0
  · subst zero
    cases everyone : routing.broadcast with
    | true =>
      rw [Routing.state_send_zero_of_broadcast everyone, waiting_broadcast]
      simp [accepted, everyone]
    | false =>
      rw [Routing.send_zero_of_not_broadcast everyone, waiting_post sound]
      simp [accepted, Routing.Addresses, everyone, Routing.send_zero_of_not_broadcast everyone]
  · rw [Routing.send_of_ne_zero zero, waiting_post sound]
    simp [accepted, Routing.Addresses, zero, Routing.send_of_ne_zero zero]

theorem waiting_visit {f : Int32 → Queue Message → Queue Message}
    (keeps : ∀ conn queue, (f conn queue).waiting = queue.waiting) :
    (r.visit f).waiting conn = r.waiting conn := by
  simp [waiting, queueOf?, findConn?_visit, Function.comp_def, keeps]

theorem waiting_add {ids : IdAllocator} {peer : Option Bytes} (sound : r.Sound) :
    ({ r with ids }.add peer target).2.waiting conn = r.waiting conn := by
  rw [waiting, waiting, queueOf?_eq_bind, queueOf?_eq_bind]
  cases indexed : r.byConn[conn]? with
  | none =>
    -- The number is still unknown, or it leads to the new queue, where nothing waits.
    simp only [add, Std.HashMap.getElem?_insertIfNew, indexed]
    split
    · simp [queue?]
    · rfl
  | some slot =>
    obtain ⟨entry, held, -⟩ := sound conn slot indexed
    have known : conn ∈ r.byConn := by
      rw [Std.HashMap.mem_iff_isSome_getElem?, indexed]
      rfl
    have old : ¬((target == conn) = true ∧ ¬target ∈ r.byConn) := by
      rintro ⟨same, new⟩
      rw [eq_of_beq same] at new
      exact new known
    simp only [add, Std.HashMap.getElem?_insertIfNew, if_neg old, indexed, Option.bind_some, queue?,
      held_push held, held]

theorem waiting_push? (sound : r.Sound) :
    (r.step (.push target m)).state.waiting conn =
      r.waiting conn ++ r.accepted conn (.push target m) := by
  cases found : r.findConn? target with
  | none => simp [step, accepted, push?, found]
  | some place =>
    have pushed : r.push? target m =
        some ((place.2.queue.push m).1, r.setQueue place.1 (place.2.queue.push m).2) := by
      simp [push?, found]
    have takes : (place.2.queue.push m).1 = r.isOpen target := by
      rw [isOpen_of_findConn? found]
      cases closed : place.2.queue.closed <;> simp [Queue.push, closed]
    simp only [step, accepted, pushed, takes, Option.map_some, Option.some.injEq]
    exact waiting_setQueue_push sound found

theorem fst_findConn? (sound : r.Sound) : (r.findConn? conn).map Prod.fst = r.byConn[conn]? := by
  cases indexed : r.byConn[conn]? with
  | none => simp [findConn?, indexed]
  | some slot =>
    obtain ⟨entry, held, -⟩ := sound conn slot indexed
    simp [findConn?, indexed, held]

theorem taken_append_waiting_receiver (take : Host.Take) (sound : r.Sound) :
    r.taken conn (.receiver slot take) ++ (r.step (.receiver slot take)).state.waiting conn =
      r.waiting conn := by
  cases before : r.queue? slot with
  | none => simp [taken, step, before]
  | some q =>
    simp only [taken, step, before, fst_findConn? sound, waiting, queueOf?_setQueue_eq]
    by_cases here : r.byConn[conn]? = some slot
    · have waits : r.queueOf? conn = some q := by
        rw [queueOf?_eq_bind, here, Option.bind_some, before]
      simpa [here, waits] using take.handsOut_append_waiting q
    · simp [here]

/-! ## The account stays in balance -/

/-- One operation: what is taken out comes from the front, and what is accepted joins at the
back. -/
theorem taken_append_waiting (op : Op) (sound : r.Sound) (orderly : op.Orderly) :
    r.taken conn op ++ (r.step op).state.waiting conn =
      r.waiting conn ++ r.accepted conn op := by
  have opened : op.opens = true → (r.step op).state.waiting conn = r.waiting conn := by
    intro opens
    rcases state_step_of_opens (r := r) opens with same | ⟨_, _, _, -, added⟩ | ⟨_, -, added⟩
    · rw [same]
    · rw [added, waiting_add sound]
    · rw [added]
      exact waiting_add sound
  cases op with
  | openPeer peer => simp [taken, accepted, opened rfl]
  | openConn conn => simp [taken, accepted, opened rfl]
  | lookup peer => simp [taken, accepted, step]
  | find conn => simp [taken, accepted, step]
  | visit f => simp [taken, accepted, step, waiting_visit orderly]
  | send routing target m => exact waiting_send routing sound
  | broadcast m => exact waiting_broadcast r conn m
  | push target m => exact waiting_push? sound
  | receiver slot take =>
    rw [taken_append_waiting_receiver take sound]
    simp [accepted]

theorem takenAll_append_waiting {ops : List Op} (conn : Int32) (sound : r.Sound)
    (orderly : ∀ op ∈ ops, op.Orderly) :
    r.takenAll conn ops ++ (r.run ops).waiting conn =
      r.waiting conn ++ r.acceptedAll conn ops := by
  -- Of the registry it is only the soundness of its index that is carried along.
  induction ops generalizing r with
  | nil => simp [takenAll, run, acceptedAll]
  | cons op ops ih =>
    obtain ⟨first, rest⟩ := List.forall_mem_cons.mp orderly
    have later := ih (sound_step op sound) rest
    calc r.takenAll conn (op :: ops) ++ (r.run (op :: ops)).waiting conn
      _ = r.taken conn op ++ ((r.step op).state.takenAll conn ops ++
            ((r.step op).state.run ops).waiting conn) := List.append_assoc ..
      _ = (r.taken conn op ++ (r.step op).state.waiting conn) ++
            (r.step op).state.acceptedAll conn ops := by rw [later, List.append_assoc]
      _ = r.waiting conn ++ (r.accepted conn op ++ (r.step op).state.acceptedAll conn ops) := by
        rw [taken_append_waiting op sound first, List.append_assoc]

end Registry

namespace Bridge

def accepted (b : Bridge) (conn : Int32) (ops : List Op) : List Message :=
  b.registry.acceptedAll conn (b.onRegistry ops)

def taken (b : Bridge) (conn : Int32) (ops : List Op) : List Message :=
  b.registry.takenAll conn (b.onRegistry ops)

def Op.Orderly : Op → Prop
  | .registry op => op.Orderly
  | _ => True

theorem orderly_onRegistry {b : Bridge} {ops : List Op} (orderly : ∀ op ∈ ops, op.Orderly) :
    ∀ op ∈ b.onRegistry ops, op.Orderly := by
  intro seen member
  rcases mem_onRegistry member with rfl | ⟨_, _, _, rfl⟩ | done
  · exact fun _ _ => rfl
  · trivial
  · exact orderly _ done

/-- However a bridge is used, what was taken out at the receiver of a connection, and after it what
still waits there, is what was accepted for the connection: all of it, once, and in order. -/
theorem taken_append_waiting_of_run (ops : List Op) (orderly : ∀ op ∈ ops, op.Orderly)
    (conn : Int32) :
    taken {} conn ops ++ (run {} ops).registry.waiting conn = accepted {} conn ops := by
  have balance := Registry.takenAll_append_waiting conn Registry.sound_empty
    (orderly_onRegistry (b := {}) orderly)
  have empty : Registry.waiting {} conn = [] := by
    simp [Registry.waiting, Registry.queueOf?, Registry.findConn?]
  rw [empty, List.nil_append] at balance
  rw [registry_run]
  exact balance

/-! ## Two routings and a shutdown -/

namespace Rerouted

/-- Connection 0 stands for everyone first and for connection 5 later; the last message comes after
all queues are closed. -/
def ops : List Op :=
  [.init {} {}, .registry (.openConn 5), .registry (.openConn 6), .send 0 .monitorReady,
    .configure { broadcastSupported := false, defaultConn := 5 }, .send 0 (.formatListResponse 1),
    .registry (.receiver 0 .one), .shutdown, .send 5 (.formatDataRequest 2)]

theorem onRegistry_ops :
    onRegistry {} ops = [.openConn 5, .openConn 6, .send ⟨true, 0⟩ 0 .monitorReady,
      .send ⟨false, 5⟩ 0 (.formatListResponse 1), .receiver 0 .one,
      .visit fun _ queue => queue.close, .send ⟨false, 5⟩ 5 (.formatDataRequest 2)] := rfl

def registry (five six : Queue Message) : Registry where
  entries := #[⟨none, 5, five⟩, ⟨none, 6, six⟩]
  byConn := (({} : Std.HashMap Int32 Nat).insertIfNew 5 0).insertIfNew 6 1

section

variable (five six : Queue Message) (m : Message)

theorem findConn?_registry : (registry five six).findConn? 5 = some (0, ⟨none, 5, five⟩) := by
  have slot : (registry five six).byConn[(5 : Int32)]? = some 0 := by
    rw [registry, Std.HashMap.getElem?_insertIfNew, Std.HashMap.getElem?_insertIfNew]
    simp
  rw [Registry.findConn?, slot]
  simp [registry]

theorem openConn_registry :
    ((({} : Registry).openConn 5).state.openConn 6).state = registry {} {} := by
  simp [Registry.openConn, Registry.findConn?, Registry.add, registry]

theorem setQueue_registry (q : Queue Message) :
    (registry five six).setQueue 0 q = registry q six := by
  simp [registry, Registry.setQueue]

theorem visit_registry (f : Int32 → Queue Message → Queue Message) :
    (registry five six).visit f = registry (f 5 five) (f 6 six) := by
  simp [registry, Registry.visit]

theorem state_post_registry :
    ((registry five six).post 5 m).state = registry (five.push m).2 six := by
  rw [Registry.state_post (findConn?_registry five six), setQueue_registry]

end

theorem accounts_ops :
    accepted {} 5 ops = [.monitorReady, .formatListResponse 1] ∧
      taken {} 5 ops = [.monitorReady] := by
  -- The queue of connection 5 is followed through the operations one by one.
  simp [accepted, taken, onRegistry_ops, Registry.acceptedAll, Registry.takenAll,
    Registry.accepted, Registry.taken, Registry.step, Registry.isOpen, Registry.queueOf?,
    Registry.post_eq_ok_iff, Registry.state_broadcast, Registry.queue?_of_findConn?
    (findConn?_registry _ _), openConn_registry, findConn?_registry, setQueue_registry,
    visit_registry, state_post_registry, Routing.send, Routing.Addresses, Outcome.map,
    Host.Take.apply, Host.Take.handsOut, Queue.push, Queue.take, Queue.close]

end Rerouted

/-- Of the two messages that connection 5 was sent while it was open, one was taken out and the
other waits. -/
theorem waiting_of_rerouted :
    (∀ op ∈ Rerouted.ops, op.Orderly) ∧ accepted {} 5 Rerouted.ops =
      [.monitorReady, .formatListResponse 1] ∧ taken {} 5 Rerouted.ops = [.monitorReady] ∧
      (run {} Rerouted.ops).registry.waiting 5 = [.formatListResponse 1] := by
  have orderly : ∀ op ∈ Rerouted.ops, op.Orderly := by
    simp [Rerouted.ops, Op.Orderly, Registry.Op.Orderly]
  obtain ⟨accepts, takes⟩ := Rerouted.accounts_ops
  have balance := taken_append_waiting_of_run Rerouted.ops orderly 5
  rw [accepts, takes] at balance
  exact ⟨orderly, accepts, takes, by simpa using balance⟩

end Bridge

end RemoteClipboard
