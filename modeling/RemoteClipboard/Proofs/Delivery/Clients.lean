import RemoteClipboard.Proofs.Delivery.Addressing
import RemoteClipboard.Proofs.Delivery.Runs

/-! # Clients that share a registry

A client has a connection of its own: it sends to that connection by its number and works at its
receiver.  A schedule is what several clients do, in the order in which they get to it.

The footprint of an action is the queue of its client: that queue decides the reply, and no other
changes (`step_op`).  So each client fares in a schedule as if it were alone (`own_serve`,
`state_serve`), and it does not matter how the clients take turns (`interleavings_agree`). -/

namespace RemoteClipboard

namespace Client

/-- Something that a client does with its connection. -/
inductive Action
  | send (m : Message)
  | receive
  | close
  | pending

/-- What an action is to the registry. -/
def Action.op (routing : Routing) (conn : Int32) (receiver : Nat) : Action → Registry.Op
  | send m => .send routing conn m
  | receive => .receiver receiver .one
  | close => .receiver receiver .close
  | pending => .receiver receiver .count

/-- What an action does to the queue of its client. -/
def Action.apply (conn : Int32) (q : Queue Message) : Action → Host.Reply × Queue Message
  | send m => (if q.closed then .refused (Fault.queueClosed conn) else .done, (q.push m).2)
  | receive => Host.Take.apply q .one
  | close => Host.Take.apply q .close
  | pending => Host.Take.apply q .count

/-- What a client that is alone gets to see, and what becomes of its queue. -/
def alone (conn : Int32) (q : Queue Message) : List Action → List Host.Reply × Queue Message
  | [] => ([], q)
  | action :: later =>
    let now := action.apply conn q
    let rest := alone conn now.2 later
    (now.1 :: rest.1, rest.2)

/-- The part of one client in what is listed for all of them. -/
def own {α : Type} (conn : Int32) (listed : List (Int32 × α)) : List α :=
  listed.filterMap fun (client, a) => if client = conn then some a else none

section

variable {α : Type} {conn client : Int32} (a : α) (listed : List (Int32 × α))

@[simp] theorem own_cons_self : own conn ((conn, a) :: listed) = a :: own conn listed := by
  simp [own]

theorem own_cons_of_ne (other : client ≠ conn) :
    own conn ((client, a) :: listed) = own conn listed := by
  simp [own, other]

end

/-- What several clients do, in the order in which they get to it. -/
abbrev Schedule := List (Int32 × Action)

/-- Whether a schedule lets each client do what it has to do, in its order. -/
def Schedule.Interleaves (schedule : Schedule) (sequences : Int32 → List Action) : Prop :=
  ∀ conn, own conn schedule = sequences conn

end Client

namespace Registry

open Client

/-- Serves the clients as they come, with a list of what each of them is told. -/
def serve (routing : Routing) (receivers : Int32 → Nat) (r : Registry) :
    Schedule → List (Int32 × Host.Reply) × Registry
  | [] => ([], r)
  | (conn, action) :: later =>
    let now := r.step (action.op routing conn (receivers conn))
    let rest := serve routing receivers now.state later
    ((conn, now.result) :: rest.1, rest.2)

/-- Whether a connection is one that a client can have, and has a receiver. -/
def Owned (r : Registry) (conn : Int32) (receiver : Nat) : Prop :=
  conn ≠ 0 ∧ ∃ entry, r.findConn? conn = some (receiver, entry)

section

variable {routing : Routing} {receivers : Int32 → Nat} {r : Registry} {conn : Int32}
  {receiver slot : Nat} {entry : Entry} {f : Int32 → Queue Message → Queue Message}

/-! ## Visiting all queues -/

theorem visit_id (r : Registry) : (r.visit fun _ queue => queue) = r := by
  simp [visit]

/-- A visit is what it does to the queues that are there. -/
theorem visit_congr {g : Int32 → Queue Message → Queue Message}
    (same : ∀ entry ∈ r.entries, f entry.conn entry.queue = g entry.conn entry.queue) :
    r.visit f = r.visit g := by
  have entries : (r.visit f).entries = (r.visit g).entries := by
    refine Array.map_congr_left fun entry member => ?_
    rw [same entry member]
  simpa [visit] using entries

theorem visit_visit (r : Registry) (f g : Int32 → Queue Message → Queue Message) :
    (r.visit f).visit g = r.visit fun conn queue => g conn (f conn queue) := by
  simp [visit, Function.comp_def]

theorem Owned.visit (owned : r.Owned conn receiver) : (r.visit f).Owned conn receiver := by
  obtain ⟨directed, entry, found⟩ := owned
  exact ⟨directed, _, by rw [findConn?_visit, found, Option.map_some]⟩

section

variable (wf : r.WellFormed)
include wf

theorem wellFormed_visit : (r.visit f).WellFormed := wf.congr (directory_visit r f)

theorem queueOf?_visit : (r.visit f).queueOf? conn = (r.queueOf? conn).map (f conn) := by
  cases found : r.findConn? conn with
  | none => simp [queueOf?, findConn?_visit, found]
  | some place =>
    obtain ⟨-, has⟩ := (findConn?_eq_some_iff wf).mp found
    simp [queueOf?, findConn?_visit, found, has]

theorem queueOf?_visit_of_ne {client : Int32} (other : conn ≠ client) :
    (r.visit fun conn queue => if conn = client then f conn queue else queue).queueOf? conn =
      r.queueOf? conn := by
  simp [queueOf?_visit wf, other]

/-- To change the queue of one connection is to visit all and leave the others as they are. -/
theorem setQueue_eq_visit (found : r.findConn? conn = some (slot, entry)) :
    r.setQueue slot (f conn entry.queue) =
      r.visit fun client queue => if client = conn then f client queue else queue := by
  obtain ⟨held, rfl⟩ := (findConn?_eq_some_iff wf).mp found
  have entries : (r.setQueue slot (f entry.conn entry.queue)).entries =
      (r.visit fun client queue =>
        if client = entry.conn then f client queue else queue).entries := by
    apply Array.ext_getElem?
    intro place
    rw [setQueue, Array.getElem?_modify, visit, Array.getElem?_map]
    by_cases same : slot = place
    · subst same
      simp [held]
    · rw [if_neg same]
      cases heldThere : r.entries[place]? with
      | none => rfl
      | some there =>
        -- An entry with the same number would stand in the same slot.
        have other : there.conn ≠ entry.conn := fun eq =>
          same (wf.byConn.slot_unique held heldThere rfl (congrArg some eq))
        simp [other]
  simpa [setQueue, visit] using entries

/-- To send to one connection is to visit all and put the message in there. -/
theorem state_post_eq_visit (client : Int32) (m : Message) :
    (r.post client m).state =
      r.visit fun conn q => if conn = client then (q.push m).2 else q := by
  cases found : r.findConn? client with
  | none =>
    have nobody := (findConn?_eq_none_iff wf).mp found
    rw [state_post_of_none found]
    refine (visit_id r).symm.trans (visit_congr fun entry member => ?_)
    rw [if_neg (nobody entry member)]
  | some place =>
    obtain ⟨place, entry⟩ := place
    rw [state_post found, setQueue_eq_visit (f := fun _ q => (q.push m).2) wf found]

theorem queueOf?_post (client : Int32) (m : Message) :
    (r.post client m).state.queueOf? conn =
      (r.queueOf? conn).map fun q => if conn = client then (q.push m).2 else q := by
  rw [state_post_eq_visit wf, queueOf?_visit wf]

/-! ## One action -/

/-- The reply to an action depends on the queue of its client, and no other queue changes. -/
theorem step_op (routing : Routing) (action : Action) (owned : r.Owned conn receiver) :
    ∃ queue, r.queueOf? conn = some queue ∧
      (r.step (action.op routing conn receiver)).result = (action.apply conn queue).1 ∧
      (r.step (action.op routing conn receiver)).state =
        r.visit fun client queue =>
          if client = conn then (action.apply client queue).2 else queue := by
  obtain ⟨directed, entry, found⟩ := owned
  have here := queue?_of_findConn? found
  have place := setQueue_eq_visit (f := fun client queue => (action.apply client queue).2) wf found
  refine ⟨entry.queue, queueOf?_of_findConn? found, ?_, ?_⟩
  · cases action with
    | send m =>
      cases closed : entry.queue.closed <;>
        simp [Action.op, Action.apply, step, Outcome.map, Routing.send_of_ne_zero directed, post,
          push?, found, Queue.push, closed, Host.Reply.ofUnit]
    | _ => simp [Action.op, Action.apply, step, here]
  · rw [← place]
    cases action with
    | send m => simp [Action.op, Action.apply, step, Outcome.map,
        Routing.send_of_ne_zero directed, state_post found]
    | _ => simp [Action.op, Action.apply, step, here]

end

/-! ## Schedules -/

/-- Each client does to its queue what it would do alone. -/
theorem state_serve {schedule : Schedule} (wf : r.WellFormed)
    (owned : ∀ turn ∈ schedule, r.Owned turn.1 (receivers turn.1)) :
    (r.serve routing receivers schedule).2 =
      r.visit fun conn queue => (alone conn queue (own conn schedule)).2 := by
  induction schedule generalizing r with
  | nil => exact (visit_id r).symm
  | cons turn later ih =>
    obtain ⟨client, action⟩ := turn
    obtain ⟨first, rest⟩ := List.forall_mem_cons.mp owned
    obtain ⟨_, -, -, state⟩ := step_op wf routing action first
    -- The first turn is a visit, and so are the others together: two visits are one.
    rw [serve, state, ih (wellFormed_visit wf) fun turn member => (rest turn member).visit,
      visit_visit]
    congr 1
    funext conn queue
    by_cases same : client = conn
    · subst same
      simp [alone]
    · rw [if_neg (Ne.symm same), own_cons_of_ne action later same]

/-- Each client is told what it would be told alone. -/
theorem own_serve {schedule : Schedule} (conn : Int32) (wf : r.WellFormed)
    (owned : ∀ turn ∈ schedule, r.Owned turn.1 (receivers turn.1)) :
    own conn (r.serve routing receivers schedule).1 =
      (alone conn ((r.queueOf? conn).getD {}) (own conn schedule)).1 := by
  induction schedule generalizing r with
  | nil => rfl
  | cons turn later ih =>
    obtain ⟨client, action⟩ := turn
    obtain ⟨first, rest⟩ := List.forall_mem_cons.mp owned
    obtain ⟨queue, before, result, state⟩ := step_op wf routing action first
    have owned' (f) : ∀ turn ∈ later, (r.visit f).Owned turn.1 (receivers turn.1) :=
      fun turn member => (rest turn member).visit
    rw [serve, result, state]
    by_cases same : client = conn
    · subst same
      rw [own_cons_self, own_cons_self, ih (wellFormed_visit wf) (owned' _), queueOf?_visit wf,
        before]
      simp [alone]
    · -- Another client's turn is not heard of here, neither in the replies nor in the queue.
      rw [own_cons_of_ne _ _ same, own_cons_of_ne _ _ same, ih (wellFormed_visit wf) (owned' _),
        queueOf?_visit_of_ne wf (Ne.symm same)]

theorem owned_of_interleaves {sequences : Int32 → List Action} {schedule : Schedule}
    (interleaves : schedule.Interleaves sequences)
    (owned : ∀ conn, sequences conn ≠ [] → r.Owned conn (receivers conn)) :
    ∀ turn ∈ schedule, r.Owned turn.1 (receivers turn.1) := by
  intro turn member
  have listed : turn.2 ∈ own turn.1 schedule :=
    List.mem_filterMap.mpr ⟨turn, member, if_pos rfl⟩
  rw [interleaves] at listed
  exact owned turn.1 (List.ne_nil_of_mem listed)

/-- However clients take turns, each of them is told the same, and the same is left in all
queues. -/
theorem interleavings_agree (routing : Routing) {sequences : Int32 → List Action}
    {one other : Schedule} (wf : r.WellFormed)
    (owned : ∀ conn, sequences conn ≠ [] → r.Owned conn (receivers conn))
    (interleaves : one.Interleaves sequences) (interleaves' : other.Interleaves sequences) :
    (∀ conn, own conn (r.serve routing receivers one).1 =
      own conn (r.serve routing receivers other).1) ∧
      (r.serve routing receivers one).2 = (r.serve routing receivers other).2 := by
  have ownedOne := owned_of_interleaves interleaves owned
  have ownedOther := owned_of_interleaves interleaves' owned
  have parts : ∀ conn, own conn one = own conn other := fun conn =>
    (interleaves conn).trans (interleaves' conn).symm
  constructor
  · intro conn
    rw [own_serve conn wf ownedOne, own_serve conn wf ownedOther, parts]
  · rw [state_serve wf ownedOne, state_serve wf ownedOther]
    simp only [parts]

end

/-! ## Two clients -/

namespace Neighbours

def opened : List Op := [.openConn 5, .openConn 6]

/-- A registry with two connections that were opened by number. -/
def registry : Registry := run {} opened

def receivers (conn : Int32) : Nat := if conn = 5 then 0 else 1

def sequences (conn : Int32) : List Action :=
  if conn = 5 then [.send .monitorReady, .receive, .close, .send (.formatListResponse 1)]
  else if conn = 6 then [.receive, .send (.formatDataRequest 2), .pending]
  else []

/-- One client after the other. -/
def inTurn : Schedule :=
  [(5, .send .monitorReady), (5, .receive), (5, .close), (5, .send (.formatListResponse 1)),
    (6, .receive), (6, .send (.formatDataRequest 2)), (6, .pending)]

def mixed : Schedule :=
  [(6, .receive), (5, .send .monitorReady), (6, .send (.formatDataRequest 2)), (5, .receive),
    (5, .close), (6, .pending), (5, .send (.formatListResponse 1))]

theorem wellFormed_registry : registry.WellFormed :=
  wellFormed_run wellFormed_empty
    (fitsAll_of_length_lt wellFormed_empty dense_empty (by simp [opened]))

theorem entries_registry : registry.entries = #[⟨none, 5, {}⟩, ⟨none, 6, {}⟩] := by
  simp [registry, opened, run, step, Outcome.map, openConn, findConn?, add]

theorem findConn?_registry :
    registry.findConn? 5 = some (0, ⟨none, 5, {}⟩) ∧
      registry.findConn? 6 = some (1, ⟨none, 6, {}⟩) := by
  simp [findConn?_eq_some_iff wellFormed_registry, entries_registry]

theorem owned_registry (conn : Int32) (busy : sequences conn ≠ []) :
    registry.Owned conn (receivers conn) := by
  have member : conn = 5 ∨ conn = 6 := by
    by_contra neither
    rw [not_or] at neither
    exact busy (by simp [sequences, neither.1, neither.2])
  rcases member with rfl | rfl
  · exact ⟨by decide, _, findConn?_registry.1⟩
  · exact ⟨by decide, _, findConn?_registry.2⟩

theorem interleaves : inTurn.Interleaves sequences ∧ mixed.Interleaves sequences := by
  constructor
  all_goals
    intro conn
    by_cases five : conn = 5
    · subst five
      rfl
    by_cases six : conn = 6
    · subst six
      rfl
    · simp [inTurn, mixed, sequences, own, five, six, Ne.symm five, Ne.symm six]

/-- Both queues are empty and open at first. -/
theorem own_serve_mixed {routing : Routing} (conn : Int32) (client : conn = 5 ∨ conn = 6) :
    own conn (registry.serve routing receivers mixed).1 =
      (alone conn {} (sequences conn)).1 := by
  have owned := owned_of_interleaves interleaves.2 owned_registry
  have empty : registry.queueOf? conn = some {} := by
    rcases client with rfl | rfl
    · rw [queueOf?_of_findConn? findConn?_registry.1]
    · rw [queueOf?_of_findConn? findConn?_registry.2]
  rw [own_serve conn wellFormed_registry owned, interleaves.2 conn, empty, Option.getD_some]

end Neighbours

/-- One client closes its queue and is refused, while the other goes on: either way the replies are
those that each of them would get alone. -/
theorem interleavings_agree_of_neighbours :
    let served := Neighbours.registry.serve (Routing.ofSettings {}) Neighbours.receivers
    Neighbours.inTurn ≠ Neighbours.mixed ∧
      (∀ conn, own conn (served Neighbours.inTurn).1 = own conn (served Neighbours.mixed).1) ∧
      (served Neighbours.inTurn).2 = (served Neighbours.mixed).2 ∧
      own 5 (served Neighbours.mixed).1 =
        [.done, .message (some .monitorReady), .done, .refused (Fault.queueClosed 5)] ∧
      own 6 (served Neighbours.mixed).1 = [.message none, .done, .count 1] := by
  obtain ⟨told, left⟩ := interleavings_agree (Routing.ofSettings {})
    Neighbours.wellFormed_registry Neighbours.owned_registry Neighbours.interleaves.1
    Neighbours.interleaves.2
  refine ⟨by simp [Neighbours.inTurn, Neighbours.mixed], told, left, ?_, ?_⟩
  · rw [Neighbours.own_serve_mixed 5 (.inl rfl)]
    rfl
  · rw [Neighbours.own_serve_mixed 6 (.inr rfl)]
    rfl

end Registry

end RemoteClipboard
