import RemoteClipboard.Proofs.Bridge.Runs

/-! # Looking connections up

A connection can be looked up by its name and by its number, for its number, for its receiver or
for its channel, and a visitor of all queues comes to it in its turn.  These ways go through two
indexes and the table of entries, and all of them end at the same entry (`located_of_held`).

An entry keeps its slot, its number and its name for as long as the registry lives (`held_run`).  So
what was once found is found ever after, in the same place (`Bridge.lookups_of_reachable`). -/

namespace RemoteClipboard

namespace Registry

/-- What a visitor of all queues comes to, in order. -/
def visited (r : Registry) : List (Int32 × Queue Message) :=
  r.entries.toList.map fun entry => (entry.conn, entry.queue)

/-- Whichever way a connection is looked up, the entry in one slot is found. -/
structure Located (r : Registry) (slot : Nat) (entry : Entry) : Prop where
  owns : r.OwnsQueue slot entry
  number : ∀ peer, entry.peer = some peer →
    (r.step (.lookup peer)).result = .number (some entry.conn)
  place : r.visited[slot]? = some (entry.conn, entry.queue)
  once : (r.visited.map Prod.fst).count entry.conn = 1
  visits : ∀ f, (r.step (.visit f)).state.queue? slot = some (f entry.conn entry.queue)

/-- No name leads to a number, nor will the next name that is new. -/
def Nameless (r : Registry) (conn : Int32) : Prop :=
  ∀ peer, (r.step (.lookup peer)).result ≠ .number (some conn) ∧
    (r.Fits (.openPeer peer) → ∀ slot, (r.step (.openPeer peer)).result ≠ .opened (some conn) slot)

variable {r r' : Registry} {slot : Nat} {entry : Entry} {conn : Int32} {peer : Bytes}

/-! ## Entries stay -/

theorem held_of_directory (same : r'.directory = r.directory)
    (held : r.entries[slot]? = some entry) :
    ∃ queue, r'.entries[slot]? = some { entry with queue } := by
  have blank : r'.directory.entries[slot]? = some { entry with queue := {} } := by
    rw [same]
    simp [directory, held]
  simp only [directory, Array.getElem?_map, Option.map_eq_some_iff] at blank
  obtain ⟨later, held, eq⟩ := blank
  cases later
  cases eq
  exact ⟨_, held⟩

/-- Whatever is done, an entry keeps its slot, its number and its name. -/
theorem held_step (op : Op) (held : r.entries[slot]? = some entry) :
    ∃ queue, (r.step op).state.entries[slot]? = some { entry with queue } := by
  rcases entries_step r op with same | ⟨_, _, -, pushed⟩ | ⟨_, -, pushed⟩
  · exact held_of_directory same held
  · exact ⟨entry.queue, by rw [pushed, held_push held]⟩
  · exact ⟨entry.queue, by rw [pushed, held_push held]⟩

theorem held_run (ops : List Op) (held : r.entries[slot]? = some entry) :
    ∃ queue, (r.run ops).entries[slot]? = some { entry with queue } := by
  -- Each operation may change the queue, so the entry is another one at every step.
  induction ops generalizing r entry with
  | nil => exact ⟨entry.queue, held⟩
  | cons op ops ih =>
    obtain ⟨_, later⟩ := held_step op held
    obtain ⟨queue, last⟩ := ih later
    exact ⟨queue, last⟩

/-! ## Where lookups lead -/

section

variable (wf : r.WellFormed)
include wf

theorem located_of_held (held : r.entries[slot]? = some entry) : r.Located slot entry where
  owns := ownsQueue wf held
  number := by
    intro peer has
    have found := (findPeer?_eq_some_iff wf).mpr ⟨held, has⟩
    simp [step, connOf?, found]
  place := by simp [visited, held]
  once := by
    -- No two entries have the same number, since a number leads to one slot only.
    have conns := wf.byConn.nodup
    rw [List.filterMap_eq_map'] at conns
    have member : entry.conn ∈ r.entries.toList.map Entry.conn :=
      List.mem_map_of_mem (Array.mem_toList_iff.mpr (Array.mem_of_getElem? held))
    simpa [visited, Function.comp_def] using List.count_eq_one_of_mem conns member
  visits := by
    intro f
    simp [step, visit, queue?, held]

/-- An entry that was opened by number has no name, and its number is not given out again. -/
theorem nameless_of_held (held : r.entries[slot]? = some entry) (unnamed : entry.peer = none) :
    r.Nameless entry.conn := by
  -- The number has one slot only, and a name would have to lead there.
  have elsewhere : ∀ peer place other, r.findPeer? peer = some (place, other) →
      other.conn ≠ entry.conn := by
    intro peer place other found same
    obtain ⟨heldOther, has⟩ := (findPeer?_eq_some_iff wf).mp found
    have places := wf.byConn.slot_unique heldOther held (congrArg some same) rfl
    subst places
    cases Option.some.inj (held.symm.trans heldOther)
    rw [unnamed] at has
    cases has
  intro peer
  cases found : r.findPeer? peer with
  | some place =>
    have other := elsewhere peer place.1 place.2 found
    constructor
    · simp [step, connOf?, found, other]
    · intro _ slot
      simp [step, Outcome.map, openPeer, found, other]
  | none =>
    constructor
    · simp [step, connOf?, found]
    · intro fits slot
      obtain ⟨conn, -, unused, -, result, -⟩ := openPeer_of_none wf (fits found) found
      have new := (findConn?_eq_none_iff wf).mp unused entry (Array.mem_of_getElem? held)
      simp [step, Outcome.map, result, new.symm]

/-- The entry of a peer, once it is opened, has its name. -/
theorem held_of_openPeer (opened : (r.step (.openPeer peer)).result = .opened (some conn) slot) :
    ∃ queue, (r.step (.openPeer peer)).state.entries[slot]? = some ⟨some peer, conn, queue⟩ := by
  cases found : r.findPeer? peer with
  | some place =>
    obtain ⟨place, entry⟩ := place
    obtain ⟨held, has⟩ := (findPeer?_eq_some_iff wf).mp found
    simp only [step, Outcome.map, openPeer, found] at opened ⊢
    cases opened
    exact ⟨entry.queue, by rw [held, ← has]⟩
  | none =>
    simp only [step, Outcome.map, openPeer, found, add] at opened ⊢
    cases opened
    exact ⟨{}, Array.getElem?_push_size⟩

end

theorem held_of_openConn (new : r.findConn? conn = none)
    (opened : (r.step (.openConn conn)).result = .opened none slot) :
    ∃ queue, (r.step (.openConn conn)).state.entries[slot]? = some ⟨none, conn, queue⟩ := by
  by_cases negative : conn < 0
  · simp [step, Outcome.map, openConn, negative, Host.Reply.ofReceiver] at opened
  · simp only [step, Outcome.map, openConn, negative, new, add, Host.Reply.ofReceiver, if_false]
      at opened ⊢
    cases opened
    exact ⟨{}, Array.getElem?_push_size⟩

end Registry

namespace Bridge

/-- Whether something is true of the registry of a bridge once an operation is done, whatever is
done after it. -/
def EverAfter (b : Bridge) (op : Op) (holds : Registry → Prop) : Prop :=
  ∀ ops, b.FitsAll (op :: ops) → holds (b.run (op :: ops)).registry

variable {b : Bridge}

/-- What an operation on the registry leaves in a slot stays there. -/
theorem everAfter_of_held {op : Registry.Op} {slot : Nat} (entry : Registry.Entry)
    (wf : b.registry.WellFormed)
    (held : ∃ queue, (b.registry.step op).state.entries[slot]? = some { entry with queue }) :
    b.EverAfter (.registry op) fun later =>
      later.WellFormed ∧ ∃ queue, later.entries[slot]? = some { entry with queue } := by
  intro ops fits
  constructor
  · rw [registry_run]
    exact Registry.wellFormed_run wf fits
  · obtain ⟨_, now⟩ := held
    obtain ⟨queue, later⟩ := Registry.held_run ((b.doRegistry op).state.onRegistry ops) now
    refine ⟨queue, ?_⟩
    rw [run, registry_run]
    exact later

/-- A peer's connection, once it is opened or found, and a connection that was opened by number are
found in the same place ever after, whichever way they are looked up; a number that was opened as
such is never given to a peer. -/
theorem lookups_of_reachable (reachable : b.Reachable) :
    (∀ peer conn slot,
      (b.step (.registry (.openPeer peer))).result = .opened (some conn) slot →
        b.EverAfter (.registry (.openPeer peer)) fun later =>
          ∃ queue, later.Located slot ⟨some peer, conn, queue⟩) ∧
      ∀ conn slot, b.registry.findConn? conn = none →
        (b.step (.registry (.openConn conn))).result = .opened none slot →
          b.EverAfter (.registry (.openConn conn)) fun later =>
            later.Nameless conn ∧ ∃ queue, later.Located slot ⟨none, conn, queue⟩ := by
  have wf := Registry.wellFormed_of_reachable (reachable_registry reachable)
  constructor
  · intro peer conn slot opened ops fits
    have held := Registry.held_of_openPeer wf opened
    obtain ⟨wfLater, queue, later⟩ :=
      everAfter_of_held ⟨some peer, conn, {}⟩ wf held ops fits
    exact ⟨queue, Registry.located_of_held wfLater later⟩
  · intro conn slot new opened ops fits
    have held := Registry.held_of_openConn new opened
    obtain ⟨wfLater, queue, later⟩ :=
      everAfter_of_held ⟨none, conn, {}⟩ wf held ops fits
    exact ⟨Registry.nameless_of_held wfLater later rfl, queue,
      Registry.located_of_held wfLater later⟩

/-! ## Across a restart -/

namespace Restart

def earlier : List Op := [.init {} {}, .registry (.openConn 1)]

/-- A bridge in use, with one connection that was opened by number. -/
def bridge : Bridge := run {} earlier

def later : List Op :=
  [.shutdown, .init {} {}, .send 0 .monitorReady, .registry (.openPeer [])]

theorem fitsAll_later (op : Op) : bridge.Reachable ∧ bridge.FitsAll (op :: later) := by
  have few : (earlier ++ op :: later).length < 0x80000000 := by simp [earlier, later]
  obtain ⟨before, after⟩ := fitsAll_append.mp (fitsAll_of_length_lt few)
  exact ⟨⟨_, before, rfl⟩, after⟩

theorem registry_bridge : bridge.registry = (({} : Registry).add none 1).2 := by
  rw [bridge, registry_run]
  simp [earlier, onRegistry, Op.onRegistry, Registry.run, Registry.step, Outcome.map,
    Registry.openConn, Registry.findConn?]

theorem wellFormed_bridge : bridge.registry.WellFormed :=
  Registry.wellFormed_of_reachable (reachable_registry (fitsAll_later .shutdown).1)

/-- The first name gets the second number, since the first one is in use. -/
theorem openPeer_bridge :
    (bridge.step (.registry (.openPeer [0x61]))).result = .opened (some 2) 1 := by
  have wf := wellFormed_bridge
  have new : bridge.registry.findPeer? [0x61] = none := by
    rw [Registry.findPeer?_eq_none_iff wf, registry_bridge]
    simp [Registry.add]
  have used : bridge.registry.findConn? 1 = some (0, ⟨none, 1, {}⟩) := by
    rw [Registry.findConn?_eq_some_iff wf, registry_bridge]
    simp [Registry.add]
  have size : bridge.registry.entries.size = 1 := by simp [registry_bridge, Registry.add]
  have ids : bridge.registry.ids = ⟨0⟩ := by simp [registry_bridge, Registry.add]
  simp [step, doRegistry, Outcome.mapState, Outcome.map, Registry.step, Registry.openPeer,
    Registry.add, IdAllocator.nextFree, IdAllocator.next, new, used, size, ids]

theorem findConn?_bridge : bridge.registry.findConn? 7 = none := by
  rw [Registry.findConn?_eq_none_iff wellFormed_bridge, registry_bridge]
  simp [Registry.add]

theorem openConn_bridge :
    (bridge.step (.registry (.openConn 7))).result = .opened none 1 := by
  have size : bridge.registry.entries.size = 1 := by simp [registry_bridge, Registry.add]
  simp [step, doRegistry, Outcome.mapState, Outcome.map, Registry.step, Registry.openConn,
    Registry.add, Host.Reply.ofReceiver, findConn?_bridge, size]

end Restart

/-- A peer and a connection opened by number, each looked up again after a restart. -/
theorem lookups_of_restart :
    ((Restart.bridge.step (.registry (.openPeer [0x61]))).result = .opened (some 2) 1 ∧
      ∃ queue, (Restart.bridge.run
        (.registry (.openPeer [0x61]) :: Restart.later)).registry.Located 1
          ⟨some [0x61], 2, queue⟩) ∧
    (Restart.bridge.step (.registry (.openConn 7))).result = .opened none 1 ∧
      let after := (Restart.bridge.run (.registry (.openConn 7) :: Restart.later)).registry
      after.Nameless 7 ∧ ∃ queue, after.Located 1 ⟨none, 7, queue⟩ := by
  obtain ⟨reachable, fitsPeer⟩ := Restart.fitsAll_later (.registry (.openPeer [0x61]))
  obtain ⟨-, fitsConn⟩ := Restart.fitsAll_later (.registry (.openConn 7))
  obtain ⟨byPeer, byConn⟩ := lookups_of_reachable reachable
  refine ⟨⟨Restart.openPeer_bridge, ?_⟩, Restart.openConn_bridge, ?_⟩
  · exact byPeer [0x61] 2 1 Restart.openPeer_bridge Restart.later fitsPeer
  · exact byConn 7 1 Restart.findConn?_bridge Restart.openConn_bridge Restart.later fitsConn

end Bridge

end RemoteClipboard
