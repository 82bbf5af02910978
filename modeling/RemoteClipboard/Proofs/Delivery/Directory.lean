import Mathlib.Data.List.Nodup
import Mathlib.Data.List.Perm.Subperm
import Mathlib.Tactic.MkIffOfInductiveProp
import RemoteClipboard.Proofs.Delivery.Sending

/-! # The directory of a registry

Leave the queues of a registry aside, and what is left is a directory: who has which number, and the
two indexes that lead from names and from numbers to slots.  `WellFormed` says that each index leads
to where its keys stand and knows no others.  Two indexes over one table could come apart where a
number is given out twice, but the allocator passes over the numbers that are in use
(`nextFree_unused`).  So both ways to open a connection keep the directory well formed.

The allocator can run out of numbers, but not early: it leaves none out (`Dense`), so there has to
be a connection for every positive number (`hasRoom_of_size_lt`). -/

namespace RemoteClipboard

/-! ## Numbers that are free -/

namespace IdAllocator

variable {a : IdAllocator} {inUse : Int32 → Bool} {free : Int32}

theorem toInt_next (above : a.last < free) : a.next.1.toInt = a.last.toInt + 1 := by
  have above := Int32.lt_iff_toInt_lt.mp above
  have largest := free.toInt_lt
  have least := a.last.le_toInt
  have one : (1 : Int32).toInt = 1 := rfl
  rw [next, Int32.toInt_add, one, Int.bmod_eq_of_le (by omega) (by omega)]

theorem lt_next (above : a.last < free) : a.last < a.next.1 := by
  rw [Int32.lt_iff_toInt_lt, toInt_next above]
  omega

theorem next_le (above : a.last < free) : a.next.1 ≤ free := by
  rw [Int32.le_iff_toInt_le, toInt_next above]
  exact Int32.lt_iff_toInt_lt.mp above

/-- To pass over a number leaves one less of those in use, and the numbers that are free still to
come. -/
theorem listed_next {used : List Int32} (above : a.last < free) (unused : inUse free = false)
    (listed : ∀ id, a.last < id → inUse id = true → id ∈ used) (taken : inUse a.next.1 = true) :
    a.next.1 < free ∧ (used.erase a.next.1).length + 1 = used.length ∧
      ∀ id, a.next.1 < id → inUse id = true → id ∈ used.erase a.next.1 := by
  have member := listed _ (lt_next above) taken
  refine ⟨Int32.lt_of_le_of_ne (next_le above) ?_, ?_, ?_⟩
  · intro same
    rw [same, unused] at taken
    cases taken
  · rw [List.length_erase_of_mem member]
    have positive := List.length_pos_of_mem member
    omega
  · intro id beyond taken
    have different : id ≠ a.next.1 := by
      intro same
      rw [same] at beyond
      exact Int32.lt_irrefl beyond
    rw [List.mem_erase_of_ne different]
    exact listed id (Int32.lt_trans (lt_next above) beyond) taken

/-- Where some number above the last one is free, and no more numbers are in use than there are
tries, `nextFree` gives out the first one that is free. -/
theorem nextFree_unused (inUse : Int32 → Bool) (tries : Nat) {used : List Int32}
    (above : a.last < free) (unused : inUse free = false) (few : used.length ≤ tries)
    (listed : ∀ id, a.last < id → inUse id = true → id ∈ used) :
    ∃ id, nextFree inUse tries a = (id, ⟨id⟩) ∧ a.last < id ∧ inUse id = false ∧
      ∀ other, a.last < other → inUse other = false → id ≤ other := by
  induction tries generalizing a used with
  | zero =>
    refine ⟨a.next.1, rfl, lt_next above, ?_, fun other above _ => next_le above⟩
    cases taken : inUse a.next.1 with
    | false => rfl
    | true =>
      have member := listed _ (lt_next above) taken
      rw [List.length_eq_zero_iff.mp (Nat.le_zero.mp few)] at member
      cases member
  | succ tries ih =>
    cases taken : inUse a.next.1 with
    | false =>
      refine ⟨a.next.1, ?_, lt_next above, taken, fun other above _ => next_le above⟩
      simp [nextFree, taken]
      rfl
    | true =>
      -- The number is passed over, and with it one of those in use.
      obtain ⟨beyond, fewer, listed'⟩ := listed_next above unused listed taken
      obtain ⟨id, eq, later, unusedId, first⟩ :=
        ih (a := a.next.2) beyond (by omega) listed'
      refine ⟨id, ?_, Int32.lt_trans (lt_next above) later, unusedId, ?_⟩
      · rw [nextFree, if_pos taken, eq]
      · intro other above unused
        exact first other (listed_next above unused listed taken).1 unused

end IdAllocator

/-- A list that leaves out no positive number is as long as there are such numbers. -/
theorem le_length_of_all_positive {ids : List Int32} (all : ∀ id, 0 < id → id ∈ ids) :
    0x7FFFFFFF ≤ ids.length := by
  let number (n : Nat) : Int32 := Int32.ofNat (n + 1)
  have toInt : ∀ n < 0x7FFFFFFF, (number n).toInt = n + 1 := by
    intro n small
    exact Int32.toInt_ofNat_of_lt (by omega)
  have distinct : ((List.range 0x7FFFFFFF).map number).Nodup := by
    refine List.Nodup.map_on ?_ List.nodup_range
    intro m small n small' same
    have eq := congrArg Int32.toInt same
    rw [toInt m (List.mem_range.mp small), toInt n (List.mem_range.mp small')] at eq
    omega
  have subset : (List.range 0x7FFFFFFF).map number ⊆ ids := by
    intro id member
    obtain ⟨n, small, rfl⟩ := List.mem_map.mp member
    apply all
    rw [Int32.lt_iff_toInt_lt, toInt n (List.mem_range.mp small)]
    have zero : (0 : Int32).toInt = 0 := rfl
    omega
  have count := (List.subperm_of_subset distinct subset).length_le
  rwa [List.length_map, List.length_range] at count

namespace Registry

variable {r r' : Registry}

/-! ## All but the queues -/

/-- A registry with nothing in its queues. -/
def directory (r : Registry) : Registry :=
  { r with entries := r.entries.map ({ · with queue := {} }) }

/-- Does something to the queue of each connection. -/
def visit (r : Registry) (f : Int32 → Queue Message → Queue Message) : Registry :=
  { r with entries := r.entries.map fun e => { e with queue := f e.conn e.queue } }

theorem state_broadcast (r : Registry) (m : Message) :
    (r.broadcast m).state = r.visit fun _ queue => (queue.push m).2 := rfl

theorem closeAll_eq_visit (r : Registry) : r.closeAll = r.visit fun _ queue => queue.close := rfl

@[simp] theorem directory_visit (r : Registry) (f : Int32 → Queue Message → Queue Message) :
    (r.visit f).directory = r.directory := by
  simp [directory, visit, Function.comp_def]

@[simp] theorem directory_setQueue (r : Registry) (slot : Nat) (queue : Queue Message) :
    (r.setQueue slot queue).directory = r.directory := by
  have entries : (r.setQueue slot queue).directory.entries = r.directory.entries := by
    apply Array.ext_getElem?
    intro place
    simp only [directory, setQueue, Array.getElem?_map, Array.getElem?_modify]
    split <;> simp [Function.comp_def]
  simpa [directory, setQueue] using entries

theorem directory_push? {conn : Int32} {m : Message} {taken : Bool}
    (pushed : r.push? conn m = some (taken, r')) : r'.directory = r.directory := by
  simp only [push?, Option.bind_eq_bind, Option.bind_eq_some_iff] at pushed
  obtain ⟨_, _, eq⟩ := pushed
  cases eq
  exact directory_setQueue ..

theorem directory_post (r : Registry) (conn : Int32) (m : Message) :
    (r.post conn m).state.directory = r.directory := by
  unfold post
  split
  next => rfl
  next => rfl
  next pushed => exact directory_push? pushed

theorem directory_send (routing : Routing) (r : Registry) (conn : Int32) (m : Message) :
    (routing.send r conn m).state.directory = r.directory := by
  unfold Routing.send
  split
  next => exact directory_post ..
  next =>
    split
    next => exact directory_post ..
    next =>
      rw [state_broadcast]
      exact directory_visit ..

/-! ## Indexes -/

/-- An index leads from each key to the slot of the entry that has it, and from nothing else to
anywhere. -/
def Leads {κ : Type} [BEq κ] [Hashable κ] (index : Std.HashMap κ Nat) (entries : Array Entry)
    (key : Entry → Option κ) : Prop :=
  ∀ k slot, index[k]? = some slot ↔ ∃ entry, entries[slot]? = some entry ∧ key entry = some k

namespace Leads

variable {κ : Type} [BEq κ] [Hashable κ] {index : Std.HashMap κ Nat} {entries : Array Entry}
  {key : Entry → Option κ} {k : κ}

theorem eq_none (leads : Leads index entries key)
    (unused : ∀ entry ∈ entries, key entry ≠ some k) : index[k]? = none := by
  cases found : index[k]? with
  | none => rfl
  | some slot =>
    obtain ⟨entry, held, has⟩ := (leads k slot).mp found
    exact absurd has (unused entry (Array.mem_of_getElem? held))

/-- Two entries with one key are one entry. -/
theorem slot_unique (leads : Leads index entries key) {i j : Nat} {a b : Entry}
    (heldA : entries[i]? = some a) (heldB : entries[j]? = some b) (hasA : key a = some k)
    (hasB : key b = some k) : i = j := by
  have toI := (leads k i).mpr ⟨a, heldA, hasA⟩
  have toJ := (leads k j).mpr ⟨b, heldB, hasB⟩
  exact Option.some.inj (toI.symm.trans toJ)

theorem nodup (leads : Leads index entries key) : (entries.toList.filterMap key).Nodup := by
  rw [List.nodup_iff_pairwise_ne, List.pairwise_filterMap, List.pairwise_iff_getElem]
  intro i j hi hj before k hasI k' hasJ same
  subst same
  have slots := leads.slot_unique (Array.getElem?_eq_getElem hi) (Array.getElem?_eq_getElem hj)
    hasI hasJ
  omega

/-- No index leads past the last entry. -/
theorem ne_size (leads : Leads index entries key) : index[k]? ≠ some entries.size := by
  intro found
  obtain ⟨entry, held, -⟩ := (leads k entries.size).mp found
  simp at held

/-- An entry without a key comes without a line in the index. -/
theorem push (leads : Leads index entries key) {new : Entry} (has : key new = none) :
    Leads index (entries.push new) key := by
  intro k slot
  rw [Array.getElem?_push]
  by_cases last : slot = entries.size
  · subst last
    simp [has, leads.ne_size]
  · simpa [last] using leads k slot

/-- An entry with a new key comes with a line in the index. -/
theorem push_insertIfNew [LawfulBEq κ] (leads : Leads index entries key) {new : Entry}
    (has : key new = some k) (unused : ∀ entry ∈ entries, key entry ≠ some k) :
    Leads (index.insertIfNew k entries.size) (entries.push new) key := by
  have absent : ¬ k ∈ index := by
    rw [Std.HashMap.mem_iff_isSome_getElem?, leads.eq_none unused]
    simp
  intro k' slot
  rw [Std.HashMap.getElem?_insertIfNew, Array.getElem?_push]
  by_cases last : slot = entries.size
  · subst last
    simp [has, absent, leads.ne_size]
  · by_cases same : k = k'
    · subst same
      have elsewhere : entries.size ≠ slot := fun eq => last eq.symm
      have other : ∀ entry, entries[slot]? = some entry → key entry ≠ some k :=
        fun entry held => unused entry (Array.mem_of_getElem? held)
      simpa [last, absent, elsewhere] using other
    · simpa [last, same] using leads k' slot

end Leads

/-! ## What a directory says -/

/-- Each index leads to where its keys stand.  Names go with numbers that the allocator gave out. -/
@[mk_iff]
structure WellFormed (r : Registry) : Prop where
  byConn : Leads r.byConn r.entries fun entry => some entry.conn
  byPeer : Leads r.byPeer r.entries Entry.peer
  nonnegative : ∀ entry ∈ r.entries, 0 ≤ entry.conn
  allocated : ∀ entry ∈ r.entries, entry.peer.isSome = true →
    0 < entry.conn ∧ entry.conn ≤ r.ids.last
  last_nonnegative : 0 ≤ r.ids.last

theorem wellFormed_empty : WellFormed {} := by
  simp [wellFormed_iff, Leads]

theorem wellFormed_directory_iff : r.directory.WellFormed ↔ r.WellFormed := by
  simp [wellFormed_iff, Leads, directory]

/-- What is done to queues alone keeps a registry well formed. -/
theorem WellFormed.congr (same : r'.directory = r.directory) (wf : r.WellFormed) :
    r'.WellFormed := by
  rw [← wellFormed_directory_iff, same]
  exact wellFormed_directory_iff.mpr wf

/-! ## Finding and opening -/

/-- Whether the allocator can still find a number that is free. -/
def HasRoom (r : Registry) : Prop := ∃ id, r.ids.last < id ∧ r.findConn? id = none

theorem openConn_of_negative {conn : Int32} (negative : conn < 0) :
    (r.openConn conn).result = .error (Fault.negativeConnection conn) ∧
      (r.openConn conn).state = r := by
  simp [openConn, negative]

theorem openConn_of_findConn? {conn : Int32} {slot : Nat} {entry : Entry} (nonnegative : 0 ≤ conn)
    (found : r.findConn? conn = some (slot, entry)) : r.openConn conn = ⟨.ok slot, r, []⟩ := by
  simp [openConn, Int32.not_lt.mpr nonnegative, found]

theorem openConn_of_none {conn : Int32} (nonnegative : 0 ≤ conn)
    (unused : r.findConn? conn = none) :
    (r.openConn conn).result = .ok r.entries.size ∧
      (r.openConn conn).state = (r.add none conn).2 := by
  simp [openConn, Int32.not_lt.mpr nonnegative, unused, add]

section

variable (wf : r.WellFormed) {slot : Nat} {entry : Entry} {conn : Int32} {peer : Bytes}
include wf

theorem findConn?_eq_some_iff :
    r.findConn? conn = some (slot, entry) ↔ r.entries[slot]? = some entry ∧ entry.conn = conn := by
  have leads := wf.byConn conn
  simp only [findConn?, Option.bind_eq_bind, Option.bind_eq_some_iff, leads]
  grind

theorem findPeer?_eq_some_iff :
    r.findPeer? peer = some (slot, entry) ↔
      r.entries[slot]? = some entry ∧ entry.peer = some peer := by
  have leads := wf.byPeer peer
  simp only [findPeer?, Option.bind_eq_bind, Option.bind_eq_some_iff, leads]
  grind

theorem findConn?_eq_none_iff :
    r.findConn? conn = none ↔ ∀ entry ∈ r.entries, entry.conn ≠ conn := by
  simp only [Option.eq_none_iff_forall_ne_some, ne_eq, Prod.forall, findConn?_eq_some_iff wf,
    Array.mem_iff_getElem?]
  grind

theorem findPeer?_eq_none_iff :
    r.findPeer? peer = none ↔ ∀ entry ∈ r.entries, entry.peer ≠ some peer := by
  simp only [Option.eq_none_iff_forall_ne_some, ne_eq, Prod.forall, findPeer?_eq_some_iff wf,
    Array.mem_iff_getElem?]
  grind

/-- A new entry keeps a registry well formed if its number and its name are new. -/
theorem wellFormed_add {peer : Option Bytes} (nonnegative : 0 ≤ conn)
    (unused : r.findConn? conn = none)
    (named : ∀ name, peer = some name →
      r.findPeer? name = none ∧ 0 < conn ∧ conn ≤ r.ids.last) :
    (r.add peer conn).2.WellFormed where
  byConn := by
    refine wf.byConn.push_insertIfNew rfl ?_
    intro entry member same
    exact (findConn?_eq_none_iff wf).mp unused entry member (Option.some.inj same)
  byPeer := by
    cases peer with
    | none => exact wf.byPeer.push rfl
    | some name =>
      exact wf.byPeer.push_insertIfNew rfl ((findPeer?_eq_none_iff wf).mp (named name rfl).1)
  nonnegative := by
    intro entry member
    rcases Array.mem_push.mp member with old | rfl
    · exact wf.nonnegative entry old
    · exact nonnegative
  allocated := by
    intro entry member isNamed
    rcases Array.mem_push.mp member with old | rfl
    · exact wf.allocated entry old isNamed
    · obtain ⟨name, eq⟩ := Option.isSome_iff_exists.mp isNamed
      exact (named name eq).2
  last_nonnegative := wf.last_nonnegative

/-- The allocator may run ahead of the names. -/
theorem wellFormed_setLast {last : Int32} (ahead : r.ids.last ≤ last) :
    WellFormed { r with ids := ⟨last⟩ } where
  byConn := wf.byConn
  byPeer := wf.byPeer
  nonnegative := wf.nonnegative
  allocated := by
    intro entry member isNamed
    obtain ⟨positive, given⟩ := wf.allocated entry member isNamed
    exact ⟨positive, Int32.le_trans given ahead⟩
  last_nonnegative := Int32.le_trans wf.last_nonnegative ahead

/-- Opening by a number that is there gives its slot and changes nothing. -/
theorem openConn_of_held (held : r.entries[slot]? = some entry) :
    (r.openConn entry.conn).result = .ok slot ∧ (r.openConn entry.conn).state = r := by
  have nonnegative := wf.nonnegative entry (Array.mem_of_getElem? held)
  have found := (findConn?_eq_some_iff wf).mpr ⟨held, rfl⟩
  rw [openConn_of_findConn? nonnegative found]
  exact ⟨rfl, rfl⟩

/-- Opening by a name that is there gives its number and its slot and changes nothing. -/
theorem openPeer_of_held (held : r.entries[slot]? = some entry) (has : entry.peer = some peer) :
    (r.openPeer peer).result = (entry.conn, slot) ∧ (r.openPeer peer).state = r := by
  have found := (findPeer?_eq_some_iff wf).mpr ⟨held, has⟩
  simp [openPeer, found]

/-- Opening by a new name gives the first number above the last one that is free. -/
theorem openPeer_of_none (room : r.HasRoom) (new : r.findPeer? peer = none) :
    ∃ conn, r.ids.last < conn ∧ r.findConn? conn = none ∧
      (∀ other, r.ids.last < other → r.findConn? other = none → conn ≤ other) ∧
      (r.openPeer peer).result = (conn, r.entries.size) ∧
      (r.openPeer peer).state = ({ r with ids := ⟨conn⟩ }.add (some peer) conn).2 := by
  obtain ⟨free, above, unused⟩ := room
  have listed : ∀ id, r.ids.last < id → (r.findConn? id).isSome = true →
      id ∈ r.entries.toList.map Entry.conn := by
    intro id _ inUse
    obtain ⟨⟨slot, entry⟩, found⟩ := Option.isSome_iff_exists.mp inUse
    obtain ⟨held, rfl⟩ := (findConn?_eq_some_iff wf).mp found
    exact List.mem_map_of_mem (Array.mem_toList_iff.mpr (Array.mem_of_getElem? held))
  obtain ⟨conn, eq, later, unusedConn, first⟩ :=
    IdAllocator.nextFree_unused (fun id => (r.findConn? id).isSome) r.entries.size above
      (by simp [unused]) (by simp) listed
  refine ⟨conn, later, by simpa using unusedConn, ?_, ?_⟩
  · intro other above unused
    exact first other above (by simp [unused])
  · simp only [openPeer, new, eq, add]
    exact ⟨trivial, trivial⟩

theorem wellFormed_openPeer (room : r.findPeer? peer = none → r.HasRoom) :
    (r.openPeer peer).state.WellFormed := by
  cases found : r.findPeer? peer with
  | some place =>
    obtain ⟨slot, entry⟩ := place
    obtain ⟨held, has⟩ := (findPeer?_eq_some_iff wf).mp found
    rw [(openPeer_of_held wf held has).2]
    exact wf
  | none =>
    obtain ⟨conn, later, unused, -, -, state⟩ := openPeer_of_none wf (room found) found
    rw [state]
    have positive := Int32.lt_of_le_of_lt wf.last_nonnegative later
    refine wellFormed_add (wellFormed_setLast wf (Int32.le_of_lt later))
      (Int32.le_of_lt positive) unused ?_
    intro name eq
    cases eq
    exact ⟨found, positive, Int32.le_refl conn⟩

theorem wellFormed_openConn : (r.openConn conn).state.WellFormed := by
  by_cases negative : conn < 0
  · rw [(openConn_of_negative negative).2]
    exact wf
  have nonnegative := Int32.not_lt.mp negative
  cases found : r.findConn? conn with
  | some place =>
    obtain ⟨slot, entry⟩ := place
    obtain ⟨held, rfl⟩ := (findConn?_eq_some_iff wf).mp found
    rw [(openConn_of_held wf held).2]
    exact wf
  | none =>
    rw [(openConn_of_none nonnegative found).2]
    exact wellFormed_add wf nonnegative found (by simp)

end

/-! ## Numbers do not run out -/

/-- Whether every number up to the last one given out is in use. -/
def Dense (r : Registry) : Prop :=
  ∀ id, 0 < id → id ≤ r.ids.last → ∃ entry ∈ r.entries, entry.conn = id

theorem dense_empty : Dense {} := by
  intro id positive given
  exact absurd given (Int32.not_le.mpr positive)

theorem dense_directory_iff : r.directory.Dense ↔ r.Dense := by
  simp [Dense, directory]

theorem Dense.congr (same : r'.directory = r.directory) (dense : r.Dense) : r'.Dense := by
  rw [← dense_directory_iff, same]
  exact dense_directory_iff.mpr dense

theorem dense_openConn {conn : Int32} (dense : r.Dense) : (r.openConn conn).state.Dense := by
  by_cases negative : conn < 0
  · rw [(openConn_of_negative negative).2]
    exact dense
  cases found : r.findConn? conn with
  | some place => simpa [openConn, negative, found] using dense
  | none =>
    rw [(openConn_of_none (Int32.not_lt.mp negative) found).2]
    intro id positive given
    obtain ⟨entry, member, eq⟩ := dense id positive given
    exact ⟨entry, Array.mem_push_of_mem _ member, eq⟩

section

variable (wf : r.WellFormed) (dense : r.Dense)
include wf dense

/-- A positive number is in use unless it is still to be given out and free. -/
theorem held_of_not_free {id : Int32} (positive : 0 < id)
    (taken : r.ids.last < id → r.findConn? id ≠ none) : ∃ entry ∈ r.entries, entry.conn = id := by
  by_cases given : id ≤ r.ids.last
  · exact dense id positive given
  · by_contra free
    refine taken (Int32.not_le.mp given) ((findConn?_eq_none_iff wf).mpr ?_)
    exact fun entry member same => free ⟨entry, member, same⟩

theorem dense_openPeer {peer : Bytes} (room : r.findPeer? peer = none → r.HasRoom) :
    (r.openPeer peer).state.Dense := by
  cases found : r.findPeer? peer with
  | some place => simpa [openPeer, found] using dense
  | none =>
    obtain ⟨conn, later, unused, first, -, state⟩ := openPeer_of_none wf (room found) found
    rw [state]
    intro id positive given
    by_cases newest : id = conn
    · exact ⟨⟨some peer, conn, {}⟩, Array.mem_push_self, newest.symm⟩
    -- A number that was passed over was in use.
    obtain ⟨entry, member, eq⟩ := held_of_not_free wf dense positive
      fun beyond unused => newest (Int32.le_antisymm given (first id beyond unused))
    exact ⟨entry, Array.mem_push_of_mem _ member, eq⟩

/-- While there are fewer connections than positive numbers, some number is free. -/
theorem hasRoom_of_size_lt (few : r.entries.size < 0x7FFFFFFF) : r.HasRoom := by
  by_contra full
  -- Otherwise every positive number is in use, each by an entry of its own.
  have used : ∀ id : Int32, 0 < id → id ∈ r.entries.toList.map Entry.conn := by
    intro id positive
    obtain ⟨entry, member, rfl⟩ := held_of_not_free wf dense positive
      fun beyond unused => full ⟨id, beyond, unused⟩
    exact List.mem_map_of_mem (Array.mem_toList_iff.mpr member)
  have count := le_length_of_all_positive used
  rw [List.length_map, Array.length_toList] at count
  omega

end

end Registry

end RemoteClipboard
