import RemoteClipboard.Proofs.Bridge.Lookups

/-! # Numbers for new peers

A new peer gets the first number that is free among those that the allocator has not given out.  To
find it the allocator takes one number after the other, without a bound of its own (`Searches`).  The
search ends all the same: a number that is passed over is one of those that were opened as such ahead
of the allocator, and of these there are only so many (`searches_nextFree`).

Nothing but a new peer moves the allocator (`assigns_cases`).  So along a run the numbers of new peers
only grow, and none of them was in use before (`numbers_of_run`). -/

namespace RemoteClipboard

namespace IdAllocator

/-! ## The search for a number -/

/-- A search for a number that is free takes so many numbers, the last of which is free and the others
are not, and ends with that number and the allocator as it is then. -/
inductive Searches (inUse : Int32 → Bool) : IdAllocator → Nat → Int32 × IdAllocator → Prop
  | free {a : IdAllocator} : inUse a.next.1 = false → Searches inUse a 1 a.next
  | passed {a : IdAllocator} {steps : Nat} {out : Int32 × IdAllocator} :
      inUse a.next.1 = true → Searches inUse a.next.2 steps out → Searches inUse a (steps + 1) out

/-- The search ends, after no more than one step beyond the numbers in use that lie ahead. -/
theorem searches_nextFree {a : IdAllocator} {free : Int32} (inUse : Int32 → Bool) (tries : Nat)
    {used : List Int32} (above : a.last < free) (unused : inUse free = false)
    (few : used.length ≤ tries) (listed : ∀ id, a.last < id → inUse id = true → id ∈ used) :
    ∃ steps ≤ used.length + 1, Searches inUse a steps (nextFree inUse tries a) := by
  induction tries generalizing a used with
  | zero =>
    have none : inUse a.next.1 = false := by
      by_contra taken
      have member := listed _ (lt_next above) (eq_true_of_ne_false taken)
      rw [List.length_eq_zero_iff.mp (Nat.le_zero.mp few)] at member
      cases member
    exact ⟨1, by omega, .free none⟩
  | succ tries ih =>
    cases taken : inUse a.next.1 with
    | false =>
      rw [nextFree, if_neg (ne_true_of_eq_false taken)]
      exact ⟨1, by omega, .free taken⟩
    | true =>
      obtain ⟨beyond, fewer, listed'⟩ := listed_next above unused listed taken
      obtain ⟨steps, bound, search⟩ := ih (a := a.next.2) beyond (by omega) listed'
      rw [nextFree, if_pos taken]
      exact ⟨steps + 1, by omega, .passed taken search⟩

end IdAllocator

namespace Registry

/-! ## One new peer -/

/-- The numbers in use that the allocator has not come to. -/
def ahead (r : Registry) : List Int32 :=
  (r.entries.toList.map Entry.conn).filter (r.ids.last < ·)

/-- What a peer gets that was not known before: the first number that is free, found in so many steps,
and a connection of its own. -/
structure Numbers (r : Registry) (peer : Bytes) (conn : Int32) : Prop where
  search : ∃ steps ≤ r.ahead.length + 1,
    IdAllocator.Searches (fun id => (r.findConn? id).isSome) r.ids steps (conn, ⟨conn⟩)
  above : r.ids.last < conn
  unused : ∀ entry ∈ r.entries, entry.conn ≠ conn
  least : ∀ other, r.ids.last < other → (∀ entry ∈ r.entries, entry.conn ≠ other) → conn ≤ other
  opened : (r.step (.openPeer peer)).result = .opened (some conn) r.size
  moved : (r.step (.openPeer peer)).state.ids = ⟨conn⟩

/-- The number that an operation gives to a new peer. -/
def assigns (r : Registry) : Op → Option Int32
  | .openPeer peer => if (r.findPeer? peer).isSome then none else some (r.openPeer peer).result.1
  | _ => none

/-- The numbers that operations give to new peers, in order. -/
def assigned (r : Registry) : List Op → List Int32
  | [] => []
  | op :: ops => (r.assigns op).toList ++ (r.step op).state.assigned ops

section

variable {r : Registry} {op : Op} {peer : Bytes}

/-- A new peer gets what the allocator finds. -/
theorem nextFree_of_new (new : r.findPeer? peer = none) :
    IdAllocator.nextFree (fun id => (r.findConn? id).isSome) r.entries.size r.ids =
      ((r.openPeer peer).result.1, (r.openPeer peer).state.ids) := by
  simp [openPeer, new, add]

section

variable (wf : r.WellFormed)
include wf

theorem mem_ahead {id : Int32} (beyond : r.ids.last < id)
    (inUse : (r.findConn? id).isSome = true) : id ∈ r.ahead := by
  obtain ⟨⟨slot, entry⟩, found⟩ := Option.isSome_iff_exists.mp inUse
  obtain ⟨held, rfl⟩ := (findConn?_eq_some_iff wf).mp found
  have member := Array.mem_toList_iff.mpr (Array.mem_of_getElem? held)
  exact List.mem_filter.mpr ⟨List.mem_map_of_mem member, decide_eq_true beyond⟩

theorem numbers_of_new (room : r.HasRoom) (new : r.findPeer? peer = none) :
    ∃ conn, r.Numbers peer conn := by
  obtain ⟨conn, later, unused, first, result, state⟩ := openPeer_of_none wf room new
  refine ⟨conn, ?_, later, (findConn?_eq_none_iff wf).mp unused, ?_, ?_, ?_⟩
  · -- The registry allows one try for each of its entries, and fewer of them lie ahead.
    have few : r.ahead.length ≤ r.entries.size := by
      simpa [ahead] using
        List.length_filter_le (r.ids.last < ·) (r.entries.toList.map Entry.conn)
    obtain ⟨free, above, unusedFree⟩ := room
    have search := IdAllocator.searches_nextFree (fun id => (r.findConn? id).isSome)
      r.entries.size above (by simp [unusedFree]) few (fun id => mem_ahead wf)
    rwa [nextFree_of_new new, result, state] at search
  · intro other above free
    exact first other above ((findConn?_eq_none_iff wf).mpr free)
  · simp [step, Outcome.map, result, size]
  · simp [step, Outcome.map, state, add]

/-! ## What moves the allocator -/

omit wf in
theorem ids_step (other : op.opens = false) : (r.step op).state.ids = r.ids := by
  have same := congrArg Registry.ids (directory_step (r := r) other)
  exact same

/-- An operation leaves the allocator as it is, or it opens a connection for a new peer. -/
theorem assigns_cases (fits : r.Fits op) :
    (r.assigns op = none ∧ (r.step op).state.ids = r.ids) ∨
      ∃ peer conn, op = .openPeer peer ∧ r.assigns op = some conn ∧ r.Numbers peer conn := by
  cases op with
  | openPeer peer =>
    cases found : r.findPeer? peer with
    | some place => exact .inl (by simp [assigns, step, Outcome.map, openPeer, found])
    | none =>
      obtain ⟨conn, numbers⟩ := numbers_of_new wf (fits found) found
      have given : (r.openPeer peer).result.1 = conn := by
        have opened := numbers.opened
        simp only [step, Outcome.map, Host.Reply.opened.injEq, Option.some.injEq] at opened
        exact opened.1
      exact .inr ⟨peer, conn, rfl, by simp [assigns, found, given], numbers⟩
  | openConn conn =>
    have opens : (Op.openConn conn).opens = true := rfl
    refine .inl ⟨rfl, ?_⟩
    rcases state_step_of_opens (r := r) opens with same | ⟨_, _, _, eq, -⟩ | ⟨_, -, added⟩
    · rw [same]
    · cases eq
    · rw [added]
      rfl
  | _ => exact .inl ⟨rfl, ids_step rfl⟩

/-! ## Every run -/

/-- A number that is in use is not given to a new peer any more. -/
theorem not_mem_assigned {ops : List Op} {slot : Nat} {entry : Entry} (fits : r.FitsAll ops)
    (held : r.entries[slot]? = some entry) : entry.conn ∉ r.assigned ops := by
  induction ops generalizing r entry with
  | nil => exact List.not_mem_nil
  | cons op ops ih =>
    obtain ⟨_, heldLater⟩ := held_step op held
    have later := ih (wellFormed_step wf fits.1) fits.2 heldLater
    rw [assigned, List.mem_append, not_or]
    refine ⟨?_, later⟩
    rcases assigns_cases wf fits.1 with ⟨none, -⟩ | ⟨_, conn, -, given, numbers⟩
    · simp [none]
    · simpa [given] using numbers.unused entry (Array.mem_of_getElem? held)

/-- The numbers of new peers grow, from the last one that the allocator has given out. -/
theorem pairwise_assigned {ops : List Op} (fits : r.FitsAll ops) :
    (r.assigned ops).Pairwise (· < ·) ∧ ∀ id ∈ r.assigned ops, r.ids.last < id := by
  induction ops generalizing r with
  | nil => exact ⟨.nil, fun _ member => absurd member List.not_mem_nil⟩
  | cons op ops ih =>
    obtain ⟨ordered, later⟩ := ih (wellFormed_step wf fits.1) fits.2
    rcases assigns_cases wf fits.1 with ⟨none, same⟩ | ⟨_, conn, rfl, given, numbers⟩
    · rw [same] at later
      simpa [assigned, none] using ⟨ordered, later⟩
    · -- The allocator has moved to the new number, so all that follow lie beyond it.
      rw [numbers.moved] at later
      simp only [assigned, given, Option.toList_some, List.cons_append, List.nil_append,
        List.pairwise_cons, List.forall_mem_cons]
      exact ⟨⟨later, ordered⟩, numbers.above,
        fun id member => Int32.lt_trans numbers.above (later id member)⟩

end

end

/-- Whatever is done with a registry, as long as there are numbers left: a new peer gets the first
number above all that were given to peers before and free, and the search for it takes one step more
than it passes over numbers that were opened as such.  The numbers of new peers grow from 1 on, and no
number that was in use before is among them, however it came to be in use.  Nothing else moves the
allocator. -/
theorem numbers_of_run (ops : List Op) (fits : FitsAll {} ops) :
    let r := run {} ops
    (∀ peer, r.findPeer? peer = none → r.HasRoom → ∃ conn, r.Numbers peer conn) ∧
      (∀ op, (∀ peer, op = .openPeer peer → r.findPeer? peer ≠ none) →
        (r.step op).state.ids = r.ids) ∧
      (assigned {} ops).Pairwise (· < ·) ∧
      (∀ id ∈ assigned {} ops, 1 ≤ id) ∧
      ∀ before later, ops = before ++ later → ∀ entry ∈ (run {} before).entries,
        entry.conn ∉ (run {} before).assigned later := by
  intro r
  have wf : r.WellFormed := wellFormed_run wellFormed_empty fits
  obtain ⟨ordered, positive⟩ := pairwise_assigned wellFormed_empty fits
  refine ⟨fun peer new room => numbers_of_new wf room new, ?_, ordered, ?_, ?_⟩
  · intro op known
    have fitsOp : r.Fits op := by
      cases op with
      | openPeer peer => exact fun new => absurd new (known peer rfl)
      | _ => trivial
    rcases assigns_cases wf fitsOp with ⟨-, same⟩ | ⟨peer, conn, rfl, given, -⟩
    · exact same
    · cases found : r.findPeer? peer with
      | some place => simp [assigns, found] at given
      | none => exact absurd found (known peer rfl)
  · intro id member
    have above := Int32.lt_iff_toInt_lt.mp (positive id member)
    have zero : ({} : Registry).ids.last.toInt = 0 := rfl
    have one : (1 : Int32).toInt = 1 := rfl
    rw [Int32.le_iff_toInt_le]
    omega
  · rintro before later rfl entry member
    obtain ⟨fitsBefore, fitsLater⟩ := fitsAll_append.mp fits
    obtain ⟨slot, held⟩ := Array.mem_iff_getElem?.mp member
    exact not_mem_assigned (wellFormed_run wellFormed_empty fitsBefore) fitsLater held

/-! ## Numbers that are passed over -/

namespace Crowded

/-- One peer among connections that were opened by number. -/
def earlier : List Op :=
  [.openConn 3, .openConn 1, .openPeer [], .openConn 5, .openConn 4, .lookup [], .openPeer []]

/-- Another peer comes. -/
def ops : List Op := earlier ++ [.openPeer [0x61]]

theorem fitsAll_ops : FitsAll {} ops :=
  fitsAll_of_length_lt wellFormed_empty dense_empty (by simp [ops, earlier])

theorem assigned_ops : assigned {} ops = [2, 6] := by
  simp [ops, earlier, assigned, assigns, step, Outcome.map, openConn, openPeer, findConn?,
    findPeer?, add, IdAllocator.nextFree, IdAllocator.next, Std.HashMap.getElem_insertIfNew]

theorem new_earlier :
    (run {} earlier).findPeer? [0x61] = none ∧ ((run {} earlier).openPeer [0x61]).result.1 = 6 := by
  simp [earlier, run, step, Outcome.map, openConn, openPeer, findConn?, findPeer?, add,
    IdAllocator.nextFree, IdAllocator.next, Std.HashMap.getElem_insertIfNew]

end Crowded

/-- The first peer gets number 2, since 1 is in use.  The other one gets number 6, and for that the
numbers 3, 4 and 5 are passed over. -/
theorem numbers_of_crowded :
    FitsAll {} Crowded.ops ∧ (run {} Crowded.earlier).Numbers [0x61] 6 ∧
      assigned {} Crowded.ops = [2, 6] ∧ (assigned {} Crowded.ops).Pairwise (· < ·) := by
  obtain ⟨before, room, -⟩ := fitsAll_append.mp Crowded.fitsAll_ops
  obtain ⟨new, number⟩ := Crowded.new_earlier
  obtain ⟨gets, -⟩ := numbers_of_run Crowded.earlier before
  obtain ⟨conn, numbers⟩ := gets [0x61] new (room new)
  obtain ⟨-, -, ordered, -⟩ := numbers_of_run Crowded.ops Crowded.fitsAll_ops
  have opened := numbers.opened
  simp only [step, Outcome.map, number, Host.Reply.opened.injEq, Option.some.injEq] at opened
  obtain ⟨rfl, -⟩ := opened
  exact ⟨Crowded.fitsAll_ops, numbers, Crowded.assigned_ops, ordered⟩

end Registry

end RemoteClipboard
