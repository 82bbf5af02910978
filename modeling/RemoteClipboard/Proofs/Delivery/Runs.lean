import RemoteClipboard.Host.Command
import RemoteClipboard.Proofs.Delivery.Directory

/-! # Registries at work

An `Op` is something done to a registry or to one of its queues, and `Registry.run` does one after
the other.  Every registry that comes out of the empty one so is well formed
(`wellFormed_of_reachable`): most operations leave its directory alone, and the two that open a
connection add one entry with its lines in the indexes.

A receiver is told by the slot of its queue here, since there is only one registry. -/

namespace RemoteClipboard

namespace Registry

/-! ## Operations -/

/-- Something done to a registry or to its queues. -/
inductive Op
  | openPeer (peer : Bytes)
  | openConn (conn : Int32)
  | lookup (peer : Bytes)
  | find (conn : Int32)
  | visit (f : Int32 → Queue Message → Queue Message)
  | send (routing : Routing) (conn : Int32) (m : Message)
  | broadcast (m : Message)
  | push (conn : Int32) (m : Message)
  | receiver (slot : Nat) (take : Host.Take)

/-- Carries out an operation. -/
def step (r : Registry) : Op → Outcome Registry Host.Reply
  | .openPeer peer => (r.openPeer peer).map fun (conn, slot) => .opened (some conn) slot
  | .openConn conn => (r.openConn conn).map .ofReceiver
  | .lookup peer => ⟨.number (r.connOf? peer), r, []⟩
  | .find conn =>
    ⟨((r.findConn? conn).map fun (slot, _) => .opened none slot).getD .noChannel, r, []⟩
  | .visit f => ⟨.done, r.visit f, []⟩
  | .send routing conn m => (routing.send r conn m).map .ofUnit
  | .broadcast m => (r.broadcast m).map .count
  | .push conn m =>
    match r.push? conn m with
    | none => ⟨.noChannel, r, []⟩
    | some (taken, r) => ⟨.flag taken, r, []⟩
  | .receiver slot take =>
    match r.queue? slot with
    | none => ⟨.noReceiver, r, []⟩
    | some queue => ⟨(take.apply queue).1, r.setQueue slot (take.apply queue).2, []⟩

/-- Carries out operations one after the other. -/
def run (r : Registry) : List Op → Registry
  | [] => r
  | op :: ops => (r.step op).state.run ops

/-- Whether an operation finds a number where it needs a new one. -/
def Fits (r : Registry) : Op → Prop
  | .openPeer peer => r.findPeer? peer = none → r.HasRoom
  | _ => True

/-- Whether each of some operations fits when its turn comes. -/
def FitsAll (r : Registry) : List Op → Prop
  | [] => True
  | op :: ops => r.Fits op ∧ (r.step op).state.FitsAll ops

/-- Whether a registry comes out of the empty one. -/
def Reachable (r : Registry) : Prop := ∃ ops, FitsAll {} ops ∧ run {} ops = r

variable {r : Registry} {op : Op} {slot : Nat} {entry : Entry}

/-! ## What one operation does to the directory -/

/-- Whether an operation is one of the two that open a connection. -/
def Op.opens : Op → Bool
  | .openPeer _ | .openConn _ => true
  | _ => false

theorem directory_step (other : op.opens = false) : (r.step op).state.directory = r.directory := by
  cases op with
  | openPeer peer => cases other
  | openConn conn => cases other
  | lookup peer => rfl
  | find conn => rfl
  | visit f => exact directory_visit r f
  | send routing conn m => exact directory_send routing r conn m
  | broadcast m => exact directory_visit r fun _ queue => (queue.push m).2
  | push conn m =>
    simp only [step]
    split
    next => rfl
    next pushed => exact directory_push? pushed
  | receiver slot take =>
    simp only [step]
    split
    next => rfl
    next => exact directory_setQueue ..

/-- Opening a connection finds it or adds an entry. -/
theorem state_step_of_opens (opens : op.opens = true) :
    (r.step op).state = r ∨
      (∃ ids peer conn, op = .openPeer peer ∧
        (r.step op).state = ({ r with ids }.add (some peer) conn).2) ∨
      ∃ conn, op = .openConn conn ∧ (r.step op).state = (r.add none conn).2 := by
  cases op with
  | openPeer peer =>
    cases found : r.findPeer? peer with
    | some place =>
      left
      simp [step, Outcome.map, openPeer, found]
    | none =>
      right
      left
      simp only [step, Outcome.map, openPeer, found]
      exact ⟨_, peer, _, rfl, rfl⟩
  | openConn conn =>
    by_cases negative : conn < 0
    · left
      simp [step, Outcome.map, openConn, negative]
    cases found : r.findConn? conn with
    | some place =>
      left
      simp [step, Outcome.map, openConn, negative, found]
    | none =>
      right
      right
      refine ⟨conn, rfl, ?_⟩
      simp [step, Outcome.map, openConn, negative, found]
  | _ => cases opens

/-- Only opening a connection adds an entry, and it adds no more than one. -/
theorem entries_step (r : Registry) (op : Op) :
    (r.step op).state.directory = r.directory ∨
      (∃ peer conn, op = .openPeer peer ∧
        (r.step op).state.entries = r.entries.push ⟨some peer, conn, {}⟩) ∨
      ∃ conn, op = .openConn conn ∧
        (r.step op).state.entries = r.entries.push ⟨none, conn, {}⟩ := by
  cases opens : op.opens with
  | false => exact .inl (directory_step opens)
  | true =>
    rcases state_step_of_opens (r := r) opens with same | ⟨ids, peer, conn, eq, added⟩ |
      ⟨conn, eq, added⟩
    · exact .inl (congrArg directory same)
    · exact .inr (.inl ⟨peer, conn, eq, congrArg entries added⟩)
    · exact .inr (.inr ⟨conn, eq, congrArg entries added⟩)

theorem lt_size_of_held (held : r.entries[slot]? = some entry) : slot < r.size :=
  (Array.getElem?_eq_some_iff.mp held).choose

/-- An entry stays in its slot when another one is added. -/
theorem held_push {slot : Nat} {entry : Entry} (held : r.entries[slot]? = some entry)
    (new : Entry) : (r.entries.push new)[slot]? = some entry := by
  have inside : slot < r.entries.size := lt_size_of_held held
  rw [Array.getElem?_push, if_neg (Nat.ne_of_lt inside), held]

theorem size_step_le (r : Registry) (op : Op) :
    (r.step op).state.entries.size ≤ r.entries.size + 1 := by
  rcases entries_step r op with same | ⟨peer, conn, -, pushed⟩ | ⟨conn, -, pushed⟩
  · have size := congrArg (·.entries.size) same
    simp only [directory, Array.size_map] at size
    omega
  · simp [pushed]
  · simp [pushed]

theorem wellFormed_step (wf : r.WellFormed) (fits : r.Fits op) : (r.step op).state.WellFormed := by
  cases opens : op.opens with
  | false => exact wf.congr (directory_step opens)
  | true =>
    cases op with
    | openPeer peer => exact wellFormed_openPeer wf fits
    | openConn conn => exact wellFormed_openConn wf
    | _ => cases opens

theorem dense_step (wf : r.WellFormed) (dense : r.Dense) (fits : r.Fits op) :
    (r.step op).state.Dense := by
  cases opens : op.opens with
  | false => exact dense.congr (directory_step opens)
  | true =>
    cases op with
    | openPeer peer => exact dense_openPeer wf dense fits
    | openConn conn => exact dense_openConn dense
    | _ => cases opens

/-! ## What a run does to it -/

theorem run_append (r : Registry) (ops later : List Op) :
    r.run (ops ++ later) = (r.run ops).run later := by
  induction ops generalizing r with
  | nil => rfl
  | cons op ops ih => exact ih (r.step op).state

theorem fitsAll_append {ops later : List Op} :
    r.FitsAll (ops ++ later) ↔ r.FitsAll ops ∧ (r.run ops).FitsAll later := by
  induction ops generalizing r with
  | nil => simp [FitsAll, run]
  | cons op ops ih => simp only [List.cons_append, FitsAll, run, ih, and_assoc]

theorem wellFormed_run {ops : List Op} (wf : r.WellFormed) (fits : r.FitsAll ops) :
    (r.run ops).WellFormed := by
  induction ops generalizing r with
  | nil => exact wf
  | cons op ops ih => exact ih (wellFormed_step wf fits.1) fits.2

theorem wellFormed_of_reachable (reachable : r.Reachable) : r.WellFormed := by
  obtain ⟨ops, fits, rfl⟩ := reachable
  exact wellFormed_run wellFormed_empty fits

/-- Numbers last for as many operations as there are positive numbers. -/
theorem fitsAll_of_length_lt {ops : List Op} (wf : r.WellFormed) (dense : r.Dense)
    (few : r.entries.size + ops.length < 0x80000000) : r.FitsAll ops := by
  induction ops generalizing r with
  | nil => trivial
  | cons op ops ih =>
    rw [List.length_cons] at few
    have fits : r.Fits op := by
      cases op with
      | openPeer peer => exact fun _ => hasRoom_of_size_lt wf dense (by omega)
      | _ => trivial
    have size := size_step_le r op
    exact ⟨fits, ih (wellFormed_step wf fits) (dense_step wf dense fits) (by omega)⟩

/-! ## What belongs to an entry -/

/-- The queue of an entry is the one behind its number and the one behind the receiver that is
handed out for it, and it is no other entry's. -/
structure OwnsQueue (r : Registry) (slot : Nat) (entry : Entry) : Prop where
  channel : (r.step (.find entry.conn)).result = .opened none slot
  receiver : (r.step (.openConn entry.conn)).result = .opened none slot
  receiver_byPeer : ∀ peer, entry.peer = some peer →
    (r.step (.openPeer peer)).result = .opened (some entry.conn) slot
  put : ∀ m, (r.step (.push entry.conn m)).result = .flag (entry.queue.push m).1 ∧
    (r.step (.push entry.conn m)).state = r.setQueue slot (entry.queue.push m).2
  taken : ∀ take, (r.step (.receiver slot take)).result = (take.apply entry.queue).1 ∧
    (r.step (.receiver slot take)).state = r.setQueue slot (take.apply entry.queue).2
  alone : ∀ queue other, (r.setQueue slot queue).queue? other =
    if slot = other then some queue else r.queue? other

theorem ownsQueue (wf : r.WellFormed) (held : r.entries[slot]? = some entry) :
    r.OwnsQueue slot entry where
  channel := by
    have found := (findConn?_eq_some_iff wf).mpr ⟨held, rfl⟩
    simp [step, found]
  receiver := by
    have opened := (openConn_of_held wf held).1
    simp [step, Outcome.map, opened, Host.Reply.ofReceiver]
  receiver_byPeer := by
    intro peer has
    have opened := (openPeer_of_held wf held has).1
    simp [step, Outcome.map, opened]
  put := by
    intro m
    have found := (findConn?_eq_some_iff wf).mpr ⟨held, rfl⟩
    simp [step, push?, found]
  taken := by
    intro take
    simp [step, queue?, held]
  alone := by
    intro queue other
    rw [queue?_setQueue]
    split
    next same =>
      subst same
      simp [queue?, held]
    next => rfl

/-! ## Every run -/

/-- However registries are used, numbers and names stay in step with the indexes. -/
theorem indexes_of_run (ops : List Op) (fits : FitsAll {} ops) :
    (run {} ops).WellFormed ∧
      ((run {} ops).entries.toList.map Entry.conn).Nodup ∧
      ((run {} ops).entries.toList.filterMap Entry.peer).Nodup ∧
      (∀ slot entry, (run {} ops).entries[slot]? = some entry →
        (run {} ops).OwnsQueue slot entry) ∧
      (∀ op, ((run {} ops).step op).state.directory = (run {} ops).directory ∨
        (∃ peer conn, op = .openPeer peer ∧ ((run {} ops).step op).state.entries =
          (run {} ops).entries.push ⟨some peer, conn, {}⟩) ∨
        ∃ conn, op = .openConn conn ∧ ((run {} ops).step op).state.entries =
          (run {} ops).entries.push ⟨none, conn, {}⟩) ∧
      ∀ conn < 0, ∃ fault, fault.code = Fault.Code.invalidArgument ∧
        ((run {} ops).step (.openConn conn)).result = .refused fault ∧
        ((run {} ops).step (.openConn conn)).state = run {} ops := by
  have wf := wellFormed_run wellFormed_empty fits
  have conns := wf.byConn.nodup
  rw [List.filterMap_eq_map'] at conns
  refine ⟨wf, conns, wf.byPeer.nodup, fun slot entry held => ownsQueue wf held,
    entries_step (run {} ops), ?_⟩
  intro conn negative
  obtain ⟨result, state⟩ := openConn_of_negative (r := run {} ops) negative
  refine ⟨Fault.negativeConnection conn, rfl, ?_, state⟩
  simp [step, Outcome.map, result, Host.Reply.ofReceiver]

/-- Seven operations, with a name that comes after the number it would get and one that comes after
a number that was refused. -/
theorem indexes_of_mixed_run :
    let ops : List Op := [.openConn 1, .openPeer [], .openConn 0, .openConn (-1),
      .send ⟨true, 0⟩ 0 .monitorReady, .receiver 1 .one, .openPeer [0x61]]
    FitsAll {} ops ∧ (run {} ops).WellFormed ∧
      ((run {} ops).entries.toList.map Entry.conn).Nodup := by
  intro ops
  have fits : FitsAll {} ops :=
    fitsAll_of_length_lt wellFormed_empty dense_empty (by simp [ops])
  obtain ⟨wf, conns, -⟩ := indexes_of_run ops fits
  exact ⟨fits, wf, conns⟩

end Registry

end RemoteClipboard
