import Mathlib.Data.List.Induction
import Mathlib.Logic.Function.Basic
import RemoteClipboard.Delivery.HeldQueue

/-! # The life of a queue

What goes into a queue comes out again in the same order or still waits, whichever of the ways to
take something out is used: this is told from the replies alone (`handedOut_append_waiting`).  A
queue is closed when somebody closes it, and when the last reference to its taking end is dropped.
Who has a reference is told from the operations alone (`Refers`): those are the holders that a queue
knows. -/

namespace RemoteClipboard

namespace HeldQueue

variable {α : Type}

/-! ## Histories -/

def after (h : HeldQueue α) (ops : List (Op α)) : HeldQueue α := (h.run ops).2

/-- Some operations and the replies to them. -/
def history (h : HeldQueue α) (ops : List (Op α)) : List (Op α × Reply α) := ops.zip (h.run ops).1

/-- What was put in, going by the reply. -/
def accepts : Op α × Reply α → List α
  | (.push a, .flag true) => [a]
  | _ => []

/-- What was taken out, going by the reply. -/
def handsOut : Op α × Reply α → List α
  | (.act _ (.take _), .taken a) => a.toList
  | _ => []

def accepted (past : List (Op α × Reply α)) : List α := past.flatMap accepts

def handedOut (past : List (Op α × Reply α)) : List α := past.flatMap handsOut

/-- Whether somebody closed the queue at an end that was there. -/
def isClose : Op α × Reply α → Bool
  | (.act _ .close, .done) => true
  | _ => false

section

variable (h : HeldQueue α) (ops more : List (Op α)) (op : Op α)

theorem run_append :
    h.run (ops ++ more) =
      ((h.run ops).1 ++ ((h.after ops).run more).1, (h.after ops).after more) := by
  induction ops generalizing h with
  | nil => rfl
  | cons op ops ih => simp only [List.cons_append, run, after, ih]

theorem length_run : (h.run ops).1.length = ops.length := by
  induction ops generalizing h with
  | nil => rfl
  | cons op ops ih => simp [run, ih]

theorem after_append : h.after (ops ++ more) = (h.after ops).after more := by
  rw [after, run_append]

theorem history_append_singleton :
    h.history (ops ++ [op]) = h.history ops ++ [(op, ((h.after ops).step op).1)] := by
  rw [history, run_append, List.zip_append (h.length_run ops).symm]
  rfl

end

/-! ## References -/

/-- Who has a reference after one more operation.  To share is to hand on what the source has, which
may be none. -/
def Op.rebind (refers : Nat → Prop) : Op α → Nat → Prop
  | .share source target => Function.update refers target (refers source)
  | .release holder => Function.update refers holder False
  | _ => refers

/-- Who has a reference to the taking end.  There is one at first. -/
def Refers (ops : List (Op α)) : Nat → Prop := ops.foldl Op.rebind (· = 0)

/-- Whether one of the operations has dropped the last reference. -/
def LastDropped (ops : List (Op α)) : Prop :=
  ∃ earlier op later, ops = earlier ++ op :: later ∧
    (∃ n, Refers earlier n) ∧ ∀ n, ¬ Refers (earlier ++ [op]) n

/-- Whether there is something to act on after some operations. -/
def Reaches (ops : List (Op α)) : End → Prop
  | .channel => True
  | .holder n => Refers ops n

section

variable {ops : List (Op α)}

@[simp] theorem refers_append_singleton (ops : List (Op α)) (op : Op α) :
    Refers (ops ++ [op]) = op.rebind (Refers ops) := by
  simp [Refers]

theorem rebind_of_nobody {refers : Nat → Prop} (nobody : ∀ n, ¬ refers n) (op : Op α) (n : Nat) :
    ¬ op.rebind refers n := by
  cases op with
  | share source target =>
    by_cases same : n = target <;> simp [Op.rebind, Function.update, same, nobody]
  | release holder => by_cases same : n = holder <;> simp [Op.rebind, Function.update, same, nobody]
  | _ => exact nobody n

theorem refers_append_of_nobody (nobody : ∀ n, ¬ Refers ops n) (later : List (Op α)) (n : Nat) :
    ¬ Refers (ops ++ later) n := by
  induction later using List.reverseRecOn generalizing n with
  | nil => simpa using nobody n
  | append_singleton later op ih =>
    rw [← List.append_assoc, refers_append_singleton]
    exact rebind_of_nobody ih op n

theorem lastDropped_iff : LastDropped ops ↔ ∀ n, ¬ Refers ops n := by
  constructor
  · -- Where nobody has a reference, nobody can hand one on.
    rintro ⟨earlier, op, later, rfl, -, nobody⟩
    simpa using refers_append_of_nobody nobody later
  · intro nobody
    induction ops using List.reverseRecOn with
    | nil => exact absurd rfl (nobody 0)
    | append_singleton ops op ih =>
      -- The last reference is dropped by this operation, or was by one before.
      by_cases some : ∃ n, Refers ops n
      · exact ⟨ops, op, [], rfl, some, nobody⟩
      · obtain ⟨earlier, first, later, rfl, dropped⟩ := ih (not_exists.mp some)
        exact ⟨earlier, first, later ++ [op], by simp, dropped⟩

end

/-! ## One operation -/

/-- Whether an operation closes the queue or changes who has a reference. -/
def Op.MayClose : Op α → Prop
  | .push _ => False
  | .act _ action => action = .close
  | .share _ _ => True
  | .release _ => True

section

variable (h : HeldQueue α)

theorem isHeldBy_release (holder n : Nat) :
    (h.release holder).isHeldBy n = true ↔ n ≠ holder ∧ h.isHeldBy n = true := by
  simp [release, isHeldBy, and_comm]

theorem isHeldBy_share (source target n : Nat) :
    (h.share source target).isHeldBy n = true ↔
      if n = target then h.isHeldBy source = true else h.isHeldBy n = true := by
  unfold share
  split
  next held =>
    by_cases same : n = target
    · simp [isHeldBy, same, List.contains_iff_mem.mp held]
    · simp [isHeldBy, same]
  next free => by_cases same : n = target <;> simp [isHeldBy_release, same, free]

@[simp] theorem waiting_release (holder : Nat) :
    (h.release holder).queue.waiting = h.queue.waiting := by
  unfold release
  simp only
  split <;> rfl

theorem closed_release (holder : Nat) :
    (h.release holder).queue.closed = true ↔
      h.queue.closed = true ∨ ∀ n, ¬ (h.release holder).isHeldBy n = true := by
  have nobody : (∀ n, ¬ (h.release holder).isHeldBy n = true) ↔
      (h.holders.filter (· ≠ holder)).isEmpty = true := by
    simp [isHeldBy, release]
  rw [nobody]
  unfold release
  simp only
  split
  next empty => simp only [Queue.close, empty, or_true]
  next some => rw [or_iff_left some]

theorem closed_share (source target : Nat) :
    (h.share source target).queue.closed = true ↔
      h.queue.closed = true ∨ ∀ n, ¬ (h.share source target).isHeldBy n = true := by
  cases held : h.isHeldBy source with
  | true =>
    have shared : (h.share source target).isHeldBy target = true :=
      (h.isHeldBy_share source target target).mpr (by simpa using held)
    have someone : ¬ ∀ n, ¬ (h.share source target).isHeldBy n = true :=
      fun nobody => nobody target shared
    rw [or_iff_left someone, share, if_pos held]
  | false =>
    rw [share, if_neg (by simp [held])]
    exact h.closed_release target

@[simp] theorem waiting_share (source target : Nat) :
    (h.share source target).queue.waiting = h.queue.waiting := by
  unfold share
  split
  next => rfl
  next => exact h.waiting_release target

theorem isHeldBy_step (op : Op α) (n : Nat) :
    (h.step op).2.isHeldBy n = true ↔ op.rebind (h.isHeldBy · = true) n := by
  cases op with
  | push a => rfl
  | act place action =>
    cases there : h.reaches place <;> simp [step, there, onQueue, Op.rebind, isHeldBy]
  | share source target => simp [step, Op.rebind, Function.update, isHeldBy_share]
  | release holder =>
    by_cases same : n = holder <;>
      simp [step, Op.rebind, Function.update, isHeldBy_release, same]

theorem step_push (a : α) :
    h.step (.push a) =
      if h.queue.closed then (.flag false, h)
      else (.flag true, { h with queue := ⟨h.queue.waiting ++ [a], false⟩ }) := by
  cases closed : h.queue.closed <;> simp [step, onQueue, Queue.push, closed]

theorem step_act {place : End} (there : h.reaches place = true) (action : Action) :
    h.step (.act place action) =
      ((action.apply h.queue).1, { h with queue := (action.apply h.queue).2 }) := by
  simp only [step, there, if_true, onQueue]

theorem step_take {place : End} (there : h.reaches place = true) (patience : Patience) :
    h.step (.act place (.take patience)) =
      if patience = .endless ∧ h.queue.wouldBlock = true then (.wouldBlock, h)
      else (.taken h.queue.waiting.head?,
        { h with queue := ⟨h.queue.waiting.tail, h.queue.closed⟩ }) := by
  rw [step_act h there, Action.apply, Queue.take_eq]
  split <;> rfl

theorem step_act_of_gone {place : End} (gone : h.reaches place = false) (action : Action) :
    h.step (.act place action) = (.noReceiver, h) := by
  simp [step, gone]

theorem Action.handsOut_append_waiting (place : End) (action : Action) (q : Queue α) :
    handsOut (.act place action, (action.apply q).1) ++ (action.apply q).2.waiting = q.waiting := by
  cases action with
  | take patience =>
    simp only [apply]
    split
    next => rfl
    next => exact q.toList_take
  | close => rfl
  | size => rfl
  | isClosed => rfl

/-- What an operation takes out comes from the front, and what it puts in goes to the back. -/
theorem handsOut_append_waiting (op : Op α) :
    handsOut (op, (h.step op).1) ++ (h.step op).2.queue.waiting =
      h.queue.waiting ++ accepts (op, (h.step op).1) := by
  cases op with
  | push a => cases closed : h.queue.closed <;> simp [step_push, closed, handsOut, accepts]
  | act place action =>
    have nothing (reply : Reply α) : accepts (.act place action, reply) = [] := rfl
    rw [nothing, List.append_nil]
    cases there : h.reaches place with
    | false =>
      rw [step_act_of_gone h there]
      cases action <;> rfl
    | true =>
      rw [step_act h there]
      exact action.handsOut_append_waiting place h.queue
  | share source target => simp [step, handsOut, accepts]
  | release holder => simp [step, handsOut, accepts]

theorem Action.closed_apply (action : Action) (q : Queue α) :
    (action.apply q).2.closed = true ↔ q.closed = true ∨ action = .close := by
  cases action with
  | take patience =>
    simp only [apply, reduceCtorEq, or_false]
    split <;> simp [Queue.take_eq]
  | close => simp [apply, Queue.close]
  | size => simp [apply]
  | isClosed => simp [apply]

theorem isClose_act (place : End) (action : Action) (q : Queue α) :
    isClose (.act place action, (action.apply q).1) = true ↔ action = .close := by
  cases action <;> simp [isClose, Action.apply]

/-- An operation that leaves the references alone does not close a queue that nobody holds, so that
such a queue has to be closed already. -/
theorem closed_step (orphaned : (∀ n, ¬ h.isHeldBy n = true) → h.queue.closed = true) (op : Op α) :
    (h.step op).2.queue.closed = true ↔
      h.queue.closed = true ∨ isClose (op, (h.step op).1) = true ∨
        ∀ n, ¬ (h.step op).2.isHeldBy n = true := by
  cases op with
  | push a =>
    have held : (h.step (.push a)).2.isHeldBy = h.isHeldBy := rfl
    have closed : (h.step (.push a)).2.queue.closed = h.queue.closed := h.queue.closed_push a
    have other : isClose (.push a, (h.step (.push a)).1) = false := rfl
    rw [held, closed, other]
    tauto
  | act place action =>
    cases there : h.reaches place with
    | false =>
      have other : isClose (.act place action, (.noReceiver : Reply α)) = false := by
        cases action <;> rfl
      rw [step_act_of_gone h there, other]
      tauto
    | true =>
      have held : (h.step (.act place action)).2.isHeldBy = h.isHeldBy := by
        rw [step_act h there]
        rfl
      rw [held, step_act h there, Action.closed_apply, isClose_act]
      tauto
  | share source target => simp [step, closed_share, isClose]
  | release holder => simp [step, closed_release, isClose]

theorem waiting_step_of_mayClose {op : Op α} (mayClose : op.MayClose) :
    (h.step op).2.queue.waiting = h.queue.waiting := by
  cases op with
  | push a => cases mayClose
  | act place action =>
    cases mayClose
    cases there : h.reaches place with
    | false => rw [step_act_of_gone h there]
    | true =>
      rw [step_act h there]
      rfl
  | share source target => exact h.waiting_share source target
  | release holder => exact h.waiting_release holder

end

/-! ## A whole life -/

structure IsAccountedFor (ops : List (Op α)) : Prop where
  values : handedOut (history {} ops) ++ (after {} ops).queue.waiting = accepted (history {} ops)
  holders : ∀ n, (after {} ops).isHeldBy n = true ↔ Refers ops n
  closed : (after {} ops).queue.closed = true ↔
    (∃ turn ∈ history {} ops, isClose turn = true) ∨ ∀ n, ¬ Refers ops n

theorem isAccountedFor_nil : IsAccountedFor ([] : List (Op α)) where
  values := rfl
  holders n := by simp [after, run, isHeldBy, Refers]
  closed := by simp [after, run, history, Refers]

theorem IsAccountedFor.step {ops : List (Op α)} (known : IsAccountedFor ops) (op : Op α) :
    IsAccountedFor (ops ++ [op]) := by
  obtain ⟨values, holders, closed⟩ := known
  have last : after {} (ops ++ [op]) = ((after {} ops).step op).2 := after_append ..
  have past := history_append_singleton {} ops op
  have references (n : Nat) :
      (after {} (ops ++ [op])).isHeldBy n = true ↔ Refers (ops ++ [op]) n := by
    rw [last, isHeldBy_step, refers_append_singleton, funext fun n => propext (holders n)]
  refine ⟨?_, references, ?_⟩
  · -- What waits between the two sides is what the operation takes from and adds to.
    have one := handsOut_append_waiting (after {} ops) op
    rw [handedOut, accepted] at values ⊢
    rw [last, past, List.flatMap_append, List.flatMap_append, List.flatMap_singleton,
      List.flatMap_singleton, List.append_assoc, one, ← List.append_assoc, values]
  · -- It is here that the references as the queue counts them are needed.
    have orphaned : (∀ n, ¬ (after {} ops).isHeldBy n = true) →
        (after {} ops).queue.closed = true := by
      simp only [holders]
      exact fun nobody => closed.mpr (.inr nobody)
    have one := closed_step _ orphaned op
    have gone : (∀ n, ¬ Refers ops n) → ∀ n, ¬ Refers (ops ++ [op]) n :=
      fun nobody => refers_append_of_nobody nobody [op]
    rw [← last] at one
    simp only [references, closed] at one
    rw [one, past]
    simp only [List.mem_append, List.mem_singleton, or_and_right, exists_or, exists_eq_left]
    constructor
    · rintro ((closing | nobody) | closing | nobody)
      · exact .inl (.inl closing)
      · exact .inr (gone nobody)
      · exact .inl (.inr closing)
      · exact .inr nobody
    · rintro ((closing | closing) | nobody)
      · exact .inl (.inl closing)
      · exact .inr (.inl closing)
      · exact .inr (.inr nobody)

theorem isAccountedFor (ops : List (Op α)) : IsAccountedFor ops := by
  induction ops using List.reverseRecOn with
  | nil => exact isAccountedFor_nil
  | append_singleton ops op ih => exact ih.step op

theorem closed_after (h : HeldQueue α) (closed : h.queue.closed = true) (ops : List (Op α)) :
    (h.after ops).queue.closed = true := by
  induction ops generalizing h with
  | nil => exact closed
  | cons op ops ih => exact ih _ ((h.closed_step (fun _ => closed) op).mpr (.inl closed))

theorem reaches_iff {ops : List (Op α)} {place : End} :
    (after {} ops).reaches place = true ↔ Reaches ops place := by
  cases place with
  | channel => simp [reaches, Reaches]
  | holder n => exact (isAccountedFor ops).holders n

/-- Whatever is done with a new queue, the values that were taken out and those that still wait are
those that it accepted, in that order.  It accepts values as long as it is open, and is closed when
it was closed at one of its ends, or the last reference to the taking end was dropped.  It never
opens again, and what closes it discards nothing: takers get what waits in front, however they wait,
and word that there is nothing once a closed queue is empty. -/
theorem handedOut_append_waiting (ops : List (Op α)) :
    let past := history {} ops
    let h := after {} ops
    handedOut past ++ h.queue.waiting = accepted past ∧
    (h.queue.closed = true ↔ (∃ turn ∈ past, isClose turn = true) ∨ LastDropped ops) ∧
    (h.queue.closed = true → ∀ more, (h.after more).queue.closed = true) ∧
    (∀ a, h.step (.push a) =
      if h.queue.closed then (.flag false, h)
      else (.flag true, { h with queue := ⟨h.queue.waiting ++ [a], false⟩ })) ∧
    (∀ op : Op α, op.MayClose → (h.step op).2.queue.waiting = h.queue.waiting) ∧
    ∀ place, Reaches ops place →
      (∃ n, h.step (.act place .size) = (.count n, h) ∧
        n + (handedOut past).length = (accepted past).length) ∧
      h.step (.act place .close) = (.done, { h with queue := h.queue.close }) ∧
      (∀ patience, ¬ (patience = .endless ∧ h.queue.wouldBlock = true) →
        h.step (.act place (.take patience)) =
          (.taken h.queue.waiting.head?,
            { h with queue := ⟨h.queue.waiting.tail, h.queue.closed⟩ })) ∧
      (h.queue.closed = true → h.queue.waiting = [] →
        ∀ patience, h.step (.act place (.take patience)) = (.taken none, h)) := by
  intro past h
  obtain ⟨values, -, closed⟩ := isAccountedFor ops
  refine ⟨values, by rw [lastDropped_iff, ← closed], h.closed_after, h.step_push,
    fun _ => h.waiting_step_of_mayClose, fun place reached => ?_⟩
  have there : h.reaches place = true := reaches_iff.mpr reached
  refine ⟨⟨h.queue.size, h.step_act there .size, ?_⟩, h.step_act there .close, ?_, ?_⟩
  · rw [← values, List.length_append, Nat.add_comm]
    rfl
  · intro patience ready
    rw [h.step_take there, if_neg ready]
  · intro shut empty patience
    have ready : ¬ (patience = .endless ∧ h.queue.wouldBlock = true) := by
      simp [Queue.wouldBlock, shut]
    have same : (⟨h.queue.waiting.tail, h.queue.closed⟩ : Queue α) = h.queue := by
      rw [empty, List.tail_nil, ← empty]
    rw [h.step_take there, if_neg ready, same, empty, List.head?_nil]

/-! ## A receiver that is handed on -/

namespace HandedOn

/-- The second holder takes over, takes one value out and lets go; the first is too late to close.
-/
def ops : List (Op Nat) :=
  [.push 1, .push 2, .share 0 1, .release 0, .act (.holder 0) .close,
    .act (.holder 1) (.take .endless), .release 1, .push 3]

/-- What was left is taken out at the other end. -/
def drained : List (Op Nat) := ops ++ [.act .channel (.take .none)]

end HandedOn

theorem handedOut_of_handedOn :
    let past := history {} HandedOn.drained
    let left := after {} HandedOn.ops
    handedOut past = [1, 2] ∧ accepted past = [1, 2] ∧
      left.queue = ⟨[2], true⟩ ∧ LastDropped HandedOn.ops ∧
      left.step (.push 4) = (.flag false, left) ∧
      (left.step (.act .channel .close)).2.queue.waiting = [2] ∧
      left.step (.act .channel (.take .endless)) = (.taken (some 2), after {} HandedOn.drained) ∧
      (left.after [.share 1 0]).queue.closed = true ∧
      ∀ patience, (after {} HandedOn.drained).step (.act .channel (.take patience)) =
        (.taken none, after {} HandedOn.drained) := by
  obtain ⟨-, closed, stays, push, discards, acts⟩ := handedOut_append_waiting HandedOn.ops
  obtain ⟨values, -, -, -, -, ends⟩ := handedOut_append_waiting HandedOn.drained
  obtain ⟨-, -, takes, -⟩ := acts .channel trivial
  obtain ⟨-, -, -, none⟩ := ends .channel trivial
  have dropped : LastDropped HandedOn.ops :=
    (closed.mp rfl).resolve_left (by decide)
  exact ⟨rfl, values.symm.trans rfl, rfl, dropped, push 4, discards _ rfl,
    takes .endless (by decide), stays rfl _, none rfl rfl⟩

end HeldQueue

end RemoteClipboard
