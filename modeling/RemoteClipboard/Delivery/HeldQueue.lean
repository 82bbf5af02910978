import RemoteClipboard.Delivery.Queue

/-! # Queues that live as long as someone holds them

The taking end of a queue can be held by several holders, who are told apart by a number.  When
the last of them lets go, nobody is left to take anything out, and the queue closes. -/

namespace RemoteClipboard

/-- A queue and the holders of its taking end. -/
structure HeldQueue (α : Type) where
  queue : Queue α := {}
  holders : List Nat := [0]
  deriving DecidableEq

namespace HeldQueue

variable {α : Type}

def isHeldBy (h : HeldQueue α) (holder : Nat) : Bool := h.holders.contains holder

/-- Lets go of the taking end; the last holder to do so closes the queue. -/
def release (h : HeldQueue α) (holder : Nat) : HeldQueue α :=
  let left := h.holders.filter (· ≠ holder)
  { queue := if left.isEmpty then h.queue.close else h.queue, holders := left }

/-- Makes one holder hold what another holds: the taking end, or nothing. -/
def share (h : HeldQueue α) (source target : Nat) : HeldQueue α :=
  if h.isHeldBy source then { h with holders := target :: h.holders.filter (· ≠ target) }
  else h.release target

/-- Does something to the queue itself. -/
def onQueue {β : Type} (h : HeldQueue α) (f : Queue α → β × Queue α) : β × HeldQueue α :=
  let (result, queue) := f h.queue
  (result, { h with queue })

/-! ## Operations -/

/-- How long a taker waits where there is nothing to take. -/
inductive Patience
  | endless
  | none
  | limited (milliseconds : Int)
  deriving DecidableEq

/-- What can be done at both ends. -/
inductive Action
  | take (patience : Patience)
  | close
  | size
  | isClosed
  deriving DecidableEq

/-- Where something is done: at the end where values go in, or by a holder at the taking end. -/
inductive End
  | channel
  | holder (n : Nat)
  deriving DecidableEq

inductive Reply (α : Type)
  | done
  | flag (value : Bool)
  | count (n : Nat)
  | taken (value : Option α)
  | wouldBlock
  | noReceiver
  deriving DecidableEq

def Action.apply (q : Queue α) : Action → Reply α × Queue α
  | .take patience =>
    -- Nothing comes in while somebody waits, so that a limited wait is in vain and an endless one
    -- does not end.
    if patience = .endless ∧ q.wouldBlock = true then (.wouldBlock, q)
    else
      let (a, rest) := q.take
      (.taken a, rest)
  | .close => (.done, q.close)
  | .size => (.count q.size, q)
  | .isClosed => (.flag q.closed, q)

inductive Op (α : Type)
  | push (a : α)
  | act (place : End) (action : Action)
  | share (source target : Nat)
  | release (holder : Nat)
  deriving DecidableEq

/-- Whether there is something to act on: a holder who has let go of the taking end has nothing. -/
def reaches (h : HeldQueue α) : End → Bool
  | .channel => true
  | .holder n => h.isHeldBy n

def step (h : HeldQueue α) : Op α → Reply α × HeldQueue α
  | .push a =>
    let (accepted, h) := h.onQueue (·.push a)
    (.flag accepted, h)
  | .act place action => if h.reaches place then h.onQueue action.apply else (.noReceiver, h)
  | .share source target => (.done, h.share source target)
  | .release holder => (.done, h.release holder)

def run (h : HeldQueue α) : List (Op α) → List (Reply α) × HeldQueue α
  | [] => ([], h)
  | op :: ops =>
    let (reply, next) := h.step op
    let (replies, last) := next.run ops
    (reply :: replies, last)

end HeldQueue

end RemoteClipboard
