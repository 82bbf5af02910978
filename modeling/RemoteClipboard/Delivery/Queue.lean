/-! # Queues

A `Queue` holds values in the order in which they were put in.  Anyone can close it; from then on
it takes nothing more in, but what it holds can still be taken out.  A queue never opens again. -/

namespace RemoteClipboard

/-- The values waiting in a queue, first in first out, and whether it is closed. -/
structure Queue (α : Type) where
  waiting : List α := []
  closed : Bool := false
  deriving DecidableEq

namespace Queue

variable {α : Type}

/-- Puts a value in at the back.  A closed queue drops it and says so. -/
def push (q : Queue α) (a : α) : Bool × Queue α :=
  if q.closed then (false, q) else (true, { q with waiting := q.waiting ++ [a] })

/-- Takes out the value in front, if there is one. -/
def take (q : Queue α) : Option α × Queue α :=
  match q.waiting with
  | [] => (none, q)
  | a :: rest => (some a, { q with waiting := rest })

def takeAll (q : Queue α) : List α × Queue α := (q.waiting, { q with waiting := [] })

/-- Takes nothing more in. -/
def close (q : Queue α) : Queue α := { q with closed := true }

def size (q : Queue α) : Nat := q.waiting.length

/-- Whether a taker that insists on a value has to wait for one. -/
def wouldBlock (q : Queue α) : Bool := q.waiting.isEmpty && !q.closed

section

variable (q : Queue α) (a : α)

theorem waiting_push : (q.push a).2.waiting = q.waiting ++ if q.closed then [] else [a] := by
  cases q with
  | mk waiting closed => cases closed <;> simp [push]

@[simp] theorem closed_push : (q.push a).2.closed = q.closed := by
  unfold push
  split
  next => rfl
  next => rfl

theorem take_eq : q.take = (q.waiting.head?, { q with waiting := q.waiting.tail }) := by
  cases q with
  | mk waiting closed => cases waiting <;> rfl

theorem toList_take : q.take.1.toList ++ q.take.2.waiting = q.waiting := by
  rw [take_eq]
  cases q.waiting <;> rfl

end

end Queue

end RemoteClipboard
