import RemoteClipboard.Delivery.Routing

/-! # What sending does to the queues

However a message is sent, a queue is left as it was or has taken in the message, once
(`Routing.queue?_send`). -/

namespace RemoteClipboard

/-- Only a closed queue is the same after something was put in. -/
theorem Queue.push_eq_self_iff {α : Type} {q : Queue α} {a : α} :
    (q.push a).2 = q ↔ q.closed = true := by
  cases q with
  | mk waiting closed => cases closed <;> simp [push]

namespace Registry

variable {r : Registry} {m : Message} {slot : Nat} {q : Queue Message}

theorem queue?_of_held {entry : Entry} (held : r.entries[slot]? = some entry) :
    r.queue? slot = some entry.queue := by
  rw [queue?, held, Option.map_some]

theorem held_of_findConn? {conn : Int32} {entry : Entry}
    (found : r.findConn? conn = some (slot, entry)) : r.entries[slot]? = some entry := by
  simp only [findConn?, Option.bind_eq_bind, Option.bind_eq_some_iff] at found
  obtain ⟨_, _, _, held, eq⟩ := found
  cases eq
  exact held

theorem queue?_of_findConn? {conn : Int32} {entry : Entry}
    (found : r.findConn? conn = some (slot, entry)) : r.queue? slot = some entry.queue :=
  queue?_of_held (held_of_findConn? found)

theorem queue?_setQueue (r : Registry) (place slot : Nat) (queue : Queue Message) :
    (r.setQueue place queue).queue? slot =
      if place = slot then (r.queue? slot).map fun _ => queue else r.queue? slot := by
  simp only [queue?, setQueue, Array.getElem?_modify]
  split
  · simp [Function.comp_def]
  · rfl

theorem queue?_push? {conn : Int32} {taken : Bool} {r' : Registry}
    (pushed : r.push? conn m = some (taken, r')) (before : r.queue? slot = some q) :
    r'.queue? slot = some q ∨ r'.queue? slot = some (q.push m).2 := by
  simp only [push?, Option.bind_eq_bind, Option.bind_eq_some_iff] at pushed
  obtain ⟨⟨place, entry⟩, found, eq⟩ := pushed
  cases eq
  rw [queue?_setQueue]
  by_cases same : place = slot
  · have here := queue?_of_findConn? found
    rw [same, before] at here
    cases here
    simp [same, before]
  · simp [same, before]

theorem queue?_post (conn : Int32) (before : r.queue? slot = some q) :
    (r.post conn m).state.queue? slot = some q ∨
      (r.post conn m).state.queue? slot = some (q.push m).2 := by
  unfold post
  split
  next => exact .inl before
  next => exact .inl before
  next pushed => exact queue?_push? pushed before

theorem queue?_broadcast (before : r.queue? slot = some q) :
    (r.broadcast m).state.queue? slot = some (q.push m).2 := by
  simp only [queue?, Option.map_eq_some_iff] at before
  obtain ⟨entry, entryAt, eq⟩ := before
  simp [queue?, broadcast, entryAt, eq]

end Registry

namespace Routing

theorem queue?_send (routing : Routing) {r : Registry} (conn : Int32) {m : Message} {slot : Nat}
    {q : Queue Message} (before : r.queue? slot = some q) :
    (routing.send r conn m).state.queue? slot = some q ∨
      (routing.send r conn m).state.queue? slot = some (q.push m).2 := by
  unfold send
  split
  next => exact Registry.queue?_post conn before
  next =>
    split
    next => exact Registry.queue?_post routing.fallback before
    next => exact .inr (Registry.queue?_broadcast before)

end Routing

end RemoteClipboard
