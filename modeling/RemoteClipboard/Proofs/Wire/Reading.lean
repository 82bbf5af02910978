import RemoteClipboard.Wire.Codec

/-! # What readers read

A reader is described by a *form*: a relation between a result and the bytes that are a way to
write it.  `Reader.Reads p form` says that `p` finds every result that stands in front of it in this
form, and that whatever it finds was written so.  One result may have several forms, and what comes
after is never looked at.

`Reads.pure` and `Reads.bind` put forms together as the readers are put together; the rest of the
module gives the form of each reader of a single field. -/

namespace RemoteClipboard

namespace Cursor

/-- A cursor that has read `n` bytes, never failed, and has some bytes before it. -/
def before (n : Nat) (b : Bytes) : Cursor := ⟨b, n, n + b.length, true⟩

@[simp] theorem ok_before (n : Nat) (b : Bytes) : (before n b).ok = true := rfl

@[simp] theorem unread_before (n : Nat) (b : Bytes) : (before n b).unread = b := rfl

@[simp] theorem remaining_before (n : Nat) (b : Bytes) : (before n b).remaining = b.length := by
  simp [before, remaining]

theorem ofBytes_eq_before (b : Bytes) : ofBytes b = before 0 b := by
  simp [ofBytes, before]

end Cursor

namespace Reader

open Cursor (before)

variable {α β : Type}

/-- The reader `p` reads exactly what is written in a form. -/
structure Reads (p : Reader α) (form : α → Bytes → Prop) : Prop where
  /-- What is written is found, and what comes after it is left. -/
  finds : ∀ {a b}, form a b → ∀ n rest, p (before n (b ++ rest)) = (a, before (n + b.length) rest)
  /-- What is found was written. -/
  found : ∀ {n b}, (p (before n b)).2.ok →
    ∃ front rest, b = front ++ rest ∧ form (p (before n b)).1 front
  /-- A cursor that failed stays failed. -/
  fails : ∀ {c : Cursor}, c.ok = false → (p c).2.ok = false

namespace Reads

variable {p : Reader α} {form form' : α → Bytes → Prop}

theorem split (h : Reads p form) {n : Nat} {b : Bytes} (ok : (p (before n b)).2.ok) :
    ∃ a front rest, b = front ++ rest ∧ form a front ∧
      p (before n b) = (a, before (n + front.length) rest) := by
  obtain ⟨front, rest, rfl, written⟩ := h.found ok
  exact ⟨_, front, rest, rfl, written, h.finds written n rest⟩

theorem congr (h : Reads p form) (same : ∀ a b, form a b ↔ form' a b) : Reads p form' where
  finds written := h.finds ((same _ _).mpr written)
  found ok := by
    obtain ⟨front, rest, rfl, written⟩ := h.found ok
    exact ⟨front, rest, rfl, (same _ _).mp written⟩
  fails := h.fails

theorem pure (a : α) : Reads (Pure.pure a) (fun x b => x = a ∧ b = []) where
  finds := by
    intro x b written n rest
    obtain ⟨rfl, rfl⟩ := written
    rfl
  found := by
    intro n b _
    exact ⟨[], b, rfl, rfl, rfl⟩
  fails failed := failed

/-- Reading one thing after the other: the first form stands in front of the second. -/
theorem bind {f : α → Reader β} {next : α → β → Bytes → Prop} (hp : Reads p form)
    (hf : ∀ a, Reads (f a) (next a)) :
    Reads (p >>= f) (fun y b => ∃ a front back, b = front ++ back ∧ form a front ∧
      next a y back) where
  finds := by
    intro y b written n rest
    obtain ⟨a, front, back, rfl, first, second⟩ := written
    show f (p (before n (front ++ back ++ rest))).1 (p (before n (front ++ back ++ rest))).2 = _
    rw [List.append_assoc, hp.finds first, (hf a).finds second, List.length_append, Nat.add_assoc]
  found := by
    intro n b ok
    change (f (p (before n b)).1 (p (before n b)).2).2.ok = true at ok
    show ∃ front rest, b = front ++ rest ∧
      ∃ a first second, front = first ++ second ∧ form a first ∧
        next a (f (p (before n b)).1 (p (before n b)).2).1 second
    -- Had the first reader failed, the second would have failed with it.
    by_cases okFirst : (p (before n b)).2.ok
    · obtain ⟨a, first, middle, rfl, written, ran⟩ := hp.split okFirst
      rw [ran] at ok ⊢
      obtain ⟨second, rest, rfl, writtenNext⟩ := (hf a).found ok
      exact ⟨first ++ second, rest, by simp, a, first, second, rfl, written, writtenNext⟩
    · have failed : (p (before n b)).2.ok = false := by simpa using okFirst
      rw [(hf _).fails failed] at ok
      cases ok
  fails failed := (hf _).fails (hp.fails failed)

theorem map (f : α → β) (hp : Reads p form) :
    Reads (p >>= fun a => Pure.pure (f a)) (fun y b => ∃ a, y = f a ∧ form a b) := by
  refine (hp.bind fun a => Reads.pure (f a)).congr fun y b => ⟨?_, ?_⟩
  · intro found
    obtain ⟨a, front, _, rfl, written, rfl, rfl⟩ := found
    exact ⟨a, rfl, by simpa using written⟩
  · intro written
    obtain ⟨a, rfl, written⟩ := written
    exact ⟨a, b, [], by simp, written, rfl, rfl⟩

theorem ite {q : Reader α} (c : Prop) [Decidable c] (hp : Reads p form) (hq : Reads q form') :
    Reads (if c then p else q) (fun a b => if c then form a b else form' a b) := by
  by_cases holds : c
  · simpa only [holds, if_true] using hp
  · simpa only [holds, if_false] using hq

end Reads

/-! ## Single fields -/

theorem reads_take (n : Nat) : Reads (take n) (fun a b => a = some b ∧ b.length = n) where
  finds := by
    intro a b written k rest
    obtain ⟨rfl, rfl⟩ := written
    simp [take, before, Cursor.remaining, Nat.add_assoc]
  found := by
    intro k b ok
    by_cases fits : n ≤ b.length
    · refine ⟨b.take n, b.drop n, (List.take_append_drop n b).symm, ?_⟩
      simp [take, fits]
    · simp [take, fits] at ok
  fails := by
    intro c failed
    simp [take, failed]

theorem reads_bytes (n : Nat) : Reads (bytes n) (fun a b => b = a ∧ a.length = n) := by
  refine ((reads_take n).map (·.getD [])).congr fun a b => ⟨?_, ?_⟩
  · intro found
    obtain ⟨_, rfl, rfl, counted⟩ := found
    exact ⟨rfl, counted⟩
  · intro written
    obtain ⟨rfl, counted⟩ := written
    exact ⟨some b, rfl, rfl, counted⟩

theorem reads_number (n : Nat) : Reads (number n) (fun k b => b = le n k ∧ k < spellable n) := by
  refine ((reads_bytes n).map ofLE).congr fun k b => ⟨?_, ?_⟩
  · intro found
    obtain ⟨a, rfl, rfl, rfl⟩ := found
    exact ⟨(le_ofLE b).symm, ofLE_lt b⟩
  · intro written
    obtain ⟨rfl, small⟩ := written
    exact ⟨le n k, by rw [ofLE_le, Nat.mod_eq_of_lt small], rfl, length_le n k⟩

theorem reads_u8 : Reads u8 (fun k b => b = [k]) := by
  refine ((reads_number 1).map UInt8.ofNat).congr fun k b => ⟨?_, ?_⟩
  · intro found
    obtain ⟨n, rfl, rfl, _⟩ := found
    rfl
  · intro written
    subst written
    exact ⟨k.toNat, by simp, by simp [le], k.toNat_lt⟩

theorem reads_u16 : Reads u16 (fun k b => b = le16 k) := by
  refine ((reads_number 2).map UInt16.ofNat).congr fun k b => ⟨?_, ?_⟩
  · intro found
    obtain ⟨n, rfl, rfl, small⟩ := found
    rw [le16, UInt16.toNat_ofNat_of_lt' small]
  · intro written
    subst written
    exact ⟨k.toNat, by simp, rfl, k.toNat_lt⟩

theorem reads_u32 : Reads u32 (fun k b => b = le32 k) := by
  refine ((reads_number 4).map UInt32.ofNat).congr fun k b => ⟨?_, ?_⟩
  · intro found
    obtain ⟨n, rfl, rfl, small⟩ := found
    rw [le32, UInt32.toNat_ofNat_of_lt' small]
  · intro written
    subst written
    exact ⟨k.toNat, by simp, rfl, k.toNat_lt⟩

theorem reads_int32 : Reads int32 (fun k b => b = leInt32 k) := by
  refine (reads_u32.map Int32.ofUInt32).congr fun k b => ⟨?_, ?_⟩
  · intro found
    obtain ⟨n, rfl, rfl⟩ := found
    rfl
  · intro written
    subst written
    exact ⟨k.toUInt32, rfl, rfl⟩

theorem reads_counted :
    Reads counted (fun a b => a.length < UInt32.size ∧ b = le 4 a.length ++ a) := by
  refine (reads_u32.bind fun n => reads_bytes n.toNat).congr fun a b => ⟨?_, ?_⟩
  · intro found
    obtain ⟨n, _, _, rfl, rfl, rfl, counted⟩ := found
    exact ⟨counted ▸ n.toNat_lt, by rw [counted, le32]⟩
  · intro written
    obtain ⟨small, rfl⟩ := written
    have back : (UInt32.ofNat a.length).toNat = a.length := UInt32.toNat_ofNat_of_lt' small
    exact ⟨UInt32.ofNat a.length, le 4 a.length, a, rfl, by rw [le32, back], rfl, back.symm⟩

/-- Looking first whether the cursor has failed changes nothing about what is read. -/
theorem Reads.guarded {p : Reader α} {form : α → Bytes → Prop} (h : Reads p form) (d : α) :
    Reads (do if ← ok then p else return d) form where
  finds written n rest := h.finds written n rest
  found succeeded := h.found succeeded
  fails := by
    intro c failed
    show ((if c.ok then p else Pure.pure d : Reader α) c).2.ok = false
    rw [failed]
    exact failed

end Reader

end RemoteClipboard
