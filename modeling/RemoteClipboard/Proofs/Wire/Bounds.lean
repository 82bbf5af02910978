import RemoteClipboard.Proofs.Wire.Reading

/-! # Readers inside their bounds

Whatever is asked of a reader, and whatever lengths it comes across, it stays inside its buffer, and once
a call has asked for too much it stays where it is and replies with zeros and nothings
(`inside_until_overrun`).

A cursor holds nothing but what is unread, so that there is nothing beyond the end which it could look
at.  For the bounds to say something, the same calls are made of a `Lookup`.  It has the whole buffer,
looks each byte up by its own place, and comes to nothing as soon as a place is outside or what is left
would be negative.  It never does, and agrees with the reader in all else (`follows_readAll`). -/

namespace RemoteClipboard

namespace Reader

open Cursor (before)

/-! ## Calls -/

/-- What a reader can be asked for. -/
inductive Call
  | u8
  | u16
  | u32
  | int32
  /-- A text or a block of data, behind its length. -/
  | counted
  | take (n : Nat)
  deriving DecidableEq

inductive Reply
  | u8 (n : UInt8)
  | u16 (n : UInt16)
  | u32 (n : UInt32)
  | int32 (n : Int32)
  | counted (b : Bytes)
  | taken (b : Option Bytes)
  deriving DecidableEq

namespace Call

def read : Call → Reader Reply
  | u8 => return .u8 (← Reader.u8)
  | u16 => return .u16 (← Reader.u16)
  | u32 => return .u32 (← Reader.u32)
  | int32 => return .int32 (← Reader.int32)
  | counted => return .counted (← Reader.counted)
  | take n => return .taken (← Reader.take n)

/-- The calls in terms of the only one that touches bytes. -/
def via {m : Type → Type} [Monad m] (take : Nat → m (Option Bytes)) : Call → m Reply
  | u8 => return .u8 (UInt8.ofNat (ofLE ((← take 1).getD [])))
  | u16 => return .u16 (UInt16.ofNat (ofLE ((← take 2).getD [])))
  | u32 => return .u32 (UInt32.ofNat (ofLE ((← take 4).getD [])))
  | int32 => return .int32 (Int32.ofUInt32 (UInt32.ofNat (ofLE ((← take 4).getD []))))
  | counted => do
    let length := UInt32.ofNat (ofLE ((← take 4).getD []))
    return .counted ((← take length.toNat).getD [])
  | .take n => return .taken (← take n)

/-- The reply to a call that finds nothing: zero, or nothing. -/
def blank : Call → Reply
  | u8 => .u8 0
  | u16 => .u16 0
  | u32 => .u32 0
  | int32 => .int32 0
  | counted => .counted []
  | take _ => .taken none

/-- The other replies to a call, and how each of them is written. -/
inductive Spelt : Call → Reply → Bytes → Prop
  | u8 (n : UInt8) : Spelt u8 (.u8 n) [n]
  | u16 (n : UInt16) : Spelt u16 (.u16 n) (le16 n)
  | u32 (n : UInt32) : Spelt u32 (.u32 n) (le32 n)
  | int32 (n : Int32) : Spelt int32 (.int32 n) (leInt32 n)
  | counted {b : Bytes} (short : b.length < UInt32.size) :
      Spelt counted (.counted b) (le 4 b.length ++ b)
  | take (b : Bytes) : Spelt (take b.length) (.taken (some b)) b

/-- How many bytes a call asks for, going by what lies ahead. -/
def span (ahead : Bytes) : Call → Nat
  | u8 => 1
  | u16 => 2
  | u32 => 4
  | int32 => 4
  | counted => 4 + ofLE (ahead.take 4)
  | take n => n

/-- How many bytes a call still reads if it asks for too many: a length, but not what it counts. -/
def stub (ahead : Bytes) : Call → Nat
  | counted => if 4 ≤ ahead.length then 4 else 0
  | _ => 0

end Call

def readAll (calls : List Call) : Reader (List Reply) := calls.mapM Call.read

/-- Replies to some calls, and the slices in which they are written one behind the other. -/
inductive Consecutive : List Call → List Reply → Bytes → Prop
  | nil : Consecutive [] [] []
  | cons {call : Call} {calls : List Call} {reply : Reply} {replies : List Reply}
      {slice slices : Bytes} : call.Spelt reply slice → Consecutive calls replies slices →
      Consecutive (call :: calls) (reply :: replies) (slice ++ slices)

/-! ## Looking bytes up by their place -/

/-- A place in a buffer, and whether every read so far found its bytes. -/
structure Mark where
  offset : Nat := 0
  ok : Bool := true
  deriving DecidableEq

/-- A reader that moves a mark in a buffer.  It comes to nothing when it goes out of bounds. -/
abbrev Lookup := StateT Mark Option

namespace Lookup

/-- How many bytes are left from some place on, unless that is beyond the end. -/
def remaining (data : Bytes) (offset : Nat) : Option Nat :=
  if offset ≤ data.length then some (data.length - offset) else none

/-- The `n` bytes from some place on, each looked up by its own place. -/
def bytesAt (data : Bytes) (start : Nat) : Nat → Option Bytes
  | 0 => some []
  | n + 1 => return (← data[start]?) :: (← bytesAt data (start + 1) n)

def take (data : Bytes) (n : Nat) : Lookup (Option Bytes) := fun m => do
  let left ← remaining data m.offset
  if m.ok && n ≤ left then
    return (some (← bytesAt data m.offset n), { m with offset := m.offset + n })
  else return (none, { m with ok := false })

def readAll (data : Bytes) (calls : List Call) : Lookup (List Reply) :=
  calls.mapM (Call.via (take data))

theorem bytesAt_eq (data : Bytes) {start n : Nat} (inside : start + n ≤ data.length) :
    bytesAt data start n = some ((data.drop start).take n) := by
  induction n generalizing start with
  | zero => rfl
  | succ n ih =>
    have here : start < data.length := by omega
    rw [bytesAt, List.getElem?_eq_getElem here, ih (by omega), List.drop_eq_getElem_cons here]
    rfl

end Lookup

section

variable (call : Call) (calls more : List Call)

theorem bind_apply {α β : Type} (p : Reader α) (f : α → Reader β) (c : Cursor) :
    (p >>= f) c = f (p c).1 (p c).2 := rfl

theorem read_eq_via : call.read = call.via take := by cases call <;> rfl

theorem readAll_cons (c : Cursor) :
    readAll (call :: calls) c =
      ((call.read c).1 :: (readAll calls (call.read c).2).1,
        (readAll calls (call.read c).2).2) := by
  rw [readAll, List.mapM_cons]
  rfl

theorem readAll_append (c : Cursor) :
    readAll (calls ++ more) c =
      ((readAll calls c).1 ++ (readAll more (readAll calls c).2).1,
        (readAll more (readAll calls c).2).2) := by
  rw [readAll, List.mapM_append]
  rfl

/-! ## What is returned -/

theorem reads_read : Reads call.read call.Spelt := by
  cases call with
  | u8 =>
    refine (reads_u8.map Reply.u8).congr fun reply b => ⟨?_, ?_⟩
    · rintro ⟨n, rfl, rfl⟩
      exact .u8 n
    · intro spelt
      cases spelt with
      | u8 n => exact ⟨n, rfl, rfl⟩
  | u16 =>
    refine (reads_u16.map Reply.u16).congr fun reply b => ⟨?_, ?_⟩
    · rintro ⟨n, rfl, rfl⟩
      exact .u16 n
    · intro spelt
      cases spelt with
      | u16 n => exact ⟨n, rfl, rfl⟩
  | u32 =>
    refine (reads_u32.map Reply.u32).congr fun reply b => ⟨?_, ?_⟩
    · rintro ⟨n, rfl, rfl⟩
      exact .u32 n
    · intro spelt
      cases spelt with
      | u32 n => exact ⟨n, rfl, rfl⟩
  | int32 =>
    refine (reads_int32.map Reply.int32).congr fun reply b => ⟨?_, ?_⟩
    · rintro ⟨n, rfl, rfl⟩
      exact .int32 n
    · intro spelt
      cases spelt with
      | int32 n => exact ⟨n, rfl, rfl⟩
  | counted =>
    refine (reads_counted.map Reply.counted).congr fun reply b => ⟨?_, ?_⟩
    · rintro ⟨text, rfl, short, rfl⟩
      exact .counted short
    · intro spelt
      cases spelt with
      | counted short => exact ⟨_, rfl, short, rfl⟩
  | take n =>
    refine ((reads_take n).map Reply.taken).congr fun reply b => ⟨?_, ?_⟩
    · rintro ⟨_, rfl, rfl, rfl⟩
      exact .take b
    · intro spelt
      cases spelt with
      | take b => exact ⟨some b, rfl, rfl, rfl⟩

theorem reads_readAll : Reads (readAll calls) (Consecutive calls) := by
  induction calls with
  | nil =>
    refine (Reads.pure []).congr fun replies b => ⟨?_, ?_⟩
    · rintro ⟨rfl, rfl⟩
      exact .nil
    · intro written
      cases written with
      | nil => exact ⟨rfl, rfl⟩
  | cons call calls ih =>
    rw [readAll, List.mapM_cons]
    refine ((reads_read call).bind fun reply => ih.map (reply :: ·)).congr fun replies b => ⟨?_, ?_⟩
    · rintro ⟨reply, slice, slices, rfl, spelt, replies, rfl, written⟩
      exact .cons spelt written
    · intro written
      cases written with
      | cons spelt written => exact ⟨_, _, _, rfl, spelt, _, rfl, written⟩

theorem readAll_of_ok {data : Bytes} (ok : (readAll calls (Cursor.ofBytes data)).2.ok = true) :
    ∃ front rest, data = front ++ rest ∧
      Consecutive calls (readAll calls (Cursor.ofBytes data)).1 front ∧
      (readAll calls (Cursor.ofBytes data)).2 = before front.length rest := by
  rw [Cursor.ofBytes_eq_before] at ok ⊢
  obtain ⟨replies, front, rest, whole, written, read⟩ := (reads_readAll calls).split ok
  rw [read, Nat.zero_add]
  exact ⟨front, rest, whole, written, rfl⟩

/-! ## Asking for too much -/

theorem take_of_fits {n : Nat} (k : Nat) {b : Bytes} (fits : n ≤ b.length) :
    take n (before k b) = (some (b.take n), before (k + n) (b.drop n)) := by
  have found := (reads_take n).finds ⟨rfl, List.length_take_of_le fits⟩ k (b.drop n)
  rwa [List.take_append_drop, List.length_take_of_le fits] at found

theorem take_of_overrun {n : Nat} (k : Nat) {b : Bytes} (exceeds : b.length < n) :
    take n (before k b) = (none, { before k b with ok := false }) := by
  simp [take, Nat.not_le.mpr exceeds]

theorem take_of_failed {c : Cursor} (failed : c.ok = false) (n : Nat) : take n c = (none, c) := by
  obtain ⟨unread, offset, size, ok⟩ := c
  cases failed
  rfl

theorem read_of_failed {c : Cursor} (failed : c.ok = false) : call.read c = (call.blank, c) := by
  -- Of no bytes every call makes its blank reply; a length is then zero, and is asked for in vain.
  rw [read_eq_via]
  cases call <;> simp only [Call.via, bind_apply, take_of_failed failed] <;> rfl

theorem readAll_of_failed {c : Cursor} (failed : c.ok = false) :
    readAll calls c = (calls.map Call.blank, c) := by
  induction calls with
  | nil => rfl
  | cons call calls ih => rw [readAll_cons, read_of_failed call failed, ih, List.map_cons]

theorem toNat_ofLE_take {b : Bytes} (length : 4 ≤ b.length) :
    (UInt32.ofNat (ofLE (b.take 4))).toNat = ofLE (b.take 4) := by
  have spelled := ofLE_lt (b.take 4)
  rw [List.length_take_of_le length] at spelled
  exact UInt32.toNat_ofNat_of_lt' spelled

theorem ok_read_of_fits (k : Nat) {b : Bytes} (fits : call.span b ≤ b.length) :
    (call.read (before k b)).2.ok = true := by
  rw [read_eq_via]
  cases call with
  | counted =>
    simp only [Call.span] at fits
    have length : 4 ≤ b.length := by omega
    have text : ofLE (b.take 4) ≤ (b.drop 4).length := by
      rw [List.length_drop]
      omega
    simp only [Call.via, bind_apply, take_of_fits k length, Option.getD_some,
      toNat_ofLE_take length, take_of_fits (k + 4) text]
    rfl
  | _ =>
    simp only [Call.span] at fits
    simp only [Call.via, bind_apply, take_of_fits k fits]
    rfl

theorem read_of_overrun (k : Nat) {b : Bytes} (exceeds : b.length < call.span b) :
    call.read (before k b) =
      (call.blank, { before (k + call.stub b) (b.drop (call.stub b)) with ok := false }) := by
  rw [read_eq_via]
  cases call with
  | counted =>
    simp only [Call.span] at exceeds
    by_cases length : 4 ≤ b.length
    · -- The length is there, but what it counts is not.
      have text : (b.drop 4).length < ofLE (b.take 4) := by
        rw [List.length_drop]
        omega
      simp only [Call.via, bind_apply, take_of_fits k length, Option.getD_some,
        toNat_ofLE_take length, take_of_overrun (k + 4) text, Call.stub, if_pos length]
      rfl
    · have short : b.length < 4 := Nat.not_le.mp length
      simp only [Call.via, bind_apply, take_of_overrun k short, Call.stub, if_neg length]
      rfl
  | _ =>
    simp only [Call.span] at exceeds
    simp only [Call.via, bind_apply, take_of_overrun k exceeds]
    rfl

theorem ok_read_iff (k : Nat) (b : Bytes) :
    (call.read (before k b)).2.ok = true ↔ call.span b ≤ b.length := by
  rcases Nat.lt_or_ge b.length (call.span b) with exceeds | fits
  · simp [read_of_overrun call k exceeds, Nat.not_le.mpr exceeds]
  · simp [ok_read_of_fits call k fits, fits]

theorem read_of_not_ok (k : Nat) {b : Bytes} (failed : (call.read (before k b)).2.ok = false) :
    call.read (before k b) =
      (call.blank, { before (k + call.stub b) (b.drop (call.stub b)) with ok := false }) := by
  have exceeds : ¬ call.span b ≤ b.length := by
    rw [← ok_read_iff call k, failed]
    decide
  exact read_of_overrun call k (Nat.lt_of_not_le exceeds)

end

/-! ## Agreement with a lookup -/

/-- The cursor that stands where a mark does. -/
def Mark.cursor (data : Bytes) (m : Mark) : Cursor :=
  ⟨data.drop m.offset, m.offset, data.length, m.ok⟩

/-- From every place inside, a lookup comes to what a reader comes to, and to a place inside. -/
def Follows {α : Type} (data : Bytes) (q : Lookup α) (p : Reader α) : Prop :=
  ∀ m : Mark, m.offset ≤ data.length → ∃ a next, q m = some (a, next) ∧
    p (m.cursor data) = (a, next.cursor data) ∧ next.offset ≤ data.length

namespace Follows

variable {α β : Type} {data : Bytes} {q : Lookup α} {p : Reader α}

theorem pure (a : α) : Follows data (Pure.pure a) (Pure.pure a) :=
  fun m inside => ⟨a, m, rfl, rfl, inside⟩

theorem bind {f : α → Lookup β} {g : α → Reader β} (first : Follows data q p)
    (second : ∀ a, Follows data (f a) (g a)) : Follows data (q >>= f) (p >>= g) := by
  intro m inside
  obtain ⟨a, middle, looked, read, inside⟩ := first m inside
  obtain ⟨b, last, lookedNext, readNext, inside⟩ := second a middle inside
  refine ⟨b, last, ?_, ?_, inside⟩
  · show (q m).bind (fun r => f r.1 r.2) = _
    rw [looked]
    exact lookedNext
  · rw [bind_apply, read]
    exact readNext

end Follows

section

variable (data : Bytes)

theorem follows_take (n : Nat) : Follows data (Lookup.take data n) (take n) := by
  intro m inside
  have left : Lookup.remaining data m.offset = some (data.length - m.offset) := if_pos inside
  obtain ⟨offset, ok⟩ := m
  dsimp only at inside left
  -- Both ask the same first, so that bytes are looked up only where the cursor still holds them.
  cases ok with
  | false =>
    refine ⟨none, ⟨offset, false⟩, ?_, take_of_failed rfl n, inside⟩
    simp [Lookup.take, left]
  | true =>
    by_cases fits : n ≤ data.length - offset
    · have enough : offset + n ≤ data.length := by omega
      refine ⟨some ((data.drop offset).take n), ⟨offset + n, true⟩, ?_, ?_, enough⟩
      · simp [Lookup.take, left, fits, Lookup.bytesAt_eq data enough]
      · simp [take, Mark.cursor, Cursor.remaining, fits]
    · refine ⟨none, ⟨offset, false⟩, ?_, ?_, inside⟩
      · simp [Lookup.take, left, fits]
      · simp [take, Mark.cursor, Cursor.remaining, fits]

theorem follows_read (call : Call) : Follows data (call.via (Lookup.take data)) call.read := by
  have take := follows_take data
  rw [read_eq_via]
  cases call with
  | u8 => exact (take 1).bind fun _ => .pure _
  | u16 => exact (take 2).bind fun _ => .pure _
  | u32 => exact (take 4).bind fun _ => .pure _
  | int32 => exact (take 4).bind fun _ => .pure _
  | counted => exact (take 4).bind fun _ => (take _).bind fun _ => .pure _
  | take n => exact (take n).bind fun _ => .pure _

theorem follows_readAll (calls : List Call) :
    Follows data (Lookup.readAll data calls) (readAll calls) := by
  induction calls with
  | nil => exact .pure []
  | cons call calls ih =>
    rw [Lookup.readAll, readAll, List.mapM_cons, List.mapM_cons]
    exact (follows_read data call).bind fun reply => ih.bind fun replies =>
      .pure (reply :: replies)

end

/-- Whatever is read from a buffer, the reader stays inside it, and so does a lookup, which comes to the
same.  As long as no read has failed, the replies are what is written up to the place that is reached, one
behind the other.  A call fails if it asks for more than lies ahead: it replies with zero or nothing and
moves over no more than a length that is there.  After it nothing is found or moved any more. -/
theorem inside_until_overrun (data : Bytes) (calls : List Call) :
    let replies := (readAll calls (Cursor.ofBytes data)).1
    let c := (readAll calls (Cursor.ofBytes data)).2
    (c.size = data.length ∧ c.offset ≤ c.size ∧ c.offset + c.remaining = c.size ∧
      Lookup.readAll data calls {} = some (replies, ⟨c.offset, c.ok⟩)) ∧
    (c.ok = true → ∃ front, Consecutive calls replies front ∧ data = front ++ c.unread ∧
      c.offset = front.length) ∧
    (∀ call : Call,
      ((call.read c).2.ok = true ↔
        c.ok = true ∧ c.offset + call.span (data.drop c.offset) ≤ data.length) ∧
      (c.ok = true → (call.read c).2.ok = false →
        (call.read c).1 = call.blank ∧
          (call.read c).2.offset = c.offset + call.stub (data.drop c.offset))) ∧
    (c.ok = false → ∀ more, readAll (calls ++ more) (Cursor.ofBytes data) =
      (replies ++ more.map Call.blank, c)) := by
  intro replies c
  refine ⟨?_, ?_, ?_, ?_⟩
  · obtain ⟨_, m, looked, read, inside⟩ := follows_readAll data calls {} (Nat.zero_le _)
    change readAll calls (Cursor.ofBytes data) = _ at read
    have here : c = m.cursor data := congrArg Prod.snd read
    have same : replies = _ := congrArg Prod.fst read
    rw [here, same]
    exact ⟨rfl, inside, Nat.add_sub_cancel' inside, looked⟩
  · intro ok
    obtain ⟨front, rest, whole, written, reached⟩ := readAll_of_ok calls ok
    have here : c = before front.length rest := reached
    rw [here]
    exact ⟨front, written, whole, rfl⟩
  · intro call
    cases ok : c.ok with
    | false => simp [read_of_failed call ok, ok]
    | true =>
      obtain ⟨front, rest, rfl, -, reached⟩ := readAll_of_ok calls ok
      have here : c = before front.length rest := reached
      have ahead : (front ++ rest).drop (before front.length rest).offset = rest := by
        simp [before]
      rw [here, ahead, ok_read_iff]
      refine ⟨by simp [before], ?_⟩
      intro _ failed
      rw [read_of_not_ok call _ failed]
      exact ⟨rfl, rfl⟩
  · intro failed more
    rw [readAll_append, readAll_of_failed more failed]

/-! ## A text that is cut -/

namespace CutText

/-- A byte, and two of the five bytes of a text. -/
def data : Bytes := [7, 5, 0, 0, 0, 0x61, 0x62]

end CutText

/-- The text comes out empty, with the place behind its length.  There it stays, although two more bytes
would be there, and not even no bytes are to be had. -/
theorem inside_of_cutText :
    let c := (readAll [.u8] (Cursor.ofBytes CutText.data)).2
    c.ok = true ∧ c.offset = 1 ∧ (Call.counted.read c).2.ok = false ∧
      (Call.counted.read c).1 = .counted [] ∧ (Call.counted.read c).2.offset = 5 ∧
      readAll [.u8, .counted, .u16, .take 0] (Cursor.ofBytes CutText.data) =
        ([.u8 7, .counted [], .u16 0, .taken none], ⟨[0x61, 0x62], 5, 7, false⟩) := by
  obtain ⟨-, -, next, -⟩ := inside_until_overrun CutText.data [.u8]
  obtain ⟨empty, moved⟩ := (next .counted).2 rfl rfl
  obtain ⟨-, -, -, later⟩ := inside_until_overrun CutText.data [.u8, .counted]
  exact ⟨rfl, rfl, rfl, empty, moved, later rfl [.u16, .take 0]⟩

end Reader

end RemoteClipboard
