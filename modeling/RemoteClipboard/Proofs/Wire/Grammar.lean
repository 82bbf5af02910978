import RemoteClipboard.Proofs.Wire.Reading

/-! # The grammar of the wire form

`Message.FieldForm` lists the ways to write the fields of a message, one rule for each kind, and
`Message.Form` adds the tag and the two lengths around them.  Nothing here mentions the reader or
the writer.

The reader is then shown to read this grammar, field by field with `Reader.Reads`
(`reads_readFields`), and as a whole: `decode` accepts exactly the forms of a message, whatever
bytes an attacker, a newer side or a careless one may have put together. -/

namespace RemoteClipboard

namespace Message

/-! ## The forms -/

/-- A byte string behind its length, which four bytes can spell. -/
def CountedForm (a b : Bytes) : Prop := a.length < UInt32.size ∧ b = le 4 a.length ++ a

/-- Formats on offer one after the other, each as its number and its name. -/
inductive EntriesForm : List FormatEntry → Bytes → Prop
  | nil : EntriesForm [] []
  | cons {e : FormatEntry} {rest : List FormatEntry} {name b : Bytes} :
      CountedForm e.name name → EntriesForm rest b →
      EntriesForm (e :: rest) (leInt32 e.id ++ name ++ b)

/-- A flag and four bytes.  Where the flag is zero there is no number and the four bytes can be
anything; any other flag says that they spell one. -/
inductive ClipDataForm : Option Int32 → Bytes → Prop
  | absent {unused : Bytes} : unused.length = 4 → ClipDataForm none ([0] ++ unused)
  | present {flag : UInt8} {n : Int32} : flag ≠ 0 → ClipDataForm (some n) ([flag] ++ leInt32 n)

/-- The ways to write the fields of a message.  A list of more than `maxEntries` formats has
none. -/
inductive FieldForm (maxEntries : Nat) : Message → Bytes → Prop
  | notifyCallback {kind title text k t x : Bytes} :
      CountedForm kind k → CountedForm title t → CountedForm text x →
      FieldForm maxEntries (.notifyCallback kind title text) (k ++ t ++ x)
  | monitorReady : FieldForm maxEntries .monitorReady []
  | formatList {entries : List FormatEntry} {b : Bytes} :
      entries.length < UInt32.size → entries.length ≤ maxEntries → EntriesForm entries b →
      FieldForm maxEntries (.formatList entries) (le 4 entries.length ++ b)
  | formatListResponse (status : Int32) :
      FieldForm maxEntries (.formatListResponse status) (leInt32 status)
  | formatDataRequest (format : Int32) :
      FieldForm maxEntries (.formatDataRequest format) (leInt32 format)
  | formatDataResponse {status : Int32} {payload p : Bytes} :
      CountedForm payload p →
      FieldForm maxEntries (.formatDataResponse status payload) (leInt32 status ++ p)
  | fileContentsRequest {r : FileRequest} {clip : Bytes} :
      ClipDataForm r.clipData clip →
      FieldForm maxEntries (.fileContentsRequest r)
        (leInt32 r.stream ++ leInt32 r.index ++ leInt32 r.operation ++ leInt32 r.offsetLow
          ++ leInt32 r.offsetHigh ++ leInt32 r.requested ++ clip)
  | fileContentsResponse {r : FileReply} {p : Bytes} :
      CountedForm r.payload p →
      FieldForm maxEntries (.fileContentsResponse r) (leInt32 r.status ++ leInt32 r.stream ++ p)

/-- The ways to write a message: its tag behind two bytes of length, then its payload behind four.
The payload begins with the fields and may go on after them; nothing comes after the payload. -/
def Form (maxEntries : Nat) (m : Message) (data : Bytes) : Prop :=
  ∃ fields trailing payload : Bytes, FieldForm maxEntries m fields ∧
    payload = fields ++ trailing ∧ payload.length < UInt32.size ∧
    data = le 2 m.kind.wireTag.length ++ m.kind.wireTag ++ le 4 payload.length ++ payload

/-! ## Reading fields -/

open Reader Reader.Reads Kind

theorem exists_leInt32_of_length {b : Bytes} (four : b.length = 4) : ∃ n, b = leInt32 n :=
  ⟨Int32.ofUInt32 (UInt32.ofNat (ofLE b)), (le32_ofLE four).symm⟩

theorem reads_readEntries (n : Nat) :
    Reads (readEntries n) (fun entries b => entries.length = n ∧ EntriesForm entries b) := by
  induction n with
  | zero =>
    refine (Reads.pure []).congr fun entries b => ⟨?_, ?_⟩
    · intro found
      obtain ⟨rfl, rfl⟩ := found
      exact ⟨rfl, .nil⟩
    · intro written
      obtain ⟨none, written⟩ := written
      cases written with
      | nil => exact ⟨rfl, rfl⟩
      | cons _ _ => simp at none
  | succ n ih =>
    -- The look at the cursor in front of each entry only saves work, so the body may be read alone.
    have body := (reads_int32.bind fun id => reads_counted.bind fun name =>
      ih.map fun rest => (⟨id, name⟩ :: rest : List FormatEntry))
    refine (body.guarded []).congr fun entries b => ⟨?_, ?_⟩
    · intro found
      obtain ⟨id, _, _, rfl, rfl, name, _, _, rfl, named, rest, rfl, counted, written⟩ := found
      refine ⟨by simp [counted], ?_⟩
      rw [← List.append_assoc]
      exact .cons named written
    · intro written
      obtain ⟨counted, written⟩ := written
      cases written with
      | nil => simp at counted
      | @cons e rest name b named written =>
        have countedRest : rest.length = n := by simpa using counted
        exact ⟨e.id, _, _, List.append_assoc .., rfl, e.name, name, b, rfl, named, rest, rfl,
          countedRest, written⟩

theorem reads_readFileRequest :
    Reads readFileRequest (fun r b => ∃ clip, ClipDataForm r.clipData clip ∧
      b = leInt32 r.stream ++ leInt32 r.index ++ leInt32 r.operation ++ leInt32 r.offsetLow
        ++ leInt32 r.offsetHigh ++ leInt32 r.requested ++ clip) := by
  refine (reads_int32.bind fun stream => reads_int32.bind fun index =>
    reads_int32.bind fun operation => reads_int32.bind fun offsetLow =>
    reads_int32.bind fun offsetHigh => reads_int32.bind fun requested =>
    reads_u8.bind fun flag => reads_int32.map fun clipData =>
      ({ stream, index, operation, offsetLow, offsetHigh, requested,
         clipData := if flag = 0 then none else some clipData } : FileRequest)).congr
    fun r b => ⟨?_, ?_⟩
  · intro found
    obtain ⟨stream, _, _, rfl, rfl, index, _, _, rfl, rfl, operation, _, _, rfl, rfl, offsetLow,
      _, _, rfl, rfl, offsetHigh, _, _, rfl, rfl, requested, _, _, rfl, rfl, flag, _, _, rfl, rfl,
      clipData, rfl, rfl⟩ := found
    refine ⟨[flag] ++ leInt32 clipData, ?_, by simp only [List.append_assoc]⟩
    by_cases zero : flag = 0
    · subst zero
      exact .absent (length_leInt32 clipData)
    · simp only [zero, if_false]
      exact .present zero
  · intro written
    obtain ⟨clip, written, rfl⟩ := written
    obtain ⟨stream, index, operation, offsetLow, offsetHigh, requested, clipData⟩ := r
    -- Behind a flag of zero the four bytes still spell a number, which is then not used.
    obtain ⟨flag, n, rfl, rfl⟩ : ∃ flag n, clip = [flag] ++ leInt32 n ∧
        clipData = if flag = 0 then none else some n := by
      cases written with
      | absent four =>
        obtain ⟨n, rfl⟩ := exists_leInt32_of_length four
        exact ⟨0, n, rfl, rfl⟩
      | @present flag n nonzero => exact ⟨flag, n, rfl, by simp [nonzero]⟩
    simp only [List.append_assoc]
    exact ⟨stream, _, _, rfl, rfl, index, _, _, rfl, rfl, operation, _, _, rfl, rfl,
      offsetLow, _, _, rfl, rfl, offsetHigh, _, _, rfl, rfl, requested, _, _, rfl, rfl,
      flag, _, _, rfl, rfl, n, rfl, rfl⟩

/-- What reading the fields of a kind can find: a message of that kind, or a list that is too
long. -/
inductive FieldsFound (maxEntries : Nat) (k : Kind) : Except Fault Message → Bytes → Prop
  | message {m : Message} {b : Bytes} : m.kind = k → FieldForm maxEntries m b →
      FieldsFound maxEntries k (.ok m) b
  | tooMany {count : UInt32} : k = .formatList → maxEntries < count.toNat →
      FieldsFound maxEntries k (.error (Fault.tooManyFormats count.toNat)) (le32 count)

theorem reads_message {maxEntries : Nat} {k : Kind} {p : Reader (Except Fault Message)}
    {form : Except Fault Message → Bytes → Prop} (single : k ≠ .formatList) (h : Reads p form)
    (found : ∀ result b, form result b →
      ∃ m, result = .ok m ∧ m.kind = k ∧ FieldForm maxEntries m b)
    (written : ∀ m b, m.kind = k → FieldForm maxEntries m b → form (.ok m) b) :
    Reads p (FieldsFound maxEntries k) := by
  refine h.congr fun result b => ⟨?_, ?_⟩
  · intro read
    obtain ⟨m, rfl, same, form⟩ := found result b read
    exact .message same form
  · intro read
    cases read with
    | message same form => exact written _ _ same form
    | tooMany list _ => exact absurd list single

theorem reads_formatList (maxEntries : Nat) :
    Reads (Kind.formatList.readFields maxEntries) (FieldsFound maxEntries .formatList) := by
  have counted (count : UInt32) :=
    (Reads.pure (.error (Fault.tooManyFormats count.toNat) : Except Fault Message)).ite
      (maxEntries < count.toNat)
      ((reads_readEntries count.toNat).map fun entries => .ok (.formatList entries))
  refine (reads_u32.bind counted).congr fun result b => ⟨?_, ?_⟩
  · intro found
    obtain ⟨count, _, rest, rfl, rfl, found⟩ := found
    by_cases tooMany : maxEntries < count.toNat
    · rw [if_pos tooMany] at found
      obtain ⟨rfl, rfl⟩ := found
      rw [List.append_nil]
      exact .tooMany rfl tooMany
    · rw [if_neg tooMany] at found
      obtain ⟨entries, rfl, length, written⟩ := found
      rw [le32, ← length]
      exact .message rfl (.formatList (length ▸ count.toNat_lt) (by omega) written)
  · intro found
    cases found with
    | @tooMany count _ tooMany =>
      exact ⟨count, le32 count, [], by simp, rfl, by rw [if_pos tooMany]; exact ⟨rfl, rfl⟩⟩
    | message same written =>
      cases written with
      | @formatList entries b small few written =>
        have back : (UInt32.ofNat entries.length).toNat = entries.length :=
          UInt32.toNat_ofNat_of_lt' small
        refine ⟨UInt32.ofNat entries.length, _, b, rfl, by rw [le32, back], ?_⟩
        rw [back, if_neg (by omega)]
        exact ⟨entries, rfl, rfl, written⟩
      | _ => cases same

/-- The reader of each kind reads the forms of the messages of that kind. -/
theorem reads_readFields (maxEntries : Nat) (k : Kind) :
    Reads (k.readFields maxEntries) (FieldsFound maxEntries k) := by
  cases k with
  | formatList => exact reads_formatList maxEntries
  | notifyCallback =>
    apply reads_message (by decide) (reads_counted.bind fun kind => reads_counted.bind fun title =>
      reads_counted.map fun text => .ok (.notifyCallback kind title text))
    · intro result b found
      obtain ⟨kind, _, _, rfl, first, title, _, _, rfl, second, text, rfl, third⟩ := found
      rw [← List.append_assoc]
      exact ⟨_, rfl, rfl, .notifyCallback first second third⟩
    · intro m b same written
      cases written with
      | notifyCallback first second third =>
        exact ⟨_, _, _, List.append_assoc .., first, _, _, _, rfl, second, _, rfl, third⟩
      | _ => cases same
  | monitorReady =>
    apply reads_message (by decide) (Reads.pure (.ok .monitorReady))
    · intro result b found
      obtain ⟨rfl, rfl⟩ := found
      exact ⟨_, rfl, rfl, .monitorReady⟩
    · intro m b same written
      cases written with
      | monitorReady => exact ⟨rfl, rfl⟩
      | _ => cases same
  | formatListResponse =>
    apply reads_message (by decide) (reads_int32.map fun status => .ok (.formatListResponse status))
    · intro result b found
      obtain ⟨status, rfl, rfl⟩ := found
      exact ⟨_, rfl, rfl, .formatListResponse status⟩
    · intro m b same written
      cases written with
      | formatListResponse status => exact ⟨status, rfl, rfl⟩
      | _ => cases same
  | formatDataRequest =>
    apply reads_message (by decide) (reads_int32.map fun format => .ok (.formatDataRequest format))
    · intro result b found
      obtain ⟨format, rfl, rfl⟩ := found
      exact ⟨_, rfl, rfl, .formatDataRequest format⟩
    · intro m b same written
      cases written with
      | formatDataRequest format => exact ⟨format, rfl, rfl⟩
      | _ => cases same
  | formatDataResponse =>
    apply reads_message (by decide) (reads_int32.bind fun status => reads_counted.map fun payload =>
      .ok (.formatDataResponse status payload))
    · intro result b found
      obtain ⟨status, _, _, rfl, rfl, payload, rfl, written⟩ := found
      exact ⟨_, rfl, rfl, .formatDataResponse written⟩
    · intro m b same written
      cases written with
      | formatDataResponse payload => exact ⟨_, _, _, rfl, rfl, _, rfl, payload⟩
      | _ => cases same
  | fileContentsRequest =>
    apply reads_message (by decide)
      (reads_readFileRequest.map fun r => .ok (.fileContentsRequest r))
    · intro result b found
      obtain ⟨r, rfl, clip, written, rfl⟩ := found
      exact ⟨_, rfl, rfl, .fileContentsRequest written⟩
    · intro m b same written
      cases written with
      | fileContentsRequest clip => exact ⟨_, rfl, _, clip, rfl⟩
      | _ => cases same
  | fileContentsResponse =>
    apply reads_message (by decide) (reads_int32.bind fun status => reads_int32.bind fun stream =>
      reads_counted.map fun payload => .ok (.fileContentsResponse ⟨status, stream, payload⟩))
    · intro result b found
      obtain ⟨status, _, _, rfl, rfl, stream, _, _, rfl, rfl, payload, rfl, written⟩ := found
      rw [← List.append_assoc]
      exact ⟨_, rfl, rfl, .fileContentsResponse written⟩
    · intro m b same written
      cases written with
      | fileContentsResponse payload =>
        exact ⟨_, _, _, List.append_assoc .., rfl, _, _, _, rfl, rfl, _, rfl, payload⟩
      | _ => cases same

/-! ## Reading a whole message -/

theorem readPayload_eq (maxEntries : Nat) (k : Kind) (payload : Bytes) :
    k.readPayload maxEntries payload =
      if (k.readFields maxEntries (Cursor.before 0 payload)).2.ok then
        (k.readFields maxEntries (Cursor.before 0 payload)).1
      else .error (Fault.payloadTruncated k) := by
  rw [← Cursor.ofBytes_eq_before]
  rfl

theorem readPayload_eq_ok_iff {maxEntries : Nat} {k : Kind} {payload : Bytes} {m : Message} :
    k.readPayload maxEntries payload = .ok m ↔
      m.kind = k ∧ ∃ fields trailing, payload = fields ++ trailing ∧
        FieldForm maxEntries m fields := by
  have reads := reads_readFields maxEntries k
  rw [readPayload_eq]
  constructor
  · intro accepted
    split at accepted
    next ok =>
      obtain ⟨fields, trailing, rfl, found⟩ := reads.found ok
      rw [accepted] at found
      cases found with
      | message same written => exact ⟨same, fields, trailing, rfl, written⟩
    next => cases accepted
  · intro written
    obtain ⟨same, fields, trailing, rfl, written⟩ := written
    rw [reads.finds (.message same written), Cursor.ok_before, if_pos rfl]

/-- A list that is too long is refused for its count alone, whatever comes after that. -/
theorem readPayload_tooMany {maxEntries : Nat} {count : UInt32} (rest : Bytes)
    (tooMany : maxEntries < count.toNat) :
    Kind.formatList.readPayload maxEntries (le32 count ++ rest) =
      .error (Fault.tooManyFormats count.toNat) := by
  have reads := reads_readFields maxEntries .formatList
  rw [readPayload_eq, reads.finds (.tooMany rfl tooMany), Cursor.ok_before, if_pos rfl]

/-- The tag and the announced length of the payload, as they stand behind the length of the tag. -/
def readTagAndSize (length : UInt16) : Reader (Bytes × Nat) := do
  let tag ← Reader.bytes length.toNat
  let size ← Reader.u32
  return (tag, size.toNat)

theorem reads_readTagAndSize (length : UInt16) :
    Reads (readTagAndSize length) (fun front b => front.1.length = length.toNat ∧
      front.2 < UInt32.size ∧ b = front.1 ++ le 4 front.2) := by
  refine ((reads_bytes length.toNat).bind fun tag => reads_u32.map fun size =>
    (tag, size.toNat)).congr fun front b => ⟨?_, ?_⟩
  · intro found
    obtain ⟨tag, _, _, rfl, ⟨rfl, counted⟩, size, rfl, rfl⟩ := found
    exact ⟨counted, size.toNat_lt, rfl⟩
  · intro written
    obtain ⟨tag, size⟩ := front
    obtain ⟨counted, small, rfl⟩ := written
    have back : (UInt32.ofNat size).toNat = size := UInt32.toNat_ofNat_of_lt' small
    exact ⟨tag, tag, le 4 size, rfl, ⟨rfl, counted⟩, UInt32.ofNat size, by rw [back],
      by rw [le32, back]⟩

/-- Reading the front: the length of the tag is judged first, then the rest is read in one go. -/
theorem readFrame_eq (c : Cursor) :
    readFrame c =
      let length := Reader.u16 c
      if !length.2.ok || length.1 = 0 || maxTagLength < length.1.toNat then
        (.error Fault.invalidTagLength, length.2)
      else
        let front := readTagAndSize length.1 length.2
        if front.2.ok then (.ok front.1, front.2)
        else (.error Fault.headerTruncated, front.2) := by
  show (if !(Reader.u16 c).2.ok || (Reader.u16 c).1 = 0
      || maxTagLength < (Reader.u16 c).1.toNat then
      (Pure.pure (.error Fault.invalidTagLength) : Reader (Except Fault (Bytes × Nat)))
    else do
      let front ← readTagAndSize (Reader.u16 c).1
      if ← Reader.ok then return .ok front else return .error Fault.headerTruncated)
    (Reader.u16 c).2 = _
  generalize Reader.u16 c = read
  obtain ⟨length, c⟩ := read
  simp only
  split
  next => rfl
  next =>
    show (if (readTagAndSize length c).2.ok then
      (Pure.pure (.ok (readTagAndSize length c).1) : Reader (Except Fault (Bytes × Nat)))
      else Pure.pure (.error Fault.headerTruncated)) (readTagAndSize length c).2 = _
    generalize readTagAndSize length c = read
    split <;> rfl

/-- The bytes in front of a payload. -/
def front (tag : Bytes) (size : Nat) : Bytes := le 2 tag.length ++ (tag ++ le 4 size)

theorem readFrame_front {tag : Bytes} {size : Nat} (nonempty : 0 < tag.length)
    (short : tag.length ≤ maxTagLength) (small : size < UInt32.size) (rest : Bytes) :
    readFrame (Cursor.before 0 (front tag size ++ rest)) =
      (.ok (tag, size), Cursor.before (front tag size).length rest) := by
  have lt : tag.length < UInt16.size := Nat.lt_of_le_of_lt short (by decide)
  have back : (UInt16.ofNat tag.length).toNat = tag.length := UInt16.toNat_ofNat_of_lt' lt
  have nonzero : UInt16.ofNat tag.length ≠ 0 := by
    intro zero
    rw [zero] at back
    simp at back
    omega
  have length := reads_u16.finds (a := UInt16.ofNat tag.length) rfl 0 (tag ++ le 4 size ++ rest)
  have tagAndSize := (reads_readTagAndSize (UInt16.ofNat tag.length)).finds
    (a := (tag, size)) ⟨back.symm, small, rfl⟩ 2 rest
  rw [le16, back] at length
  rw [readFrame_eq, front, List.append_assoc, length]
  have judged : ¬ maxTagLength < tag.length := by omega
  simp only [length_le, Nat.zero_add, tagAndSize]
  simp [back, nonzero, judged]

theorem front_of_readFrame {data tag : Bytes} {size : Nat}
    (found : (readFrame (Cursor.before 0 data)).1 = .ok (tag, size)) :
    0 < tag.length ∧ tag.length ≤ maxTagLength ∧ size < UInt32.size ∧
      ∃ rest, data = front tag size ++ rest := by
  rw [readFrame_eq] at found
  dsimp only at found
  split at found
  next => cases found
  next judged =>
    simp only [Bool.or_eq_true, Bool.not_eq_true', decide_eq_true_eq, not_or, Nat.not_lt,
      Bool.not_eq_false] at judged
    obtain ⟨⟨ok, nonzero⟩, short⟩ := judged
    obtain ⟨length, _, middle, rfl, rfl, ran⟩ := reads_u16.split ok
    rw [ran] at found nonzero short
    split at found
    next ok =>
      obtain ⟨⟨tag', size'⟩, _, rest, rfl, ⟨counted, small, rfl⟩, ran⟩ :=
        (reads_readTagAndSize length).split ok
      rw [ran] at found
      cases found
      dsimp only at short counted
      have positive : 0 < length.toNat := by
        apply Nat.pos_of_ne_zero
        intro zero
        exact nonzero (UInt16.toNat_inj.mp zero)
      refine ⟨by omega, by omega, small, rest, ?_⟩
      simp only [front, counted, le16, List.append_assoc]
    next => cases found

theorem decode_eq (maxEntries : Nat) (data : Bytes) :
    decode maxEntries data =
      match readFrame (Cursor.before 0 data) with
      | (.error fault, _) => .error fault
      | (.ok (tag, size), cursor) =>
        match Kind.ofTag? tag with
        | none => .error (Fault.unknownTag tag)
        | some k =>
          if size ≠ cursor.remaining then .error (Fault.payloadLengthMismatch tag)
          else k.readPayload maxEntries cursor.unread := by
  rw [← Cursor.ofBytes_eq_before]
  unfold decode StateT.run
  cases readFrame (Cursor.ofBytes data) with
  | mk found cursor => cases found <;> rfl

theorem wireTag_bounds (k : Kind) : 0 < k.wireTag.length ∧ k.wireTag.length ≤ maxTagLength := by
  cases k <;> decide

/-- Behind a front that is in order, reading a message is reading its payload. -/
theorem decode_front {k : Kind} {payload : Bytes} (maxEntries : Nat)
    (small : payload.length < UInt32.size) :
    decode maxEntries (front k.wireTag payload.length ++ payload) =
      k.readPayload maxEntries payload := by
  obtain ⟨nonempty, short⟩ := wireTag_bounds k
  rw [decode_eq, readFrame_front nonempty short small]
  simp

theorem front_of_decode {maxEntries : Nat} {data : Bytes} {m : Message}
    (accepted : decode maxEntries data = .ok m) :
    ∃ (k : Kind) (payload : Bytes), payload.length < UInt32.size ∧
      data = front k.wireTag payload.length ++ payload ∧
      k.readPayload maxEntries payload = .ok m := by
  rw [decode_eq] at accepted
  split at accepted
  next => cases accepted
  next tag size cursor found =>
    obtain ⟨nonempty, short, small, payload, rfl⟩ := front_of_readFrame (congrArg Prod.fst found)
    rw [readFrame_front nonempty short small] at found
    cases found
    split at accepted
    next => cases accepted
    next k known =>
      rw [Kind.ofTag?_eq_some_iff] at known
      split at accepted
      next => cases accepted
      next whole =>
        have exact : size = payload.length := by simpa using whole
        subst exact known
        exact ⟨k, payload, small, rfl, accepted⟩

theorem form_of_decode {maxEntries : Nat} {data : Bytes} {m : Message}
    (accepted : decode maxEntries data = .ok m) : Form maxEntries m data := by
  obtain ⟨k, payload, small, rfl, read⟩ := front_of_decode accepted
  obtain ⟨rfl, fields, trailing, split, written⟩ := readPayload_eq_ok_iff.mp read
  exact ⟨fields, trailing, payload, written, split, small, by simp [front]⟩

theorem decode_of_form {maxEntries : Nat} {data : Bytes} {m : Message}
    (form : Form maxEntries m data) : decode maxEntries data = .ok m := by
  obtain ⟨fields, trailing, payload, written, split, small, rfl⟩ := form
  have read := decode_front (k := m.kind) maxEntries small
  simp only [front, List.append_assoc] at read ⊢
  rw [read]
  exact readPayload_eq_ok_iff.mpr ⟨rfl, fields, trailing, split, written⟩

/-! ## Refusals -/

theorem readFrame_eq_error {c : Cursor} {fault : Fault} (refused : (readFrame c).1 = .error fault) :
    fault = Fault.invalidTagLength ∨ fault = Fault.headerTruncated := by
  rw [readFrame_eq] at refused
  dsimp only at refused
  split at refused
  next =>
    cases refused
    exact .inl rfl
  next =>
    split at refused
    next => cases refused
    next =>
      cases refused
      exact .inr rfl

theorem readPayload_eq_error {maxEntries : Nat} {k : Kind} {payload : Bytes} {fault : Fault}
    (refused : k.readPayload maxEntries payload = .error fault) :
    fault.code = Fault.Code.malformedMessage := by
  rw [readPayload_eq] at refused
  split at refused
  next ok =>
    obtain ⟨_, _, _, found⟩ := (reads_readFields maxEntries k).found ok
    rw [refused] at found
    cases found with
    | tooMany _ _ => rfl
  next =>
    cases refused
    rfl

/-- Bytes are refused as malformed or for their tag, and for nothing else. -/
theorem code_of_decode_eq_error {maxEntries : Nat} {data : Bytes} {fault : Fault}
    (refused : decode maxEntries data = .error fault) :
    fault.code = Fault.Code.malformedMessage ∨ fault.code = Fault.Code.unknownMessageTag := by
  rw [decode_eq] at refused
  split at refused
  next found =>
    cases refused
    rcases readFrame_eq_error (congrArg Prod.fst found) with rfl | rfl
    · exact .inl rfl
    · exact .inl rfl
  next =>
    split at refused
    next =>
      cases refused
      exact .inr rfl
    next =>
      split at refused
      next =>
        cases refused
        exact .inl rfl
      next => exact .inl (readPayload_eq_error refused)

/-- A message is read from exactly its forms, and so no bytes are a form of two messages. -/
theorem decode_accepts_forms (maxEntries : Nat) (data : Bytes) :
    (∀ m, decode maxEntries data = .ok m ↔ Form maxEntries m data) ∧
      ∀ m m', Form maxEntries m data → Form maxEntries m' data → m = m' := by
  refine ⟨fun m => ⟨form_of_decode, decode_of_form⟩, ?_⟩
  intro m m' form form'
  have read := decode_of_form form
  rw [decode_of_form form'] at read
  injection read with same
  exact same.symm

end Message

end RemoteClipboard
