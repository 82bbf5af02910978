import RemoteClipboard.Proofs.Wire.RoundTrip

/-! # Which bytes are refused, and as what

Whether some bytes begin with a whole front (`Opens`) settles what reading makes of them.  Without one
they are malformed (`malformed_of_not_opens`).  With one, the tag is judged before anything that comes
behind it, the announced size included, so a foreign tag is reported as such however the rest is damaged.

A front is never part of a longer or a shorter one (`Opens.unique`).  Therefore no message can lose bytes
at its end, or gain any, without the announced size giving it away. -/

namespace RemoteClipboard

namespace Message

/-- Some bytes begin with a tag of 1 to 64 bytes, behind its length, and with four bytes that announce the
size of a payload; `rest` comes behind these. -/
structure Opens (data tag : Bytes) (size : Nat) (rest : Bytes) : Prop where
  nonempty : 1 ≤ tag.length
  short : tag.length ≤ 64
  announced : size < UInt32.size
  split : data = le 2 tag.length ++ tag ++ le 4 size ++ rest

/-- Whether reading ends in a fault of the code for malformed messages. -/
def IsMalformed (result : Except Fault Message) : Prop :=
  ∃ fault, result = .error fault ∧ fault.code = Fault.Code.malformedMessage

section

variable {data tag : Bytes} {size : Nat} {rest : Bytes}

/-! ## Fronts -/

theorem opens_iff_front :
    Opens data tag size rest ↔ 0 < tag.length ∧ tag.length ≤ maxTagLength ∧ size < UInt32.size ∧
      data = front tag size ++ rest := by
  have split : le 2 tag.length ++ tag ++ le 4 size ++ rest = front tag size ++ rest := by
    simp only [front, List.append_assoc]
  constructor
  · intro opens
    exact ⟨opens.nonempty, opens.short, opens.announced, opens.split.trans split⟩
  · rintro ⟨nonempty, short, announced, eq⟩
    exact ⟨nonempty, short, announced, eq.trans split.symm⟩

theorem Opens.readFrame (opens : Opens data tag size rest) :
    readFrame (Cursor.before 0 data) =
      (.ok (tag, size), Cursor.before (front tag size).length rest) := by
  obtain ⟨nonempty, short, announced, rfl⟩ := opens_iff_front.mp opens
  exact readFrame_front nonempty short announced rest

/-- Bytes begin with at most one front. -/
theorem Opens.unique {tag' : Bytes} {size' : Nat} {rest' : Bytes}
    (opens : Opens data tag size rest) (opens' : Opens data tag' size' rest') :
    tag = tag' ∧ size = size' ∧ rest = rest' := by
  -- Reading is a function, and it finds the front as well as what is left behind it.
  have read := opens.readFrame.symm.trans opens'.readFrame
  have same : rest = rest' := congrArg (·.2.unread) read
  have front : (tag, size) = (tag', size') := Except.ok.inj (congrArg Prod.fst read)
  cases front
  exact ⟨rfl, rfl, same⟩

theorem Opens.append (opens : Opens data tag size rest) (more : Bytes) :
    Opens (data ++ more) tag size (rest ++ more) where
  nonempty := opens.nonempty
  short := opens.short
  announced := opens.announced
  split := by rw [opens.split, List.append_assoc]

theorem opens_encode {m : Message} (small : m.payload.length < UInt32.size) :
    Opens m.encode m.kind.wireTag m.payload.length m.payload := by
  obtain ⟨nonempty, short⟩ := wireTag_bounds m.kind
  exact opens_iff_front.mpr ⟨nonempty, short, small, encode_eq_front small⟩

/-! ## What a front decides -/

theorem Opens.decode_eq (opens : Opens data tag size rest) (maxEntries : Nat) :
    decode maxEntries data =
      match Kind.ofTag? tag with
      | none => .error (Fault.unknownTag tag)
      | some k =>
        if size ≠ rest.length then .error (Fault.payloadLengthMismatch tag)
        else k.readPayload maxEntries rest := by
  rw [Message.decode_eq, opens.readFrame]
  cases known : Kind.ofTag? tag with
  | none => simp only [known]
  | some k => simp only [known, Cursor.remaining_before, Cursor.unread_before]

theorem malformed_of_not_opens (maxEntries : Nat)
    (closed : ∀ tag size rest, ¬ Opens data tag size rest) :
    IsMalformed (decode maxEntries data) := by
  rw [decode_eq]
  cases found : readFrame (Cursor.before 0 data) with
  | mk read cursor =>
    cases read with
    | error fault =>
      -- The two faults that the front itself can have.
      rcases readFrame_eq_error (congrArg Prod.fst found) with rfl | rfl
      · exact ⟨_, rfl, rfl⟩
      · exact ⟨_, rfl, rfl⟩
    | ok read =>
      obtain ⟨nonempty, short, announced, rest, split⟩ :=
        front_of_readFrame (congrArg Prod.fst found)
      exact absurd (opens_iff_front.mpr ⟨nonempty, short, announced, split⟩) (closed _ _ rest)

theorem ofTag?_eq_none_iff : Kind.ofTag? tag = none ↔ ∀ k : Kind, k.wireTag ≠ tag := by
  rw [Option.eq_none_iff_forall_ne_some]
  refine forall_congr' fun k => not_congr ?_
  rw [Kind.ofTag?_eq_some_iff, eq_comm]

theorem Opens.decode_of_foreign (opens : Opens data tag size rest)
    (foreign : ∀ k : Kind, k.wireTag ≠ tag) (maxEntries : Nat) :
    decode maxEntries data = .error (Fault.unknownTag tag) := by
  rw [opens.decode_eq, ofTag?_eq_none_iff.mpr foreign]

theorem Opens.malformed_of_ne {k : Kind} (opens : Opens data k.wireTag size rest)
    (mismatch : size ≠ rest.length) (maxEntries : Nat) : IsMalformed (decode maxEntries data) := by
  rw [opens.decode_eq, Kind.ofTag?_wireTag]
  exact ⟨_, if_pos mismatch, rfl⟩

/-- Behind a tag that is known everything that can be wrong is malformed. -/
theorem Opens.malformed_of_known {k : Kind} (opens : Opens data k.wireTag size rest)
    {maxEntries : Nat} {fault : Fault} (refused : decode maxEntries data = .error fault) :
    fault.code = Fault.Code.malformedMessage := by
  by_cases mismatch : size ≠ rest.length
  · obtain ⟨_, malformed, code⟩ := opens.malformed_of_ne mismatch maxEntries
    rw [malformed] at refused
    cases refused
    exact code
  · rw [opens.decode_eq, Kind.ofTag?_wireTag] at refused
    simp only [mismatch, if_false] at refused
    exact readPayload_eq_error refused

theorem code_eq_unknownMessageTag_iff (maxEntries : Nat) :
    (∃ fault, decode maxEntries data = .error fault ∧ fault.code = Fault.Code.unknownMessageTag) ↔
      ∃ tag size rest, Opens data tag size rest ∧ ∀ k : Kind, k.wireTag ≠ tag := by
  constructor
  · rintro ⟨fault, refused, unknown⟩
    -- Without a front, and behind a tag that is known, the code would be another one.
    have other : Fault.Code.malformedMessage ≠ Fault.Code.unknownMessageTag := by decide
    by_cases opening : ∃ tag size rest, Opens data tag size rest
    · obtain ⟨tag, size, rest, opens⟩ := opening
      refine ⟨tag, size, rest, opens, ?_⟩
      rintro k rfl
      exact other ((opens.malformed_of_known refused).symm.trans unknown)
    · obtain ⟨_, malformed, code⟩ := malformed_of_not_opens maxEntries
        fun tag size rest opens => opening ⟨tag, size, rest, opens⟩
      rw [refused] at malformed
      cases malformed
      exact absurd (code.symm.trans unknown) other
  · rintro ⟨tag, size, rest, opens, foreign⟩
    exact ⟨_, opens.decode_of_foreign foreign maxEntries, rfl⟩

/-! ## What is logged -/

theorem records_unknownTag (levels : Log.Levels) (tag : Bytes) :
    (decodeJournal (.error (Fault.unknownTag tag))).records levels =
      if levels.admits .protocol .warning then
        [⟨.protocol, .warning, Log.text ["rejecting message with unknown tag '", tag, "'"]⟩]
      else [] := by
  show levels.keep [_] = _
  rw [Log.Levels.keep_eq_filter, List.filter_cons, List.filter_nil]
  rfl

theorem decodeJournal_of_malformed {fault : Fault}
    (malformed : fault.code = Fault.Code.malformedMessage) : decodeJournal (.error fault) = [] := by
  have other : fault.code ≠ Fault.Code.unknownMessageTag := by
    rw [malformed]
    decide
  rw [decodeJournal, if_neg other]

end

/-! ## Bytes lost or gained at the end -/

section

variable {m : Message} (small : m.payload.length < UInt32.size) (maxEntries : Nat)
include small

theorem malformed_of_strict_prefix {cut : Bytes} (front : cut <+: m.encode)
    (strict : cut ≠ m.encode) : IsMalformed (decode maxEntries cut) := by
  obtain ⟨lost, whole⟩ := front
  have some : lost ≠ [] := by
    rintro rfl
    exact strict (by rw [← whole, List.append_nil])
  by_cases opening : ∃ tag size rest, Opens cut tag size rest
  · -- The front is still that of the message, which announces the bytes that are lost.
    obtain ⟨tag, size, rest, opens⟩ := opening
    have longer := opens.append lost
    rw [whole] at longer
    obtain ⟨rfl, rfl, payload⟩ := longer.unique (opens_encode small)
    have positive := List.length_pos_iff.mpr some
    refine opens.malformed_of_ne ?_ maxEntries
    rw [← payload, List.length_append]
    omega
  · exact malformed_of_not_opens maxEntries
      fun tag size rest opens => opening ⟨tag, size, rest, opens⟩

theorem malformed_of_extension {extra : Bytes} (more : extra ≠ []) :
    IsMalformed (decode maxEntries (m.encode ++ extra)) := by
  have positive := List.length_pos_iff.mpr more
  refine ((opens_encode small).append extra).malformed_of_ne ?_ maxEntries
  rw [List.length_append]
  omega

end

/-- Bytes are refused for their tag exactly if they begin with a whole front of a foreign tag, whatever it
announces; then the tag is handed on and one warning logged.  All else that is refused is malformed, in
silence, and so is every message that has lost or gained bytes at its end. -/
theorem refusals_of_decode (maxEntries : Nat) :
    (∀ data,
      ((∃ fault, decode maxEntries data = .error fault ∧
          fault.code = Fault.Code.unknownMessageTag) ↔
        ∃ tag size rest, Opens data tag size rest ∧ ∀ k : Kind, k.wireTag ≠ tag) ∧
      (∀ tag size rest, Opens data tag size rest → (∀ k : Kind, k.wireTag ≠ tag) →
        decode maxEntries data = .error
          { code := Fault.Code.unknownMessageTag
            message := Bytes.ofString "Unknown message tag"
            details := tag } ∧
        ∀ levels, (decodeJournal (decode maxEntries data)).records levels =
          if levels.admits .protocol .warning then
            [⟨.protocol, .warning, Log.text ["rejecting message with unknown tag '", tag, "'"]⟩]
          else []) ∧
      ∀ fault, decode maxEntries data = .error fault →
        fault.code ≠ Fault.Code.unknownMessageTag →
        fault.code = Fault.Code.malformedMessage ∧ decodeJournal (decode maxEntries data) = []) ∧
    ∀ m : Message, m.payload.length < UInt32.size →
      (∀ cut, cut <+: m.encode → cut ≠ m.encode → IsMalformed (decode maxEntries cut)) ∧
      ∀ extra, extra ≠ [] → IsMalformed (decode maxEntries (m.encode ++ extra)) := by
  refine ⟨fun data => ⟨code_eq_unknownMessageTag_iff maxEntries, ?_, ?_⟩, ?_⟩
  · intro tag size rest opens foreign
    have refused := opens.decode_of_foreign foreign maxEntries
    refine ⟨refused, ?_⟩
    intro levels
    rw [refused, records_unknownTag]
  · intro fault refused known
    rcases code_of_decode_eq_error refused with malformed | unknown
    · rw [refused]
      exact ⟨malformed, decodeJournal_of_malformed malformed⟩
    · exact absurd unknown known
  · intro m small
    exact ⟨fun cut => malformed_of_strict_prefix small maxEntries,
      fun extra => malformed_of_extension small maxEntries⟩

/-! ## A foreign tag, and a list that is cut -/

namespace Damaged

/-- A tag that no kind has, before a size that is far too large. -/
def foreign : Bytes := [3, 0, 0x46, 0x6F, 0x6F, 0xFF, 0xFF, 0xFF, 0xFF, 7]

theorem opens_foreign : Opens foreign [0x46, 0x6F, 0x6F] 0xFFFFFFFF [7] where
  nonempty := by decide
  short := by decide
  announced := by decide
  split := rfl

theorem wireTag_ne (k : Kind) : k.wireTag ≠ [0x46, 0x6F, 0x6F] := by
  cases k <;> decide

def list : Message := .formatList [⟨1, [0x61]⟩, ⟨13, [0x62, 0x63]⟩]

end Damaged

/-- The foreign tag is reported in spite of the size behind it.  The list is malformed when it is cut in
the middle of its second name, and when one zero byte comes behind it. -/
theorem refusals_of_damaged :
    decode 1 Damaged.foreign = .error (Fault.unknownTag [0x46, 0x6F, 0x6F]) ∧
      (decodeJournal (decode 1 Damaged.foreign)).records {} =
        [⟨.protocol, .warning, Bytes.ofString "rejecting message with unknown tag 'Foo'"⟩] ∧
      Damaged.list.payload.length < UInt32.size ∧
      IsMalformed (decode 2 (Damaged.list.encode.take 38)) ∧
      IsMalformed (decode 2 (Damaged.list.encode ++ [0])) := by
  obtain ⟨-, unknown, -⟩ := (refusals_of_decode 1).1 Damaged.foreign
  obtain ⟨refused, logged⟩ := unknown _ _ _ Damaged.opens_foreign Damaged.wireTag_ne
  have small : Damaged.list.payload.length < UInt32.size := by decide
  obtain ⟨cut, extended⟩ := (refusals_of_decode 2).2 Damaged.list small
  refine ⟨refused, ?_, small, ?_, ?_⟩
  · rw [logged]
    rfl
  · exact cut _ (List.take_prefix ..) (by decide)
  · exact extended _ (by decide)

end Message

end RemoteClipboard
