import RemoteClipboard.Proofs.Wire.Grammar

/-! # Messages survive the wire

What `Message.encode` writes is one of the forms of the message (`fieldForm_payload`), so reading it
gives the message back, unless it is a list of more formats than the reader puts up with.  The only
limit is that of the wire itself: four bytes have to spell the length of the payload. -/

namespace RemoteClipboard

namespace Message

/-! ## What is written is a form -/

theorem length_counted (b : Bytes) : (counted b).length = 4 + b.length := by
  simp [counted]

theorem countedForm_counted {b : Bytes} (small : b.length < UInt32.size) :
    CountedForm b (counted b) := by
  refine ⟨small, ?_⟩
  rw [counted, le32, UInt32.toNat_ofNat_of_lt' small]

theorem length_fields (e : FormatEntry) : e.fields.length = 8 + e.name.length := by
  simp [FormatEntry.fields, length_counted]
  omega

theorem length_flatMap_fields (entries : List FormatEntry) :
    8 * entries.length ≤ (entries.flatMap FormatEntry.fields).length := by
  induction entries with
  | nil => simp
  | cons e rest ih =>
    have entry := length_fields e
    simp only [List.flatMap_cons, List.length_append, List.length_cons]
    omega

theorem entriesForm_fields {entries : List FormatEntry}
    (small : (entries.flatMap FormatEntry.fields).length < UInt32.size) :
    EntriesForm entries (entries.flatMap FormatEntry.fields) := by
  induction entries with
  | nil => exact .nil
  | cons e rest ih =>
    have entry := length_fields e
    simp only [List.flatMap_cons, List.length_append] at small
    have name : e.name.length < UInt32.size := by omega
    rw [List.flatMap_cons, FormatEntry.fields]
    exact .cons (countedForm_counted name) (ih (by omega))

theorem clipDataForm_fields (clipData : Option Int32) :
    ClipDataForm clipData
      ([if clipData.isSome then 1 else 0] ++ leInt32 (clipData.getD 0)) := by
  cases clipData with
  | none => exact .absent (length_leInt32 0)
  | some n => exact .present (show (1 : UInt8) ≠ 0 by decide)

/-- The fields that are written for a message are a form of it. -/
theorem fieldForm_payload {maxEntries : Nat} {m : Message}
    (small : m.payload.length < UInt32.size)
    (few : ∀ entries, m = .formatList entries → entries.length ≤ maxEntries) :
    FieldForm maxEntries m m.payload := by
  cases m with
  | notifyCallback kind title text =>
    simp only [payload, List.length_append, length_counted] at small
    exact .notifyCallback (countedForm_counted (by omega)) (countedForm_counted (by omega))
      (countedForm_counted (by omega))
  | monitorReady => exact .monitorReady
  | formatList entries =>
    have enough := length_flatMap_fields entries
    simp only [payload, List.length_append, length_le32] at small
    have count : entries.length < UInt32.size := by omega
    rw [payload, le32, UInt32.toNat_ofNat_of_lt' count]
    exact .formatList count (few entries rfl) (entriesForm_fields (by omega))
  | formatListResponse status => exact .formatListResponse status
  | formatDataRequest format => exact .formatDataRequest format
  | formatDataResponse status payload =>
    simp only [Message.payload, List.length_append, length_counted] at small
    exact .formatDataResponse (countedForm_counted (by omega))
  | fileContentsRequest r =>
    rw [payload, FileRequest.fields, List.append_assoc]
    exact .fileContentsRequest (clipDataForm_fields r.clipData)
  | fileContentsResponse r =>
    simp only [payload, FileReply.fields, List.length_append, length_counted] at small
    exact .fileContentsResponse (countedForm_counted (by omega))

theorem length_payload_le (m : Message) : m.payload.length ≤ m.encode.length := by
  simp only [encode, frame, length_counted, List.length_append]
  omega

/-! ## Reading what is written -/

theorem encode_eq_front {m : Message} (small : m.payload.length < UInt32.size) :
    m.encode = front m.kind.wireTag m.payload.length ++ m.payload := by
  have short : m.kind.wireTag.length < UInt16.size :=
    Nat.lt_of_le_of_lt (wireTag_bounds m.kind).2 (by decide)
  simp only [encode, frame, counted, front, le16, le32, UInt16.toNat_ofNat_of_lt' short,
    UInt32.toNat_ofNat_of_lt' small, List.append_assoc]

theorem decode_encode {maxEntries : Nat} {m : Message} (small : m.payload.length < UInt32.size)
    (few : ∀ entries, m = .formatList entries → entries.length ≤ maxEntries) :
    decode maxEntries m.encode = .ok m := by
  rw [encode_eq_front small, decode_front maxEntries small]
  exact readPayload_eq_ok_iff.mpr
    ⟨rfl, m.payload, [], (List.append_nil _).symm, fieldForm_payload small few⟩

theorem decode_encode_tooMany {maxEntries : Nat} {entries : List FormatEntry}
    (small : (formatList entries).payload.length < UInt32.size)
    (tooMany : maxEntries < entries.length) :
    decode maxEntries (formatList entries).encode =
      .error (Fault.tooManyFormats entries.length) := by
  have enough := length_flatMap_fields entries
  rw [encode_eq_front small, decode_front maxEntries small]
  simp only [payload, List.length_append, length_le32] at small
  have back : (UInt32.ofNat entries.length).toNat = entries.length :=
    UInt32.toNat_ofNat_of_lt' (by omega)
  rw [← back] at tooMany
  rw [payload, kind, readPayload_tooMany _ tooMany, back]

theorem encode_injective {m₁ m₂ : Message} (small₁ : m₁.payload.length < UInt32.size)
    (small₂ : m₂.payload.length < UInt32.size) (same : m₁.encode = m₂.encode) : m₁ = m₂ := by
  -- A reader that puts up with as many formats as either has reads both.
  let count : Message → Nat
    | .formatList entries => entries.length
    | _ => 0
  have few₁ : ∀ entries, m₁ = .formatList entries → entries.length ≤ count m₁ + count m₂ := by
    intro entries eq
    subst eq
    exact Nat.le_add_right ..
  have few₂ : ∀ entries, m₂ = .formatList entries → entries.length ≤ count m₁ + count m₂ := by
    intro entries eq
    subst eq
    exact Nat.le_add_left ..
  have read₁ := decode_encode small₁ few₁
  rw [same, decode_encode small₂ few₂] at read₁
  injection read₁ with eq
  exact eq.symm

/-- Reading what was written gives the message back for every message of every kind, or the count of
a list that is too long.  So no two messages are written alike. -/
theorem decode_encode_and_injective (m : Message) (small : m.payload.length < UInt32.size) :
    (∀ maxEntries, decode maxEntries m.encode =
      match m with
      | .formatList entries =>
        if maxEntries < entries.length then
          .error { code := Fault.Code.malformedMessage
                   message := Bytes.ofString "Too many formats in list"
                   details := Bytes.decimal entries.length }
        else .ok (.formatList entries)
      | m => .ok m) ∧
    ∀ m' : Message, m'.payload.length < UInt32.size → m.encode = m'.encode → m = m' := by
  refine ⟨?_, fun m' small' same => encode_injective small small' same⟩
  intro maxEntries
  cases m with
  | formatList entries =>
    by_cases tooMany : maxEntries < entries.length
    · rw [decode_encode_tooMany small tooMany]
      simp only [tooMany, if_true]
      rfl
    · rw [decode_encode small (by intro _ eq; cases eq; omega)]
      simp only [tooMany, if_false]
  | _ => exact decode_encode small (by intro _ eq; cases eq)

/-- Two requests that differ only in that one has no clipboard data and the other has number zero
are written differently. -/
theorem encode_request_absent_ne_zero :
    let absent := fileContentsRequest ⟨3, 0, 2, 500, -1, 8, none⟩
    let zero := fileContentsRequest ⟨3, 0, 2, 500, -1, 8, some 0⟩
    absent.payload.length < UInt32.size ∧ zero.payload.length < UInt32.size ∧
      decode 0 absent.encode = .ok absent ∧ absent.encode ≠ zero.encode := by
  intro absent zero
  have small : absent.payload.length < UInt32.size := by decide
  have small' : zero.payload.length < UInt32.size := by decide
  obtain ⟨reads, injective⟩ := decode_encode_and_injective absent small
  refine ⟨small, small', reads 0, ?_⟩
  intro same
  have equal : absent = zero := injective zero small' same
  injection equal with equal
  injection equal with _ _ _ _ _ _ clipData
  cases clipData

end Message

end RemoteClipboard
