import Mathlib.Data.List.DropRight
import Mathlib.Data.List.Induction
import RemoteClipboard.Proofs.Server.Exchanges

/-! # What an exchange remembers

An exchange keeps three things, and all of them can be read off the messages that it was told of since
it was last reset: whether one of these opens an exchange, the kind of the last one that counts, and
whether the backend may be stopped after it (`Remembers`).  A message counts if it is no notification
and not turned away, and what is turned away is what comes before any opening (`tooEarly`).  One more
message keeps this true (`Remembers.observe`), and so it is true of every history
(`state_of_history`). -/

namespace RemoteClipboard

namespace Exchange

/-! ## Histories -/

def Request.message? : Request → Option Message
  | .observe m => some m
  | _ => none

/-- The messages since the last reset. -/
def heard (qs : List Request) : List Message :=
  (qs.rtakeWhile (· ≠ .reset)).filterMap Request.message?

/-- Whether a message comes after none that opens an exchange, and is one that has to. -/
def tooEarly (past : List Message) (m : Message) : Bool :=
  decide (m.kind ≠ .notifyCallback ∧ ¬ m.IsOpening ∧ ∀ earlier ∈ past, ¬ earlier.IsOpening)

/-- The messages that count among those that come after some others: neither notifications nor too
early. -/
def counted (past : List Message) : List Message → List Message
  | [] => []
  | m :: rest =>
    if m.kind = .notifyCallback ∨ tooEarly past m = true then counted (past ++ [m]) rest
    else m :: counted (past ++ [m]) rest

def after (x : Exchange) : List Request → Exchange
  | [] => x
  | q :: rest => (x.next q).after rest

/-- What came of a request, and the exchange that it left. -/
structure Turn where
  request : Request
  answer : Option Answer
  exchange : Exchange

def turns (x : Exchange) : List Request → List Turn
  | [] => []
  | q :: rest => ⟨q, x.answer? q, x.next q⟩ :: (x.next q).turns rest

/-- Whether a request is anything but to take note of a notification. -/
def Request.isOrdinary : Request → Bool
  | .observe m => m.kind ≠ .notifyCallback
  | _ => true

variable {x : Exchange} {h : List Message} {m : Message}

theorem after_append (x : Exchange) (qs rest : List Request) :
    x.after (qs ++ rest) = (x.after qs).after rest := by
  induction qs generalizing x with
  | nil => rfl
  | cons q qs ih => exact ih (x.next q)

theorem heard_concat (qs : List Request) (q : Request) :
    heard (qs ++ [q]) = if q = .reset then [] else heard qs ++ q.message?.toList := by
  by_cases reset : q = .reset
  · simp [heard, reset]
  · rw [heard, List.rtakeWhile_concat_pos _ _ _ (by simpa using reset), if_neg reset,
      List.filterMap_append]
    cases q <;> rfl

theorem counted_concat (past h : List Message) (m : Message) :
    counted past (h ++ [m]) = counted past h ++
      if m.kind = .notifyCallback ∨ tooEarly (past ++ h) m = true then [] else [m] := by
  induction h generalizing past with
  | nil => simp [counted]
  | cons first h ih =>
    rw [List.cons_append, counted, counted, ih, List.append_assoc, List.singleton_append]
    split <;> rfl

/-! ## What is kept of them -/

/-- An exchange knows of a history what can be asked of it. -/
structure Remembers (x : Exchange) (h : List Message) : Prop where
  started : x.started = true ↔ ∃ m ∈ h, m.IsOpening
  last : x.last = (counted [] h).getLast?.map Message.kind
  present : x.last.isSome = x.started
  canStop : x.canStop = true ↔ x.last = none ∨
    ∃ k ∈ [.monitorReady, .formatList, .formatDataRequest], x.last = some k

theorem remembers_nil : Remembers {} [] where
  started := by simp
  last := rfl
  present := rfl
  canStop := by simp

theorem tooEarly_iff (knows : x.Remembers h) : tooEarly h m = true ↔ x.OutOfOrder m := by
  have closed : x.started = false ↔ ∀ earlier ∈ h, ¬ earlier.IsOpening := by
    rw [← Bool.not_eq_true, knows.started]
    simp
  rw [tooEarly, decide_eq_true_iff, OutOfOrder, closed]

theorem observe_of_tooEarly (knows : x.Remembers h) (early : tooEarly h m = true) :
    x.observe m = ⟨.error (Fault.beforeBeginning m.kind), x, []⟩ :=
  observe_of_outOfOrder ((tooEarly_iff knows).mp early)

theorem observe_of_not_tooEarly (knows : x.Remembers h) (early : tooEarly h m = false) :
    (x.observe m).result = .ok () ∧ (x.observe m).state = x.noting m :=
  observe_of_inOrder (by simp [← tooEarly_iff knows, early])

/-- A message that does not count is remembered by an exchange that stays as it is. -/
theorem Remembers.concat (knows : x.Remembers h)
    (ignored : m.kind = .notifyCallback ∨ tooEarly h m = true) : x.Remembers (h ++ [m]) := by
  have later : ¬ m.IsOpening := by
    rcases ignored with notification | early
    · simp [Message.IsOpening, notification]
    · exact ((tooEarly_iff knows).mp early).2.1
  have same : counted [] (h ++ [m]) = counted [] h := by
    rw [counted_concat, List.nil_append, if_pos ignored, List.append_nil]
  exact {
    started := by simp [knows.started, later]
    last := by rw [same, knows.last]
    present := knows.present
    canStop := knows.canStop }

theorem exists_isOpening_concat (ordinary : m.kind ≠ .notifyCallback)
    (early : tooEarly h m = false) : ∃ opening ∈ h ++ [m], opening.IsOpening := by
  by_contra none
  push Not at none
  have early' : tooEarly h m = true := decide_eq_true
    ⟨ordinary, none m (by simp), fun earlier member => none earlier (by simp [member])⟩
  rw [early] at early'
  cases early'

/-- One more message is remembered. -/
theorem Remembers.observe (knows : x.Remembers h) (m : Message) :
    (x.observe m).state.Remembers (h ++ [m]) := by
  cases early : tooEarly h m with
  | true =>
    rw [observe_of_tooEarly knows early]
    exact knows.concat (.inr early)
  | false =>
    rw [(observe_of_not_tooEarly knows early).2, noting]
    by_cases notification : m.kind = .notifyCallback
    · rw [if_pos notification]
      exact knows.concat (.inl notification)
    · have counts : counted [] (h ++ [m]) = counted [] h ++ [m] := by
        rw [counted_concat, List.nil_append, if_neg (by simp [notification, early])]
      rw [if_neg notification]
      exact {
        started := iff_of_true rfl (exists_isOpening_concat notification early)
        last := by simp [counts]
        present := rfl
        canStop := by simp }

theorem remembers_heard (qs : List Request) : (after {} qs).Remembers (heard qs) := by
  -- What a request does depends on those before it, so the last one is taken off.
  induction qs using List.reverseRecOn with
  | nil => exact remembers_nil
  | append_singleton qs q knows =>
    rw [after_append, heard_concat]
    cases q with
    | observe m => exact knows.observe m
    | canStop => simpa [after, next, Request.message?] using knows
    | reset => exact remembers_nil

/-! ## Notifications -/

theorem next_of_not_isOrdinary {q : Request} (x : Exchange) (notification : q.isOrdinary = false) :
    x.next q = x := by
  cases q with
  | observe m =>
    have kind : m.kind = .notifyCallback := by simpa [Request.isOrdinary] using notification
    simp [next, Exchange.observe, kind]
  | canStop => rfl
  | reset => cases notification

theorem after_filter_isOrdinary (x : Exchange) (qs : List Request) :
    x.after (qs.filter Request.isOrdinary) = x.after qs := by
  induction qs generalizing x with
  | nil => rfl
  | cons q qs ih =>
    cases ordinary : q.isOrdinary with
    | true => rw [List.filter_cons_of_pos ordinary, after, after, ih]
    | false =>
      rw [List.filter_cons_of_neg (by simp [ordinary]), after, next_of_not_isOrdinary x ordinary, ih]

theorem turns_filter_isOrdinary (x : Exchange) (qs : List Request) :
    x.turns (qs.filter Request.isOrdinary) =
      (x.turns qs).filter (·.request.isOrdinary) := by
  induction qs generalizing x with
  | nil => rfl
  | cons q qs ih =>
    cases ordinary : q.isOrdinary with
    | true => simp only [List.filter_cons, turns, ordinary, if_true, ih]
    | false =>
      simp only [List.filter_cons, turns, ordinary, Bool.false_eq_true, if_false, ih,
        next_of_not_isOrdinary x ordinary]

/-! ## Every history -/

/-- Whatever an exchange was told and however often it was reset, what it answers and what it keeps
follows from the messages since the last reset.  Requests that differ in notifications alone lead to
the same exchange, through the same answers to all others. -/
theorem state_of_history (qs : List Request) :
    let x := after {} qs
    let h := heard qs
    (∀ m,
      ((∃ fault, (x.observe m).result = .error fault ∧ fault.code = .protocolViolation) ↔
        tooEarly h m = true) ∧
      ((x.observe m).result = .ok () ↔ tooEarly h m = false) ∧
      (tooEarly h m = true → (x.observe m).state = x)) ∧
    (x.started = true ↔ ∃ m ∈ h, m.IsOpening) ∧
    x.last = (counted [] h).getLast?.map Message.kind ∧
    (x.last.isSome = true ↔ x.started = true) ∧
    (x.canStop = true ↔ x.last = none ∨
      ∃ k ∈ [.monitorReady, .formatList, .formatDataRequest], x.last = some k) ∧
    ∀ others, others.filter Request.isOrdinary = qs.filter Request.isOrdinary →
      after {} others = x ∧
        (turns {} others).filter (·.request.isOrdinary) =
          (turns {} qs).filter (·.request.isOrdinary) := by
  intro x h
  have knows : x.Remembers h := remembers_heard qs
  refine ⟨?_, knows.started, knows.last, ?_, knows.canStop, ?_⟩
  · intro m
    cases early : tooEarly h m with
    | true =>
      rw [observe_of_tooEarly knows early]
      simp [Fault.beforeBeginning, Fault.worded]
    | false => simp [(observe_of_not_tooEarly knows early).1]
  · rw [knows.present]
  · intro others same
    constructor
    · rw [← after_filter_isOrdinary, same, after_filter_isOrdinary]
    · rw [← turns_filter_isOrdinary, same, turns_filter_isOrdinary]

/-! ## An exchange that is opened twice -/

namespace Reopened

def notification : Message := .notifyCallback [] [] []

/-- The exchange is forgotten, and a request comes before it is opened again. -/
def early : List Request :=
  [.observe .monitorReady, .reset, .observe notification, .observe (.formatDataRequest 7)]

def late : List Request :=
  early ++ [.observe (.formatList []), .observe notification, .observe (.formatDataResponse 1 [])]

end Reopened

/-- Nothing is kept of what comes too early, and nothing of notifications. -/
theorem state_of_reopened :
    ((after {} Reopened.early).observe (.formatListResponse 1)).state = after {} Reopened.early ∧
      (after {} Reopened.late).last = some .formatDataResponse ∧
      (after {} Reopened.late).canStop = false ∧
      after {} (Reopened.late.filter Request.isOrdinary) = after {} Reopened.late := by
  obtain ⟨verdicts, -⟩ := state_of_history Reopened.early
  obtain ⟨-, -, last, -, canStop, same⟩ := state_of_history Reopened.late
  have kind : (after {} Reopened.late).last = some .formatDataResponse := last.trans rfl
  refine ⟨(verdicts _).2.2 rfl, kind, ?_, (same _ (by simp)).1⟩
  rw [Bool.eq_false_iff, ne_eq, canStop, kind]
  simp

end Exchange

end RemoteClipboard
