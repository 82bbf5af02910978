import RemoteClipboard.Proofs.Delivery.Addressing
import RemoteClipboard.Proofs.Delivery.Arrival
import RemoteClipboard.Proofs.Files.Ranges

/-! # One answer for each request

Two things can go wrong with a request: it finds nothing, or its answer does not get through.  The
connection that asks is told of the first.  The caller is told of either, and of the first where both go
wrong (`result_serve_request`).

Requests alone are answered (`answerTo?`), so answers that arrive are never answered in turn.  `state_serve`
says what serving a message does to the registry, and `agreeBut_serve` that it does nothing else. -/

namespace RemoteClipboard

open Message (FileRequest FileReply)

namespace FileShare

section

variable {s : FileShare} {disk : Disk} {routing : Routing} {outbound : Registry}
  {conn : Int32} {m : Message} {r : FileRequest}

theorem answer_of_error {fault : Fault} (refused : s.read disk conn r = .error fault) :
    s.answer disk conn r = ⟨FileReply.failStatus, r.stream, []⟩ := by
  rw [answer, refused]

/-- What a message of a connection is answered with, if it asks for anything. -/
def answerTo? (s : FileShare) (disk : Disk) (conn : Int32) : Message → Option Message
  | .fileContentsRequest r => some (.fileContentsResponse (s.answer disk conn r))
  | _ => none

/-! ## One message -/

section

variable (running : s.stopped = false)
include running

/-- Serving a request ends with what makes the request fail, and otherwise as sending the answer does. -/
theorem result_serve_request :
    (s.serve disk routing outbound conn (.fileContentsRequest r)).result =
      (s.read disk conn r).bind fun _ =>
        (routing.send outbound conn (.fileContentsResponse (s.answer disk conn r))).result := by
  simp only [serve, running, reply, answer]
  cases s.read disk conn r with
  | error fault => rfl
  | ok data => rfl

theorem events_serve_request :
    (s.serve disk routing outbound conn (.fileContentsRequest r)).journal.events = [] := by
  simp only [serve, running, reply]
  cases s.read disk conn r with
  | ok data => simp
  | error fault =>
    -- If the failed answer does not get through either, that is logged, and nobody else hears of it.
    simp only [Outcome.map, Outcome.andTell]
    cases (routing.send outbound conn
      (.fileContentsResponse ⟨FileReply.failStatus, r.stream, []⟩)).result <;> simp

theorem serve_response (reply : FileReply) :
    let served := s.serve disk routing outbound conn (.fileContentsResponse reply)
    served.result = .ok () ∧ served.state = outbound ∧
      served.journal.events = if s.wantsContents then [.fileContents conn reply] else [] := by
  simp only [serve, running]
  cases s.wantsContents with
  | true => exact ⟨rfl, rfl, rfl⟩
  | false => exact ⟨rfl, rfl, rfl⟩

theorem serve_other (noRequest : m.kind ≠ .fileContentsRequest)
    (noResponse : m.kind ≠ .fileContentsResponse) :
    s.serve disk routing outbound conn m =
      ⟨.error (Fault.notFileMessage m.kind), outbound, []⟩ := by
  unfold serve
  rw [running]
  cases m with
  | fileContentsRequest r => exact absurd rfl noRequest
  | fileContentsResponse reply => exact absurd rfl noResponse
  | _ => rfl

/-- Serving a message sends what it is answered with, and does nothing if it is not answered. -/
theorem state_serve :
    (s.serve disk routing outbound conn m).state =
      (s.answerTo? disk conn m).elim outbound fun a => (routing.send outbound conn a).state := by
  cases m with
  | fileContentsRequest r =>
    rw [state_serve_request, running]
    rfl
  | fileContentsResponse reply => exact (serve_response running reply).2.1
  | _ =>
    rw [serve_other running (by simp [Message.kind]) (by simp [Message.kind])]
    rfl

variable (directed : conn ≠ 0)
include directed

theorem agreeBut_serve :
    Registry.AgreeBut conn outbound (s.serve disk routing outbound conn m).state := by
  rw [state_serve running]
  cases s.answerTo? disk conn m with
  | none => exact .refl conn outbound
  | some a =>
    rw [Option.elim_some, Routing.send_of_ne_zero directed]
    exact Registry.agreeBut_post outbound conn a

/-! ## One request -/

theorem serve_request_of_open {waiting : List Message}
    (isOpen : outbound.queueOf? conn = some ⟨waiting, false⟩) :
    let served := s.serve disk routing outbound conn (.fileContentsRequest r)
    served.result = (s.read disk conn r).map (fun _ => ()) ∧
      served.state.queueOf? conn =
        some ⟨waiting ++ [.fileContentsResponse (s.answer disk conn r)], false⟩ := by
  obtain ⟨sent, after⟩ :=
    Registry.post_of_open (m := .fileContentsResponse (s.answer disk conn r)) isOpen rfl
  refine ⟨?_, ?_⟩
  · -- Sending ends well, so the result is that of the reading.
    rw [result_serve_request running, Routing.send_of_ne_zero directed, sent]
    cases s.read disk conn r with
    | error fault => rfl
    | ok data => rfl
  · rw [state_serve running, answerTo?, Option.elim_some, Routing.send_of_ne_zero directed]
    exact after

/-- Where nothing can be sent to a connection, a request of it changes nothing, and ends with the reason
for that unless the request has failed before. -/
theorem serve_request_of_unsent {fault : Fault}
    (unsent : ∀ m, (outbound.post conn m).result = .error fault ∧
      (outbound.post conn m).state = outbound) :
    let served := s.serve disk routing outbound conn (.fileContentsRequest r)
    served.result = (s.read disk conn r).bind (fun _ => .error fault) ∧
      served.state = outbound := by
  obtain ⟨result, state⟩ := unsent (.fileContentsResponse (s.answer disk conn r))
  refine ⟨?_, ?_⟩
  · rw [result_serve_request running, Routing.send_of_ne_zero directed, result]
  · rw [state_serve running, answerTo?, Option.elim_some, Routing.send_of_ne_zero directed, state]

end

theorem code_of_read {fault : Fault} (refused : s.read disk conn r = .error fault) :
    fault.code = Fault.Code.invalidRequest ∨ fault.code = Fault.Code.fileError :=
  (read_eq_error refused).imp And.left And.left

end

/-- What serving a message comes to, for every share that is not stopped and every connection but number
zero.  A request is answered once if its connection takes messages in: with the data, or as failed, and
then the caller gets the fault of the reading.  If it does not, nothing changes, and the caller gets the
fault of the reading, or else that of the sending.  Nothing else is ever answered, and nothing but the queue
of the connection changes. -/
theorem answered_once (s : FileShare) (disk : Disk) (routing : Routing) (outbound : Registry)
    (conn : Int32) (m : Message) (running : s.stopped = false) (directed : conn ≠ 0) :
    let served := (backend disk routing).serve (s, outbound) conn m
    (∀ r, m = .fileContentsRequest r → served.journal.events = [] ∧
      (∀ waiting, outbound.queueOf? conn = some ⟨waiting, false⟩ →
        (∀ data, s.read disk conn r = .ok data →
          served.result = .ok () ∧ served.state.2.queueOf? conn = some
            ⟨waiting ++ [.fileContentsResponse ⟨FileReply.okStatus, r.stream, data⟩], false⟩) ∧
        ∀ fault, s.read disk conn r = .error fault →
          served.result = .error fault ∧
          (fault.code = Fault.Code.invalidRequest ∨ fault.code = Fault.Code.fileError) ∧
          served.state.2.queueOf? conn = some
            ⟨waiting ++ [.fileContentsResponse ⟨FileReply.failStatus, r.stream, []⟩], false⟩) ∧
      (outbound.queueOf? conn = none → served.state.2 = outbound ∧
        served.result = (s.read disk conn r).bind fun _ => .error (Fault.noConnection conn)) ∧
      (∀ waiting, outbound.queueOf? conn = some ⟨waiting, true⟩ → served.state.2 = outbound ∧
        served.result = (s.read disk conn r).bind fun _ => .error (Fault.queueClosed conn))) ∧
    (∀ reply, m = .fileContentsResponse reply →
      served.result = .ok () ∧ served.state.2 = outbound ∧
      served.journal.events = if s.wantsContents then [.fileContents conn reply] else []) ∧
    (m.kind ≠ .fileContentsRequest → m.kind ≠ .fileContentsResponse →
      served.state.2 = outbound ∧ served.journal.events = [] ∧
        ∃ fault, served.result = .error fault ∧ fault.code = Fault.Code.invalidRequest) ∧
    served.state.1 = s ∧ Registry.AgreeBut conn outbound served.state.2 := by
  refine ⟨?_, ?_, ?_, rfl, agreeBut_serve running directed⟩
  · rintro r rfl
    refine ⟨events_serve_request running, ?_, ?_, ?_⟩
    · intro waiting isOpen
      obtain ⟨result, state⟩ :=
        serve_request_of_open (r := r) running directed isOpen
      refine ⟨?_, ?_⟩
      · intro data found
        rw [found] at result
        rw [answer_of_read found] at state
        exact ⟨result, state⟩
      · intro fault refused
        rw [refused] at result
        rw [answer_of_error refused] at state
        exact ⟨result, code_of_read refused, state⟩
    · intro missing
      exact (serve_request_of_unsent running directed
        fun _ => Registry.post_of_none missing).symm
    · intro waiting closed
      exact (serve_request_of_unsent running directed
        fun _ => Registry.post_of_closed closed rfl).symm
  · rintro reply rfl
    exact serve_response running reply
  · intro noRequest noResponse
    have served : s.serve disk routing outbound conn m =
        ⟨.error (Fault.notFileMessage m.kind), outbound, []⟩ :=
      serve_other running noRequest noResponse
    exact ⟨congrArg Outcome.state served, congrArg (·.journal.events) served, _,
      congrArg Outcome.result served, rfl⟩

/-- The data is sent, a request for too much is answered as failed, and an answer that nobody can get is
a fault. -/
theorem answered_of_single :
    let serve (outbound : Registry) (m : Message) :=
      (backend Single.disk ⟨true, 0⟩).serve (Single.share, outbound) 5 m
    let found := serve Single.outbound (.fileContentsRequest (Single.request 2))
    let refused := serve Single.outbound (.fileContentsRequest (Single.request 65))
    let unknown := serve {} (.fileContentsRequest (Single.request 2))
    found.result = .ok () ∧ found.state.2.queueOf? 5 =
        some ⟨[.fileContentsResponse ⟨FileReply.okStatus, 1, [0, 1]⟩], false⟩ ∧
      refused.result = .error (Fault.sizeOverLimit 65 64) ∧ refused.state.2.queueOf? 5 =
        some ⟨[.fileContentsResponse ⟨FileReply.failStatus, 1, []⟩], false⟩ ∧
      unknown.result = .error (Fault.noConnection 5) := by
  intro serve found refused unknown
  have isOpen : Single.outbound.queueOf? 5 = some ⟨[], false⟩ :=
    Registry.queueOf?_of_findConn? Single.findConn?_outbound
  have missing : ({} : Registry).queueOf? 5 = none := by
    simp [Registry.queueOf?, Registry.findConn?]
  have short : Single.share.read Single.disk 5 (Single.request 2) = .ok [0, 1] := by
    rw [read_of_range (r := Single.request 2) Single.resolve_share rfl rfl
      (Single.readable_request 2 _) (by decide) (by decide), Single.offset_request]
    rfl
  have long : Single.share.read Single.disk 5 (Single.request 65) =
      .error (Fault.sizeOverLimit 65 64) := by
    simp only [read, Single.request, Single.resolve_share]
    rfl
  have answered (outbound : Registry) (r : FileRequest) :=
    (answered_once Single.share Single.disk ⟨true, 0⟩ outbound 5 (.fileContentsRequest r) rfl
      (by decide)).1 r rfl
  obtain ⟨-, ok, -⟩ := answered Single.outbound (Single.request 2)
  obtain ⟨-, fails, -⟩ := answered Single.outbound (Single.request 65)
  obtain ⟨-, -, unsent, -⟩ := answered {} (Single.request 2)
  obtain ⟨result, state⟩ := (ok [] isOpen).1 _ short
  obtain ⟨resultFailed, -, stateFailed⟩ := (fails [] isOpen).2 _ long
  refine ⟨result, state, resultFailed, stateFailed, ?_⟩
  rw [short] at unsent
  exact (unsent missing).2

end FileShare

end RemoteClipboard
