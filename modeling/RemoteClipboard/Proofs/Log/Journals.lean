import Mathlib.Tactic.MkIffOfInductiveProp
import RemoteClipboard.Host.Command

/-! # At which levels lines are written

Whatever a host is told to do, and however that ends, the lines that it writes are written at levels
that are meant for it (`Host.wellLeveled_step`).  Such a line is let through if its level is at least
that of its domain (`Journal.records_eq_filter`), and a domain whose level is that of the least
pressing lines, or below, lets all of them through (`Journal.records_of_lowest`).

A backend can be anything, and so can the lines that it writes; here they are its own affair
(`Backend.WellLeveled`). -/

namespace RemoteClipboard

/-- Whether each line has a level that is meant to be written at. -/
@[mk_iff]
structure Journal.WellLeveled (j : Journal) : Prop where
  level : ∀ r, Notice.log r ∈ j → r.level ∈ Log.Level.writable

/-- Whether whatever a backend makes known has such levels. -/
structure Backend.WellLeveled {σ : Type} (b : Backend σ) : Prop where
  stop : ∀ state, (b.stop state).journal.WellLeveled
  empty : ∀ state conn, (b.empty state conn).journal.WellLeveled
  serve : ∀ state conn m, (b.serve state conn m).journal.WellLeveled

/-! ## Journals -/

namespace Journal

variable {j : Journal} {ls : Log.Levels}

@[simp] theorem wellLeveled_nil : WellLeveled [] := by
  simp [wellLeveled_iff]

@[simp] theorem wellLeveled_append {i : Journal} :
    (i ++ j).WellLeveled ↔ i.WellLeveled ∧ j.WellLeveled := by
  simp only [wellLeveled_iff, List.mem_append, or_imp, forall_and]

@[simp] theorem wellLeveled_line {domain : Log.Domain} {level : Log.Level}
    {pieces : List Log.Piece} :
    WellLeveled (.line domain level pieces :: j) ↔ level ∈ Log.Level.writable ∧ j.WellLeveled := by
  simp [wellLeveled_iff, Notice.line, or_imp, forall_and]

@[simp] theorem wellLeveled_faultLine {domain : Log.Domain} {fault : Fault} {context : String} :
    WellLeveled (.faultLine domain fault context :: j) ↔ j.WellLeveled := by
  simp [wellLeveled_iff, Notice.faultLine, Fault.record, or_imp, forall_and, Log.Level.writable]

@[simp] theorem wellLeveled_event {e : Event} :
    WellLeveled (.event e :: j) ↔ j.WellLeveled := by
  simp [wellLeveled_iff]

/-- The level of a domain is all that keeps a line back. -/
theorem records_eq_filter (leveled : j.WellLeveled) (ls : Log.Levels) :
    j.records ls = (j.filterMap Notice.record?).filter fun r =>
      decide ((ls.of r.domain).value ≤ r.level.value) := by
  rw [records_eq]
  apply List.filter_congr
  intro r member
  obtain ⟨notice, here, eq⟩ := List.mem_filterMap.mp member
  cases notice with
  | event e => cases eq
  | log line =>
    cases eq
    -- The one level that is never let through is none of those.
    have meant : r.level ≠ Log.Level.off := by
      intro off
      have writable := leveled.level r here
      rw [off] at writable
      exact absurd writable (by decide)
    simp [Log.Levels.admits, meant]

theorem records_of_lowest (leveled : j.WellLeveled)
    (lowest : ∀ domain, (ls.of domain).value ≤ 0) :
    j.records ls = j.filterMap Notice.record? := by
  rw [records_eq_filter leveled, List.filter_eq_self]
  intro r member
  obtain ⟨notice, here, eq⟩ := List.mem_filterMap.mp member
  cases notice with
  | event e => cases eq
  | log line =>
    cases eq
    have least : ∀ level ∈ Log.Level.writable, 0 ≤ level.value := by decide
    exact decide_eq_true (Int8.le_trans (lowest r.domain) (least _ (leveled.level r here)))

end Journal

/-! ## Delivery -/

namespace Registry

theorem wellLeveled_openPeer (r : Registry) (peer : Bytes) :
    (r.openPeer peer).journal.WellLeveled := by
  unfold openPeer
  split
  next => simp
  next => simp [Log.Level.writable]

theorem wellLeveled_openConn (r : Registry) (conn : Int32) :
    (r.openConn conn).journal.WellLeveled := by
  unfold openConn
  split
  next => simp [Log.Level.writable]
  next => split <;> simp [Log.Level.writable]

theorem wellLeveled_post (r : Registry) (conn : Int32) (m : Message) :
    (r.post conn m).journal.WellLeveled := by
  unfold post
  split <;> simp [Log.Level.writable]

theorem wellLeveled_broadcast (r : Registry) (m : Message) :
    (r.broadcast m).journal.WellLeveled := by
  constructor
  intro line member
  obtain ⟨entry, -, eq⟩ := List.mem_filterMap.mp member
  split at eq
  next =>
    cases eq
    simp [Log.Level.writable]
  next => cases eq

end Registry

theorem Routing.wellLeveled_send (routing : Routing) (r : Registry) (conn : Int32) (m : Message) :
    (routing.send r conn m).journal.WellLeveled := by
  unfold send
  split
  next => exact Registry.wellLeveled_post ..
  next =>
    split
    next => exact Registry.wellLeveled_post ..
    next => simp [Registry.wellLeveled_broadcast, Log.Level.writable]

/-! ## Streams -/

theorem Message.wellLeveled_decodeJournal (result : Except Fault Message) :
    (decodeJournal result).WellLeveled := by
  unfold decodeJournal
  split
  next => simp
  next => split <;> simp [Log.Level.writable]

theorem PacketStream.wellLeveled_next (s : PacketStream) : s.next.journal.WellLeveled := by
  unfold next
  split
  next => simp
  next => simp [Log.Level.writable]
  next =>
    split
    next => exact Message.wellLeveled_decodeJournal _
    next => simp

theorem PacketStream.wellLeveled_drain (s : PacketStream) :
    ∀ taken ∈ s.drain.1, taken.journal.WellLeveled := by
  fun_induction drain s with
  | case1 s some first rest last eq ih =>
    simp only [eq] at ih
    exact List.forall_mem_cons.mpr ⟨s.wellLeveled_next, ih⟩
  | case2 s none => simp

/-! ## Backends -/

theorem Backend.WellLeveled.within {σ τ : Type} {b : Backend σ} (leveled : b.WellLeveled)
    (part : τ → σ) (replace : τ → σ → τ) : (b.within part replace).WellLeveled where
  stop _ := leveled.stop _
  empty _ _ := leveled.empty _ _
  serve _ _ _ := leveled.serve _ _ _

theorem Script.wellLeveled_backend : backend.WellLeveled where
  stop _ := by simp [backend]
  empty _ _ := by simp [backend]
  serve _ _ _ := by simp [backend]

namespace FileShare

variable (s : FileShare) (disk : Disk) (routing : Routing) (outbound : Registry) (conn : Int32)

theorem wellLeveled_reply (r : Message.FileRequest) :
    (s.reply disk routing outbound conn r).journal.WellLeveled := by
  unfold reply
  split
  next fault _ =>
    have sent := routing.wellLeveled_send outbound conn
      (.fileContentsResponse ⟨Message.FileReply.failStatus, r.stream, []⟩)
    simp only [Outcome.map, Outcome.andTell, Journal.wellLeveled_append]
    refine ⟨sent, ?_⟩
    split <;> simp
  next =>
    simp [Routing.wellLeveled_send, Log.Level.writable]

theorem wellLeveled_serve (m : Message) :
    (s.serve disk routing outbound conn m).journal.WellLeveled := by
  unfold serve
  split
  next => simp
  next =>
    split
    next => exact wellLeveled_reply ..
    next =>
      dsimp only
      split <;> simp [Log.Level.writable]
    next => simp

theorem wellLeveled_backend : (backend disk routing).WellLeveled where
  stop state := by
    simp only [backend, Outcome.mapState, stop]
    split <;> simp [Log.Level.writable]
  empty _ _ := by simp [backend, Outcome.mapState, withdraw]
  serve _ _ _ := wellLeveled_serve ..

end FileShare

/-! ## The server -/

theorem Exchange.wellLeveled_observe (x : Exchange) (m : Message) :
    (x.observe m).journal.WellLeveled := by
  unfold observe
  split
  next => simp
  next =>
    split
    next => simp
    next =>
      dsimp only
      split <;> simp [Log.Level.writable]

namespace Server

variable {σ : Type} {b : Backend σ} (leveled : b.WellLeveled) (s : Server) (state : σ)
  (conn : Int32)

theorem wellLeveled_report (fault : Fault) : (s.report conn fault).WellLeveled := by
  unfold report
  split <;> simp

include leveled

theorem wellLeveled_handle (m : Message) : (handle b s state conn m).journal.WellLeveled := by
  unfold handle
  dsimp only
  split
  next => simp [Exchange.wellLeveled_observe, Log.Level.writable]
  next =>
    split
    next =>
      simp only [Journal.wellLeveled_append]
      refine ⟨⟨Exchange.wellLeveled_observe _ m, leveled.serve state conn m⟩, ?_⟩
      split <;> simp
    next =>
      simp only [Journal.wellLeveled_append]
      refine ⟨Exchange.wellLeveled_observe _ m, ?_⟩
      split <;> simp

theorem wellLeveled_handleAll (ms : List Message) :
    (handleAll b s state conn ms).journal.WellLeveled := by
  induction ms generalizing s state with
  | nil => simp [handleAll]
  | cons m ms ih =>
    simp only [handleAll, Journal.wellLeveled_append]
    refine ⟨⟨wellLeveled_handle leveled s state conn m, ?_⟩, ih _ _⟩
    split
    next => exact wellLeveled_report ..
    next => simp

theorem wellLeveled_run (inbound : Registry) :
    (run b s inbound state conn).journal.WellLeveled := by
  unfold run
  dsimp only
  split
  next => simp [Registry.wellLeveled_openConn, wellLeveled_report]
  next =>
    simp [Registry.wellLeveled_openConn, wellLeveled_handleAll leveled, Log.Level.writable]

theorem wellLeveled_tryStop : (s.tryStop b state conn).journal.WellLeveled := by
  unfold tryStop
  split
  next => simp [Log.Level.writable]
  next =>
    simp only [Outcome.andTell, Outcome.map, Journal.wellLeveled_append]
    refine ⟨leveled.stop state, ?_⟩
    split <;> simp

omit s in
theorem wellLeveled_empty : (Server.empty b state conn).journal.WellLeveled := by
  simp only [Server.empty, Outcome.andTell, Journal.wellLeveled_append]
  refine ⟨leveled.empty state conn, ?_⟩
  split <;> simp

end Server

/-! ## Hosts -/

namespace Host

variable (h : Host)

theorem wellLeveled_fileBackend : h.fileBackend.WellLeveled :=
  (FileShare.wellLeveled_backend ..).within ..

theorem wellLeveled_hostBackend : h.backend.WellLeveled := by
  unfold backend
  split
  next => exact Script.wellLeveled_backend.within ..
  next => exact h.wellLeveled_fileBackend

theorem wellLeveled_openConn (side : Side) (conn : Int32) :
    (h.openConn side conn).journal.WellLeveled := by
  unfold openConn
  dsimp only
  split <;> exact Registry.wellLeveled_openConn ..

theorem wellLeveled_deliverTaken (conn : Int32) {taken : List PacketStream.Taken}
    (leveled : ∀ t ∈ taken, t.journal.WellLeveled) :
    (h.deliverTaken conn taken).journal.WellLeveled := by
  induction taken generalizing h with
  | nil => simp [deliverTaken]
  | cons first taken ih =>
    obtain ⟨here, later⟩ := List.forall_mem_cons.mp leveled
    simp only [deliverTaken, Journal.wellLeveled_append]
    refine ⟨⟨here, ?_⟩, ih _ later⟩
    split
    next => simp
    next => exact Routing.wellLeveled_send ..

theorem wellLeveled_runToEnd (conn : Int32) : (h.runToEnd conn).journal.WellLeveled := by
  have ran (g : Host) : (g.run conn).journal.WellLeveled :=
    Server.wellLeveled_run g.wellLeveled_hostBackend ..
  unfold runToEnd
  split
  next => exact ran h
  next => exact Journal.wellLeveled_append.mpr ⟨Registry.wellLeveled_openConn .., ran _⟩

/-- Whatever a host does, it writes lines at the levels that are meant for it. -/
theorem wellLeveled_step (c : Command) : (h.step c).journal.WellLeveled := by
  cases c with
  | init settings =>
    simp only [step, init, Bridge.init, Outcome.map, Outcome.mapState]
    split
    next => simp
    next => split <;> simp [Log.Level.writable]
  | shutdown =>
    simp only [step, shutdown, Bridge.shutdown, Outcome.map, Outcome.mapState]
    split <;> simp [Log.Level.writable]
  | openPeer side peer => exact Registry.wellLeveled_openPeer ..
  | openConn side conn => exact h.wellLeveled_openConn side conn
  | push side conn m =>
    simp only [step]
    split <;> simp
  | receiver rx take =>
    simp only [step]
    split <;> simp
  | send side conn m => exact Routing.wellLeveled_send ..
  | broadcast side m => exact Registry.wellLeveled_broadcast ..
  | offer conn paths =>
    simp [step, Outcome.map, Outcome.mapState, FileShare.offer, Log.Level.writable]
  | stopShare => exact h.wellLeveled_fileBackend.stop h
  | withdraw conn => exact h.wellLeveled_fileBackend.empty h conn
  | serve conn m => exact h.wellLeveled_fileBackend.serve h conn m
  | handle conn m => exact Server.wellLeveled_handle h.wellLeveled_hostBackend ..
  | run conn => exact h.wellLeveled_runToEnd conn
  | tryStop conn => exact Server.wellLeveled_tryStop h.wellLeveled_hostBackend ..
  | empty conn => exact Server.wellLeveled_empty h.wellLeveled_hostBackend ..
  | deliver conn data =>
    exact wellLeveled_deliverTaken _ conn (PacketStream.wellLeveled_drain _)
  | _ => exact Journal.wellLeveled_nil

end Host

end RemoteClipboard
