import Mathlib.Logic.Function.Basic
import RemoteClipboard.Delivery.HeldQueue
import RemoteClipboard.Proofs.Log.Journals

/-! # Levels only filter

Two processes that differ in nothing but the levels of their log do the same: to change the levels
first and then to do something is to do it first and then to change the levels
(`World.step_atLevels`).  So whoever watches sees the same replies and the same events whatever the
levels are, and of the log more or less, but always in the same order: each domain shows the lines whose
level is at least its own (`World.levels_only_filter`).

The levels are those of the whole process, and not only those of a host: a `World` is a host together
with streams, exchanges and queues that are used on their own. -/

namespace RemoteClipboard

/-! ## What commutes with a change of the state -/

/-- Whether a backend does the same when its state is changed before it is called and when it is
changed afterwards. -/
structure Backend.Commutes {σ : Type} (b : Backend σ) (f : σ → σ) : Prop where
  stop : ∀ state, b.stop (f state) = (b.stop state).mapState f
  empty : ∀ state conn, b.empty (f state) conn = (b.empty state conn).mapState f
  serve : ∀ state conn m, b.serve (f state) conn m = (b.serve state conn m).mapState f

namespace Server

variable {σ : Type} {b : Backend σ} {f : σ → σ} (commutes : b.Commutes f) (s : Server) (state : σ)
  (conn : Int32)
include commutes

theorem handle_commutes (m : Message) :
    handle b s (f state) conn m = (handle b s state conn m).mapState (Prod.map id f) := by
  simp only [handle, commutes.serve]
  cases ((s.exchange conn).observe m).result with
  | error fault => rfl
  | ok =>
    cases m.isFile with
    | true => rfl
    | false => rfl

theorem handleAll_commutes (ms : List Message) :
    handleAll b s (f state) conn ms =
      (handleAll b s state conn ms).mapState (Prod.map id f) := by
  induction ms generalizing s state with
  | nil => rfl
  | cons m ms ih =>
    simp only [handleAll, handle_commutes commutes, Outcome.mapState, Prod.map, id, ih]

theorem run_commutes (inbound : Registry) :
    run b s inbound (f state) conn =
      (run b s inbound state conn).mapState (Prod.map id (Prod.map id f)) := by
  simp only [run, handleAll_commutes commutes]
  cases (inbound.openConn conn).result with
  | error fault => rfl
  | ok slot => rfl

theorem tryStop_commutes :
    s.tryStop b (f state) conn = (s.tryStop b state conn).mapState f := by
  unfold tryStop
  cases s.canStop conn with
  | false => rfl
  | true =>
    simp only [commutes.stop]
    rfl

omit s in
theorem empty_commutes :
    Server.empty b (f state) conn = (Server.empty b state conn).mapState f := by
  simp only [Server.empty, commutes.empty]
  rfl

end Server

/-! ## Hosts -/

namespace Host

/-- The same host with other levels. -/
def atLevels (h : Host) (ls : Log.Levels) : Host := { h with levels := ls }

/-- Whether a command has nothing to do with the levels: it neither sets them nor asks for them. -/
def Command.KeepsLevels : Command → Prop
  | .init _ | .levels | .setLevels _ => False
  | _ => True

variable {c : Command} (h : Host) (ls : Log.Levels)

theorem setRegistry_atLevels (side : Side) (r : Registry) :
    (h.atLevels ls).setRegistry side r = (h.setRegistry side r).atLevels ls := by
  cases side <;> rfl

theorem receive_atLevels (side : Side) (slot : Nat) :
    (h.atLevels ls).receive side slot =
      ((h.receive side slot).1, (h.receive side slot).2.atLevels ls) := by
  simp only [receive, atLevels]
  split <;> rfl

theorem openConn_atLevels (side : Side) (conn : Int32) :
    (h.atLevels ls).openConn side conn =
      (h.openConn side conn).mapState (·.atLevels ls) := by
  have registry : (h.atLevels ls).registry side = h.registry side := rfl
  simp only [openConn, registry, setRegistry_atLevels, receive_atLevels]
  split <;> rfl

theorem setQueue_atLevels (rx : Nat) (q : Queue Message) :
    (h.atLevels ls).setQueue rx q = (h.setQueue rx q).atLevels ls := by
  have receivers : (h.atLevels ls).receivers = h.receivers := rfl
  simp only [setQueue, receivers, setRegistry_atLevels]
  split <;> rfl

theorem send_atLevels (side : Side) (conn : Int32) (m : Message) :
    (h.atLevels ls).send side conn m = (h.send side conn m).mapState (·.atLevels ls) := by
  cases side <;> rfl

theorem deliverTaken_atLevels (conn : Int32) (taken : List PacketStream.Taken) :
    (h.atLevels ls).deliverTaken conn taken =
      (h.deliverTaken conn taken).mapState (·.atLevels ls) := by
  induction taken generalizing h with
  | nil => rfl
  | cons first taken ih =>
    cases result : first.result with
    | error fault => simp only [deliverTaken, result, ih, Outcome.mapState]
    | ok m => simp only [deliverTaken, result, send_atLevels, ih, Outcome.mapState]

theorem fileBackend_commutes : h.fileBackend.Commutes (·.atLevels ls) where
  stop _ := rfl
  empty _ _ := rfl
  serve _ _ _ := rfl

theorem hostBackend_commutes : h.backend.Commutes (·.atLevels ls) := by
  unfold backend
  split
  next => exact ⟨fun _ => rfl, fun _ _ => rfl, fun _ _ _ => rfl⟩
  next => exact fileBackend_commutes h ls

theorem run_atLevels (conn : Int32) :
    (h.atLevels ls).run conn = (h.run conn).mapState (·.atLevels ls) := by
  have ran : Server.run (h.atLevels ls).backend (h.atLevels ls).server (h.atLevels ls).inbound
      (h.atLevels ls) conn = _ :=
    Server.run_commutes (hostBackend_commutes h ls) h.server h conn h.inbound
  rw [run, ran]
  rfl

theorem runToEnd_atLevels (conn : Int32) :
    (h.atLevels ls).runToEnd conn = (h.runToEnd conn).mapState (·.atLevels ls) := by
  have closed : (h.atLevels ls).closeInbound conn =
      (h.closeInbound conn).mapState (·.atLevels ls) := rfl
  unfold runToEnd
  split
  next => exact run_atLevels ..
  next =>
    simp only [closed, Outcome.mapState, run_atLevels]

/-- Whatever a host does that has nothing to do with the levels, it does at any levels. -/
theorem step_atLevels (keeps : c.KeepsLevels) :
    (h.atLevels ls).step c = (h.step c).mapState (·.atLevels ls) := by
  cases c with
  | init settings => exact keeps.elim
  | levels => exact keeps.elim
  | setLevels level => exact keeps.elim
  | openPeer side peer =>
    have registry : (h.atLevels ls).registry side = h.registry side := rfl
    simp only [step, openPeer, registry, setRegistry_atLevels, receive_atLevels]
    rfl
  | openConn side conn =>
    simp only [step, openConn_atLevels]
    rfl
  | push side conn m =>
    have registry : (h.atLevels ls).registry side = h.registry side := rfl
    simp only [step, registry, setRegistry_atLevels]
    split <;> rfl
  | receiver rx take =>
    have queue : (h.atLevels ls).queue? rx = h.queue? rx := rfl
    simp only [step, queue, setQueue_atLevels]
    split <;> rfl
  | send side conn m =>
    simp only [step, send_atLevels]
    rfl
  | broadcast side m => cases side <;> rfl
  | configure side settings => cases side <;> rfl
  | handle conn m =>
    have handled : Server.handle (h.atLevels ls).backend (h.atLevels ls).server (h.atLevels ls)
        conn m = _ :=
      Server.handle_commutes (hostBackend_commutes h ls) h.server h conn m
    rw [step, handle, handled]
    rfl
  | run conn =>
    simp only [step, runToEnd_atLevels]
    rfl
  | tryStop conn =>
    have stopped := Server.tryStop_commutes (hostBackend_commutes h ls) h.server h conn
    exact congrArg (Outcome.map Reply.ofFlag) stopped
  | empty conn =>
    have emptied := Server.empty_commutes (hostBackend_commutes h ls) h conn
    exact congrArg (Outcome.map Reply.ofFlag) emptied
  | observe who on => cases who <;> rfl
  | deliver conn data =>
    have fed (stream : PacketStream) :
        ({ h.atLevels ls with stream } : Host) = ({ h with stream } : Host).atLevels ls := rfl
    simp only [step, deliver, fed, deliverTaken_atLevels]
    rfl
  | _ => rfl

end Host

/-! ## Everything in a process -/

/-- A host, and beside it streams, exchanges and queues that are used on their own. -/
structure World where
  host : Host := {}
  streams : Nat → PacketStream := fun _ => {}
  exchanges : Nat → Exchange := fun _ => {}
  queues : Nat → HeldQueue Message := fun _ => {}

namespace World

inductive Op
  | host (c : Host.Command)
  | decode (maxEntries : Nat) (data : Bytes)
  -- streams
  | feed (i : Nat) (data : Bytes)
  | hasPacket (i : Nat)
  | next (i : Nat)
  | clear (i : Nat)
  -- exchanges
  | observe (i : Nat) (m : Message)
  | canStop (i : Nat)
  | reset (i : Nat)
  -- queues
  | push (i : Nat) (m : Message)
  | take (i : Nat) (take : Host.Take)
  | share (i source target : Nat)
  | release (i holder : Nat)

/-- Whether an operation has nothing to do with the levels. -/
def Op.KeepsLevels : Op → Prop
  | .host c => c.KeepsLevels
  | _ => True

def ofMessage : Except Fault Message → Host.Reply
  | .ok m => .message (some m)
  | .error fault => .refused fault

def setStream (w : World) (i : Nat) (s : PacketStream) : World :=
  { w with streams := Function.update w.streams i s }

def setExchange (w : World) (i : Nat) (x : Exchange) : World :=
  { w with exchanges := Function.update w.exchanges i x }

def setQueue (w : World) (i : Nat) (q : HeldQueue Message) : World :=
  { w with queues := Function.update w.queues i q }

/-- Carries out an operation. -/
def step (w : World) : Op → Outcome World Host.Reply
  | .host c => (w.host.step c).mapState fun host => { w with host }
  | .decode maxEntries data =>
    let result := Message.decode maxEntries data
    ⟨ofMessage result, w, Message.decodeJournal result⟩
  | .feed i data => ⟨.done, w.setStream i ((w.streams i).feed data), []⟩
  | .hasPacket i => ⟨.flag (w.streams i).hasPacket, w, []⟩
  | .next i => ((w.streams i).next.mapState (w.setStream i)).map ofMessage
  | .clear i => ⟨.done, w.setStream i (w.streams i).reset, []⟩
  | .observe i m => (((w.exchanges i).observe m).mapState (w.setExchange i)).map .ofUnit
  | .canStop i => ⟨.flag (w.exchanges i).canStop, w, []⟩
  | .reset i => ⟨.done, w.setExchange i (w.exchanges i).reset, []⟩
  | .push i m =>
    let (taken, q) := (w.queues i).onQueue (·.push m)
    ⟨.flag taken, w.setQueue i q, []⟩
  | .take i take =>
    let (reply, q) := (w.queues i).onQueue take.apply
    ⟨reply, w.setQueue i q, []⟩
  | .share i source target => ⟨.done, w.setQueue i ((w.queues i).share source target), []⟩
  | .release i holder => ⟨.done, w.setQueue i ((w.queues i).release holder), []⟩

/-- What can be seen at some levels of something that is done. -/
def sightAt (ls : Log.Levels) (out : Outcome World Host.Reply) : Host.Sight :=
  ⟨out.result, out.journal.records ls, out.journal.events⟩

/-- Carries out an operation and shows what can be seen of it. -/
def observe (w : World) (op : Op) : Host.Sight × World :=
  let out := w.step op
  (sightAt out.state.host.levels out, out.state)

/-- What can be seen of operations that are carried out one after the other, and the world that they
leave. -/
def watch (w : World) : List Op → List Host.Sight × World
  | [] => ([], w)
  | op :: ops =>
    let (sight, later) := w.observe op
    let (sights, last) := later.watch ops
    (sight :: sights, last)

/-- The lines of the log, in order. -/
def log (sights : List Host.Sight) : List Log.Record := sights.flatMap (·.records)

def atLevels (w : World) (ls : Log.Levels) : World := { w with host := w.host.atLevels ls }

section

variable {op : Op} {ops : List Op} (w : World) (ls : Log.Levels)

theorem wellLeveled_step (op : Op) : (w.step op).journal.WellLeveled := by
  cases op with
  | host c => exact w.host.wellLeveled_step c
  | decode maxEntries data => exact Message.wellLeveled_decodeJournal _
  | next i => exact (w.streams i).wellLeveled_next
  | observe i m => exact (w.exchanges i).wellLeveled_observe m
  | _ => exact Journal.wellLeveled_nil

theorem step_atLevels (keeps : op.KeepsLevels) :
    (w.atLevels ls).step op = (w.step op).mapState (·.atLevels ls) := by
  cases op with
  | host c =>
    have done := w.host.step_atLevels ls keeps
    exact congrArg (Outcome.mapState fun host => { w with host }) done
  | _ => rfl

/-- How each of some operations ends, and the world that they leave. -/
def outcomes (w : World) : List Op → List (Outcome World Host.Reply) × World
  | [] => ([], w)
  | op :: ops =>
    let out := w.step op
    let (later, last) := out.state.outcomes ops
    (out :: later, last)

/-- At any levels it is the same operations that are watched. -/
theorem watch_atLevels (keeps : ∀ op ∈ ops, op.KeepsLevels) :
    (w.atLevels ls).watch ops =
      ((w.outcomes ops).1.map (sightAt ls), (w.outcomes ops).2.atLevels ls) := by
  -- The change of the levels is moved past one operation at a time, to the end of the run.
  induction ops generalizing w with
  | nil => rfl
  | cons op ops ih =>
    obtain ⟨first, rest⟩ := List.forall_mem_cons.mp keeps
    have seen : (w.atLevels ls).observe op =
        (sightAt ls (w.step op), (w.step op).state.atLevels ls) := by
      rw [observe, step_atLevels w ls first]
      rfl
    simp only [watch, seen, ih _ rest, outcomes, List.map_cons]

theorem wellLeveled_outcomes (ops : List Op) :
    ∀ out ∈ (w.outcomes ops).1, out.journal.WellLeveled := by
  induction ops generalizing w with
  | nil => simp [outcomes]
  | cons op ops ih => exact List.forall_mem_cons.mpr ⟨w.wellLeveled_step op, ih _⟩

/-- A log at some levels is what these leave of a log where nothing is kept back. -/
theorem log_sightAt {outs : List (Outcome World Host.Reply)} {ls all : Log.Levels}
    (leveled : ∀ out ∈ outs, out.journal.WellLeveled)
    (lowest : ∀ domain, (all.of domain).value ≤ 0) :
    log (outs.map (sightAt ls)) = (log (outs.map (sightAt all))).filter fun r =>
      decide ((ls.of r.domain).value ≤ r.level.value) := by
  induction outs with
  | nil => rfl
  | cons out outs ih =>
    obtain ⟨here, later⟩ := List.forall_mem_cons.mp leveled
    have first : (sightAt ls out).records = (sightAt all out).records.filter fun r =>
        decide ((ls.of r.domain).value ≤ r.level.value) := by
      simp only [sightAt, Journal.records_of_lowest here lowest, Journal.records_eq_filter here ls]
    simp only [log, List.map_cons, List.flatMap_cons, List.filter_append, first]
    exact congrArg _ (ih later)

/-- Whatever is done that has nothing to do with the levels, the replies, the events and the world
that is left are the same at any levels, and the log is that of the lowest levels without the lines
whose level is below that of their domain. -/
theorem levels_only_filter (keeps : ∀ op ∈ ops, op.KeepsLevels) (w : World) :
    (∀ some other : Log.Levels,
      ((w.atLevels some).watch ops).1.map (fun sight => (sight.reply, sight.events)) =
          ((w.atLevels other).watch ops).1.map (fun sight => (sight.reply, sight.events)) ∧
        ((w.atLevels some).watch ops).2 = ((w.atLevels other).watch ops).2.atLevels some) ∧
      ∀ ls all : Log.Levels, (∀ domain, (all.of domain).value ≤ 0) →
        log ((w.atLevels ls).watch ops).1 =
          (log ((w.atLevels all).watch ops).1).filter fun r =>
            decide ((ls.of r.domain).value ≤ r.level.value) := by
  constructor
  · intro some other
    rw [watch_atLevels w some keeps, watch_atLevels w other keeps]
    constructor
    · simp only [List.map_map]
      rfl
    · rfl
  · intro ls all lowest
    rw [watch_atLevels w ls keeps, watch_atLevels w all keeps]
    exact log_sightAt (w.wellLeveled_outcomes ops) lowest

end

/-! ## Three lines -/

namespace Refused

/-- A number that is refused, one that is opened, and a message to nobody. -/
def ops : List Op :=
  [.host (.openConn .outbound (-1)), .host (.openConn .outbound 1),
    .host (.send .outbound 2 .monitorReady)]

theorem keepsLevels_ops : ∀ op ∈ ops, op.KeepsLevels := by
  simp [ops, Op.KeepsLevels, Host.Command.KeepsLevels]

theorem log_ops :
    log ((({} : World).atLevels (.uniform .debug)).watch ops).1 =
      [⟨.registry, .warning, Log.text ["rejected negative conn id ", (-1 : Int32)]⟩,
        ⟨.registry, .info, Log.text ["registered server conn ", (1 : Int32)]⟩,
        ⟨.dispatch, .verbose, Log.text ["no session for conn ", (2 : Int32)]⟩] := by
  rw [watch_atLevels _ _ keepsLevels_ops]
  simp [ops, outcomes, log, sightAt, step, Host.step, Host.openConn, Host.registry,
    Registry.openConn, Host.setRegistry, Host.receive, Registry.findConn?, Registry.add, Outcome.map,
    Outcome.mapState, Host.send, Routing.send, Registry.post, Registry.push?]
  rfl

end Refused

/-- At the level of warnings only the first of three lines is left. -/
theorem levels_only_filter_of_refused :
    (∀ op ∈ Refused.ops, op.KeepsLevels) ∧
      (log ((({} : World).atLevels (.uniform .debug)).watch Refused.ops).1).length = 3 ∧
      log ((({} : World).atLevels (.uniform .warning)).watch Refused.ops).1 =
        [⟨.registry, .warning, Log.text ["rejected negative conn id ", (-1 : Int32)]⟩] := by
  obtain ⟨-, filters⟩ := levels_only_filter Refused.keepsLevels_ops {}
  have quiet := filters (.uniform .warning) (.uniform .debug) fun domain => by
    rw [Log.Levels.of_uniform]
    decide
  rw [Refused.log_ops] at quiet
  refine ⟨Refused.keepsLevels_ops, by rw [Refused.log_ops]; rfl, ?_⟩
  rw [quiet]
  rfl

end World

end RemoteClipboard
