import RemoteClipboard.Proofs.Delivery.Runs

/-! # Bridges at work

An `Op` is something done to a bridge, to its dispatcher or to its registry.  The registry of a
bridge knows only part of it: to be initialised or configured leaves it alone, to be shut down
visits each queue and closes it, and a message is sent with the routing of the time
(`Op.onRegistry`).  So what is true of every run of a registry is true of the registry of every
bridge (`registry_run`). -/

namespace RemoteClipboard

namespace Bridge

/-! ## Operations -/

inductive Op
  /-- The levels of the log are those of the time. -/
  | init (levels : Log.Levels) (settings : Settings)
  | shutdown
  | configure (settings : Settings)
  | send (conn : Int32) (m : Message)
  /-- Something done to its registry by other hands, among them other dispatchers. -/
  | registry (op : Registry.Op)

def doRegistry (b : Bridge) (op : Registry.Op) : Outcome Bridge Host.Reply :=
  (b.registry.step op).mapState fun registry => { b with registry }

def step (b : Bridge) : Op → Outcome Bridge Host.Reply
  | .init levels settings => ((b.init levels settings).mapState Prod.fst).map .ofUnit
  | .shutdown => b.shutdown.map fun () => .done
  | .configure settings => ⟨.done, { b with routing := Routing.ofSettings settings }, []⟩
  | .send conn m => b.doRegistry (.send b.routing conn m)
  | .registry op => b.doRegistry op

def run (b : Bridge) : List Op → Bridge
  | [] => b
  | op :: ops => (b.step op).state.run ops

/-! ## What the registry sees of them -/

/-- What an operation is to the registry. -/
def Op.onRegistry (b : Bridge) : Op → List Registry.Op
  | .init .. | .configure _ => []
  | .shutdown => if b.initialized then [.visit fun _ queue => queue.close] else []
  | .send conn m => [.send b.routing conn m]
  | .registry op => [op]

def onRegistry (b : Bridge) : List Op → List Registry.Op
  | [] => []
  | op :: ops => op.onRegistry b ++ (b.step op).state.onRegistry ops

/-- Whether each of some operations finds a number if it needs a new one. -/
def FitsAll (b : Bridge) (ops : List Op) : Prop := b.registry.FitsAll (b.onRegistry ops)

/-- Whether a bridge comes out of a fresh one. -/
def Reachable (b : Bridge) : Prop := ∃ ops, FitsAll {} ops ∧ run {} ops = b

variable {b : Bridge}

theorem registry_init (b : Bridge) (levels : Log.Levels) (settings : Settings) :
    (b.init levels settings).state.1.registry = b.registry := by
  unfold init
  split
  next => rfl
  next => split <;> rfl

theorem registry_step (b : Bridge) (op : Op) :
    (b.step op).state.registry = b.registry.run (op.onRegistry b) := by
  cases op with
  | init levels settings => exact registry_init b levels settings
  | shutdown =>
    cases inUse : b.initialized with
    | false => simp [step, shutdown, Op.onRegistry, inUse, Outcome.map, Registry.run]
    | true =>
      simp [step, shutdown, Op.onRegistry, inUse, Outcome.map, Registry.run, Registry.step,
        Registry.closeAll_eq_visit]
  | configure settings => rfl
  | send conn m => rfl
  | registry op => rfl

theorem registry_run (b : Bridge) (ops : List Op) :
    (b.run ops).registry = b.registry.run (b.onRegistry ops) := by
  induction ops generalizing b with
  | nil => rfl
  | cons op ops ih => rw [run, ih, onRegistry, Registry.run_append, registry_step]

/-- All that the registry ever sees: a visitor that closes each queue, messages that are sent, and what
is done to it by other hands. -/
theorem mem_onRegistry {ops : List Op} {seen : Registry.Op} (member : seen ∈ b.onRegistry ops) :
    (seen = .visit fun _ queue => queue.close) ∨
      (∃ routing conn m, seen = .send routing conn m) ∨ .registry seen ∈ ops := by
  induction ops generalizing b with
  | nil => cases member
  | cons op ops ih =>
    rcases List.mem_append.mp member with here | later
    · cases op with
      | init levels settings => cases here
      | shutdown =>
        simp only [Op.onRegistry] at here
        split at here
        next => exact .inl (List.mem_singleton.mp here)
        next => cases here
      | configure settings => cases here
      | send conn m => exact .inr (.inl ⟨_, _, _, List.mem_singleton.mp here⟩)
      | registry op =>
        cases List.mem_singleton.mp here
        exact .inr (.inr List.mem_cons_self)
    · exact (ih later).imp_right (.imp_right (List.mem_cons_of_mem _))

theorem fitsAll_cons {op : Op} {ops : List Op} :
    b.FitsAll (op :: ops) ↔
      b.registry.FitsAll (op.onRegistry b) ∧ (b.step op).state.FitsAll ops := by
  rw [FitsAll, onRegistry, Registry.fitsAll_append, FitsAll, registry_step]

theorem fitsAll_append {ops later : List Op} :
    b.FitsAll (ops ++ later) ↔ b.FitsAll ops ∧ (b.run ops).FitsAll later := by
  induction ops generalizing b with
  | nil => simp [FitsAll, onRegistry, Registry.FitsAll, run]
  | cons op ops ih => simp only [List.cons_append, fitsAll_cons, ih, run, and_assoc]

theorem length_onRegistry_le (b : Bridge) (ops : List Op) :
    (b.onRegistry ops).length ≤ ops.length := by
  induction ops generalizing b with
  | nil => exact Nat.le_refl 0
  | cons op ops ih =>
    have first : (op.onRegistry b).length ≤ 1 := by
      cases op with
      | shutdown =>
        simp only [Op.onRegistry]
        split <;> simp
      | _ => simp [Op.onRegistry]
    have later := ih (b.step op).state
    simp only [onRegistry, List.length_append, List.length_cons]
    omega

theorem fitsAll_of_length_lt {ops : List Op} (few : ops.length < 0x80000000) :
    FitsAll {} ops := by
  have length := length_onRegistry_le {} ops
  refine Registry.fitsAll_of_length_lt Registry.wellFormed_empty Registry.dense_empty ?_
  simp only [Array.size_empty]
  omega

theorem reachable_registry (reachable : b.Reachable) : b.registry.Reachable := by
  obtain ⟨ops, fits, rfl⟩ := reachable
  exact ⟨onRegistry {} ops, fits, (registry_run {} ops).symm⟩

end Bridge

end RemoteClipboard
