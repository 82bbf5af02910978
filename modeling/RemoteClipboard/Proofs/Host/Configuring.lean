import RemoteClipboard.Proofs.Host.Controls

/-! # Settings that are in force

To initialise a host is to apply settings to its bridge, to the routing of the bridge's dispatcher
and to the levels of the log: to all of them, or to none if the bridge is in use or the settings make
no sense (`initializes`).  Nothing else changes the settings, and only a dispatcher that is configured
by hand is routed otherwise (`config_step`).  So the settings of a host make sense at any time, before
it is first initialised and after it was shut down as well, and connection 0 stands for what they say
(`configured_of_run`). -/

namespace RemoteClipboard

/-! ## Settings that make sense -/

namespace Settings

variable {s : Settings}

/-- Settings make no sense if a message to nobody in particular had a negative connection to go to,
if they allow only empty packets or larger ones than the wire does, or if no list could have a
format. -/
theorem validate_eq_error_iff :
    (∃ fault, s.validate = .error fault) ↔
      s.defaultConn < 0 ∨ s.maxPayload = 0 ∨ 16 * 1024 * 1024 < s.maxPayload.toNat ∨
        s.maxEntries = 0 := by
  have protocol : maxPayloadSize < s.maxPayload ↔ 16 * 1024 * 1024 < s.maxPayload.toNat :=
    UInt32.lt_iff_toNat_lt
  rw [← protocol, validate]
  clear protocol
  repeat' split
  all_goals simp [*]

theorem code_of_validate {fault : Fault} (invalid : s.validate = .error fault) :
    fault.code = Fault.Code.invalidArgument := by
  rw [validate] at invalid
  repeat' split at invalid
  all_goals cases invalid
  all_goals rfl

end Settings

namespace Host

variable {h : Host} {settings : Settings} {fault : Fault}

/-! ## Initialising -/

/-- A host whose bridge is in use with some settings, and all else as it was. -/
def withSettings (h : Host) (settings : Settings) : Host :=
  { h with
    bridge := { h.bridge with
      initialized := true
      settings
      routing := { broadcast := settings.broadcastSupported, fallback := settings.defaultConn } }
    levels := {
      registry := settings.logLevel
      dispatch := settings.logLevel
      service := settings.logLevel
      protocol := settings.logLevel } }

theorem step_init_of_initialized (inUse : h.bridge.initialized = true) (settings : Settings) :
    h.step (.init settings) = ⟨.refused Fault.alreadyInitialized, h, []⟩ := by
  simp [step, init, Bridge.init, inUse, Outcome.map, Outcome.mapState, Reply.ofUnit]

theorem step_init_of_error (unused : h.bridge.initialized = false)
    (invalid : settings.validate = .error fault) :
    h.step (.init settings) = ⟨.refused fault, h, []⟩ := by
  simp [step, init, Bridge.init, unused, invalid, Outcome.map, Outcome.mapState, Reply.ofUnit]

theorem step_init_of_ok (unused : h.bridge.initialized = false)
    (valid : settings.validate = .ok ()) :
    (h.step (.init settings)).result = .done ∧
      (h.step (.init settings)).state = h.withSettings settings := by
  simp [step, init, Bridge.init, unused, valid, Outcome.map, Outcome.mapState, Reply.ofUnit,
    withSettings, Routing.ofSettings, Log.Levels.uniform]

theorem levels_withSettings (h : Host) (settings : Settings) (domain : Log.Domain) :
    (h.withSettings settings).levels.of domain = settings.logLevel := by
  cases domain <;> rfl

/-- What comes of initialising a host with some settings. -/
structure Initializes (h : Host) (settings : Settings) : Prop where
  inUse : (h.step (.init settings)).result = .refused Fault.alreadyInitialized ↔
    h.bridge.initialized = true
  invalid : h.bridge.initialized = false →
    ∀ fault, (h.step (.init settings)).result = .refused fault ↔ settings.validate = .error fault
  /-- The whole host is as it was. -/
  refused : ∀ fault, (h.step (.init settings)).result = .refused fault →
    (h.step (.init settings)).state = h
  applied : (∀ fault, (h.step (.init settings)).result ≠ .refused fault) →
    (h.step (.init settings)).result = .done ∧
      (h.step (.init settings)).state = h.withSettings settings ∧
      ∀ domain, (h.step (.init settings)).state.levels.of domain = settings.logLevel

theorem initializes (h : Host) (settings : Settings) : h.Initializes settings := by
  cases inUse : h.bridge.initialized with
  | true =>
    have again := step_init_of_initialized inUse settings
    constructor <;> simp [again, inUse]
  | false =>
    cases verdict : settings.validate with
    | error fault =>
      have refused := step_init_of_error inUse verdict
      -- The two kinds of refusal can be told apart by their codes.
      have other : fault ≠ Fault.alreadyInitialized := by
        rintro rfl
        cases Settings.code_of_validate verdict
      constructor <;> simp [refused, inUse, verdict, other]
    | ok =>
      obtain ⟨result, state⟩ := step_init_of_ok inUse verdict
      constructor <;> simp [result, state, inUse, verdict, levels_withSettings]

/-! ## What commands do to the configuration -/

/-- A command leaves the settings and the routing as they are, or puts new settings that make sense
in place of both, or is to configure the dispatcher by hand. -/
theorem config_step (h : Host) (c : Command) :
    ((h.step c).state.bridge.settings = h.bridge.settings ∧
      ((h.step c).state.bridge.routing = h.bridge.routing ∨
        ∃ settings, c = .configure .outbound settings)) ∨
    ∃ settings, settings.validate = .ok () ∧ (h.step c).state.bridge.settings = settings ∧
      (h.step c).state.bridge.routing = Routing.ofSettings settings := by
  cases control : c.isControl with
  | false =>
    have same := controls_step h control
    exact .inl ⟨congrArg Controls.settings same, .inl (congrArg Controls.routing same)⟩
  | true =>
    cases c with
    | init settings =>
      cases inUse : h.bridge.initialized with
      | true =>
        rw [step_init_of_initialized inUse]
        exact .inl ⟨rfl, .inl rfl⟩
      | false =>
        cases verdict : settings.validate with
        | error fault =>
          rw [step_init_of_error inUse verdict]
          exact .inl ⟨rfl, .inl rfl⟩
        | ok =>
          rw [(step_init_of_ok inUse verdict).2]
          exact .inr ⟨settings, verdict, rfl, rfl⟩
    | shutdown =>
      simp only [step, Host.shutdown, Bridge.shutdown]
      split
      next => exact .inl ⟨rfl, .inl rfl⟩
      next => exact .inl ⟨rfl, .inl rfl⟩
    | setLevels level => exact .inl ⟨rfl, .inl rfl⟩
    | configure side settings =>
      cases side with
      | inbound => exact .inl ⟨rfl, .inl rfl⟩
      | outbound => exact .inl ⟨rfl, .inr ⟨settings, rfl⟩⟩
    | stopShare => exact .inl ⟨rfl, .inl rfl⟩
    | tryStop conn =>
      rcases h.state_tryStop conn with same | stopped
      · rw [same]
        exact .inl ⟨rfl, .inl rfl⟩
      · rw [stopped]
        exact .inl ⟨rfl, .inl rfl⟩
    | _ => cases control

/-! ## Every run -/

theorem valid_after (valid : h.bridge.settings.validate = .ok ()) (cs : List Command) :
    (h.after cs).bridge.settings.validate = .ok () := by
  induction cs generalizing h with
  | nil => exact valid
  | cons c cs ih =>
    apply ih
    rcases config_step h c with ⟨same, -⟩ | ⟨settings, valid, new, -⟩
    · rwa [same]
    · rwa [new]

/-- Where the dispatcher is routed as the settings say, it stays so until it is configured by
hand. -/
theorem routing_after (agrees : h.bridge.routing = Routing.ofSettings h.bridge.settings)
    {cs : List Command} (byHand : ∀ settings, .configure .outbound settings ∉ cs) :
    (h.after cs).bridge.routing = Routing.ofSettings (h.after cs).bridge.settings := by
  induction cs generalizing h with
  | nil => exact agrees
  | cons c cs ih =>
    -- New settings bring their routing with them, so only a hand could part the two.
    refine ih ?_ fun settings member => byHand settings (List.mem_cons_of_mem c member)
    rcases config_step h c with ⟨same, kept | ⟨settings, rfl⟩⟩ | ⟨settings, -, new, routed⟩
    · rw [kept, same, agrees]
    · exact absurd List.mem_cons_self (byHand settings)
    · rw [routed, new]

/-- Whether connection 0 stands for what some settings say. -/
structure RoutesBy (h : Host) (settings : Settings) : Prop where
  routing : h.bridge.routing =
    { broadcast := settings.broadcastSupported, fallback := settings.defaultConn }
  everyone : settings.broadcastSupported = true → ∀ m,
    (h.step (.send .outbound 0 m)).result = .done ∧
      (h.step (.send .outbound 0 m)).state = (h.step (.broadcast .outbound m)).state
  single : settings.broadcastSupported = false → ∀ m,
    h.step (.send .outbound 0 m) =
      ((h.bridge.registry.post settings.defaultConn m).mapState
        (h.setRegistry .outbound)).map .ofUnit

theorem routesBy (routing : h.bridge.routing = Routing.ofSettings settings) :
    h.RoutesBy settings where
  routing := routing
  everyone := by
    intro everyone m
    simp [step, send, Host.routing, registry, routing, Routing.send, Routing.ofSettings, everyone,
      Outcome.map, Outcome.mapState, Reply.ofUnit]
  single := by
    intro single m
    simp [step, send, Host.routing, registry, routing, Routing.send, Routing.ofSettings, single]

/-- Whatever is done with a host: to initialise it applies settings as a whole or changes nothing,
and says why.  So its settings make sense at any time, and unless its dispatcher was configured by
hand, connection 0 stands for what they say. -/
theorem configured_of_run (cs : List Command) :
    let h := after {} cs
    (∀ settings, h.Initializes settings ∧
      ((∃ fault, settings.validate = .error fault) ↔
        settings.defaultConn < 0 ∨ settings.maxPayload = 0 ∨
          16 * 1024 * 1024 < settings.maxPayload.toNat ∨ settings.maxEntries = 0)) ∧
      h.bridge.settings.validate = .ok () ∧
      ((∀ settings, .configure .outbound settings ∉ cs) → h.RoutesBy h.bridge.settings) := by
  intro h
  refine ⟨fun settings => ⟨initializes h settings, Settings.validate_eq_error_iff⟩, ?_, ?_⟩
  · exact valid_after rfl cs
  · exact fun byHand => routesBy (routing_after rfl byHand)

/-! ## Settings that come late -/

namespace Restarted

/-- Settings with a connection for messages to nobody in particular. -/
def directed : Settings where
  broadcastSupported := false
  defaultConn := 4
  logLevel := Log.Level.error

def refused : Settings := { directed with defaultConn := -5 }

def earlier : List Command := [.init refused, .init {}, .init directed, .shutdown]

/-- A bridge that is in use once more, with other settings, and shut down again. -/
def later : List Command := earlier ++ [.init directed, .shutdown]

end Restarted

/-- Of settings that make no sense, and of settings that come while the bridge is in use, nothing is
left; those that come after a restart set all levels anew, and are in force even when it is over. -/
theorem configured_of_restarted :
    let earlier := after {} Restarted.earlier
    let restarted := (earlier.step (.init Restarted.directed)).state
    let later := after {} Restarted.later
    after {} [.init Restarted.refused] = {} ∧
      earlier.bridge.settings = {} ∧ earlier.RoutesBy {} ∧
      (∀ domain, earlier.levels.of domain = Log.Level.info) ∧
      (∀ domain, restarted.levels.of domain = Log.Level.error) ∧
      later.bridge.settings = Restarted.directed ∧ later.RoutesBy Restarted.directed := by
  intro earlier restarted later
  have settings : earlier.bridge.settings = {} := rfl
  have settings' : later.bridge.settings = Restarted.directed := rfl
  obtain ⟨initializes, -, -⟩ := configured_of_run []
  obtain ⟨initializesAgain, -, routes⟩ := configured_of_run Restarted.earlier
  obtain ⟨-, -, routes'⟩ := configured_of_run Restarted.later
  have byHand : ∀ settings, .configure .outbound settings ∉ Restarted.earlier := by
    simp [Restarted.earlier]
  have byHand' : ∀ settings, .configure .outbound settings ∉ Restarted.later := by
    simp [Restarted.later, Restarted.earlier]
  have accepted (fault : Fault) :
      (earlier.step (.init Restarted.directed)).result ≠ .refused fault := by
    intro refused
    cases refused
  have applied := (initializesAgain Restarted.directed).1.applied accepted
  refine ⟨?_, settings, ?_, ?_, applied.2.2, settings', ?_⟩
  · exact (initializes Restarted.refused).1.refused Fault.negativeDefault rfl
  · exact settings ▸ routes byHand
  · intro domain
    cases domain <;> rfl
  · exact settings' ▸ routes' byHand'

end Host

end RemoteClipboard
