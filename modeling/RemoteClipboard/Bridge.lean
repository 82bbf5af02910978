import RemoteClipboard.Delivery.Routing

/-! # The bridge

A `Bridge` holds what one clipboard bridge shares: the registry of its outbound connections, the
routing and the settings.  `Bridge.init` applies settings as a whole or not at all, the levels of
the log included; `Bridge.shutdown` closes every queue and leaves their messages where they are. -/

namespace RemoteClipboard

/-- The version of this library. -/
structure Version where
  major : Nat := 1
  minor : Nat := 0
  patch : Nat := 0
  protocol : Nat := protocolVersion.toNat
  deriving DecidableEq

/-- The version as it is written. -/
def Version.text (v : Version) : String :=
  toString v.major ++ "." ++ toString v.minor ++ "." ++ toString v.patch

/-- A clipboard bridge. -/
structure Bridge where
  initialized : Bool := false
  settings : Settings := {}
  registry : Registry := {}
  routing : Routing := Routing.ofSettings {}

namespace Bridge

/-- Applies settings to a bridge and to the levels of the log, unless the bridge is in use already
or the settings make no sense. -/
def init (b : Bridge) (levels : Log.Levels) (settings : Settings) :
    Outcome (Bridge × Log.Levels) (Except Fault Unit) :=
  if b.initialized then ⟨.error Fault.alreadyInitialized, (b, levels), []⟩
  else
    match settings.validate with
    | .error fault => ⟨.error fault, (b, levels), []⟩
    | .ok () =>
      let broadcast := if settings.broadcastSupported then "enabled" else "disabled"
      ⟨.ok (),
        ({ b with initialized := true, settings, routing := Routing.ofSettings settings },
          Log.Levels.uniform settings.logLevel),
        [.line .service .info
          ["ClipBridge ", Version.text {}, " initialized (broadcast ", broadcast, ")"]]⟩

/-- Closes every queue of a bridge that is in use. -/
def shutdown (b : Bridge) : Outcome Bridge Unit :=
  if b.initialized then
    ⟨(), { b with initialized := false, registry := b.registry.closeAll },
      [.line .service .info ["ClipBridge shut down"]]⟩
  else ⟨(), b, []⟩

end Bridge

end RemoteClipboard
