import RemoteClipboard.Delivery.HeldQueue
import RemoteClipboard.Proofs.Wire.Splitting
import RemoteClipboard.Proofs.Files.Confinement
import RemoteClipboard.Proofs.Files.Transfer
import RemoteClipboard.Proofs.Server.Loop
import RemoteClipboard.Proofs.Bridge.Lookups
import RemoteClipboard.Proofs.Bridge.Accounts
import RemoteClipboard.Proofs.Server.Gate
import RemoteClipboard.Proofs.Server.Exchanges
import RemoteClipboard.Proofs.Server.History
import RemoteClipboard.Proofs.Host.Stopping
import RemoteClipboard.Proofs.Bridge.Closing
import RemoteClipboard.Proofs.Log.Levels
import RemoteClipboard.Proofs.Wire.Recovery
import RemoteClipboard.Proofs.Wire.Relay
import RemoteClipboard.Proofs.Delivery.Clients
import RemoteClipboard.Proofs.Host.Configuring
import RemoteClipboard.Proofs.Wire.Refusals
import RemoteClipboard.Proofs.Wire.Conservation
import RemoteClipboard.Proofs.Files.Ranges
import RemoteClipboard.Proofs.Files.Answers
import RemoteClipboard.Proofs.Delivery.Numbers
import RemoteClipboard.Proofs.Bridge.Directed
import RemoteClipboard.Proofs.Delivery.Everyone
import RemoteClipboard.Proofs.Host.Offers
import RemoteClipboard.Proofs.Wire.Headers
import RemoteClipboard.Proofs.Server.Ways
import RemoteClipboard.Proofs.Server.Rounds
import RemoteClipboard.Proofs.Delivery.Lifetime
import RemoteClipboard.Proofs.Wire.Bounds
