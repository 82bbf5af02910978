import RemoteClipboard.Journal

/-! # Backends

A `Backend` serves clipboard and file traffic for the connections of a server.  It is given by what
it does on each of three calls; its state can be anything, and so can its answers, among them faults
whose code is `success`. -/

namespace RemoteClipboard

/-- What a backend does with its state when it is called. -/
structure Backend (σ : Type) where
  /-- Stops serving. -/
  stop : σ → Outcome σ (Except Fault Unit)
  /-- Forgets the clipboard of a connection and says whether there was anything. -/
  empty : σ → Int32 → Outcome σ (Except Fault Bool)
  /-- Handles a file message of a connection. -/
  serve : σ → Int32 → Message → Outcome σ (Except Fault Unit)

namespace Backend

variable {σ τ : Type}

/-- A backend whose state is a part of a larger one. -/
def within (b : Backend σ) (part : τ → σ) (replace : τ → σ → τ) : Backend τ where
  stop s := (b.stop (part s)).mapState (replace s)
  empty s conn := (b.empty (part s) conn).mapState (replace s)
  serve s conn m := (b.serve (part s) conn m).mapState (replace s)

end Backend

end RemoteClipboard
