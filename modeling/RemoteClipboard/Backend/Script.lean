import RemoteClipboard.Backend

/-! # A backend that plays a script

A `Script` fixes in advance how a backend answers each call, and the backend makes known every call
that it gets.  It serves to see what a server asks of its backend, and what it does with the
answers. -/

namespace RemoteClipboard

/-- The fault with which each call is to be answered, if any, and whether there is clipboard content
to forget. -/
structure Script where
  serve : Option Fault := none
  stop : Option Fault := none
  empty : Option Fault := none
  content : Bool := false
  deriving DecidableEq

namespace Script

/-- The given fault, or success. -/
def answer {α : Type} (success : α) : Option Fault → Except Fault α
  | some fault => .error fault
  | none => .ok success

/-- The backend that answers by script.  Content can be forgotten once; a call that fails leaves it
there. -/
def backend : Backend Script where
  stop s := ⟨answer () s.stop, s, [.event .scriptStopped]⟩
  empty s conn :=
    ⟨answer s.content s.empty,
      if s.empty.isSome then s else { s with content := false },
      [.event (.scriptEmptied conn)]⟩
  serve s conn m := ⟨answer () s.serve, s, [.event (.scriptServed conn m)]⟩

end Script

end RemoteClipboard
