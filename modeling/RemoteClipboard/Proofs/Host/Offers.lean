import RemoteClipboard.Proofs.Files.Agreement
import RemoteClipboard.Proofs.Host.Controls

/-! # Files that are offered

A connection is offered the list that was offered to it last, unless that was withdrawn since
(`lists_after`): what the host does for others, and whatever else it does, neither changes the list nor
brings an older one back.  Requests are answered from that list and the files in it alone
(`FileShare.answeredAlike`), so that a connection can read what it is offered at that time and nothing
more. -/

namespace RemoteClipboard

namespace Host

/-- Whether a command offers or withdraws files to a connection.  The server withdraws them when a
clipboard is emptied, unless its backend is a script. -/
def Command.Replaces (scripted : Bool) (conn : Int32) : Command → Prop
  | .offer client _ | .withdraw client => client = conn
  | .empty client => client = conn ∧ scripted = false
  | _ => False

/-- Whether a list is the last one that some commands offer to a connection and do not withdraw. -/
def InForce (scripted : Bool) (conn : Int32) (paths : List Bytes) (cs : List Command) : Prop :=
  ∃ before later, cs = before ++ .offer conn paths :: later ∧
    ∀ c ∈ later, ¬ c.Replaces scripted conn

variable {h : Host} {c : Command} {cs : List Command} {conn : Int32} {paths : List Bytes}
  {scripted : Bool}

/-! ## One command -/

theorem scripted_step (h : Host) (c : Command) : (h.step c).state.scripted = h.scripted := by
  cases control : c.isControl with
  | false => exact congrArg Controls.scripted (controls_step h control)
  | true =>
    cases c with
    | init | shutdown | setLevels | stopShare => rfl
    | configure side settings => cases side <;> rfl
    | tryStop conn =>
      rcases h.state_tryStop conn with same | stopped
      · rw [same]
      · rw [stopped]
    | _ => cases control

/-- What a command does to the lists. -/
theorem lists_step (h : Host) (c : Command) :
    (h.step c).state.share.lists =
      match c with
      | .offer client paths => h.share.lists.insert client paths
      | .withdraw client => h.share.lists.erase client
      | .empty client => if h.scripted then h.share.lists else h.share.lists.erase client
      | _ => h.share.lists := by
  cases traffic : c.isTraffic with
  | true =>
    have same : (h.step c).state.share.lists = h.share.lists :=
      congrArg (·.share.lists) (still_step h traffic)
    rw [same]
    cases c with
    | offer | withdraw | empty => cases traffic
    | _ => rfl
  | false =>
    cases c with
    | configure side settings => cases side <;> rfl
    | observe who on => cases who <;> rfl
    | empty client =>
      simp only [step, empty, Server.empty, backend]
      cases h.scripted <;> rfl
    | tryStop conn =>
      rcases h.state_tryStop conn with same | stopped
      · rw [same]
      · rw [stopped]
    | init | shutdown | setLevels | offer | stopShare | withdraw | putFile | removeFile
    | setScript => rfl
    | _ => cases traffic

theorem list_step_iff (h : Host) (c : Command) :
    (h.step c).state.share.lists[conn]? = some paths ↔
      c = .offer conn paths ∨
        ¬ c.Replaces h.scripted conn ∧ h.share.lists[conn]? = some paths := by
  rw [lists_step]
  cases c with
  | offer client offered =>
    by_cases same : client = conn
    · simp [Command.Replaces, same]
    · simp [Command.Replaces, same, Std.HashMap.getElem?_insert]
  | withdraw client =>
    by_cases same : client = conn <;>
      simp [Command.Replaces, same, Std.HashMap.getElem?_erase]
  | empty client =>
    cases h.scripted with
    | true => simp [Command.Replaces]
    | false =>
      by_cases same : client = conn <;>
        simp [Command.Replaces, same, Std.HashMap.getElem?_erase]
  | _ => simp [Command.Replaces]

/-! ## Every run -/

@[simp] theorem not_inForce_nil : ¬ InForce scripted conn paths [] := by
  simp [InForce]

theorem inForce_cons : InForce scripted conn paths (c :: cs) ↔
    InForce scripted conn paths cs ∨
      c = .offer conn paths ∧ ∀ c ∈ cs, ¬ c.Replaces scripted conn := by
  constructor
  · rintro ⟨before, later, split, kept⟩
    cases before with
    | nil =>
      obtain ⟨rfl, rfl⟩ := List.cons_eq_cons.mp split
      exact .inr ⟨rfl, kept⟩
    | cons first before =>
      obtain ⟨rfl, rfl⟩ := List.cons_eq_cons.mp split
      exact .inl ⟨before, later, rfl, kept⟩
  · rintro (⟨before, later, rfl, kept⟩ | ⟨rfl, kept⟩)
    · exact ⟨c :: before, later, rfl, kept⟩
    · exact ⟨[], cs, rfl, kept⟩

/-- The list of a connection is the last one that was offered to it and is not withdrawn, or the one that
it had before if nothing was done about that. -/
theorem lists_after (h : Host) (cs : List Command) :
    (h.after cs).share.lists[conn]? = some paths ↔
      InForce h.scripted conn paths cs ∨
        (∀ c ∈ cs, ¬ c.Replaces h.scripted conn) ∧ h.share.lists[conn]? = some paths := by
  induction cs generalizing h with
  | nil => simp [after]
  | cons c cs ih =>
    rw [after, ih, scripted_step, list_step_iff, inForce_cons, List.forall_mem_cons]
    tauto

theorem result_offered (h : Host) (conn : Int32) :
    (h.step (.offered conn)).result = .paths (h.share.lists[conn]?.getD []) := by
  rw [step, FileShare.offered, Std.HashMap.getD_eq_getD_getElem?]

theorem result_withdraw (h : Host) (conn : Int32) :
    (h.step (.withdraw conn)).result = .flag h.share.lists[conn]?.isSome := by
  rw [← Std.HashMap.contains_eq_isSome_getElem?]
  rfl

/-- Whatever is done with a host that has no lists at first: a connection is offered the last list that
was offered to it and is not withdrawn, or nothing if there is none, and to withdraw it says which.  What
it can read is decided by that list and the files that are named there: over any two shares and disks that
agree on these, each of its requests has the same answer and the same result, but for the wording of a
fault where one share has an empty list and the other has none. -/
theorem offers_of_run (fresh : ∀ conn : Int32, h.share.lists[conn]? = none) (cs : List Command) :
    let later := h.after cs
    (∀ conn,
      (∀ paths, InForce h.scripted conn paths cs →
        (later.step (.offered conn)).result = .paths paths ∧
          (later.step (.withdraw conn)).result = .flag true) ∧
      ((∀ paths, ¬ InForce h.scripted conn paths cs) →
        (later.step (.offered conn)).result = .paths [] ∧
          (later.step (.withdraw conn)).result = .flag false)) ∧
    ∀ (conn : Int32) (s s' : FileShare) (disk disk' : Disk), FileShare.Agree conn s s' disk disk' →
      ∀ routing outbound r,
        let served := s.serve disk routing outbound conn (.fileContentsRequest r)
        let served' := s'.serve disk' routing outbound conn (.fileContentsRequest r)
        FileShare.AnsweredAlike served served' ∧
          (s'.lists[conn]? = s.lists[conn]? → served' = served) := by
  intro later
  have list (conn : Int32) (paths : List Bytes) :
      later.share.lists[conn]? = some paths ↔ InForce h.scripted conn paths cs := by
    rw [lists_after, fresh]
    simp
  refine ⟨fun conn => ⟨?_, ?_⟩, ?_⟩
  · intro paths inForce
    rw [result_offered, result_withdraw, (list conn paths).mpr inForce]
    exact ⟨rfl, rfl⟩
  · intro nothing
    have none : later.share.lists[conn]? = none :=
      Option.eq_none_iff_forall_ne_some.mpr fun paths listed =>
        nothing paths ((list conn paths).mp listed)
    rw [result_offered, result_withdraw, none]
    exact ⟨rfl, rfl⟩
  · intro conn s s' disk disk' agree routing outbound r
    exact ⟨FileShare.answeredAlike agree routing outbound r,
      fun listed => FileShare.serve_congr agree listed⟩

/-! ## Lists that come and go -/

namespace Lending

/-- Connection 5 gets a second list, connection 7 an empty one, and connection 9 loses what it had. -/
def commands : List Command :=
  [.offer 5 [[102]], .offer 9 [[103]], .offer 5 [[104], [102]], .offer 7 [], .empty 9,
    .serve 5 .monitorReady, .stopShare]

def share : FileShare where
  lists := ({} : Std.HashMap Int32 (List Bytes)).insert 5 [[102]]

/-- The same share, with another file for connection 9. -/
def larger : FileShare := { share with lists := share.lists.insert 9 [[103]] }

def disk : Disk := fun _ => .ok (File.ofBytes [1, 2, 3], {})

/-- The disk on which the file of connection 9 is another one, and that of connection 5 is stored
differently. -/
def other : Disk := fun path =>
  if path = [103] then .ok (File.ofBytes [4], {})
  else .ok (⟨3, fun i => UInt8.ofNat (i + 1)⟩, {})

theorem agree : FileShare.Agree 5 share larger disk other where
  stopped := rfl
  maxRead := rfl
  offered := by simp [FileShare.offered, larger, Std.HashMap.getD_insert]
  files := by
    intro path member
    have only : path = [102] := by
      simpa [FileShare.offered, share] using member
    rw [only]
    rfl

theorem listed : larger.lists[(5 : Int32)]? = share.lists[(5 : Int32)]? := by
  simp [larger, Std.HashMap.getElem?_insert]

end Lending

/-- The lists of connections 5 and 7 are in force, that of connection 9 is not; and connection 5 does not
notice what connection 9 is offered. -/
theorem offers_of_lending :
    let later := after {} Lending.commands
    (later.step (.offered 5)).result = .paths [[104], [102]] ∧
      (later.step (.offered 7)).result = .paths [] ∧
      (later.step (.withdraw 7)).result = .flag true ∧
      (later.step (.withdraw 9)).result = .flag false ∧
      ∀ routing outbound r,
        Lending.larger.serve Lending.other routing outbound 5 (.fileContentsRequest r) =
          Lending.share.serve Lending.disk routing outbound 5 (.fileContentsRequest r) := by
  intro later
  obtain ⟨offers, alike⟩ := offers_of_run (h := {}) (by simp) Lending.commands
  have five : InForce false 5 [[104], [102]] Lending.commands := by
    simp [Lending.commands, inForce_cons, Command.Replaces]
  have seven : InForce false 7 [] Lending.commands := by
    simp [Lending.commands, inForce_cons, Command.Replaces]
  have nine (paths : List Bytes) : ¬ InForce false 9 paths Lending.commands := by
    simp [Lending.commands, inForce_cons, Command.Replaces]
  refine ⟨((offers 5).1 _ five).1, ((offers 7).1 _ seven).1, ((offers 7).1 _ seven).2,
    ((offers 9).2 nine).2, ?_⟩
  intro routing outbound r
  exact (alike 5 _ _ _ _ Lending.agree routing outbound r).2 Lending.listed

end Host

end RemoteClipboard
