import UsbOverNetwork.Server.UrbTransfer
import UsbOverNetwork.Server.UrbSession

/-! Where the entries come from. Beside the URB handler's system a note is
taken of each accepted request and of each transfer the worker made; every
entry, wherever it is, is told by these two lists. -/
namespace UsbOverNetwork
open Runs

/-- `accepted` in the order of the serial numbers; a transfer under the serial
number of the entry it was made for. -/
structure UrbNotes where
  accepted : List (UsbipHeader × List UInt8)
  transfers : List (Nat × TransferOutcome)
deriving DecidableEq

namespace UrbNotes

def empty : UrbNotes := ⟨[],[]⟩

def newlyAccepted (s next : UrbSystem) : UrbAction → List (UsbipHeader × List UInt8)
  | .submit header data _ _ _ =>
    if s.handler.history.submitted.length < next.handler.history.submitted.length
    then [(header,data)] else []
  | _ => []

def newTransfers (s : UrbSystem) : UrbAction → List (Nat × TransferOutcome)
  | .worker _ outcome => s.taken.map fun entry => (entry.serial,outcome.transfer)
  | _ => []

def take (action : UrbAction) (s next : UrbSystem) (notes : UrbNotes) : UrbNotes where
  accepted := notes.accepted ++ newlyAccepted s next action
  transfers := notes.transfers ++ newTransfers s action

end UrbNotes

abbrev UrbTrace := Noted UrbSystem UrbNotes

namespace UrbTrace

def started (device : Busid) : UrbTrace := ⟨.started device,.empty⟩

def step : UrbAction → UrbTrace → Option UrbTrace := noting UrbSystem.step UrbNotes.take

/-- An entry that waits to be executed or is being executed. -/
def Fresh (notes : UrbNotes) (entry : UrbEntry) : Prop :=
  ∃ header data, notes.accepted[entry.serial]? = some (header,data) ∧ entry.Submitted header data

inductive Finished (notes : UrbNotes) : UrbEntry → Prop
  | cancelled (entry) (fresh : Fresh notes entry) : Finished notes entry.cancel
  | executed (entry device outcome) (fresh : Fresh notes entry)
      (made : (entry.serial,outcome) ∈ notes.transfers) :
      Finished notes (entry.executed device outcome)

end UrbTrace

namespace UrbSystem

def waitingEntries (s : UrbSystem) : List UrbEntry := s.handler.pending ++ s.taken

def finishedEntries (s : UrbSystem) : List UrbEntry :=
  s.ready ++ s.unlinking ++ s.cancelling ++ s.handler.completed ++ s.delivering

variable {s next : UrbSystem} {action : UrbAction}

theorem Moved.waiting (moved : Moved s action next) : ∀ entry ∈ next.waitingEntries,
    (∃ old ∈ s.waitingEntries, entry = old ∨ entry = {old with inProgress := true}) ∨
    ∃ header data, UrbNotes.newlyAccepted s next action = [(header,data)] ∧
      entry.serial = s.handler.history.submitted.length ∧ entry.Submitted header data := by
  intro entry member
  have stays (old : entry ∈ s.waitingEntries) :
      (∃ old ∈ s.waitingEntries, entry = old ∨ entry = {old with inProgress := true}) ∨
      ∃ header data, UrbNotes.newlyAccepted s next action = [(header,data)] ∧
        entry.serial = s.handler.history.submitted.length ∧ entry.Submitted header data :=
    Or.inl ⟨entry,old,Or.inl rfl⟩
  cases moved with
  | quiet _ _ same =>
    rw [waitingEntries,same.pending,same.taken] at member
    exact stays member
  | submitted header data entryAlloc bufferAlloc now made submitted serial idle =>
    simp only [waitingEntries,taken,List.mem_append,List.mem_singleton] at member
    rcases member with (old | rfl) | old
    · exact stays (by simp [waitingEntries,old])
    · exact Or.inr ⟨header,data,by simp [UrbNotes.newlyAccepted],serial,submitted⟩
    · exact stays (by simp [waitingEntries,taken,old])
  | unlinked seqnum before removed after idle found =>
    have fewer : entry ∈ before ++ after ++ s.taken := member
    apply stays
    rw [waitingEntries,found]
    simp only [List.mem_append,List.mem_cons] at fewer ⊢
    tauto
  | popped device outcome first rest worker found =>
    simp only [waitingEntries,taken,List.mem_append,List.mem_singleton] at member
    rcases member with old | rfl
    · exact stays (by simp [waitingEntries,found,old])
    · exact Or.inl ⟨first,by simp [waitingEntries,found],Or.inr rfl⟩
  | executed device outcome ended worker =>
    simp only [waitingEntries,taken,List.append_nil] at member
    exact stays (by simp [waitingEntries,member])
  | pushed device outcome ended worker =>
    simp only [waitingEntries,taken,List.append_nil] at member
    exact stays (by simp [waitingEntries,member])
  | cancelPopped first rest cancels found =>
    have fewer : entry ∈ rest ++ s.taken := member
    apply stays
    rw [waitingEntries,found]
    exact List.mem_cons_of_mem _ fewer
  | delivered held sent holds => cases sent <;> exact stays member
  | unlinkPushed held holds => exact stays member
  | collected first rest idle found => exact stays member
  | cancelPushed held holds => exact stays member

/-- A finished entry was finished before the step, or it is a waiting one that
has just been cancelled or executed. -/
theorem Moved.finished (moved : Moved s action next) : ∀ entry ∈ next.finishedEntries,
    entry ∈ s.finishedEntries ∨ (∃ old ∈ s.waitingEntries, entry = old.cancel) ∨
    ∃ old ∈ s.waitingEntries, ∃ device outcome,
      (old.serial,outcome) ∈ UrbNotes.newTransfers s action ∧
      entry = old.executed device outcome := by
  intro entry member
  cases moved with
  | quiet _ _ same =>
    rw [finishedEntries,same.ready,same.unlinking,same.cancelling,same.completed,
      same.delivering] at member
    exact Or.inl member
  | submitted header data entryAlloc bufferAlloc now made submitted serial idle =>
    exact Or.inl member
  | unlinked seqnum before removed after idle found =>
    have waiting : removed ∈ s.waitingEntries := by simp [waitingEntries,found]
    simp only [finishedEntries,ready,unlinking,cancelling,delivering,idle,List.append_nil,
      List.mem_append,List.mem_singleton] at member ⊢
    rcases member with ((old | rfl) | old) | old
    · exact Or.inl (by simp [old])
    · exact Or.inr (Or.inl ⟨removed,waiting,rfl⟩)
    · exact Or.inl (by simp [old])
    · exact Or.inl (by simp [old])
  | cancelPopped first rest cancels found =>
    have waiting : first ∈ s.waitingEntries := by simp [waitingEntries,found]
    simp only [finishedEntries,ready,unlinking,cancelling,delivering,cancels,List.append_nil,
      List.mem_append,List.mem_singleton] at member ⊢
    rcases member with (((old | old) | rfl) | old) | old
    · exact Or.inl (by simp [old])
    · exact Or.inl (by simp [old])
    · exact Or.inr (Or.inl ⟨first,waiting,rfl⟩)
    · exact Or.inl (by simp [old])
    · exact Or.inl (by simp [old])
  | executed device outcome ended worker =>
    have waiting : ended ∈ s.waitingEntries := by simp [waitingEntries,taken,worker]
    have noted : (ended.serial,outcome.transfer) ∈
        UrbNotes.newTransfers s (.worker device outcome) := by
      simp [UrbNotes.newTransfers,taken,worker]
    simp only [finishedEntries,ready,unlinking,cancelling,delivering,worker,List.nil_append,
      List.mem_append,List.mem_singleton] at member ⊢
    rcases member with (((rfl | old) | old) | old) | old
    · exact Or.inr (Or.inr ⟨ended,waiting,device,outcome.transfer,noted,rfl⟩)
    · exact Or.inl (by simp [old])
    · exact Or.inl (by simp [old])
    · exact Or.inl (by simp [old])
    · exact Or.inl (by simp [old])
  | popped device outcome first rest worker found =>
    simp only [finishedEntries,ready,unlinking,cancelling,delivering,worker] at member ⊢
    exact Or.inl member
  | pushed device outcome ended worker =>
    simp only [finishedEntries,ready,unlinking,cancelling,delivering,worker,queuePush,
      List.nil_append,List.mem_append,List.mem_singleton] at member ⊢
    tauto
  | unlinkPushed held holds =>
    simp only [finishedEntries,ready,unlinking,cancelling,delivering,holds,urbHandlerUnlinkPush,
      queuePush,List.append_nil,List.mem_append,List.mem_singleton] at member ⊢
    tauto
  | cancelPushed held holds =>
    simp only [finishedEntries,ready,unlinking,cancelling,delivering,holds,queuePush,
      List.append_nil,List.mem_append,List.mem_singleton] at member ⊢
    tauto
  | collected first rest idle found =>
    simp only [finishedEntries,ready,unlinking,cancelling,delivering,idle,found,List.append_nil,
      List.mem_append,List.mem_cons] at member ⊢
    tauto
  | delivered held sent holds =>
    refine Or.inl ?_
    cases sent <;>
    · simp only [finishedEntries,ready,unlinking,cancelling,delivering,holds,urbHandlerFreeEntry,
        UrbHandler.recordReply,if_true,Bool.false_eq_true,if_false,List.append_nil,
        List.mem_append] at member ⊢
      tauto

theorem Moved.submissions (moved : Moved s action next) :
    next.handler.history.submitted =
      s.handler.history.submitted ++ (UrbNotes.newlyAccepted s next action).map Prod.fst := by
  have stays (same : next.handler.history.submitted = s.handler.history.submitted) :
      next.handler.history.submitted = s.handler.history.submitted ++
        (UrbNotes.newlyAccepted s next action).map Prod.fst := by
    cases action <;> simp [UrbNotes.newlyAccepted,same]
  cases moved with
  | quiet _ _ same => exact stays (congrArg UrbHistory.submitted same.history)
  | submitted header data entryAlloc bufferAlloc now made submitted serial idle =>
    simp [UrbNotes.newlyAccepted]
  | delivered held sent holds => cases sent <;> exact stays rfl
  | _ => exact stays rfl

end UrbSystem

namespace UrbTrace

theorem Fresh.take {notes : UrbNotes} {entry : UrbEntry} (fresh : Fresh notes entry)
    (action : UrbAction) (s next : UrbSystem) : Fresh (notes.take action s next) entry := by
  obtain ⟨header,data,found,submitted⟩ := fresh
  refine ⟨header,data,?_,submitted⟩
  rw [UrbNotes.take,List.getElem?_append_left (List.getElem?_eq_some_iff.mp found).1]
  exact found

theorem Fresh.begin {notes : UrbNotes} {entry : UrbEntry} (fresh : Fresh notes entry) :
    Fresh notes {entry with inProgress := true} := by
  obtain ⟨header,data,found,urb,carries⟩ := fresh
  exact ⟨header,data,found,urb,carries.seqnum,carries.devid,carries.setup,carries.direction,
    carries.endpoint⟩

theorem Finished.take {notes : UrbNotes} {entry : UrbEntry} (finished : Finished notes entry)
    (action : UrbAction) (s next : UrbSystem) : Finished (notes.take action s next) entry := by
  cases finished with
  | cancelled entry fresh => exact .cancelled entry (fresh.take action s next)
  | executed entry device outcome fresh made =>
    exact .executed entry device outcome (fresh.take action s next) (List.mem_append_left _ made)

structure Inv (t : UrbTrace) : Prop where
  headers : t.note.accepted.map Prod.fst = t.state.handler.history.submitted
  waiting : ∀ entry ∈ t.state.waitingEntries, Fresh t.note entry
  finished : ∀ entry ∈ t.state.finishedEntries, Finished t.note entry

theorem started_inv (device : Busid) : (started device).Inv where
  headers := rfl
  waiting := by simp [started,UrbSystem.started,urbHandlerStarted,UrbSystem.waitingEntries,
    UrbSystem.taken]
  finished := by simp [started,UrbSystem.started,urbHandlerStarted,UrbSystem.finishedEntries,
    UrbSystem.ready,UrbSystem.unlinking,UrbSystem.cancelling,UrbSystem.delivering]

theorem step_inv (action : UrbAction) (t next : UrbTrace) (inv : t.Inv)
    (stepped : step action t = some next) : next.Inv := by
  obtain ⟨s,notes⟩ := t
  obtain ⟨after,taken,rfl⟩ := noting_taken stepped
  have moved := UrbSystem.step_moved taken
  constructor
  · have headers : notes.accepted.map Prod.fst = s.handler.history.submitted := inv.headers
    simp only [UrbNotes.take,List.map_append]
    rw [moved.submissions,headers]
  · intro entry member
    rcases moved.waiting entry member with ⟨old,waiting,rfl | rfl⟩ | ⟨header,data,new,serial,made⟩
    · exact (inv.waiting entry waiting).take action s after
    · exact ((inv.waiting old waiting).take action s after).begin
    · refine ⟨header,data,?_,made⟩
      have length : notes.accepted.length = s.handler.history.submitted.length := by
        rw [← inv.headers,List.length_map]
      simp only [UrbNotes.take,new,serial]
      rw [← length,List.getElem?_concat_length]
  · intro entry member
    rcases moved.finished entry member with
      old | ⟨old,waiting,rfl⟩ | ⟨old,waiting,device,outcome,made,rfl⟩
    · exact (inv.finished entry old).take action s after
    · exact .cancelled old ((inv.waiting old waiting).take action s after)
    · exact .executed old device outcome ((inv.waiting old waiting).take action s after)
        (List.mem_append_right _ made)

theorem newlyAccepted_forwards (s next : UrbSystem) (action : UrbAction) :
    ((UrbNotes.newlyAccepted s next action).map fun message =>
      UrbCall.forward message.1 message.2).Sublist (UrbSession.forwards action) := by
  cases action with
  | submit header data entryAlloc bufferAlloc now =>
    simp only [UrbNotes.newlyAccepted,UrbSession.forwards]
    split
    · exact .refl _
    · exact List.nil_sublist _
  | _ => exact .refl _

/-- A run of the session is a run of the noted system, and what was accepted
are calls the session made, in that order. -/
theorem session_traced {device : Option UsbDevice} {outcomes : Nat → MessageOutcome}
    {client : ClientConnection} {busid : Busid} {turns : List Turn} {final : UrbSession}
    (run : Run (UrbSession.step device outcomes) (.start client busid) turns final) :
    ∃ actions trace, Run step (started busid) actions trace ∧ trace.state = final.system ∧
      (trace.note.accepted.map fun message => UrbCall.forward message.1 message.2).Sublist
        final.handler.history.calls := by
  apply run.simulate (fun s (t : UrbTrace) => t.state = s.system ∧
    (t.note.accepted.map fun message => UrbCall.forward message.1 message.2).Sublist
      s.handler.history.calls)
  · exact ⟨rfl,List.nil_sublist _⟩
  · intro turn s next t seen stepped
    obtain ⟨state,notes⟩ := t
    obtain ⟨rfl,calls⟩ := seen
    obtain ⟨made,appended,same | ⟨action,taken,logged⟩⟩ := UrbSession.step_action turn s next stepped
    · refine ⟨[],_,.nil _,same.symm,?_⟩
      rw [appended]
      exact calls.trans (List.sublist_append_left _ _)
    · refine ⟨[action],_,.single action (noting_of_step UrbNotes.take taken notes),rfl,?_⟩
      rw [appended,UrbNotes.take,List.map_append]
      exact calls.append ((newlyAccepted_forwards _ _ action).trans logged)

end UrbTrace

end UsbOverNetwork
