import UsbOverNetwork.Library.Runs
import UsbOverNetwork.Library.Pipeline
import UsbOverNetwork.Server.UrbHandler

/-! The URB handler in use: the session thread, the worker thread and a thread
that stops the handler or cancels its queue, interleaved at their critical
sections. The handler is a first-in first-out pipeline of URBs. -/
namespace UsbOverNetwork
open Runs

inductive SessionHold
  | idle
  | unlinking (entry : UrbEntry)
  | delivering (entry : UrbEntry)
deriving DecidableEq

inductive StopperPc
  | idle
  | joining
  | cancelling
  | cancelPush (entry : UrbEntry)
deriving DecidableEq

structure UrbSystem where
  handler : UrbHandler
  session : SessionHold
  stopper : StopperPc
deriving DecidableEq

inductive UrbAction
  | submit (header : UsbipHeader) (data : List UInt8) (entryAlloc bufferAlloc : Bool) (now : UInt64)
  | unlink (seqnum : UInt32)
  | unlinkPush
  | getCompleted
  | deliver (sent : Bool)
  | worker (device : Option UsbDevice) (outcome : WorkerOutcome)
  | stop
  | join
  | cancelAll
  | cancelPop
  | cancelPush

namespace UrbSystem

def started (device : Busid) : UrbSystem := ⟨urbHandlerStarted device,.idle,.idle⟩

def taken (s : UrbSystem) : List UrbEntry :=
  match s.handler.worker with
  | .exec entry => [entry]
  | _ => []

def ready (s : UrbSystem) : List UrbEntry :=
  match s.handler.worker with
  | .push entry => [entry]
  | _ => []

def unlinking (s : UrbSystem) : List UrbEntry :=
  match s.session with
  | .unlinking entry => [entry]
  | _ => []

def cancelling (s : UrbSystem) : List UrbEntry :=
  match s.stopper with
  | .cancelPush entry => [entry]
  | _ => []

def delivering (s : UrbSystem) : List UrbEntry :=
  match s.session with
  | .delivering entry => [entry]
  | _ => []

def step : UrbAction → UrbSystem → Option UrbSystem
  | .submit header data entryAlloc bufferAlloc now,s =>
    match s.session with
    | .idle => some {s with
        handler := (urbHandlerSubmit s.handler header data entryAlloc bufferAlloc now).2}
    | _ => none
  | .unlink seqnum,s =>
    match s.session with
    | .idle =>
      match urbHandlerUnlinkRemove s.handler seqnum with
      | (none,handler) => some {s with handler}
      | (some entry,handler) => some {s with handler, session := .unlinking entry}
    | _ => none
  | .unlinkPush,s =>
    match s.session with
    | .unlinking entry => some {s with
        handler := urbHandlerUnlinkPush s.handler entry
        session := .idle}
    | _ => none
  | .getCompleted,s =>
    match s.session with
    | .idle =>
      match urbHandlerGetCompleted s.handler with
      | (none,handler) => some {s with handler}
      | (some entry,handler) => some {s with handler, session := .delivering entry}
    | _ => none
  | .deliver sent,s =>
    match s.session with
    | .delivering entry =>
      let answered := if sent
        then s.handler.recordReply entry (urbHandlerCreateReturn entry) else s.handler
      some {s with handler := urbHandlerFreeEntry answered entry, session := .idle}
    | _ => none
  | .worker device outcome,s => some {s with handler := urbWorkerStep device outcome s.handler}
  | .stop,s =>
    match s.stopper with
    | .idle =>
      if s.handler.running then
        some {s with handler := {s.handler with running := false}, stopper := .joining}
      else some s
    | _ => none
  | .join,s =>
    match s.stopper,s.handler.worker with
    | .joining,.stopped => some {s with stopper := .cancelling}
    | _,_ => none
  | .cancelAll,s =>
    match s.stopper with
    | .idle => some {s with stopper := .cancelling}
    | _ => none
  | .cancelPop,s =>
    match s.stopper with
    | .cancelling =>
      match queuePop s.handler.pending with
      | (none,_) => some {s with stopper := .idle}
      | (some entry,pending) => some {s with
          handler := {s.handler with
            pending
            history := {s.handler.history with
              cancelled := s.handler.history.cancelled ++ [entry.serial]}}
          stopper := .cancelPush entry.cancel}
    | _ => none
  | .cancelPush,s =>
    match s.stopper with
    | .cancelPush entry => some {s with
        handler := {s.handler with completed := queuePush s.handler.completed entry}
        stopper := .cancelling}
    | _ => none

/-- The handler seen as a pipeline of the serial numbers of its entries. -/
def pipeline (s : UrbSystem) : Pipeline where
  issued := s.handler.history.submitted.length
  waiting := s.handler.pending.map UrbEntry.serial
  taken := s.taken.map UrbEntry.serial
  ready := s.ready.map UrbEntry.serial
  transit := s.unlinking.map UrbEntry.serial ++ s.cancelling.map UrbEntry.serial
  finished := s.handler.completed.map UrbEntry.serial
  leaving := s.delivering.map UrbEntry.serial
  answered := s.handler.history.freed
  executed := s.handler.history.executed
  withdrawn := s.handler.history.unlinked ++ s.handler.history.cancelled

def From (submitted : List UsbipHeader) (entry : UrbEntry) : Prop :=
  ∃ header, submitted[entry.serial]? = some header ∧ entry.Carries header

def Done (submitted : List UsbipHeader) (entry : UrbEntry) : Prop :=
  From submitted entry ∧ entry.completed = true ∧ entry.inProgress = false

structure Inv (s : UrbSystem) : Prop where
  pipeline : s.pipeline.Inv
  waiting : ∀ entry ∈ s.handler.pending,
    From s.handler.history.submitted entry ∧ entry.inProgress = false
  taken : ∀ entry ∈ s.taken, From s.handler.history.submitted entry
  done : ∀ entry ∈ s.ready ++ s.unlinking ++ s.cancelling ++ s.handler.completed ++ s.delivering,
    Done s.handler.history.submitted entry
  replied : ∀ reply ∈ s.handler.history.replies, ∃ header,
    s.handler.history.submitted[reply.1]? = some header ∧ reply.2.Answers header
  sent : (s.handler.history.replies.map Prod.fst).Sublist s.handler.history.freed

theorem started_inv (device : Busid) : (started device).Inv where
  pipeline := Pipeline.empty_inv
  waiting := by simp [started,urbHandlerStarted]
  taken := by simp [started,urbHandlerStarted,UrbSystem.taken]
  done := by
    simp [started,urbHandlerStarted,ready,unlinking,cancelling,delivering]
  replied := by simp [started,urbHandlerStarted,UrbHistory.empty]
  sent := by simp [started,urbHandlerStarted,UrbHistory.empty]

theorem submitted_mono {submitted : List UsbipHeader} {index : Nat} {header : UsbipHeader}
    (old : submitted[index]? = some header) (new : UsbipHeader) :
    (submitted ++ [new])[index]? = some header := by
  rw [List.getElem?_append_left (List.getElem?_eq_some_iff.mp old).1]
  exact old

theorem From.mono {submitted : List UsbipHeader} {entry : UrbEntry}
    (origin : From submitted entry) (new : UsbipHeader) : From (submitted ++ [new]) entry := by
  obtain ⟨header,found,carries⟩ := origin
  exact ⟨header,submitted_mono found new,carries⟩

theorem From.cancel {submitted : List UsbipHeader} {entry : UrbEntry}
    (origin : From submitted entry) : From submitted entry.cancel := by
  obtain ⟨header,found,carries⟩ := origin
  exact ⟨header,found,carries.cancel⟩

variable {s : UrbSystem}

structure Quiet (s next : UrbSystem) : Prop where
  pending : next.handler.pending = s.handler.pending
  completed : next.handler.completed = s.handler.completed
  history : next.handler.history = s.handler.history
  taken : next.taken = s.taken
  ready : next.ready = s.ready
  unlinking : next.unlinking = s.unlinking
  cancelling : next.cancelling = s.cancelling
  delivering : next.delivering = s.delivering

theorem quiet_inv (inv : s.Inv) {next : UrbSystem} (quiet : s.Quiet next) : next.Inv where
  pipeline := by
    have same : next.pipeline = s.pipeline := by
      simp only [UrbSystem.pipeline,quiet.pending,quiet.completed,quiet.history,quiet.taken,
        quiet.ready,quiet.unlinking,quiet.cancelling,quiet.delivering]
    exact same ▸ inv.pipeline
  waiting := by simpa only [quiet.pending,quiet.history] using inv.waiting
  taken := by simpa only [quiet.taken,quiet.history] using inv.taken
  done := by
    simpa only [quiet.completed,quiet.history,quiet.ready,quiet.unlinking,quiet.cancelling,
      quiet.delivering] using inv.done
  replied := by simpa only [quiet.history] using inv.replied
  sent := by simpa only [quiet.history] using inv.sent

theorem submit_inv (inv : s.Inv) (entry : UrbEntry) (header : UsbipHeader)
    (carries : entry.Carries header) (serial : entry.serial = s.handler.history.submitted.length)
    (idle : entry.inProgress = false) :
    Inv {s with handler := {s.handler with
      pending := s.handler.pending ++ [entry]
      history := {s.handler.history with
        submitted := s.handler.history.submitted ++ [header]}}} where
  pipeline := by
    have move := (Pipeline.Move.issue s.pipeline).inv inv.pipeline
    simpa [pipeline,UrbSystem.taken,ready,unlinking,cancelling,delivering,serial] using move
  waiting := by
    intro other member
    rcases List.mem_append.mp member with old | new
    · obtain ⟨origin,flags⟩ := inv.waiting other old
      exact ⟨origin.mono header,flags⟩
    · rw [List.mem_singleton.mp new]
      exact ⟨⟨header,by simp [serial],carries⟩,idle⟩
  taken := fun other member => (inv.taken other member).mono header
  done := fun other member => ⟨(inv.done other member).1.mono header,(inv.done other member).2⟩
  replied := by
    intro reply member
    obtain ⟨request,found,answers⟩ := inv.replied reply member
    exact ⟨request,submitted_mono found header,answers⟩
  sent := inv.sent

theorem Inv.cancelled (inv : s.Inv) {entry : UrbEntry} (waits : entry ∈ s.handler.pending) :
    Done s.handler.history.submitted entry.cancel := by
  obtain ⟨origin,flags⟩ := inv.waiting entry waits
  exact ⟨origin.cancel,rfl,flags⟩

theorem unlink_inv (inv : s.Inv) (idle : s.session = .idle) (before after : List UrbEntry)
    (entry : UrbEntry) (found : s.handler.pending = before ++ entry::after) :
    Inv {s with
      handler := {s.handler with
        pending := before ++ after
        history := {s.handler.history with
          unlinked := s.handler.history.unlinked ++ [entry.serial]}}
      session := .unlinking entry.cancel} where
  pipeline := by
    have move := (Pipeline.Move.withdraw s.pipeline entry.serial (before.map UrbEntry.serial)
      (after.map UrbEntry.serial) [] (s.cancelling.map UrbEntry.serial)
      s.handler.history.unlinked s.handler.history.cancelled
      (by simp [pipeline,found]) (by simp [pipeline,unlinking,idle]) rfl).inv inv.pipeline
    simpa [pipeline,UrbSystem.taken,ready,unlinking,cancelling,delivering,idle,UrbEntry.cancel]
      using move
  waiting := by
    intro other member
    apply inv.waiting
    rw [found]
    rcases List.mem_append.mp member with old | old <;> simp [old]
  taken := inv.taken
  done := by
    have fresh := inv.cancelled (show entry ∈ s.handler.pending by simp [found])
    have others := inv.done
    simp only [ready,unlinking,cancelling,delivering,idle,List.mem_append,List.mem_singleton]
      at others ⊢
    rintro other ((((new | rfl) | new) | new) | new)
    · exact others other (by simp [new])
    · exact fresh
    · exact others other (by simp [new])
    · exact others other (by simp [new])
    · simp at new
  replied := inv.replied
  sent := inv.sent

theorem cancelPop_inv (inv : s.Inv) (cancels : s.stopper = .cancelling) (rest : List UrbEntry)
    (entry : UrbEntry) (found : s.handler.pending = entry::rest) :
    Inv {s with
      handler := {s.handler with
        pending := rest
        history := {s.handler.history with
          cancelled := s.handler.history.cancelled ++ [entry.serial]}}
      stopper := .cancelPush entry.cancel} where
  pipeline := by
    have move := (Pipeline.Move.withdraw s.pipeline entry.serial [] (rest.map UrbEntry.serial)
      (s.unlinking.map UrbEntry.serial) []
      (s.handler.history.unlinked ++ s.handler.history.cancelled) []
      (by simp [pipeline,found]) (by simp [pipeline,cancelling,cancels])
      (by simp [pipeline])).inv inv.pipeline
    simpa [pipeline,UrbSystem.taken,ready,unlinking,cancelling,delivering,cancels,UrbEntry.cancel]
      using move
  waiting := fun other member => inv.waiting other (by simp [found,member])
  taken := inv.taken
  done := by
    have fresh := inv.cancelled (show entry ∈ s.handler.pending by simp [found])
    have others := inv.done
    simp only [ready,unlinking,cancelling,delivering,cancels,List.mem_append,List.mem_singleton]
      at others ⊢
    rintro other ((((new | new) | rfl) | new) | new)
    · exact others other (by simp [new])
    · exact others other (by simp [new])
    · exact fresh
    · exact others other (by simp [new])
    · exact others other (by simp [new])
  replied := inv.replied
  sent := inv.sent

theorem unlinkPush_inv (inv : s.Inv) (entry : UrbEntry) (held : s.session = .unlinking entry) :
    Inv {s with handler := urbHandlerUnlinkPush s.handler entry, session := .idle} where
  pipeline := by
    have move := (Pipeline.Move.arrive s.pipeline [] entry.serial
      (s.cancelling.map UrbEntry.serial) (by simp [pipeline,unlinking,held])).inv inv.pipeline
    simpa [pipeline,UrbSystem.taken,ready,unlinking,cancelling,delivering,held,
      urbHandlerUnlinkPush,queuePush] using move
  waiting := inv.waiting
  taken := inv.taken
  done := by
    intro other member
    apply inv.done
    simp only [ready,unlinking,cancelling,delivering,held,urbHandlerUnlinkPush,queuePush,
      List.mem_append] at member ⊢
    tauto
  replied := inv.replied
  sent := inv.sent

theorem cancelPush_inv (inv : s.Inv) (entry : UrbEntry) (held : s.stopper = .cancelPush entry) :
    Inv {s with
      handler := {s.handler with completed := queuePush s.handler.completed entry}
      stopper := .cancelling} where
  pipeline := by
    have move := (Pipeline.Move.arrive s.pipeline (s.unlinking.map UrbEntry.serial) entry.serial
      [] (by simp [pipeline,cancelling,held])).inv inv.pipeline
    simpa [pipeline,UrbSystem.taken,ready,unlinking,cancelling,delivering,held,queuePush] using move
  waiting := inv.waiting
  taken := inv.taken
  done := by
    intro other member
    apply inv.done
    simp only [ready,unlinking,cancelling,delivering,held,queuePush,List.mem_append] at member ⊢
    tauto
  replied := inv.replied
  sent := inv.sent

theorem getCompleted_inv (inv : s.Inv) (idle : s.session = .idle) (entry : UrbEntry)
    (rest : List UrbEntry) (found : s.handler.completed = entry::rest) :
    Inv {s with
      handler := {s.handler with completed := rest}
      session := .delivering entry} where
  pipeline := by
    have move := (Pipeline.Move.collect s.pipeline entry.serial (rest.map UrbEntry.serial)
      (by simp [pipeline,found]) (by simp [pipeline,delivering,idle])).inv inv.pipeline
    simpa [pipeline,UrbSystem.taken,ready,unlinking,cancelling,delivering,idle] using move
  waiting := inv.waiting
  taken := inv.taken
  done := by
    intro other member
    apply inv.done
    simp only [ready,unlinking,cancelling,delivering,idle,found,List.mem_append,List.mem_cons]
      at member ⊢
    tauto
  replied := inv.replied
  sent := inv.sent

theorem deliver_inv (inv : s.Inv) (entry : UrbEntry) (held : s.session = .delivering entry)
    (sent : Bool) :
    Inv {s with
      handler := urbHandlerFreeEntry (if sent
        then s.handler.recordReply entry (urbHandlerCreateReturn entry) else s.handler) entry
      session := .idle} where
  pipeline := by
    have move := (Pipeline.Move.answer s.pipeline entry.serial
      (by simp [pipeline,delivering,held])).inv inv.pipeline
    cases sent <;>
    simpa [pipeline,UrbSystem.taken,ready,unlinking,cancelling,delivering,held,
      urbHandlerFreeEntry,UrbHandler.recordReply] using move
  waiting := by
    cases sent <;> exact inv.waiting
  taken := by
    cases sent <;> exact inv.taken
  done := by
    intro other member
    have back := inv.done other
    cases sent <;>
    · simp only [ready,unlinking,cancelling,delivering,held,urbHandlerFreeEntry,
        UrbHandler.recordReply,List.mem_append] at member back ⊢
      exact back (by tauto)
  replied := by
    obtain ⟨header,found,carries⟩ := (inv.done entry (by simp [delivering,held])).1
    cases sent with
    | false => exact inv.replied
    | true =>
      intro reply member
      rcases List.mem_append.mp member with old | new
      · exact inv.replied reply old
      · rw [List.mem_singleton.mp new]
        exact ⟨header,found,urbHandlerCreateReturn_answers carries⟩
  sent := by
    cases sent with
    | false => exact inv.sent.trans (List.sublist_append_left _ _)
    | true =>
      have longer := inv.sent.append (List.Sublist.refl [entry.serial])
      simpa [urbHandlerFreeEntry,UrbHandler.recordReply] using longer

theorem workerPop_inv (inv : s.Inv) (worker : s.handler.worker = .pop) (entry : UrbEntry)
    (rest : List UrbEntry) (found : s.handler.pending = entry::rest) :
    Inv {s with handler := {s.handler with
      pending := rest
      worker := .exec {entry with inProgress := true}}} where
  pipeline := by
    have move := (Pipeline.Move.take s.pipeline entry.serial (rest.map UrbEntry.serial)
      (by simp [pipeline,found]) (by simp [pipeline,UrbSystem.taken,worker])).inv inv.pipeline
    simpa [pipeline,UrbSystem.taken,ready,unlinking,cancelling,delivering,worker] using move
  waiting := fun other member => inv.waiting other (by simp [found,member])
  taken := by
    intro other member
    obtain ⟨header,origin,carries⟩ := (inv.waiting entry (by simp [found])).1
    rw [List.mem_singleton.mp member]
    exact ⟨header,origin,carries.seqnum,carries.devid,carries.setup,carries.direction,
      carries.endpoint⟩
  done := by
    have back := inv.done
    simpa [ready,unlinking,cancelling,delivering,worker] using back
  replied := inv.replied
  sent := inv.sent

theorem workerExec_inv (inv : s.Inv) (entry : UrbEntry) (worker : s.handler.worker = .exec entry)
    (device : Option UsbDevice) (outcome : TransferOutcome) :
    Inv {s with handler := {s.handler with
      worker := .push (entry.executed device outcome)
      history := {s.handler.history with
        executed := s.handler.history.executed ++ [entry.serial]}}} where
  pipeline := by
    have move := (Pipeline.Move.execute s.pipeline entry.serial
      (by simp [pipeline,UrbSystem.taken,worker])
      (by simp [pipeline,ready,worker])).inv inv.pipeline
    simpa [pipeline,UrbSystem.taken,ready,unlinking,cancelling,delivering,worker,
      UrbEntry.executed] using move
  waiting := inv.waiting
  taken := by simp [UrbSystem.taken]
  done := by
    obtain ⟨header,origin,carries⟩ := inv.taken entry (by simp [UrbSystem.taken,worker])
    have back := inv.done
    intro other member
    simp only [ready,unlinking,cancelling,delivering,worker,List.mem_append,List.mem_singleton]
      at back member
    rcases member with (((rfl | new) | new) | new) | new
    · exact ⟨⟨header,origin,carries.executed device outcome⟩,rfl,rfl⟩
    · exact back other (by simp [new])
    · exact back other (by simp [new])
    · exact back other (by simp [new])
    · exact back other (by simp [new])
  replied := inv.replied
  sent := inv.sent

theorem workerPush_inv (inv : s.Inv) (entry : UrbEntry) (worker : s.handler.worker = .push entry) :
    Inv {s with handler := {s.handler with
      completed := queuePush s.handler.completed entry
      worker := .test}} where
  pipeline := by
    have move := (Pipeline.Move.finish s.pipeline entry.serial
      (by simp [pipeline,ready,worker])).inv inv.pipeline
    simpa [pipeline,UrbSystem.taken,ready,unlinking,cancelling,delivering,worker,queuePush]
      using move
  waiting := inv.waiting
  taken := by simp [UrbSystem.taken]
  done := by
    intro other member
    apply inv.done
    simp only [ready,unlinking,cancelling,delivering,worker,queuePush,List.mem_append] at member ⊢
    tauto
  replied := inv.replied
  sent := inv.sent

inductive Moved (s : UrbSystem) : UrbAction → UrbSystem → Prop
  | quiet (action next) (same : s.Quiet next) : Moved s action next
  | submitted (header data entryAlloc bufferAlloc now entry) (made : entry.Submitted header data)
      (serial : entry.serial = s.handler.history.submitted.length) (idle : entry.inProgress = false) :
      Moved s (.submit header data entryAlloc bufferAlloc now) {s with handler := {s.handler with
        pending := s.handler.pending ++ [entry]
        history := {s.handler.history with
          submitted := s.handler.history.submitted ++ [header]}}}
  | unlinked (seqnum before entry after) (idle : s.session = .idle)
      (found : s.handler.pending = before ++ entry::after) :
      Moved s (.unlink seqnum) {s with
        handler := {s.handler with
          pending := before ++ after
          history := {s.handler.history with
            unlinked := s.handler.history.unlinked ++ [entry.serial]}}
        session := .unlinking entry.cancel}
  | unlinkPushed (entry) (held : s.session = .unlinking entry) :
      Moved s .unlinkPush {s with
        handler := urbHandlerUnlinkPush s.handler entry
        session := .idle}
  | collected (entry rest) (idle : s.session = .idle) (found : s.handler.completed = entry::rest) :
      Moved s .getCompleted {s with
        handler := {s.handler with completed := rest}
        session := .delivering entry}
  | delivered (entry sent) (held : s.session = .delivering entry) :
      Moved s (.deliver sent) {s with
        handler := urbHandlerFreeEntry (if sent
          then s.handler.recordReply entry (urbHandlerCreateReturn entry) else s.handler) entry
        session := .idle}
  | popped (device outcome entry rest) (worker : s.handler.worker = .pop)
      (found : s.handler.pending = entry::rest) :
      Moved s (.worker device outcome) {s with handler := {s.handler with
        pending := rest
        worker := .exec {entry with inProgress := true}}}
  | executed (device outcome entry) (worker : s.handler.worker = .exec entry) :
      Moved s (.worker device outcome) {s with handler := {s.handler with
        worker := .push (entry.executed device outcome.transfer)
        history := {s.handler.history with
          executed := s.handler.history.executed ++ [entry.serial]}}}
  | pushed (device outcome entry) (worker : s.handler.worker = .push entry) :
      Moved s (.worker device outcome) {s with handler := {s.handler with
        completed := queuePush s.handler.completed entry
        worker := .test}}
  | cancelPopped (entry rest) (cancels : s.stopper = .cancelling)
      (found : s.handler.pending = entry::rest) :
      Moved s .cancelPop {s with
        handler := {s.handler with
          pending := rest
          history := {s.handler.history with
            cancelled := s.handler.history.cancelled ++ [entry.serial]}}
        stopper := .cancelPush entry.cancel}
  | cancelPushed (entry) (held : s.stopper = .cancelPush entry) :
      Moved s .cancelPush {s with
        handler := {s.handler with completed := queuePush s.handler.completed entry}
        stopper := .cancelling}

theorem Quiet.refl (s : UrbSystem) : s.Quiet s := ⟨rfl,rfl,rfl,rfl,rfl,rfl,rfl,rfl⟩

theorem worker_moved (s : UrbSystem) (device : Option UsbDevice) (outcome : WorkerOutcome) :
    Moved s (.worker device outcome) {s with handler := urbWorkerStep device outcome s.handler} := by
  cases worker : s.handler.worker with
  | test =>
    simp only [urbWorkerStep,worker]
    cases s.handler.running <;>
    exact .quiet _ _ ⟨rfl,rfl,rfl,by simp [taken,worker],by simp [ready,worker],rfl,rfl,rfl⟩
  | pop =>
    simp only [urbWorkerStep,worker]
    cases queue : s.handler.pending with
    | nil =>
      simp only [queuePop]
      exact .quiet _ _ ⟨queue.symm,rfl,rfl,by simp [taken,worker],by simp [ready,worker],
        rfl,rfl,rfl⟩
    | cons entry rest => exact .popped device outcome entry rest worker queue
  | wait =>
    simp only [urbWorkerStep,worker]
    cases outcome.waitFailed <;>
    exact .quiet _ _ ⟨rfl,rfl,rfl,by simp [taken,worker],by simp [ready,worker],rfl,rfl,rfl⟩
  | exec entry =>
    simp only [urbWorkerStep,worker]
    exact .executed device outcome entry worker
  | push entry =>
    simp only [urbWorkerStep,worker]
    exact .pushed device outcome entry worker
  | stopped =>
    simp only [urbWorkerStep,worker]
    exact .quiet _ _ (.refl s)

theorem step_moved {action : UrbAction} {s next : UrbSystem}
    (stepped : step action s = some next) : Moved s action next := by
  cases action with
  | submit header data entryAlloc bufferAlloc now =>
    simp only [step] at stepped
    split at stepped
    next _ =>
      cases Option.some.inj stepped
      rcases urbHandlerSubmit_result s.handler header data entryAlloc bufferAlloc now with
        ⟨error,_,refused⟩ | ⟨entry,made,serial,idle,accepted⟩
      · rw [refused]
        exact .quiet _ _ (.refl s)
      · rw [accepted]
        exact .submitted header data entryAlloc bufferAlloc now entry made serial idle
    next _ => cases stepped
  | unlink seqnum =>
    simp only [step] at stepped
    split at stepped
    next idle =>
      rcases urbHandlerUnlinkRemove_cases s.handler seqnum with
        absent | ⟨before,entry,after,queue,removed⟩
      · simp only [absent,Option.some.injEq] at stepped
        exact stepped ▸ .quiet _ _ (.refl s)
      · simp only [removed,Option.some.injEq] at stepped
        exact stepped ▸ .unlinked seqnum before entry after idle queue
    next _ => cases stepped
  | unlinkPush =>
    simp only [step] at stepped
    split at stepped
    next entry held => exact Option.some.inj stepped ▸ .unlinkPushed entry held
    next _ => cases stepped
  | getCompleted =>
    simp only [step] at stepped
    split at stepped
    next idle =>
      rcases urbHandlerGetCompleted_cases s.handler with empty | ⟨entry,rest,queue,popped⟩
      · simp only [empty,Option.some.injEq] at stepped
        exact stepped ▸ .quiet _ _ (.refl s)
      · simp only [popped,Option.some.injEq] at stepped
        exact stepped ▸ .collected entry rest idle queue
    next _ => cases stepped
  | deliver sent =>
    simp only [step] at stepped
    split at stepped
    next entry held => exact Option.some.inj stepped ▸ .delivered entry sent held
    next _ => cases stepped
  | worker device outcome => exact Option.some.inj stepped ▸ worker_moved s device outcome
  | stop =>
    simp only [step] at stepped
    split at stepped
    next idle =>
      split at stepped
      next _ =>
        rw [← Option.some.inj stepped]
        exact .quiet _ _ ⟨rfl,rfl,rfl,rfl,rfl,rfl,by simp [cancelling,idle],rfl⟩
      next _ => exact Option.some.inj stepped ▸ .quiet _ _ (.refl s)
    next _ => cases stepped
  | join =>
    simp only [step] at stepped
    split at stepped
    next joining _ =>
      rw [← Option.some.inj stepped]
      exact .quiet _ _ ⟨rfl,rfl,rfl,rfl,rfl,rfl,by simp [cancelling,joining],rfl⟩
    next _ => cases stepped
  | cancelAll =>
    simp only [step] at stepped
    split at stepped
    next idle =>
      rw [← Option.some.inj stepped]
      exact .quiet _ _ ⟨rfl,rfl,rfl,rfl,rfl,rfl,by simp [cancelling,idle],rfl⟩
    next _ => cases stepped
  | cancelPop =>
    simp only [step] at stepped
    split at stepped
    next cancels =>
      cases queue : s.handler.pending with
      | nil =>
        simp only [queue,queuePop,Option.some.injEq] at stepped
        rw [← stepped]
        exact .quiet _ _ ⟨rfl,rfl,rfl,rfl,rfl,rfl,by simp [cancelling,cancels],rfl⟩
      | cons entry rest =>
        simp only [queue,queuePop,Option.some.injEq] at stepped
        exact stepped ▸ .cancelPopped entry rest cancels queue
    next _ => cases stepped
  | cancelPush =>
    simp only [step] at stepped
    split at stepped
    next entry held => exact Option.some.inj stepped ▸ .cancelPushed entry held
    next _ => cases stepped

theorem step_inv (action : UrbAction) (s next : UrbSystem) (inv : s.Inv)
    (stepped : step action s = some next) : next.Inv := by
  cases step_moved stepped with
  | quiet _ _ same => exact quiet_inv inv same
  | submitted header data _ _ _ entry made serial idle =>
    exact submit_inv inv entry header made.carries serial idle
  | unlinked seqnum before entry after idle found =>
    exact unlink_inv inv idle before after entry found
  | unlinkPushed entry held => exact unlinkPush_inv inv entry held
  | collected entry rest idle found => exact getCompleted_inv inv idle entry rest found
  | delivered entry sent held => exact deliver_inv inv entry held sent
  | popped _ _ entry rest worker found => exact workerPop_inv inv worker entry rest found
  | executed device outcome entry worker =>
    exact workerExec_inv inv entry worker device outcome.transfer
  | pushed _ _ entry worker => exact workerPush_inv inv entry worker
  | cancelPopped entry rest cancels found => exact cancelPop_inv inv cancels rest entry found
  | cancelPushed entry held => exact cancelPush_inv inv entry held

theorem run_inv {device : Busid} {actions : List UrbAction} {final : UrbSystem}
    (run : Run step (started device) actions final) : final.Inv :=
  run.invariant Inv step_inv (started_inv device)

def inWorker (s : UrbSystem) : List UrbEntry := s.taken ++ s.ready

/-- Entries in the hands of a call that has left one critical section and not
reached the next. -/
def inCall (s : UrbSystem) : List UrbEntry := s.unlinking ++ s.cancelling ++ s.delivering

theorem inWorker_length (s : UrbSystem) : s.inWorker.length ≤ 1 := by
  simp only [inWorker,taken,ready]
  cases s.handler.worker <;> simp

theorem Inv.from {s : UrbSystem} (inv : s.Inv) (entry : UrbEntry)
    (member : entry ∈ s.handler.pending ++ s.inWorker ++ s.inCall ++ s.handler.completed) :
    From s.handler.history.submitted entry := by
  simp only [inWorker,inCall,List.mem_append] at member
  have back := inv.done entry
  simp only [List.mem_append] at back
  rcases member with ((waiting | taken | ready) | (unlinking | cancelling) | delivering) | completed
  · exact (inv.waiting entry waiting).1
  · exact inv.taken entry taken
  · exact (back (by simp [ready])).1
  · exact (back (by simp [unlinking])).1
  · exact (back (by simp [cancelling])).1
  · exact (back (by simp [delivering])).1
  · exact (back (by simp [completed])).1

theorem Inv.places {s : UrbSystem} (inv : s.Inv) :
    ((s.handler.pending ++ s.inWorker ++ s.inCall ++ s.handler.completed).map UrbEntry.serial ++
      s.handler.history.freed).Perm (List.range s.handler.history.submitted.length) := by
  refine List.Perm.trans ?_ (s.pipeline.places_perm inv.pipeline)
  rw [List.perm_iff_count]
  intro job
  simp only [inWorker,inCall,Pipeline.places,UrbSystem.pipeline,List.map_append,List.count_append]
  omega

/-- In every interleaving each submitted URB is in one place: pending, in the
worker's hands, between two critical sections of a call, completed, or freed.
None is executed or answered twice, an unlinked one is never executed, and the
reply to each carries what its request carried. -/
theorem urb_conservation {device : Busid} {actions : List UrbAction} {final : UrbSystem}
    (run : Run step (started device) actions final) :
    ((final.handler.pending ++ final.inWorker ++ final.inCall ++
        final.handler.completed).map UrbEntry.serial ++ final.handler.history.freed).Perm
      (List.range final.handler.history.submitted.length) ∧
    (final.inCall = [] →
      ((final.handler.pending ++ final.inWorker ++ final.handler.completed).map UrbEntry.serial ++
        final.handler.history.freed).Perm (List.range final.handler.history.submitted.length)) ∧
    final.inWorker.length ≤ 1 ∧
    final.handler.history.executed.Nodup ∧ final.handler.history.freed.Nodup ∧
    (final.handler.history.replies.map Prod.fst).Nodup ∧
    (final.handler.history.replies.map Prod.fst).Sublist final.handler.history.freed ∧
    (∀ entry ∈ final.handler.completed, entry.completed = true ∧ entry.inProgress = false) ∧
    (∀ serial ∈ final.handler.history.unlinked, serial ∉ final.handler.history.executed) ∧
    (∀ entry ∈ final.handler.pending ++ final.inWorker ++ final.inCall ++ final.handler.completed,
      ∃ request, final.handler.history.submitted[entry.serial]? = some request ∧
        (urbHandlerCreateReturn entry).Answers request) ∧
    (∀ reply ∈ final.handler.history.replies,
      ∃ request, final.handler.history.submitted[reply.1]? = some request ∧
        reply.2.Answers request) := by
  have inv := run_inv run
  have freed := final.pipeline.answered_nodup inv.pipeline
  refine ⟨inv.places,?_,final.inWorker_length,final.pipeline.executed_nodup inv.pipeline,freed,
    freed.sublist inv.sent,inv.sent,?_,?_,?_,inv.replied⟩
  · intro idle
    have places := inv.places
    rwa [idle,List.append_nil] at places
  · intro entry member
    exact (inv.done entry (by simp [member])).2
  · intro serial unlinked
    exact final.pipeline.withdrawn_not_executed inv.pipeline serial
      (List.mem_append_left _ unlinked)
  · intro entry member
    obtain ⟨request,found,carries⟩ := inv.from entry member
    exact ⟨request,found,urbHandlerCreateReturn_answers carries⟩

def twoReads : List UrbAction :=
  let device := some (UsbDevice.keyboard .empty)
  let outcome : WorkerOutcome := ⟨⟨true,false,1,[7]⟩,false⟩
  [.submit (.read 1 4) [] true true 0,.submit (.read 2 4) [] true true 0,.worker device outcome,
    .worker device outcome,.unlink 2,.worker device outcome,.unlinkPush,.worker device outcome,
    .getCompleted,.deliver true,.getCompleted,.deliver true]

theorem urb_conservation_twoReads : ∃ final, Run step (started .empty) twoReads final ∧
    final.handler.history.executed = [0] ∧ final.handler.history.unlinked = [1] ∧
    final.handler.history.replies.length = 2 ∧
    (final.handler.history.replies.map Prod.fst).Nodup ∧
    ∀ serial ∈ final.handler.history.unlinked, serial ∉ final.handler.history.executed := by
  obtain ⟨final,run,checked⟩ := run_of_check step twoReads (started .empty)
    (fun s => s.handler.history.executed = [0] ∧ s.handler.history.unlinked = [1] ∧
      s.handler.history.replies.length = 2) (by decide +kernel)
  obtain ⟨executed,unlinked,replies⟩ := of_decide_eq_true checked
  obtain ⟨_,_,_,_,_,once,_,_,never,_⟩ := urb_conservation run
  exact ⟨final,run,executed,unlinked,replies,once,never⟩

/-- URBs are executed in the order of submission with the unlinked and the
cancelled ones left out, and their replies go out in the order of execution. -/
theorem urb_order {device : Busid} {actions : List UrbAction} {final : UrbSystem}
    (run : Run step (started device) actions final) :
    final.handler.history.executed ++ (final.taken ++ final.handler.pending).map UrbEntry.serial =
      (List.range final.handler.history.submitted.length).filter (fun serial =>
        serial ∉ final.handler.history.unlinked ∧ serial ∉ final.handler.history.cancelled) ∧
    final.handler.history.freed.filter (· ∈ final.handler.history.executed) <+:
      final.handler.history.executed ∧
    (final.handler.history.replies.map Prod.fst).Sublist final.handler.history.freed ∧
    ((final.handler.history.replies.map Prod.fst).filter
      (· ∈ final.handler.history.executed)).Sublist final.handler.history.executed := by
  have inv := run_inv run
  have answered := final.pipeline.answered_prefix inv.pipeline
  refine ⟨?_,answered,inv.sent,(inv.sent.filter _).trans answered.sublist⟩
  have order := inv.pipeline.order
  simpa [pipeline,List.append_assoc] using order

theorem urb_order_twoReads : ∃ final, Run step (started .empty) twoReads final ∧
    final.handler.history.replies.map Prod.fst = [1,0] ∧
    final.handler.history.executed ++ (final.taken ++ final.handler.pending).map UrbEntry.serial =
      (List.range final.handler.history.submitted.length).filter (fun serial =>
        serial ∉ final.handler.history.unlinked ∧ serial ∉ final.handler.history.cancelled) := by
  obtain ⟨final,run,checked⟩ := run_of_check step twoReads (started .empty)
    (fun s => s.handler.history.replies.map Prod.fst = [1,0]) (by decide +kernel)
  exact ⟨final,run,of_decide_eq_true checked,(urb_order run).1⟩

end UrbSystem

end UsbOverNetwork
