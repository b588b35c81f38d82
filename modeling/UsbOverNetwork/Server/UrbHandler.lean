import Mathlib.Tactic.IntervalCases
import UsbOverNetwork.Server.UsbHost

/-! The URB handler of one attached device: its two queues, its worker thread
and the calls the session makes. Each definition is one critical section or
one step of the worker between two of them. -/
namespace UsbOverNetwork

-- errno values of the Windows C runtime
def eio : Int32 := 5
def ecanceled : Int32 := 105

/-- `serial` numbers the entries in the order they are allocated. It stands
for the entry's address: no modelled code reads it. -/
structure UrbEntry where
  urb : UsbUrb
  seqnum : UInt32
  devid : UInt32
  submitTime : UInt64
  inProgress : Bool
  completed : Bool
  serial : Nat
deriving DecidableEq

inductive UrbCall
  | forward (header : UsbipHeader) (data : List UInt8)
  | unlink (seqnum : UInt32)
deriving DecidableEq

/-- A record of everything that happened to the entries. It only grows, and
no modelled code reads it. -/
structure UrbHistory where
  calls : List UrbCall
  submitted : List UsbipHeader
  executed : List Nat
  unlinked : List Nat
  cancelled : List Nat
  replies : List (Nat × UsbipHeader)
  freed : List Nat
deriving DecidableEq

def UrbHistory.empty : UrbHistory := ⟨[],[],[],[],[],[],[]⟩

/-- Where the worker thread is: about to test `running`, to pop, to wait, to
execute or to push an entry it holds; `stopped` when there is no thread. -/
inductive WorkerPc
  | test
  | pop
  | wait
  | exec (entry : UrbEntry)
  | push (entry : UrbEntry)
  | stopped
deriving DecidableEq

/-- `device` names the entry of the device list the handler points into. -/
structure UrbHandler where
  device : Busid
  pending : List UrbEntry
  completed : List UrbEntry
  running : Bool
  initialized : Bool
  worker : WorkerPc
  history : UrbHistory
deriving DecidableEq

def queuePush (queue : List UrbEntry) (entry : UrbEntry) : List UrbEntry := queue ++ [entry]

def queuePop : List UrbEntry → Option UrbEntry × List UrbEntry
  | [] => (none,[])
  | entry::rest => (some entry,rest)

def queueFindRemove (seqnum : UInt32) : List UrbEntry → Option UrbEntry × List UrbEntry
  | [] => (none,[])
  | entry::rest =>
    if entry.seqnum = seqnum then (some entry,rest)
    else
      let (found,others) := queueFindRemove seqnum rest
      (found,entry::others)

def queueInit (mutex event : Bool) : ErrorCode :=
  if !mutex then .mutexInit else if !event then .threadCreate else .success

def createUrb (header : UsbipHeader) : UsbUrb :=
  let direction := header.common.direction.toUInt8
  let endpoint := header.common.ep.toUInt8
  { seqnum := header.common.seqnum
    devid := header.common.devid
    -- the type is taken from the endpoint number, before the direction bit is set
    endpoint := if direction = usbipDirIn.toUInt8 then endpoint ||| usbDirIn else endpoint
    direction := direction
    type := if endpoint = 0 then usbEndpointXferControl else usbEndpointXferBulk
    transferFlags := header.u.transferFlags
    setup := header.u.setup
    buffer := none
    bufferLength := header.u.transferBufferLength
    actualLength := 0
    status := 0
    startFrame := header.u.startFrame
    numberOfPackets := header.u.numberOfPackets
    interval := header.u.interval
    completed := false
    cancelled := false }

def urbBuffer (urb : UsbUrb) (data : List UInt8) : Buffer :=
  let length := urb.bufferLength.toNat
  let copied := if urb.direction = usbipDirOut.toUInt8 then (data.take length).map some else []
  copied ++ List.replicate (length - copied.length) none

def urbHandlerSubmit (handler : UrbHandler) (header : UsbipHeader) (data : List UInt8)
    (entryAlloc bufferAlloc : Bool) (now : UInt64) : ErrorCode × UrbHandler :=
  if !handler.initialized then (.invalidParam,handler)
  else if !entryAlloc then (.outOfMemory,handler)
  else
    let urb := createUrb header
    if urb.bufferLength > 0 && !bufferAlloc then (.outOfMemory,handler)
    else
      let buffer := if urb.bufferLength > 0 then some (urbBuffer urb data) else none
      let entry : UrbEntry :=
        { urb := {urb with buffer}
          seqnum := header.common.seqnum
          devid := header.common.devid
          submitTime := now
          inProgress := false
          completed := false
          serial := handler.history.submitted.length }
      (.success,{handler with
        pending := queuePush handler.pending entry
        history := {handler.history with submitted := handler.history.submitted ++ [header]}})

def UrbEntry.cancel (entry : UrbEntry) : UrbEntry :=
  {entry with
    urb := {entry.urb with status := -ecanceled, cancelled := true}
    completed := true}

/-- First critical section of `urb_handler_unlink`: the entry is taken out of
the pending queue and is then held by the caller alone. -/
def urbHandlerUnlinkRemove (handler : UrbHandler) (seqnum : UInt32) :
    Option UrbEntry × UrbHandler :=
  if !handler.initialized then (none,handler)
  else
    match queueFindRemove seqnum handler.pending with
    | (none,_) => (none,handler)
    | (some entry,pending) =>
      (some entry.cancel,{handler with
        pending
        history := {handler.history with unlinked := handler.history.unlinked ++ [entry.serial]}})

def urbHandlerUnlinkPush (handler : UrbHandler) (entry : UrbEntry) : UrbHandler :=
  {handler with completed := queuePush handler.completed entry}

def urbHandlerGetCompleted (handler : UrbHandler) : Option UrbEntry × UrbHandler :=
  if !handler.initialized then (none,handler)
  else
    let (entry,completed) := queuePop handler.completed
    (entry,{handler with completed})

def urbHandlerFreeEntry (handler : UrbHandler) (entry : UrbEntry) : UrbHandler :=
  {handler with
    history := {handler.history with freed := handler.history.freed ++ [entry.serial]}}

def UrbHandler.recordCall (handler : UrbHandler) (call : UrbCall) : UrbHandler :=
  {handler with history := {handler.history with calls := handler.history.calls ++ [call]}}

def UrbHandler.forgetCalls (handler : UrbHandler) : UrbHandler :=
  {handler with history := {handler.history with calls := []}}

def UrbHandler.recordReply (handler : UrbHandler) (entry : UrbEntry) (reply : UsbipHeader) :
    UrbHandler :=
  {handler with
    history := {handler.history with replies := handler.history.replies ++ [(entry.serial,reply)]}}

def urbHandlerCreateReturn (entry : UrbEntry) : UsbipHeader where
  common :=
    { command := usbipRetSubmit
      seqnum := entry.seqnum
      devid := entry.devid
      direction := entry.urb.direction.toUInt32
      ep := (entry.urb.endpoint &&& 0x0F).toUInt32 }
  u :=
    { word0 := entry.urb.status.toUInt32
      word1 := entry.urb.actualLength
      word2 := entry.urb.startFrame
      word3 := entry.urb.numberOfPackets
      word4 := 0
      setup := entry.urb.setup }

structure WorkerOutcome where
  transfer : TransferOutcome
  waitFailed : Bool
deriving DecidableEq

def UrbEntry.executed (entry : UrbEntry) (device : Option UsbDevice) (outcome : TransferOutcome) : UrbEntry :=
  let (result,urb) := usbSubmitUrb device entry.urb outcome
  {entry with
    urb := if result ≠ .success then {urb with status := -eio} else urb
    completed := true
    inProgress := false}

def urbWorkerStep (device : Option UsbDevice) (outcome : WorkerOutcome) (handler : UrbHandler) : UrbHandler :=
  match handler.worker with
  | .test => {handler with worker := if handler.running then .pop else .stopped}
  | .pop =>
    match queuePop handler.pending with
    | (none,_) => {handler with worker := .wait}
    | (some entry,pending) => {handler with pending, worker := .exec {entry with inProgress := true}}
  | .wait => {handler with worker := if outcome.waitFailed then .stopped else .test}
  | .exec entry =>
    {handler with
      worker := .push (entry.executed device outcome.transfer)
      history := {handler.history with executed := handler.history.executed ++ [entry.serial]}}
  | .push entry => {handler with completed := queuePush handler.completed entry, worker := .test}
  | .stopped => handler

structure InitOutcome where
  pendingMutex : Bool
  pendingEvent : Bool
  completedMutex : Bool
  completedEvent : Bool
deriving DecidableEq

def urbHandlerInit (device : Busid) (outcome : InitOutcome) : Except ErrorCode UrbHandler :=
  match queueInit outcome.pendingMutex outcome.pendingEvent with
  | .success =>
    match queueInit outcome.completedMutex outcome.completedEvent with
    | .success => .ok ⟨device,[],[],false,true,.stopped,.empty⟩
    | error => .error error
  | error => .error error

def urbHandlerStart (handler : UrbHandler) (thread : Bool) : ErrorCode × UrbHandler :=
  if !handler.initialized then (.invalidParam,handler)
  else if handler.running then (.success,handler)
  else if !thread then (.threadCreate,handler)
  else (.success,{handler with running := true, worker := .test})

/-- `thread_join`: the caller waits while the worker runs to its end, which it
reaches in four steps once `running` is false. -/
def workerJoin (device : Option UsbDevice) (outcomes : Fin 4 → WorkerOutcome) (handler : UrbHandler) :
    UrbHandler :=
  (List.finRange 4).foldl (fun handler i => urbWorkerStep device (outcomes i) handler) handler

/-- The loop of `urb_handler_cancel_all` when nobody else touches the queues. -/
def urbHandlerCancelAll (handler : UrbHandler) : UrbHandler :=
  {handler with
    pending := []
    completed := handler.completed ++ handler.pending.map UrbEntry.cancel
    history := {handler.history with
      cancelled := handler.history.cancelled ++ handler.pending.map UrbEntry.serial}}

def urbHandlerStop (device : Option UsbDevice) (outcomes : Fin 4 → WorkerOutcome) (handler : UrbHandler) :
    UrbHandler :=
  if !handler.running then handler
  else urbHandlerCancelAll (workerJoin device outcomes {handler with running := false})

/-- Both `queue_cleanup` calls: every queued entry is freed. -/
def queuesCleanup (handler : UrbHandler) : UrbHandler :=
  {handler with
    pending := []
    completed := []
    history := {handler.history with
      freed := handler.history.freed ++ handler.pending.map UrbEntry.serial ++
        handler.completed.map UrbEntry.serial}}

def urbHandlerCleanup (device : Option UsbDevice) (outcomes : Fin 4 → WorkerOutcome) (handler : UrbHandler) :
    UrbHandler :=
  if !handler.initialized then handler
  else {queuesCleanup (urbHandlerStop device outcomes handler) with initialized := false}

def urbHandlerStarted (device : Busid) : UrbHandler := ⟨device,[],[],true,true,.test,.empty⟩

theorem urbHandlerInit_ok (device : Busid) (outcome : InitOutcome) (handler : UrbHandler)
    (made : urbHandlerInit device outcome = .ok handler) :
    handler = ⟨device,[],[],false,true,.stopped,.empty⟩ := by
  simp only [urbHandlerInit] at made
  split at made
  next _ =>
    split at made
    next _ => exact (Except.ok.inj made).symm
    next _ => cases made
  next _ => cases made

theorem urbHandlerInit_error (device : Busid) (outcome : InitOutcome) :
    urbHandlerInit device outcome ≠ .error .success := by
  simp only [urbHandlerInit]
  split
  next _ =>
    split
    next _ => simp
    next failed => simpa using failed
  next failed => simpa using failed

theorem queueFindRemove_some (seqnum : UInt32) (queue rest : List UrbEntry) (entry : UrbEntry)
    (found : queueFindRemove seqnum queue = (some entry,rest)) :
    ∃ before after, queue = before ++ entry::after ∧ rest = before ++ after := by
  induction queue generalizing rest with
  | nil => simp [queueFindRemove] at found
  | cons head tail ih =>
    simp only [queueFindRemove] at found
    split at found
    next _ =>
      simp only [Prod.mk.injEq,Option.some.injEq] at found
      obtain ⟨rfl,rfl⟩ := found
      exact ⟨[],tail,rfl,rfl⟩
    next _ =>
      simp only [Prod.mk.injEq] at found
      obtain ⟨deeper,rfl⟩ := found
      obtain ⟨before,after,queue,left⟩ := ih _ (Prod.ext deeper rfl)
      exact ⟨head::before,after,congrArg (head::·) queue,congrArg (head::·) left⟩

theorem queueFindRemove_none (seqnum : UInt32) (queue : List UrbEntry) :
    (queueFindRemove seqnum queue).1 = none ↔ ∀ entry ∈ queue, entry.seqnum ≠ seqnum := by
  induction queue with
  | nil => simp [queueFindRemove]
  | cons head tail ih =>
    by_cases same : head.seqnum = seqnum
    · simp [queueFindRemove,same]
    · simpa [queueFindRemove,same] using ih

structure UrbEntry.Carries (entry : UrbEntry) (header : UsbipHeader) : Prop where
  seqnum : entry.seqnum = header.common.seqnum
  devid : entry.devid = header.common.devid
  setup : entry.urb.setup = header.u.setup
  direction : entry.urb.direction = header.common.direction.toUInt8
  endpoint : entry.urb.endpoint &&& 0x0F = header.common.ep.toUInt8 &&& 0x0F

theorem endpoint_mask (endpoint : UInt8) :
    (endpoint ||| usbDirIn) &&& 0x0F = endpoint &&& 0x0F := by
  have distributed : (endpoint ||| usbDirIn) &&& 0x0F =
      endpoint &&& 0x0F ||| usbDirIn &&& 0x0F :=
    UInt8.eq_of_toBitVec_eq BitVec.and_or_distrib_right
  have outside : usbDirIn &&& 0x0F = 0 := by decide
  rw [distributed,outside,UInt8.or_zero]

theorem createUrb_endpoint (header : UsbipHeader) :
    (createUrb header).endpoint &&& 0x0F = header.common.ep.toUInt8 &&& 0x0F := by
  simp only [createUrb]
  split
  · exact endpoint_mask _
  · rfl

def submitUrb (header : UsbipHeader) (data : List UInt8) : UsbUrb :=
  let urb := createUrb header
  {urb with buffer := if urb.bufferLength > 0 then some (urbBuffer urb data) else none}

structure UrbEntry.Submitted (entry : UrbEntry) (header : UsbipHeader) (data : List UInt8) : Prop where
  urb : entry.urb = submitUrb header data
  carries : entry.Carries header

theorem urbHandlerSubmit_result (handler : UrbHandler) (header : UsbipHeader) (data : List UInt8)
    (entryAlloc bufferAlloc : Bool) (now : UInt64) :
    (∃ error, error ≠ .success ∧
      urbHandlerSubmit handler header data entryAlloc bufferAlloc now = (error,handler)) ∨
    ∃ entry, entry.Submitted header data ∧ entry.serial = handler.history.submitted.length ∧
      entry.inProgress = false ∧
      urbHandlerSubmit handler header data entryAlloc bufferAlloc now = (.success,{handler with
        pending := handler.pending ++ [entry]
        history := {handler.history with submitted := handler.history.submitted ++ [header]}}) := by
  simp only [urbHandlerSubmit]
  split
  · exact Or.inl ⟨_,by decide,rfl⟩
  · split
    · exact Or.inl ⟨_,by decide,rfl⟩
    · split
      · exact Or.inl ⟨_,by decide,rfl⟩
      · exact Or.inr ⟨_,⟨rfl,rfl,rfl,rfl,rfl,createUrb_endpoint header⟩,rfl,rfl,rfl⟩

theorem urbHandlerSubmit_cases (handler : UrbHandler) (header : UsbipHeader) (data : List UInt8)
    (entryAlloc bufferAlloc : Bool) (now : UInt64) :
    (urbHandlerSubmit handler header data entryAlloc bufferAlloc now).2 = handler ∨
    ∃ entry, entry.Carries header ∧ entry.serial = handler.history.submitted.length ∧
      entry.inProgress = false ∧
      (urbHandlerSubmit handler header data entryAlloc bufferAlloc now).2 =
        {handler with
          pending := handler.pending ++ [entry]
          history := {handler.history with submitted := handler.history.submitted ++ [header]}} := by
  rcases urbHandlerSubmit_result handler header data entryAlloc bufferAlloc now with
    ⟨error,_,refused⟩ | ⟨entry,submitted,serial,idle,accepted⟩
  · exact Or.inl (by rw [refused])
  · exact Or.inr ⟨entry,submitted.carries,serial,idle,by rw [accepted]⟩

theorem urbHandlerUnlinkRemove_cases (handler : UrbHandler) (seqnum : UInt32) :
    urbHandlerUnlinkRemove handler seqnum = (none,handler) ∨
    ∃ before entry after, handler.pending = before ++ entry::after ∧
      urbHandlerUnlinkRemove handler seqnum = (some entry.cancel,{handler with
        pending := before ++ after
        history := {handler.history with
          unlinked := handler.history.unlinked ++ [entry.serial]}}) := by
  simp only [urbHandlerUnlinkRemove]
  split
  · exact Or.inl rfl
  · cases searched : queueFindRemove seqnum handler.pending with
    | mk found rest =>
      cases found with
      | none => exact Or.inl rfl
      | some entry =>
        obtain ⟨before,after,queue,rfl⟩ := queueFindRemove_some seqnum _ rest entry searched
        exact Or.inr ⟨before,entry,after,queue,rfl⟩

theorem urbHandlerUnlinkRemove_some {handler next : UrbHandler} {seqnum : UInt32} {entry : UrbEntry}
    (removed : urbHandlerUnlinkRemove handler seqnum = (some entry,next)) :
    ∃ before old after, handler.pending = before ++ old::after ∧ entry = old.cancel ∧
      next = {handler with
        pending := before ++ after
        history := {handler.history with
          unlinked := handler.history.unlinked ++ [old.serial]}} := by
  rcases urbHandlerUnlinkRemove_cases handler seqnum with absent | ⟨before,old,after,queue,found⟩
  · cases absent.symm.trans removed
  · cases found.symm.trans removed
    exact ⟨before,old,after,queue,rfl,rfl⟩

theorem urbHandlerUnlinkRemove_absent (handler : UrbHandler) (seqnum : UInt32)
    (absent : ∀ entry ∈ handler.pending, entry.seqnum ≠ seqnum) :
    urbHandlerUnlinkRemove handler seqnum = (none,handler) := by
  have searched := (queueFindRemove_none seqnum handler.pending).mpr absent
  simp only [urbHandlerUnlinkRemove]
  split
  · rfl
  · split
    next _ => rfl
    next entry rest found =>
      rw [found] at searched
      cases searched

theorem urbHandlerGetCompleted_cases (handler : UrbHandler) :
    urbHandlerGetCompleted handler = (none,handler) ∨
    ∃ entry rest, handler.completed = entry::rest ∧
      urbHandlerGetCompleted handler = (some entry,{handler with completed := rest}) := by
  simp only [urbHandlerGetCompleted]
  split
  · exact Or.inl rfl
  · cases queue : handler.completed with
    | nil =>
      left
      simp only [queuePop,Prod.mk.injEq,true_and]
      rw [← queue]
    | cons entry rest => exact Or.inr ⟨entry,rest,rfl,rfl⟩

theorem UrbEntry.Carries.cancel {entry : UrbEntry} {header : UsbipHeader}
    (carries : entry.Carries header) : entry.cancel.Carries header :=
  ⟨carries.seqnum,carries.devid,carries.setup,carries.direction,carries.endpoint⟩

theorem UrbEntry.Carries.executed {entry : UrbEntry} {header : UsbipHeader}
    (carries : entry.Carries header) (device : Option UsbDevice) (outcome : TransferOutcome) :
    (entry.executed device outcome).Carries header := by
  have kept (urb : UsbUrb) : ((usbSubmitUrb device urb outcome).2.setup = urb.setup ∧
      (usbSubmitUrb device urb outcome).2.direction = urb.direction) ∧
      (usbSubmitUrb device urb outcome).2.endpoint = urb.endpoint := by
    simp only [usbSubmitUrb]
    split <;> exact ⟨⟨rfl,rfl⟩,rfl⟩
  obtain ⟨⟨setup,direction⟩,endpoint⟩ := kept entry.urb
  constructor
  · exact carries.seqnum
  · exact carries.devid
  · simp only [UrbEntry.executed]
    split <;> simpa [setup] using carries.setup
  · simp only [UrbEntry.executed]
    split <;> simpa [direction] using carries.direction
  · simp only [UrbEntry.executed]
    split <;> simpa [endpoint] using carries.endpoint

/-- The reply to a URB, compared with the request: the endpoint and the
direction went through eight and four bits. -/
structure UsbipHeader.Answers (reply request : UsbipHeader) : Prop where
  command : reply.common.command = usbipRetSubmit
  seqnum : reply.common.seqnum = request.common.seqnum
  devid : reply.common.devid = request.common.devid
  setup : reply.u.setup = request.u.setup
  direction : request.common.direction ≤ 1 → reply.common.direction = request.common.direction
  ep : request.common.ep < 16 → reply.common.ep = request.common.ep

theorem urbHandlerCreateReturn_answers {entry : UrbEntry} {header : UsbipHeader}
    (carries : entry.Carries header) : (urbHandlerCreateReturn entry).Answers header where
  command := rfl
  seqnum := carries.seqnum
  devid := carries.devid
  setup := carries.setup
  direction := by
    intro small
    simp only [urbHandlerCreateReturn,carries.direction]
    rw [UInt32.le_iff_toNat_le] at small
    apply UInt32.toNat_inj.mp
    simp only [UInt8.toNat_toUInt32,UInt32.toNat_toUInt8]
    exact Nat.mod_eq_of_lt (lt_of_le_of_lt small (by decide))
  ep := by
    intro small
    simp only [urbHandlerCreateReturn,carries.endpoint]
    rw [UInt32.lt_iff_toNat_lt] at small
    have fits : header.common.ep.toNat < 16 := small
    apply UInt32.toNat_inj.mp
    have mask : (0x0F : UInt8).toNat = 2^4 - 1 := rfl
    rw [UInt8.toNat_toUInt32,UInt8.toNat_and,UInt32.toNat_toUInt8,mask,
      Nat.and_two_pow_sub_one_eq_mod,Nat.mod_mod_of_dvd _ (by decide)]
    exact Nat.mod_eq_of_lt fits

structure UrbHandler.SameFlags (first second : UrbHandler) : Prop where
  device : second.device = first.device
  running : second.running = first.running
  initialized : second.initialized = first.initialized

theorem urbWorkerStep_flags (device : Option UsbDevice) (outcome : WorkerOutcome)
    (handler : UrbHandler) : handler.SameFlags (urbWorkerStep device outcome handler) := by
  obtain ⟨busid,pending,completed,running,initialized,worker,history⟩ := handler
  cases worker with
  | pop => cases pending <;> exact ⟨rfl,rfl,rfl⟩
  | _ => exact ⟨rfl,rfl,rfl⟩

theorem urbWorkerStep_history (device : Option UsbDevice) (outcome : WorkerOutcome)
    (handler : UrbHandler) :
    (urbWorkerStep device outcome handler).history.submitted = handler.history.submitted ∧
      (urbWorkerStep device outcome handler).history.freed = handler.history.freed := by
  obtain ⟨busid,pending,completed,running,initialized,worker,history⟩ := handler
  cases worker with
  | pop => cases pending <;> exact ⟨rfl,rfl⟩
  | _ => exact ⟨rfl,rfl⟩

theorem workerJoin_keeps (holds : UrbHandler → Prop) (device : Option UsbDevice)
    (outcomes : Fin 4 → WorkerOutcome) (handler : UrbHandler)
    (kept : ∀ handler outcome, holds handler → holds (urbWorkerStep device outcome handler))
    (initially : holds handler) : holds (workerJoin device outcomes handler) := by
  have steps (indices : List (Fin 4)) : ∀ handler, holds handler →
      holds (indices.foldl (fun handler i => urbWorkerStep device (outcomes i) handler) handler) := by
    induction indices with
    | nil => exact fun _ holds => holds
    | cons i rest ih => exact fun handler holds => ih _ (kept handler (outcomes i) holds)
  exact steps _ handler initially

theorem workerJoin_stopped (device : Option UsbDevice) (outcomes : Fin 4 → WorkerOutcome)
    (handler : UrbHandler) (stopping : handler.running = false) :
    (workerJoin device outcomes handler).worker = .stopped := by
  obtain ⟨busid,pending,completed,running,initialized,worker,history⟩ := handler
  subst stopping
  simp only [workerJoin,List.finRange_succ,List.finRange_zero,List.map_cons,List.map_nil,
    List.foldl_cons,List.foldl_nil]
  cases worker with
  | test => simp [urbWorkerStep]
  | pop =>
    cases pending with
    | nil => by_cases failed : (outcomes 1).waitFailed <;> simp [urbWorkerStep,queuePop,failed]
    | cons entry rest => simp [urbWorkerStep,queuePop]
  | wait => by_cases failed : (outcomes 0).waitFailed <;> simp [urbWorkerStep,failed]
  | exec entry => simp [urbWorkerStep]
  | push entry => simp [urbWorkerStep]
  | stopped => simp [urbWorkerStep]

theorem urbHandlerStop_keeps (joins : Fin 4 → WorkerOutcome) (device : Option UsbDevice)
    (handler : UrbHandler) :
    (urbHandlerStop device joins handler).device = handler.device ∧
      (urbHandlerStop device joins handler).initialized = handler.initialized := by
  simp only [urbHandlerStop]
  split
  · exact ⟨rfl,rfl⟩
  · exact workerJoin_keeps
      (fun left => left.device = handler.device ∧ left.initialized = handler.initialized)
      device joins {handler with running := false}
      (fun left outcome ⟨device',initialized⟩ =>
        let flags := urbWorkerStep_flags device outcome left
        ⟨flags.device.trans device',flags.initialized.trans initialized⟩) ⟨rfl,rfl⟩

end UsbOverNetwork
