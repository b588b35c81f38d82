import UsbOverNetwork.Server.ClientCalls

/-! Who has a device open while clients come and go. `client_manager_remove`
unexports a device before `free_client` closes it, and `usb_open_device`
succeeds on a device that is still open, so a device passes from one client to
the next safely only if it was closed in between. -/
namespace UsbOverNetwork
open Runs

/-- The device a call of `client_attach_device` has opened for its client but
not yet recorded there. -/
def CallPc.opened : CallPc → Option Busid
  | .starting busid => some busid
  | .updating busid => some busid
  | _ => none

/-- Past the point where the client's device was closed. -/
def CallPc.shut : CallPc → Bool
  | .unexporting => true
  | .clearing => true
  | .gone => true
  | _ => false

def CallThread.holds (thread : CallThread) (busid : Busid) : Bool :=
  thread.client.device = some busid || thread.pc.opened = some busid

theorem CallThread.holds_iff {thread : CallThread} {busid : Busid} :
    thread.holds busid = true ↔ thread.client.device = some busid ∨ thread.pc.opened = some busid := by
  simp [CallThread.holds]

def UsbDevice.claimed (device : UsbDevice) : Bool := device.isOpen && device.isClaimed

def Server.Claimed (server : Server) (busid : Busid) : Prop :=
  (server.device busid).any UsbDevice.claimed = true

theorem openAndClaim_claimed (outcome : OpenOutcome) (device : UsbDevice)
    (ok : (openAndClaim outcome device).1 = .success) :
    (openAndClaim outcome device).2.claimed = true := by
  simp only [openAndClaim] at ok ⊢
  split at ok
  next first opened =>
    split at ok
    next second claim =>
      simp only [usbClaimInterface] at claim
      split at claim
      next _ => cases claim
      next isOpen =>
        split at claim
        next isClaimed =>
          obtain ⟨_,rfl⟩ := Prod.mk.inj claim
          simp_all [UsbDevice.claimed]
        next _ =>
          obtain ⟨_,rfl⟩ := Prod.mk.inj claim
          simp_all [UsbDevice.claimed]
    next different _ => exact absurd ok different
  next different _ => exact absurd ok different

theorem device_modify_kept {server : Server} {busid other : Busid} {f : DeviceEntry → DeviceEntry}
    (device : ∀ entry, (f entry).device = entry.device) :
    Server.device {server with devices := server.devices.modify busid f} other =
      server.device other := by
  have keeps (entry : DeviceEntry) : (f entry).busid = entry.busid := by
    rw [DeviceEntry.busid,device entry,DeviceEntry.busid]
  simp only [Server.device,find_modify keeps]
  split
  · rw [Option.map_map]
    congr 1
    funext entry
    exact device entry
  · rfl

theorem device_modifyDevice_other {server : Server} {busid other : Busid} {g : UsbDevice → UsbDevice}
    (keeps : ∀ device, (g device).reset = device.reset) (different : other ≠ busid) :
    Server.device {server with devices := server.devices.modifyDevice busid g} other =
      server.device other := by
  simp only [Server.device,DeviceList.modifyDevice]
  rw [find_modify_other different (modifyDevice_busid keeps)]

theorem device_unexport (server : Server) (client : ClientConnection) (busid : Busid) :
    (detachUnexport server client).device busid = server.device busid := by
  rw [detachUnexport,unexport_modify]
  exact device_modify_kept fun _ => rfl

theorem device_export (server : Server) (client : ClientConnection) (target busid : Busid)
    (now : UInt64) :
    Server.device {server with devices := attachExport server.devices client target now} busid =
      server.device busid := by
  simp only [attachExport,deviceListExport]
  split
  · rfl
  · split
    · rfl
    · exact device_modify_kept fun _ => rfl

theorem device_setShared (server : Server) (target busid : Busid) (shared : Bool) :
    Server.device {server with devices := (deviceListSetShared server.devices target shared).2} busid =
      server.device busid := by
  simp only [deviceListSetShared]
  split
  · rfl
  · exact device_modify_kept fun _ => rfl

theorem device_add {server : Server} {device : UsbDevice} (alloc : Bool) {busid : Busid}
    (absent : deviceListFind server.devices device.busid = none) (listed : server.Claimed busid) :
    Server.device {server with devices := (deviceListAdd server.devices device alloc).2} busid =
      server.device busid := by
  have different : device.busid ≠ busid := by
    rintro rfl
    simp [Server.Claimed,Server.device,absent] at listed
  simp only [deviceListAdd,absent]
  cases alloc with
  | false => rfl
  | true =>
    simp [Server.device,deviceListFind,Keyed.find,createEntry,DeviceEntry.busid,different]

namespace CallSystem

/-- What one move of a thread does to the devices: nothing to any of them, or
something to the one it opens or closes. -/
inductive Touched (server : Server) (client : ClientConnection) :
    CallPc → Server → ClientConnection → CallPc → Prop
  | kept (pc next after onward) (devices : ∀ busid, next.device busid = server.device busid)
      (fewer : ∀ busid, CallThread.holds ⟨after,onward⟩ busid = true →
        CallThread.holds ⟨client,pc⟩ busid = true) :
      Touched server client pc next after onward
  | opened (busid next)
      (others : ∀ other, other ≠ busid → next.device other = server.device other)
      (claimed : next.Claimed busid) :
      Touched server client (.opening busid) next client (.starting busid)
  | unopened (busid next err)
      (others : ∀ other, other ≠ busid → next.device other = server.device other) :
      Touched server client (.opening busid) next client (.idle err)
  | unstarted (busid next after err) (device : after.device = client.device)
      (others : ∀ other, other ≠ busid → next.device other = server.device other) :
      Touched server client (.starting busid) next after (.idle err)
  | closed (busid release next after onward) (held : client.device = some busid)
      (device : after.device = none) (none : onward.opened = none)
      (others : ∀ other, other ≠ busid → next.device other = server.device other) :
      Touched server client (.closing release) next after onward

variable {server next : Server} {client after : ClientConnection} {pc onward : CallPc}
  {pointer : ClientPtr} {busid : Busid}

theorem touched_still (devices : next.devices = server.devices)
    (device : after.device = client.device)
    (idle : onward.opened = none ∨ onward.opened = pc.opened) :
    Touched server client pc next after onward := by
  refine .kept _ _ _ _ (fun busid => by rw [Server.device,devices,Server.device]) fun busid => ?_
  simp only [CallThread.holds_iff,device]
  rcases idle with idle | idle
  · rw [idle]
    simpa using Or.inl
  · rw [idle]
    exact id

theorem begin_touched {call : Call}
    (begun : begin server pointer client call pc = some (next,after,onward)) :
    Touched server client pc next after onward := by
  cases pc with
  | idle result => cases begin_moved begun <;> exact touched_still rfl rfl (Or.inl rfl)
  | _ => cases call <;> cases begun

theorem attachOpen_others (outcome : OpenOutcome) (other : Busid) (different : other ≠ busid) :
    Server.device {server with devices := (attachOpen server.devices busid outcome).2} other =
      server.device other := by
  simp only [attachOpen]
  split
  · rfl
  · exact device_modifyDevice_other (openAndClaim_reset outcome) different

theorem attachOpen_claimed {outcome : OpenOutcome}
    (ok : (attachOpen server.devices busid outcome).1 = .success) :
    Server.Claimed {server with devices := (attachOpen server.devices busid outcome).2} busid := by
  simp only [attachOpen] at ok ⊢
  split at ok
  next _ => cases ok
  next entry found =>
    simp only [Server.Claimed,Server.device,
      find_modifyDevice (openAndClaim_reset outcome) found,Option.map_some,Option.any_some]
    exact openAndClaim_claimed outcome entry.device ok

theorem advance_touched {outcome : AttachOutcome}
    (advanced : advance server client outcome pc = some (next,after,onward)) :
    Touched server client pc next after onward := by
  -- whose thread it is matters to the beginning of a call only
  have moved : ThreadMoved 0 server client pc next after onward := advance_moved advanced
  cases pc with
  | opening busid =>
    have others (other : Busid) (different : other ≠ busid) : Server.device
        {server with devices := (attachOpen server.devices busid outcome.opened).2} other =
          server.device other := attachOpen_others outcome.opened other different
    simp only [advance] at advanced
    split at advanced
    next devices opened =>
      cases advanced
      have claimed := attachOpen_claimed (congrArg Prod.fst opened)
      rw [opened] at others claimed
      exact .opened busid _ others claimed
    next err devices _ failed =>
      cases advanced
      rw [failed] at others
      exact .unopened busid _ err others
  | starting busid =>
    simp only [advance] at advanced
    rcases attachHandler_cases server client busid outcome with started | ⟨err,failure,failed⟩
    · rw [started] at advanced
      cases advanced
      exact touched_still rfl rfl (Or.inr rfl)
    · rw [failed] at advanced
      split at advanced
      next succeeded => cases succeeded; exact absurd rfl failure
      next split =>
        cases split
        cases advanced
        exact .unstarted busid _ _ err rfl fun other different =>
          device_modifyDevice_other releaseAndClose_reset different
  | updating busid =>
    cases moved
    refine .kept _ _ _ _ (fun _ => rfl) fun other => ?_
    simp [CallThread.holds_iff,attachUpdate,CallPc.opened]
    exact Or.inr
  | exporting busid =>
    cases moved with
    | exported _ now =>
      refine .kept _ _ _ _ (device_export server client busid · now) fun other => ?_
      simp [CallThread.holds_iff,CallPc.opened]
  | closing release =>
    cases release with
    | detach =>
      simp only [advance,detachDevice] at advanced
      split at advanced
      next _ => cases advanced; exact touched_still rfl rfl (Or.inl rfl)
      next busid held =>
        cases advanced
        exact .closed busid _ _ _ _ held rfl rfl fun other different =>
          device_modifyDevice_other releaseAndClose_reset different
    | free =>
      simp only [advance] at advanced
      split at advanced
      next _ => cases advanced; exact touched_still rfl rfl (Or.inl rfl)
      next busid held =>
        cases advanced
        exact .closed busid _ _ _ _ held rfl rfl fun other different =>
          device_modifyDevice_other usbCloseDevice_reset different
  | unexporting =>
    cases moved
    refine .kept _ _ _ _ (device_unexport server client) fun other => ?_
    simp [CallThread.holds_iff,CallPc.opened]
  | unlinked =>
    cases moved with
    | released _ =>
      refine .kept _ _ _ _ (device_unexport server client) fun other => ?_
      simp [CallThread.holds_iff,CallPc.opened]
    | unreleased _ => exact touched_still rfl rfl (Or.inl rfl)
  | idle result => cases advanced
  | gone => cases advanced
  | _ => cases moved <;> exact touched_still rfl rfl (Or.inl rfl)

structure Owning (thread : CallThread) : Prop where
  fresh : ∀ busid, thread.pc = .starting busid → thread.client.device ≠ some busid
  recorded : thread.client.state = .attached → thread.pc.shut = false →
    thread.client.device = some thread.client.attachedBusid

theorem ThreadMoved.owning (moved : ThreadMoved pointer server client pc next after onward)
    (free : ∀ busid, pc = .opening busid → client.device ≠ some busid)
    (owning : Owning ⟨client,pc⟩) : Owning ⟨after,onward⟩ := by
  obtain ⟨_,recorded⟩ := owning
  cases moved with
  | opened busid => exact ⟨by rintro _ ⟨⟩; exact free busid rfl,recorded⟩
  | updated busid => exact ⟨by simp,fun _ _ => rfl⟩
  | closed => exact ⟨by simp,by simp [CallPc.shut]⟩
  | freed => exact ⟨by simp,by simp [CallPc.shut]⟩
  | unexported => exact ⟨by simp,by simp [CallPc.shut]⟩
  | cleared => exact ⟨by simp,by simp [detachUpdate]⟩
  | _ => exact ⟨by simp,fun attached _ => recorded attached rfl⟩

/-- Each device is held by one client at most, and a held device is open and
claimed. -/
structure Handed (s : CallSystem) : Prop where
  owning : ∀ (pointer : ClientPtr) (thread : CallThread), s.threads[pointer]? = some thread →
    Owning thread
  claimed : ∀ (pointer : ClientPtr) (thread : CallThread) (busid : Busid),
    s.threads[pointer]? = some thread → thread.holds busid = true → s.server.Claimed busid
  single : ∀ (first second : ClientPtr) (thread other : CallThread) (busid : Busid),
    s.threads[first]? = some thread → s.threads[second]? = some other →
    thread.holds busid = true → other.holds busid = true → first = second

/-- The open that this action carries out, if it does, finds the device held by
no client, the departing ones included. -/
def opensFree (s : CallSystem) : CallAction → Bool
  | .advance pointer _ =>
    match s.threads[pointer]? with
    | some ⟨_,.opening busid⟩ => s.threads.all fun thread => !thread.holds busid
    | _ => true
  | _ => true

theorem opensFree_unheld {s after : CallSystem} {action : CallAction}
    (free : opensFree s action = true) (acts : action.client = some pointer)
    (stepped : step action s = some after)
    (here : s.threads[pointer]? = some ⟨client,.opening busid⟩) (other : ClientPtr)
    (thread : CallThread) (found : s.threads[other]? = some thread) : thread.holds busid = false := by
  obtain ⟨outcome,rfl⟩ := busy_advances acts stepped here (by simp)
  simp only [opensFree,here,List.all_eq_true] at free
  simpa using free thread (List.mem_of_getElem? found)

theorem Handed.move {s : CallSystem} {owners : List ClientPtr} (handed : s.Handed)
    (owning : Owning ⟨after,onward⟩)
    (theirs : ∀ (other : ClientPtr) (thread : CallThread) (busid : Busid), other ≠ pointer →
      s.threads[other]? = some thread → thread.holds busid = true →
      next.device busid = s.server.device busid)
    (mine : ∀ busid, CallThread.holds ⟨after,onward⟩ busid = true → next.Claimed busid ∧
      ∀ (other : ClientPtr) (thread : CallThread), other ≠ pointer →
        s.threads[other]? = some thread → thread.holds busid = false) :
    Handed ⟨next,s.threads.set pointer ⟨after,onward⟩,owners⟩ where
  owning := by
    intro other thread found
    rcases thread_set found with ⟨_,rfl⟩ | ⟨_,old⟩
    · exact owning
    · exact handed.owning other thread old
  claimed := by
    intro other thread busid found holds
    rcases thread_set found with ⟨_,rfl⟩ | ⟨different,old⟩
    · exact (mine busid holds).1
    · have kept := theirs other thread busid different old holds
      simpa only [Server.Claimed,kept] using handed.claimed other thread busid old holds
  single := by
    intro first second thread other busid left right holds again
    rcases thread_set left with ⟨rfl,rfl⟩ | ⟨notFirst,oldLeft⟩
    · rcases thread_set right with ⟨rfl,_⟩ | ⟨different,old⟩
      · rfl
      · exact absurd again (by simp [(mine busid holds).2 second other different old])
    · rcases thread_set right with ⟨rfl,rfl⟩ | ⟨_,old⟩
      · exact absurd holds (by simp [(mine busid again).2 first thread notFirst oldLeft])
      · exact handed.single first second thread other busid oldLeft old holds again

theorem Handed.alone {s : CallSystem} (handed : s.Handed) {thread : CallThread}
    (here : s.threads[pointer]? = some thread) (holds : thread.holds busid = true)
    (other : ClientPtr) (third : CallThread) (different : other ≠ pointer)
    (found : s.threads[other]? = some third) : third.holds busid = false := by
  cases again : third.holds busid with
  | false => rfl
  | true => exact absurd (handed.single other pointer _ _ busid found here again holds) different

theorem Handed.holding {s : CallSystem} (handed : s.Handed) {thread : CallThread}
    (here : s.threads[pointer]? = some thread) (holds : thread.holds busid = true)
    (kept : next.device busid = s.server.device busid) : next.Claimed busid ∧
      ∀ (other : ClientPtr) (third : CallThread), other ≠ pointer →
        s.threads[other]? = some third → third.holds busid = false :=
  ⟨by simpa only [Server.Claimed,kept] using handed.claimed pointer thread busid here holds,
    handed.alone here holds⟩

theorem device_elsewhere {s : CallSystem} {target : Busid}
    (others : ∀ busid, busid ≠ target → next.device busid = s.server.device busid)
    (unheld : ∀ (other : ClientPtr) (thread : CallThread), other ≠ pointer →
      s.threads[other]? = some thread → thread.holds target = false)
    (other : ClientPtr) (thread : CallThread) (busid : Busid) (different : other ≠ pointer)
    (found : s.threads[other]? = some thread) (holds : thread.holds busid = true) :
    next.device busid = s.server.device busid := by
  refine others busid ?_
  rintro rfl
  simp [unheld other thread different found] at holds

theorem Handed.moveThread {s : CallSystem} {owners : List ClientPtr} (handed : s.Handed)
    (here : s.threads[pointer]? = some ⟨client,pc⟩)
    (free : ∀ busid, pc = .opening busid → ∀ (other : ClientPtr) (thread : CallThread),
      s.threads[other]? = some thread → thread.holds busid = false)
    (moved : ThreadMoved pointer s.server client pc next after onward)
    (touched : Touched s.server client pc next after onward) :
    Handed ⟨next,s.threads.set pointer ⟨after,onward⟩,owners⟩ := by
  have unopened (busid : Busid) (opening : pc = .opening busid) : client.device ≠ some busid := by
    intro held
    have unheld := free busid opening pointer _ here
    simp [CallThread.holds,held] at unheld
  have before := handed.owning pointer _ here
  have owning := moved.owning unopened before
  cases touched with
  | kept _ _ _ _ devices fewer =>
    exact handed.move owning (fun _ _ busid _ _ _ => devices busid) fun busid holds =>
      handed.holding here (fewer busid holds) (devices busid)
  | opened target _ others claimed =>
    have unheld (other : ClientPtr) (thread : CallThread) (_ : other ≠ pointer) :=
      free target rfl other thread
    refine handed.move owning (device_elsewhere others unheld) fun busid holds => ?_
    by_cases same : busid = target
    · subst same
      exact ⟨claimed,unheld⟩
    · have held : CallThread.holds ⟨client,.opening target⟩ busid = true := by
        simpa [CallThread.holds_iff,CallPc.opened,Ne.symm same] using holds
      exact handed.holding here held (others busid same)
  | unopened target _ err others =>
    have unheld (other : ClientPtr) (thread : CallThread) (_ : other ≠ pointer) :=
      free target rfl other thread
    refine handed.move owning (device_elsewhere others unheld) fun busid holds => ?_
    have held : CallThread.holds ⟨client,.opening target⟩ busid = true := holds
    have different : busid ≠ target := by
      rintro rfl
      simp [free busid rfl pointer _ here] at held
    exact handed.holding here held (others busid different)
  | unstarted target _ _ err device others =>
    have started : CallThread.holds ⟨client,.starting target⟩ target = true := by
      simp [CallThread.holds,CallPc.opened]
    refine handed.move owning (device_elsewhere others (handed.alone here started))
      fun busid holds => ?_
    have recorded : client.device = some busid := by
      simpa [CallThread.holds,CallPc.opened,device] using holds
    have held : CallThread.holds ⟨client,.starting target⟩ busid = true := by
      simp [CallThread.holds,recorded]
    have different : busid ≠ target := by
      rintro rfl
      exact before.fresh busid rfl recorded
    exact handed.holding here held (others busid different)
  | closed target release _ _ _ held device none others =>
    have mine : CallThread.holds ⟨client,.closing release⟩ target = true := by
      simp [CallThread.holds,held]
    refine handed.move owning (device_elsewhere others (handed.alone here mine))
      fun busid holds => ?_
    simp [CallThread.holds,device,none] at holds

theorem Handed.relisted {s : CallSystem} (handed : s.Handed)
    (kept : ∀ busid, s.server.Claimed busid → next.device busid = s.server.device busid) :
    Handed {s with server := next} := by
  refine ⟨handed.owning,?_,handed.single⟩
  intro pointer thread busid found holds
  have listed := handed.claimed pointer thread busid found holds
  simpa only [Server.Claimed,kept busid listed] using listed

theorem Handed.joined {s : CallSystem} {new : CallThread} (handed : s.Handed)
    (kept : ∀ busid, next.device busid = s.server.device busid) (owning : Owning new)
    (unheld : ∀ busid, new.holds busid = false) :
    Handed {s with server := next, threads := s.threads ++ [new]} := by
  refine ⟨?_,?_,?_⟩
  · intro pointer thread found
    rcases thread_append found with old | ⟨_,rfl⟩
    · exact handed.owning pointer thread old
    · exact owning
  · intro pointer thread busid found holds
    rcases thread_append found with old | ⟨_,rfl⟩
    · simpa only [Server.Claimed,kept busid] using handed.claimed pointer thread busid old holds
    · simp [unheld busid] at holds
  · intro first second thread other busid left right holds again
    rcases thread_append left with oldLeft | ⟨_,rfl⟩
    · rcases thread_append right with old | ⟨_,rfl⟩
      · exact handed.single first second thread other busid oldLeft old holds again
      · simp [unheld busid] at again
    · simp [unheld busid] at holds

theorem step_handed (action : CallAction) (s after : CallSystem) (free : opensFree s action = true)
    (handed : s.Handed) (stepped : step action s = some after) : after.Handed := by
  have unheld {pointer : ClientPtr} {client : ClientConnection} {pc : CallPc}
      (acts : action.client = some pointer) (here : s.threads[pointer]? = some ⟨client,pc⟩)
      (busid : Busid) (opening : pc = .opening busid) :
      ∀ (other : ClientPtr) (thread : CallThread),
        s.threads[other]? = some thread → thread.holds busid = false := by
    subst opening
    exact opensFree_unheld free acts stepped here
  cases action with
  | connect socket ipAddress port outcome =>
    simp only [step] at stepped
    rcases clientManagerAdd_cases s.server.manager socket ipAddress port
      (if outcome.alloc then some s.threads.length else none) with ⟨err,id,refused⟩ | ⟨_,_,added⟩
    · rw [refused] at stepped
      cases stepped
      exact handed.relisted fun _ _ => rfl
    · rw [added] at stepped
      cases stepped
      exact handed.joined (fun _ => rfl) ⟨by simp,by simp [createClient]⟩ fun _ => by
        simp [CallThread.holds,createClient,CallPc.opened]
  | call pointer call =>
    simp only [step,moveThread,Option.bind_eq_bind,Option.bind_eq_some_iff] at stepped
    obtain ⟨⟨client,pc⟩,here,⟨server,next,onward⟩,begun,made⟩ := stepped
    cases made
    exact handed.moveThread here (unheld rfl here) (begin_moved begun) (begin_touched begun)
  | advance pointer outcome =>
    simp only [step,moveThread,Option.bind_eq_bind,Option.bind_eq_some_iff] at stepped
    obtain ⟨⟨client,pc⟩,here,⟨server,next,onward⟩,advanced,made⟩ := stepped
    cases made
    exact handed.moveThread here (unheld rfl here) (advance_moved advanced)
      (advance_touched advanced)
  | worker pointer outcome =>
    obtain ⟨handler,found,rfl⟩ := Option.map_eq_some_iff.mp stepped
    exact handed.relisted fun _ _ => rfl
  | enumerate device alloc =>
    simp only [step] at stepped
    split at stepped
    next fresh =>
      cases stepped
      exact handed.relisted fun busid listed => device_add alloc fresh.2 listed
    next _ => cases stepped
  | setShared busid shared =>
    cases stepped
    exact handed.relisted fun other _ => device_setShared s.server busid other shared

theorem start_handed : start.Handed := by
  refine ⟨?_,?_,?_⟩ <;> simp [start]

/-- Every attached client that is in no call has its device open and claimed. -/
def InUse (s : CallSystem) : Prop :=
  ∀ (pointer : ClientPtr) (thread : CallThread) (result : ErrorCode),
    s.threads[pointer]? = some thread → thread.pc = .idle result →
    thread.client.state = .attached →
    thread.client.device = some thread.client.attachedBusid ∧
      s.server.Claimed thread.client.attachedBusid

theorem Handed.inUse {s : CallSystem} (handed : s.Handed) : s.InUse := by
  intro pointer thread result found idle attached
  have recorded := (handed.owning pointer thread found).recorded attached (by simp [idle,CallPc.shut])
  refine ⟨recorded,handed.claimed pointer thread _ found ?_⟩
  simp [CallThread.holds,recorded]

/-- As long as a device is opened only after whoever had it has closed it, no
client has its device closed behind its back. -/
theorem attached_inUse {actions : List CallAction} {final : CallSystem}
    (run : GuardedRun step (fun action s => opensFree s action = true) start actions final) :
    final.InUse :=
  (run.invariant Handed step_handed start_handed).inUse

def attaching (pointer : ClientPtr) : List CallAction :=
  .call pointer (.attach sharedKeyboard.busid)::List.replicate 5 (.advance pointer granted)

def freeing (pointer : ClientPtr) (handler : HandlerPtr) : List CallAction :=
  .advance pointer granted::.worker handler ⟨⟨false,false,0,[]⟩,false⟩::
    List.replicate 3 (.advance pointer granted)

def released : List CallAction :=
  twoClients ++ attaching 0 ++ [.call 0 .remove,.advance 0 granted] ++ freeing 0 0 ++ attaching 1

theorem attached_inUse_released : ∃ final,
    GuardedRun step (fun action s => opensFree s action = true) start released final ∧
      final.InUse ∧ final.threads.map (fun thread => (thread.pc,thread.client.state)) =
        [(.gone,.attached),(.idle .success,.attached)] := by
  obtain ⟨final,run,checked⟩ := guardedRun_of_check step
    (fun action s => opensFree s action = true) (fun action s => opensFree s action)
    (fun _ _ free => free) released start (fun final => decide
      (final.threads.map (fun thread => (thread.pc,thread.client.state)) =
        [(.gone,.attached),(.idle .success,.attached)])) (by decide +kernel)
  exact ⟨final,run,attached_inUse run,of_decide_eq_true checked⟩

/-- The second client attaches between the unexport and `free_client`. -/
def reused : List CallAction :=
  twoClients ++ attaching 0 ++ [.call 0 .remove,.advance 0 granted] ++ attaching 1 ++ freeing 0 0

theorem attached_closed_behind : ∃ final departed second, Run step start reused final ∧
    final.threads = [departed,second] ∧ departed.pc = .gone ∧
    departed.client.attachedBusid = second.client.attachedBusid ∧ second.pc = .idle .success ∧
    second.client.state = .attached ∧
    (final.server.device second.client.attachedBusid).map UsbDevice.isOpen = some false ∧
    ¬final.InUse := by
  obtain ⟨final,run,checked⟩ := run_of_check step reused start (fun final => decide
      (final.threads.map (fun thread =>
        (thread.pc,thread.client.state,thread.client.attachedBusid)) =
          [(.gone,.attached,sharedKeyboard.busid),(.idle .success,.attached,sharedKeyboard.busid)] ∧
        (final.server.device sharedKeyboard.busid).map UsbDevice.isOpen = some false))
    (by decide +kernel)
  obtain ⟨threads,shut⟩ := of_decide_eq_true checked
  obtain ⟨first,rest,split,departed,others⟩ := List.map_eq_cons_iff.mp threads
  obtain ⟨second,none,last,attached,empty⟩ := List.map_eq_cons_iff.mp others
  cases List.map_eq_nil_iff.mp empty
  subst last
  simp only [Prod.mk.injEq] at departed attached
  obtain ⟨idle,state,busid⟩ := attached
  refine ⟨final,first,second,run,split,departed.1,departed.2.2.trans busid.symm,idle,state,
    by rw [busid]; exact shut,fun inUse => ?_⟩
  have claimed := (inUse 1 second .success (by simp [split]) idle state).2
  rw [busid] at claimed
  obtain ⟨device,found,isOpen⟩ := Option.map_eq_some_iff.mp shut
  simp [Server.Claimed,found,UsbDevice.claimed,isOpen] at claimed

end CallSystem

end UsbOverNetwork
