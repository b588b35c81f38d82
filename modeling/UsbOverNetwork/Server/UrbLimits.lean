import UsbOverNetwork.Server.UrbData

/-! The limits that `urb_handler.h` and `config.h` declare for one device. No
code reads them; what holds is what the client and the worker leave of them. -/
namespace UsbOverNetwork
open Runs

def maxPendingUrbsPerDevice : Nat := 64
def urbBufferSize : Nat := 262144

def UsbUrb.allocated (urb : UsbUrb) : Nat := (urb.buffer.map List.length).getD 0

theorem allocated_getD (urb : UsbUrb) : (urb.buffer.getD []).length = urb.allocated := by
  unfold UsbUrb.allocated
  cases urb.buffer <;> rfl

theorem submitUrb_allocated (header : UsbipHeader) (data : List UInt8) :
    (submitUrb header data).allocated = header.u.transferBufferLength.toNat := by
  unfold UsbUrb.allocated
  rw [submitUrb_size]
  split
  next _ => rfl
  next none =>
    have zero : header.u.transferBufferLength = 0 := by
      by_contra some
      exact none (UInt32.pos_iff_ne_zero.mpr some)
    rw [zero]
    rfl

namespace UrbTrace

theorem Fresh.allocated {notes : UrbNotes} {entry : UrbEntry} (fresh : Fresh notes entry) :
    ∃ header ∈ notes.accepted.map Prod.fst,
      entry.urb.allocated = header.u.transferBufferLength.toNat := by
  obtain ⟨header,data,found,submitted⟩ := fresh
  refine ⟨header,List.mem_map_of_mem (List.mem_of_getElem? found),?_⟩
  rw [submitted.urb]
  exact submitUrb_allocated header data

theorem Finished.allocated {notes : UrbNotes} {entry : UrbEntry} (finished : Finished notes entry) :
    ∃ header ∈ notes.accepted.map Prod.fst,
      entry.urb.allocated = header.u.transferBufferLength.toNat := by
  cases finished with
  | cancelled entry fresh => exact fresh.allocated
  | executed entry device outcome fresh made =>
    have same : (entry.executed device outcome).urb.allocated = entry.urb.allocated := by
      unfold UsbUrb.allocated
      rw [executed_size]
      obtain ⟨header,data,_,submitted⟩ := fresh
      rw [allocated_getD,submitted.urb,submitUrb_allocated]
      exact transfer_length_le (submitUrb header data)
    rw [same]
    exact fresh.allocated

theorem Inv.allocated {t : UrbTrace} (inv : t.Inv) :
    ∀ entry ∈ t.state.waitingEntries ++ t.state.finishedEntries,
      ∃ header ∈ t.state.handler.history.submitted,
        entry.urb.allocated = header.u.transferBufferLength.toNat := by
  rw [← inv.headers]
  intro entry member
  rcases List.mem_append.mp member with waiting | finished
  · exact (inv.waiting entry waiting).allocated
  · exact (inv.finished entry finished).allocated

end UrbTrace

namespace UrbSession

/-- The bytes allocated for the payload in hand, from the moment its header has
been read until it is copied into the URB's own buffer. -/
def payloadAllocated (outcomes : Nat → MessageOutcome) (s : UrbSession) : Nat :=
  match s.pc with
  | .submit header =>
    if header.hasPayload && (outcomes s.passes).payloadAlloc
    then header.u.transferBufferLength.toNat else 0
  | .forward _ data => data.length
  | _ => 0

structure WithinLimits (outcomes : Nat → MessageOutcome) (s : UrbSession) : Prop where
  pending : s.handler.pending.length ≤ maxPendingUrbsPerDevice
  urbs : ∀ entry ∈ s.system.waitingEntries ++ s.system.finishedEntries,
    entry.urb.allocated ≤ urbBufferSize
  payload : s.payloadAllocated outcomes ≤ urbBufferSize

/-- Nothing is allocated for a request over the limit, and no URB is queued
behind 64 pending ones. -/
structure Admits (outcomes : Nat → MessageOutcome) (s : UrbSession) : Prop where
  payload : ∀ header socket, s.pc = .recv →
    usbipRecvUrbHeader s.client.socket = some (.ok header,socket) →
    header.common.command = usbipCmdSubmit → header.hasPayload = true →
    (outcomes s.passes).payloadAlloc = true →
    header.u.transferBufferLength.toNat ≤ urbBufferSize
  urb : ∀ header data, s.pc = .forward header data → Allocates (outcomes s.passes) header →
    header.u.transferBufferLength.toNat ≤ urbBufferSize ∧
    s.handler.pending.length < maxPendingUrbsPerDevice

def Admitted (outcomes : Nat → MessageOutcome) (turn : Turn) (s : UrbSession) : Prop :=
  turn = .session → s.Admits outcomes

structure Sober (outcomes : Nat → MessageOutcome) (s : UrbSession) : Prop where
  ready : s.handler.initialized = true
  pending : s.handler.pending.length ≤ maxPendingUrbsPerDevice
  submitted : ∀ header ∈ s.handler.history.submitted,
    header.u.transferBufferLength.toNat ≤ urbBufferSize
  payload : s.payloadAllocated outcomes ≤ urbBufferSize

theorem submit_payload {outcomes : Nat → MessageOutcome} {s next : UrbSession}
    {header : UsbipHeader} (pc : s.pc = .submit header)
    (stepped : sessionStep outcomes s = some next) :
    next.payloadAllocated outcomes ≤ s.payloadAllocated outcomes := by
  simp only [sessionStep,pc] at stepped
  split at stepped
  next has =>
    split at stepped
    next _ => exact Option.some.inj stepped ▸ Nat.zero_le _
    next able =>
      have room : s.payloadAllocated outcomes = header.u.transferBufferLength.toNat := by
        have yes : (outcomes s.passes).payloadAlloc = true := by simpa using able
        simp only [payloadAllocated,pc,has,yes,Bool.and_self,if_true]
      split at stepped
      next _ => cases stepped
      next _ => exact Option.some.inj stepped ▸ Nat.zero_le _
      next data socket read =>
        have length : data.length ≤ header.u.transferBufferLength.toNat := by
          simp only [usbipRecvUrbData] at read
          split at read
          next _ =>
            cases read
            exact Nat.zero_le _
          next _ =>
            obtain ⟨_,got,_⟩ := recvExact_ok _ _ _ _ _ read
            rw [got]
            exact List.length_take_le _ _
        rw [room]
        exact Option.some.inj stepped ▸ length
  next _ => exact Option.some.inj stepped ▸ Nat.zero_le _

theorem dispatch_payload {outcomes : Nat → MessageOutcome} {s next : UrbSession}
    {header : UsbipHeader} (pc : next.pc = dispatch header) (passes : next.passes = s.passes)
    (small : header.common.command = usbipCmdSubmit → header.hasPayload = true →
      (outcomes s.passes).payloadAlloc = true →
      header.u.transferBufferLength.toNat ≤ urbBufferSize) :
    next.payloadAllocated outcomes ≤ urbBufferSize := by
  unfold dispatch at pc
  by_cases submit : header.common.command = usbipCmdSubmit
  · rw [if_pos submit] at pc
    simp only [payloadAllocated,pc,passes]
    split
    next room =>
      obtain ⟨has,able⟩ := Bool.and_eq_true_iff.mp room
      exact small submit has able
    next _ => exact Nat.zero_le _
  · rw [if_neg submit] at pc
    split at pc <;> simp [payloadAllocated,pc]

theorem worker_pending (device : Option UsbDevice) (outcome : WorkerOutcome)
    (handler : UrbHandler) :
    (urbWorkerStep device outcome handler).pending.length ≤ handler.pending.length := by
  cases worker : handler.worker with
  | pop => cases queue : handler.pending <;> simp [urbWorkerStep,worker,queue,queuePop]
  | _ => simp [urbWorkerStep,worker]

theorem forward_sober {outcomes : Nat → MessageOutcome} {s : UrbSession} {header : UsbipHeader}
    {data : List UInt8} (pc : s.pc = .forward header data) (admits : s.Admits outcomes)
    (sober : s.Sober outcomes) :
    let handler := (urbHandlerSubmit (s.handler.recordCall (.forward header data)) header data
      (outcomes s.passes).entryAlloc (outcomes s.passes).bufferAlloc (outcomes s.passes).now).2
    handler.pending.length ≤ maxPendingUrbsPerDevice ∧
      ∀ header ∈ handler.history.submitted,
        header.u.transferBufferLength.toNat ≤ urbBufferSize := by
  rcases urbHandlerSubmit_result (s.handler.recordCall (.forward header data)) header data
    (outcomes s.passes).entryAlloc (outcomes s.passes).bufferAlloc (outcomes s.passes).now with
    ⟨error,_,refused⟩ | ⟨entry,submitted,_,_,accepted⟩
  · rw [refused]
    exact ⟨sober.pending,sober.submitted⟩
  · have allocates := (urbHandlerSubmit_pending (s.handler.recordCall (.forward header data)) header
      data (outcomes s.passes) sober.ready).mp
      ⟨entry,submitted.carries.seqnum,by rw [accepted]⟩
    obtain ⟨small,room⟩ := admits.urb header data pc allocates
    rw [accepted]
    refine ⟨?_,?_⟩
    · simp only [UrbHandler.recordCall,List.length_append,List.length_singleton]
      omega
    · intro other member
      rcases List.mem_append.mp member with old | new
      · exact sober.submitted other old
      · exact List.mem_singleton.mp new ▸ small

theorem sessionStep_sober {outcomes : Nat → MessageOutcome} {s next : UrbSession}
    (admits : s.Admits outcomes) (sober : s.Sober outcomes)
    (stepped : sessionStep outcomes s = some next) : next.Sober outcomes := by
  have ready : next.handler.initialized = true :=
    (@step_flags none outcomes .session s next stepped).initialized.trans sober.ready
  cases sessionStep_moved stepped with
  | received header socket pc read =>
    exact ⟨ready,sober.pending,sober.submitted,
      dispatch_payload rfl rfl (admits.payload header socket pc read)⟩
  | gotPayload header data socket pc read =>
    exact ⟨ready,sober.pending,sober.submitted,(submit_payload pc stepped).trans sober.payload⟩
  | noPayload header pc =>
    exact ⟨ready,sober.pending,sober.submitted,(submit_payload pc stepped).trans sober.payload⟩
  | forwarded header data pc =>
    obtain ⟨pending,submitted⟩ := forward_sober pc admits sober
    exact ⟨ready,pending,submitted,Nat.zero_le _⟩
  | replied entry err sent client pc send =>
    refine ⟨ready,?_,?_,?_⟩
    · cases sent <;> exact sober.pending
    · cases sent <;> exact sober.submitted
    · by_cases ok : err = .success <;> simp [payloadAllocated,ok]
  | unlinked header entry handler pc removed =>
    obtain ⟨before,found,after,queue,rfl,rfl⟩ := urbHandlerUnlinkRemove_some removed
    have all : s.handler.pending = before ++ found::after := queue
    have pending := sober.pending
    simp only [all,List.length_append,List.length_cons] at pending
    refine ⟨ready,?_,sober.submitted,Nat.zero_le _⟩
    simp only [List.length_append]
    omega
  | entered pc | left pc | lost socket pc advances | lostPayload header socket pc advances
  | drained pc empty | collected entry rest pc queue popped | missed header pc absent
  | pushed header entry pc | answered header removed pc =>
    exact ⟨ready,sober.pending,sober.submitted,Nat.zero_le _⟩

theorem step_sober {device : Option UsbDevice} {outcomes : Nat → MessageOutcome} (turn : Turn)
    (s next : UrbSession) (admitted : Admitted outcomes turn s) (sober : s.Sober outcomes)
    (stepped : step device outcomes turn s = some next) : next.Sober outcomes := by
  cases turn with
  | session => exact sessionStep_sober (admitted rfl) sober stepped
  | worker outcome =>
    cases Option.some.inj stepped
    refine ⟨(urbWorkerStep_flags device outcome s.handler).initialized.trans sober.ready,
      (worker_pending device outcome s.handler).trans sober.pending,?_,sober.payload⟩
    rw [(urbWorkerStep_history device outcome s.handler).1]
    exact sober.submitted
  | signal =>
    cases Option.some.inj stepped
    exact ⟨sober.ready,sober.pending,sober.submitted,sober.payload⟩

theorem run_allocated {device : Option UsbDevice} {outcomes : Nat → MessageOutcome}
    {client : ClientConnection} {busid : Busid} {turns : List Turn} {final : UrbSession}
    (run : Run (step device outcomes) (start client busid) turns final) :
    ∀ entry ∈ final.system.waitingEntries ++ final.system.finishedEntries,
      ∃ header ∈ final.handler.history.submitted,
        entry.urb.allocated = header.u.transferBufferLength.toNat := by
  obtain ⟨actions,trace,traced,same,_⟩ := UrbTrace.session_traced run
  have inv := traced.invariant UrbTrace.Inv UrbTrace.step_inv (UrbTrace.started_inv busid)
  have sized := inv.allocated
  rwa [same] at sized

/-- As long as nothing over the limits is admitted, the limits hold in every
state of every run. -/
theorem limits_kept (device : Option UsbDevice) (outcomes : Nat → MessageOutcome)
    (client : ClientConnection) (busid : Busid) {turns : List Turn} {final : UrbSession}
    (run : GuardedRun (step device outcomes) (Admitted outcomes) (start client busid) turns final) :
    final.WithinLimits outcomes := by
  have sober := run.invariant (Sober outcomes) step_sober
    ⟨rfl,Nat.zero_le _,(fun _ member => nomatch member),Nat.zero_le _⟩
  refine ⟨sober.pending,?_,sober.payload⟩
  intro entry member
  obtain ⟨header,submitted,size⟩ := run_allocated run.run entry member
  rw [size]
  exact sober.submitted header submitted

def admitsRead (_ : Turn) (s : UrbSession) : Bool :=
  match s.pc,usbipRecvUrbHeader s.client.socket with
  | .recv,some (.ok header,_) => header.u.transferBufferLength.toNat ≤ urbBufferSize
  | .forward header _,_ => header.u.transferBufferLength.toNat ≤ urbBufferSize &&
      s.handler.pending.length < maxPendingUrbsPerDevice
  | _,_ => true

theorem limits_kept_read : ∃ final,
    GuardedRun (step openKeyboard fun _ => willing) (Admitted fun _ => willing)
      (start (clientOf [.read 1 4]) .empty) (List.replicate 4 .session) final ∧
    final.handler.pending.length = 1 ∧ final.WithinLimits fun _ => willing := by
  obtain ⟨final,run,checked⟩ := guardedRun_of_check (step openKeyboard fun _ => willing)
    (Admitted fun _ => willing) admitsRead
    (by
      intro turn s allowed _
      constructor
      · intro header socket pc read _ _ _
        simpa [admitsRead,pc,read] using allowed
      · intro header data pc _
        simpa [admitsRead,pc] using allowed)
    (List.replicate 4 .session) (start (clientOf [.read 1 4]) .empty)
    (fun s => s.handler.pending.length = 1) (by decide +kernel)
  exact ⟨final,run,of_decide_eq_true checked,limits_kept _ _ _ _ run⟩

/-- One byte over the size limit is allocated, and a 65th URB is queued. -/
theorem limits_exceeded : ∃ long full,
    Run (step openKeyboard fun _ => willing) (start (clientOf [.read 1 262145]) .empty)
      (List.replicate 4 .session) long ∧
    Run (step openKeyboard fun _ => willing)
      (start (clientOf (List.replicate 65 (.read 1 4))) .empty) (List.replicate 324 .session) full ∧
    (∃ entry ∈ long.handler.pending, entry.urb.allocated = urbBufferSize + 1) ∧
    full.handler.pending.length = maxPendingUrbsPerDevice + 1 ∧
    ¬(long.WithinLimits fun _ => willing) ∧ ¬(full.WithinLimits fun _ => willing) := by
  obtain ⟨long,run,checked⟩ := run_of_check (step openKeyboard fun _ => willing)
    (List.replicate 4 .session) (start (clientOf [.read 1 262145]) .empty)
    (fun s => s.handler.history.submitted = [.read 1 262145] ∧ s.handler.pending.length = 1)
    (by decide +kernel)
  obtain ⟨full,filling,queued⟩ := run_of_check (step openKeyboard fun _ => willing)
    (List.replicate 324 .session) (start (clientOf (List.replicate 65 (.read 1 4))) .empty)
    (fun s => s.handler.pending.length = maxPendingUrbsPerDevice + 1) (by decide +kernel)
  obtain ⟨submitted,one⟩ := of_decide_eq_true checked
  obtain ⟨entry,pending⟩ := List.length_eq_one_iff.mp one
  have waiting : entry ∈ long.system.waitingEntries ++ long.system.finishedEntries := by
    simp [UrbSystem.waitingEntries,system,UrbHandler.forgetCalls,pending]
  have length := of_decide_eq_true queued
  obtain ⟨header,member,size⟩ := run_allocated run entry waiting
  rw [submitted,List.mem_singleton] at member
  subst member
  have exceeding : entry.urb.allocated = urbBufferSize + 1 := size
  refine ⟨long,full,run,filling,⟨entry,by simp [pending],exceeding⟩,length,?_,?_⟩
  · intro limits
    have bound := limits.urbs entry waiting
    omega
  · intro limits
    have bound := limits.pending
    omega

end UrbSession

end UsbOverNetwork
