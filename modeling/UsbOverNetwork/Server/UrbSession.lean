import UsbOverNetwork.Server.UrbSystem
import UsbOverNetwork.Server.ClientRequests

/-! The loop of `handle_client_session` while its client is attached, beside
the worker of that client's URB handler. A run of the two is a run of the
handler's own system. -/
namespace UsbOverNetwork
open Runs

inductive UrbPc
  | loop
  | recv
  | submit (header : UsbipHeader)
  | forward (header : UsbipHeader) (data : List UInt8)
  | drain
  | reply (entry : UrbEntry)
  | unlink (header : UsbipHeader)
  | unlinkPush (header : UsbipHeader) (entry : UrbEntry)
  | unlinkReply (header : UsbipHeader) (removed : Option Nat)
  | ended
deriving DecidableEq

structure UnlinkRecord where
  request : UsbipHeader
  removed : Option Nat
  reply : UsbipHeader
deriving DecidableEq

/-- `passes` counts the passes of the loop, `unlinks` records the unlinks; no
modelled code reads them. -/
structure UrbSession where
  client : ClientConnection
  handler : UrbHandler
  serverRunning : Bool
  pc : UrbPc
  passes : Nat
  unlinks : List UnlinkRecord
deriving DecidableEq

inductive Turn
  | session
  | worker (outcome : WorkerOutcome)
  | signal
deriving DecidableEq

def UsbipHeader.hasPayload (header : UsbipHeader) : Bool :=
  header.common.direction = usbipDirOut && header.u.transferBufferLength > 0

namespace UrbSession

def start (client : ClientConnection) (device : Busid) : UrbSession :=
  ⟨client,urbHandlerStarted device,true,.loop,0,[]⟩

def dispatch (header : UsbipHeader) : UrbPc :=
  if header.common.command = usbipCmdSubmit then .submit header
  else if header.common.command = usbipCmdUnlink then .unlink header
  else .loop

/-- `outcomes` answers the session's calls to the operating system, pass by pass. -/
def sessionStep (outcomes : Nat → MessageOutcome) (s : UrbSession) : Option UrbSession :=
  match s.pc with
  | .loop =>
    if s.serverRunning && s.client.state = .attached then
      some {s with pc := .recv, passes := s.passes+1}
    else some {s with pc := .ended}
  | .recv =>
    match usbipRecvUrbHeader s.client.socket with
    | none => none
    | some (.error _,socket) => some {s with client := {s.client with socket}, pc := .ended}
    | some (.ok header,socket) => some {s with client := {s.client with socket}, pc := dispatch header}
  | .submit header =>
    if header.hasPayload then
      if !(outcomes s.passes).payloadAlloc then some {s with pc := .ended}
      else
        match usbipRecvUrbData s.client.socket header.u.transferBufferLength with
        | none => none
        | some (.error _,socket) => some {s with client := {s.client with socket}, pc := .ended}
        | some (.ok data,socket) => some {s with
            client := {s.client with
              socket
              bytesReceived := s.client.bytesReceived + header.u.transferBufferLength.toUInt64}
            pc := .forward header data}
    else some {s with pc := .forward header []}
  | .forward header data =>
    -- an error of `client_forward_urb` is logged and nothing else
    let (_,handler,client) := clientForwardUrb s.client (s.handler.recordCall (.forward header data))
      header data (outcomes s.passes)
    some {s with client, handler, pc := .drain}
  | .drain =>
    match urbHandlerGetCompleted s.handler with
    | (none,handler) => some {s with handler, pc := .loop}
    | (some entry,handler) => some {s with handler, pc := .reply entry}
  | .reply entry =>
    let (err,sent,client) := clientSendUrbCompletion s.client entry (outcomes s.passes).stale
    let handler := if sent
      then s.handler.recordReply entry (urbHandlerCreateReturn entry) else s.handler
    some {s with
      client
      handler := urbHandlerFreeEntry handler entry
      pc := if err = .success then .drain else .loop}
  | .unlink header =>
    let seqnum := header.u.seqnumToUnlink
    match urbHandlerUnlinkRemove (s.handler.recordCall (.unlink seqnum)) seqnum with
    | (none,handler) => some {s with handler, pc := .unlinkReply header none}
    | (some entry,handler) => some {s with handler, pc := .unlinkPush header entry}
  | .unlinkPush header entry => some {s with
      handler := urbHandlerUnlinkPush s.handler entry
      pc := .unlinkReply header (some entry.serial)}
  | .unlinkReply header removed =>
    let reply := usbipCreateUrbUnlinkRet header.common.seqnum header.common.devid 0
    some {s with
      client := {s.client with socket := (usbipSendUrbHeader s.client.socket reply).2}
      pc := .loop
      unlinks := s.unlinks ++ [⟨header,removed,reply⟩]}
  | .ended => none

def step (device : Option UsbDevice) (outcomes : Nat → MessageOutcome) :
    Turn → UrbSession → Option UrbSession
  | .session,s => sessionStep outcomes s
  | .worker outcome,s => some {s with handler := urbWorkerStep device outcome s.handler}
  | .signal,s => some {s with serverRunning := false}

inductive Moved (outcomes : Nat → MessageOutcome) (s : UrbSession) : UrbSession → Prop
  | entered (pc : s.pc = .loop) : Moved outcomes s {s with pc := .recv, passes := s.passes+1}
  | left (pc : s.pc = .loop) : Moved outcomes s {s with pc := .ended}
  | lost (socket) (pc : s.pc = .recv) (advances : s.client.socket.Advances socket) :
      Moved outcomes s {s with client := {s.client with socket}, pc := .ended}
  | received (header socket) (pc : s.pc = .recv)
      (read : usbipRecvUrbHeader s.client.socket = some (.ok header,socket)) :
      Moved outcomes s {s with client := {s.client with socket}, pc := dispatch header}
  | lostPayload (header socket) (pc : s.pc = .submit header)
      (advances : s.client.socket.Advances socket) :
      Moved outcomes s {s with client := {s.client with socket}, pc := .ended}
  | gotPayload (header data socket) (pc : s.pc = .submit header)
      (read : usbipRecvUrbData s.client.socket header.u.transferBufferLength =
        some (.ok data,socket)) :
      Moved outcomes s {s with
        client := {s.client with
          socket
          bytesReceived := s.client.bytesReceived + header.u.transferBufferLength.toUInt64}
        pc := .forward header data}
  | noPayload (header) (pc : s.pc = .submit header) :
      Moved outcomes s {s with pc := .forward header []}
  | forwarded (header data) (pc : s.pc = .forward header data) :
      Moved outcomes s {s with
        client := {s.client with urbsProcessed := s.client.urbsProcessed+1}
        handler := (urbHandlerSubmit (s.handler.recordCall (.forward header data)) header data
          (outcomes s.passes).entryAlloc (outcomes s.passes).bufferAlloc (outcomes s.passes).now).2
        pc := .drain}
  | drained (pc : s.pc = .drain) (empty : urbHandlerGetCompleted s.handler = (none,s.handler)) :
      Moved outcomes s {s with pc := .loop}
  | collected (entry rest) (pc : s.pc = .drain) (queue : s.handler.completed = entry::rest)
      (popped : urbHandlerGetCompleted s.handler = (some entry,{s.handler with completed := rest})) :
      Moved outcomes s {s with handler := {s.handler with completed := rest}, pc := .reply entry}
  | replied (entry err sent client) (pc : s.pc = .reply entry)
      (send : clientSendUrbCompletion s.client entry (outcomes s.passes).stale = (err,sent,client)) :
      Moved outcomes s {s with
        client
        handler := urbHandlerFreeEntry (if sent
          then s.handler.recordReply entry (urbHandlerCreateReturn entry) else s.handler) entry
        pc := if err = .success then .drain else .loop}
  | missed (header) (pc : s.pc = .unlink header)
      (absent : urbHandlerUnlinkRemove (s.handler.recordCall (.unlink header.u.seqnumToUnlink))
        header.u.seqnumToUnlink = (none,s.handler.recordCall (.unlink header.u.seqnumToUnlink))) :
      Moved outcomes s {s with
        handler := s.handler.recordCall (.unlink header.u.seqnumToUnlink)
        pc := .unlinkReply header none}
  | unlinked (header entry handler) (pc : s.pc = .unlink header)
      (removed : urbHandlerUnlinkRemove (s.handler.recordCall (.unlink header.u.seqnumToUnlink))
        header.u.seqnumToUnlink = (some entry,handler)) :
      Moved outcomes s {s with handler, pc := .unlinkPush header entry}
  | pushed (header entry) (pc : s.pc = .unlinkPush header entry) :
      Moved outcomes s {s with
        handler := urbHandlerUnlinkPush s.handler entry
        pc := .unlinkReply header (some entry.serial)}
  | answered (header removed) (pc : s.pc = .unlinkReply header removed) :
      Moved outcomes s {s with
        client := {s.client with socket := (usbipSendUrbHeader s.client.socket
          (usbipCreateUrbUnlinkRet header.common.seqnum header.common.devid 0)).2}
        pc := .loop
        unlinks := s.unlinks ++ [⟨header,removed,
          usbipCreateUrbUnlinkRet header.common.seqnum header.common.devid 0⟩]}

theorem usbipRecvUrbData_advances {socket next : Socket} {length : UInt32}
    {result : Except ErrorCode (List UInt8)}
    (read : usbipRecvUrbData socket length = some (result,next)) : socket.Advances next := by
  simp only [usbipRecvUrbData] at read
  split at read
  next _ =>
    cases read
    exact .refl socket
  next _ => exact recvExact_next _ _ _ _ _ read

theorem sessionStep_moved {outcomes : Nat → MessageOutcome} {s next : UrbSession}
    (stepped : sessionStep outcomes s = some next) : Moved outcomes s next := by
  unfold sessionStep at stepped
  cases pc : s.pc with
  | loop =>
    simp only [pc] at stepped
    split at stepped
    next _ => exact Option.some.inj stepped ▸ .entered pc
    next _ => exact Option.some.inj stepped ▸ .left pc
  | recv =>
    simp only [pc] at stepped
    split at stepped
    next _ => cases stepped
    next socket failed =>
      exact Option.some.inj stepped ▸ .lost socket pc (recvExact_next _ _ _ _ _ failed)
    next header socket read => exact Option.some.inj stepped ▸ .received header socket pc read
  | submit header =>
    simp only [pc] at stepped
    split at stepped
    next _ =>
      split at stepped
      next _ => exact Option.some.inj stepped ▸ .lostPayload header s.client.socket pc (.refl _)
      next _ =>
        split at stepped
        next _ => cases stepped
        next socket failed =>
          exact Option.some.inj stepped ▸
            .lostPayload header socket pc (usbipRecvUrbData_advances failed)
        next data socket read =>
          exact Option.some.inj stepped ▸ .gotPayload header data socket pc read
    next _ => exact Option.some.inj stepped ▸ .noPayload header pc
  | forward header data =>
    simp only [pc] at stepped
    exact Option.some.inj stepped ▸ .forwarded header data pc
  | drain =>
    simp only [pc] at stepped
    rcases urbHandlerGetCompleted_cases s.handler with empty | ⟨entry,rest,queue,popped⟩
    · rw [empty] at stepped
      exact Option.some.inj stepped ▸ .drained pc empty
    · rw [popped] at stepped
      exact Option.some.inj stepped ▸ .collected entry rest pc queue popped
  | reply entry =>
    cases send : clientSendUrbCompletion s.client entry (outcomes s.passes).stale with
    | mk err rest =>
      simp only [pc,send] at stepped
      exact Option.some.inj stepped ▸ .replied entry err rest.1 rest.2 pc send
  | unlink header =>
    simp only [pc] at stepped
    rcases urbHandlerUnlinkRemove_cases (s.handler.recordCall (.unlink header.u.seqnumToUnlink))
      header.u.seqnumToUnlink with absent | ⟨before,entry,after,queue,removed⟩
    · rw [absent] at stepped
      exact Option.some.inj stepped ▸ .missed header pc absent
    · rw [removed] at stepped
      exact Option.some.inj stepped ▸ .unlinked header _ _ pc removed
  | unlinkPush header entry =>
    simp only [pc] at stepped
    exact Option.some.inj stepped ▸ .pushed header entry pc
  | unlinkReply header removed =>
    simp only [pc] at stepped
    exact Option.some.inj stepped ▸ .answered header removed pc
  | ended =>
    simp only [pc] at stepped
    cases stepped

theorem submit_flags (handler : UrbHandler) (header : UsbipHeader) (data : List UInt8)
    (entryAlloc bufferAlloc : Bool) (now : UInt64) :
    handler.SameFlags (urbHandlerSubmit handler header data entryAlloc bufferAlloc now).2 := by
  rcases urbHandlerSubmit_cases handler header data entryAlloc bufferAlloc now with
    same | ⟨_,_,_,_,accepted⟩
  · rw [same]
    exact ⟨rfl,rfl,rfl⟩
  · rw [accepted]
    exact ⟨rfl,rfl,rfl⟩

theorem step_flags {device : Option UsbDevice} {outcomes : Nat → MessageOutcome} (turn : Turn)
    (s next : UrbSession) (stepped : step device outcomes turn s = some next) :
    s.handler.SameFlags next.handler := by
  cases turn with
  | session =>
    have moved := sessionStep_moved stepped
    cases moved with
    | forwarded header data pc =>
      have flags := submit_flags (s.handler.recordCall (.forward header data)) header data
        (outcomes s.passes).entryAlloc (outcomes s.passes).bufferAlloc (outcomes s.passes).now
      exact ⟨flags.device,flags.running,flags.initialized⟩
    | replied entry err sent client pc send => cases sent <;> exact ⟨rfl,rfl,rfl⟩
    | unlinked header entry handler pc removed =>
      obtain ⟨_,_,_,_,rfl,rfl⟩ := urbHandlerUnlinkRemove_some removed
      exact ⟨rfl,rfl,rfl⟩
    | _ => exact ⟨rfl,rfl,rfl⟩
  | worker outcome =>
    rw [← Option.some.inj stepped]
    exact urbWorkerStep_flags device outcome s.handler
  | signal => exact Option.some.inj stepped ▸ ⟨rfl,rfl,rfl⟩

theorem step_attachment {device : Option UsbDevice} {outcomes : Nat → MessageOutcome} (turn : Turn)
    (s next : UrbSession) (stepped : step device outcomes turn s = some next) :
    s.client.SameAttachment next.client := by
  cases turn with
  | session =>
    have moved := sessionStep_moved stepped
    cases moved with
    | replied entry err sent client pc send =>
      have kept := (clientSendUrbCompletion_kept s.client entry (outcomes s.passes).stale).2
      rwa [send] at kept
    | _ => exact ⟨rfl,rfl,rfl,rfl,rfl⟩
  | worker outcome => exact Option.some.inj stepped ▸ .refl _
  | signal => exact Option.some.inj stepped ▸ .refl _

def hold : UrbPc → SessionHold
  | .reply entry => .delivering entry
  | .unlinkPush _ entry => .unlinking entry
  | _ => .idle

/-- The session seen as a user of its handler; the handler does not know which
calls were made to it. -/
def system (s : UrbSession) : UrbSystem := ⟨s.handler.forgetCalls,hold s.pc,.idle⟩

theorem hold_dispatch (header : UsbipHeader) : hold (dispatch header) = .idle := by
  simp only [dispatch]
  split
  · rfl
  · split <;> rfl

theorem submit_forgetCalls (handler : UrbHandler) (call : UrbCall) (header : UsbipHeader)
    (data : List UInt8) (entryAlloc bufferAlloc : Bool) (now : UInt64) :
    (urbHandlerSubmit handler.forgetCalls header data entryAlloc bufferAlloc now).2 =
      (urbHandlerSubmit (handler.recordCall call) header data entryAlloc bufferAlloc
        now).2.forgetCalls := by
  obtain ⟨device,pending,completed,running,initialized,worker,history⟩ := handler
  cases initialized with
  | false => rfl
  | true =>
    cases entryAlloc with
    | false => rfl
    | true =>
      by_cases refused : ((createUrb header).bufferLength > 0 && !bufferAlloc) = true <;>
      simp [urbHandlerSubmit,UrbHandler.recordCall,UrbHandler.forgetCalls,refused]

theorem unlink_forgetCalls (handler : UrbHandler) (call : UrbCall) (seqnum : UInt32) :
    urbHandlerUnlinkRemove handler.forgetCalls seqnum =
      ((urbHandlerUnlinkRemove (handler.recordCall call) seqnum).1,
        (urbHandlerUnlinkRemove (handler.recordCall call) seqnum).2.forgetCalls) := by
  obtain ⟨device,pending,completed,running,initialized,worker,history⟩ := handler
  cases initialized with
  | false => rfl
  | true =>
    simp only [urbHandlerUnlinkRemove,UrbHandler.recordCall,UrbHandler.forgetCalls]
    cases queueFindRemove seqnum pending with
    | mk found rest => cases found <;> rfl

theorem getCompleted_forgetCalls (handler : UrbHandler) :
    urbHandlerGetCompleted handler.forgetCalls =
      ((urbHandlerGetCompleted handler).1,(urbHandlerGetCompleted handler).2.forgetCalls) := by
  obtain ⟨device,pending,completed,running,initialized,worker,history⟩ := handler
  cases initialized <;> rfl

theorem worker_forgetCalls (device : Option UsbDevice) (outcome : WorkerOutcome)
    (handler : UrbHandler) :
    urbWorkerStep device outcome handler.forgetCalls =
      (urbWorkerStep device outcome handler).forgetCalls := by
  obtain ⟨busid,pending,completed,running,initialized,worker,history⟩ := handler
  cases worker with
  | pop => cases pending <;> rfl
  | _ => rfl

theorem submit_calls (handler : UrbHandler) (header : UsbipHeader) (data : List UInt8)
    (entryAlloc bufferAlloc : Bool) (now : UInt64) :
    (urbHandlerSubmit handler header data entryAlloc bufferAlloc now).2.history.calls =
      handler.history.calls := by
  rcases urbHandlerSubmit_cases handler header data entryAlloc bufferAlloc now with
    same | ⟨_,_,_,_,accepted⟩
  · rw [same]
  · rw [accepted]

theorem worker_calls (device : Option UsbDevice) (outcome : WorkerOutcome) (handler : UrbHandler) :
    (urbWorkerStep device outcome handler).history.calls = handler.history.calls := by
  cases worker : handler.worker with
  | pop => cases queue : handler.pending <;> simp [urbWorkerStep,worker,queue,queuePop]
  | _ => simp [urbWorkerStep,worker]

def forwards : UrbAction → List UrbCall
  | .submit header data _ _ _ => [.forward header data]
  | _ => []

/-- A step of the session is one action of its handler's system or none, and
what it submits there it has recorded as a call. -/
theorem sessionStep_action {outcomes : Nat → MessageOutcome} {s next : UrbSession}
    (moved : Moved outcomes s next) :
    ∃ made, next.handler.history.calls = s.handler.history.calls ++ made ∧
      (next.system = s.system ∨ ∃ action, UrbSystem.step action s.system = some next.system ∧
        (forwards action).Sublist made) := by
  have stays {t : UrbSession} (handler : t.handler = s.handler) (held : hold t.pc = hold s.pc) :
      ∃ made, t.handler.history.calls = s.handler.history.calls ++ made ∧
        (t.system = s.system ∨ ∃ action, UrbSystem.step action s.system = some t.system ∧
          (forwards action).Sublist made) := by
    refine ⟨[],?_,Or.inl ?_⟩
    · rw [handler,List.append_nil]
    · rw [system,system,handler,held]
  cases moved with
  | entered pc => exact stays rfl (by rw [pc]; rfl)
  | left pc => exact stays rfl (by rw [pc]; rfl)
  | lost socket pc advances => exact stays rfl (by rw [pc]; rfl)
  | received header socket pc read => exact stays rfl (by rw [pc]; exact hold_dispatch header)
  | lostPayload header socket pc advances => exact stays rfl (by rw [pc]; rfl)
  | gotPayload header data socket pc read => exact stays rfl (by rw [pc]; rfl)
  | noPayload header pc => exact stays rfl (by rw [pc]; rfl)
  | forwarded header data pc =>
    refine ⟨[.forward header data],by simp [submit_calls,UrbHandler.recordCall],Or.inr
      ⟨.submit header data (outcomes s.passes).entryAlloc (outcomes s.passes).bufferAlloc
        (outcomes s.passes).now,?_,.refl _⟩⟩
    simp only [UrbSystem.step,system,pc,hold]
    rw [submit_forgetCalls s.handler (.forward header data)]
  | drained pc empty => exact stays rfl (by rw [pc]; rfl)
  | collected entry rest pc queue popped =>
    refine ⟨[],by simp,Or.inr ⟨.getCompleted,?_,.refl _⟩⟩
    have forgot := getCompleted_forgetCalls s.handler
    rw [popped] at forgot
    simp only [UrbSystem.step,system,pc,hold,forgot]
  | replied entry err sent client pc send =>
    refine ⟨[],?_,Or.inr ⟨.deliver sent,?_,.refl _⟩⟩
    · cases sent <;> simp [urbHandlerFreeEntry,UrbHandler.recordReply]
    · simp only [UrbSystem.step,system,pc]
      cases sent <;> by_cases ok : err = .success <;> simp only [ok] <;> rfl
  | missed header pc absent =>
    exact ⟨[.unlink header.u.seqnumToUnlink],rfl,Or.inl (by rw [system,system,pc]; rfl)⟩
  | unlinked header entry handler pc removed =>
    refine ⟨[.unlink header.u.seqnumToUnlink],?_,Or.inr
      ⟨.unlink header.u.seqnumToUnlink,?_,List.nil_sublist _⟩⟩
    · obtain ⟨_,_,_,_,rfl,rfl⟩ := urbHandlerUnlinkRemove_some removed
      rfl
    · have forgot := unlink_forgetCalls s.handler (.unlink header.u.seqnumToUnlink)
        header.u.seqnumToUnlink
      rw [removed] at forgot
      simp only [UrbSystem.step,system,pc,hold,forgot]
  | pushed header entry pc =>
    refine ⟨[],by simp [urbHandlerUnlinkPush],Or.inr ⟨.unlinkPush,?_,.refl _⟩⟩
    simp only [UrbSystem.step,system,pc,hold]
    rfl
  | answered header removed pc => exact stays rfl (by rw [pc]; rfl)

theorem step_action {device : Option UsbDevice} {outcomes : Nat → MessageOutcome} (turn : Turn)
    (s next : UrbSession) (stepped : step device outcomes turn s = some next) :
    ∃ made, next.handler.history.calls = s.handler.history.calls ++ made ∧
      (next.system = s.system ∨ ∃ action, UrbSystem.step action s.system = some next.system ∧
        (forwards action).Sublist made) := by
  cases turn with
  | session => exact sessionStep_action (sessionStep_moved stepped)
  | worker outcome =>
    rw [← Option.some.inj stepped]
    refine ⟨[],by simp [worker_calls],Or.inr ⟨.worker device outcome,?_,.refl _⟩⟩
    simp only [UrbSystem.step,system,worker_forgetCalls]
  | signal =>
    rw [← Option.some.inj stepped]
    exact ⟨[],by simp,Or.inl rfl⟩

theorem step_matched {device : Option UsbDevice} {outcomes : Nat → MessageOutcome} (turn : Turn)
    (s next : UrbSession) (stepped : step device outcomes turn s = some next) :
    ∃ actions, Run UrbSystem.step s.system actions next.system := by
  obtain ⟨made,_,same | ⟨action,taken,_⟩⟩ := step_action turn s next stepped
  · rw [same]
    exact ⟨[],.nil _⟩
  · exact ⟨[action],.single action taken⟩

theorem run_system {device : Option UsbDevice} {outcomes : Nat → MessageOutcome}
    {start final : UrbSession} {turns : List Turn}
    (run : Run (step device outcomes) start turns final) :
    ∃ actions, Run UrbSystem.step start.system actions final.system := by
  obtain ⟨actions,after,matched,rfl⟩ := run.simulate (fun s handler => handler = s.system)
    (fun turn s next _ seen stepped => by
      obtain ⟨actions,taken⟩ := step_matched turn s next stepped
      exact ⟨actions,_,seen ▸ taken,rfl⟩) rfl
  exact ⟨actions,matched⟩

theorem step_advances {device : Option UsbDevice} {outcomes : Nat → MessageOutcome} (turn : Turn)
    (s next : UrbSession) (stepped : step device outcomes turn s = some next) :
    s.client.socket.Advances next.client.socket := by
  cases turn with
  | session =>
    have moved := sessionStep_moved stepped
    cases moved with
    | lost socket pc advances => exact advances
    | received header socket pc read => exact recvExact_next _ _ _ _ _ read
    | lostPayload header socket pc advances => exact advances
    | gotPayload header data socket pc read => exact usbipRecvUrbData_advances read
    | replied entry err sent client pc send =>
      have kept := (clientSendUrbCompletion_kept s.client entry (outcomes s.passes).stale).1
      rw [send] at kept
      exact kept.advances
    | answered header removed pc => exact (sendExact_sameInput _ _).advances
    | _ => exact .refl _
  | worker outcome => exact Option.some.inj stepped ▸ .refl _
  | signal => exact Option.some.inj stepped ▸ .refl _

def rank : UrbPc → Nat
  | .ended => 0
  | .recv => 1
  | .loop => 2
  | .reply _ => 3
  | .drain => 4
  | .forward _ _ => 7
  | .submit _ => 8
  | .unlinkReply _ _ => 3
  | .unlinkPush _ _ => 4
  | .unlink _ => 5

/-- A bound on the session's steps: by the bytes it has to read, the entries
it has to free and the pass it is in. -/
def weight (s : UrbSession) : Nat :=
  4*s.client.socket.stream.length +
    2*(s.handler.history.submitted.length - s.handler.history.freed.length) + rank s.pc

theorem rank_dispatch (header : UsbipHeader) : rank (dispatch header) ≤ 8 := by
  simp only [dispatch]
  split
  · exact le_rfl
  · split <;> simp [rank]

theorem freed_lt_submitted {s : UrbSession} (inv : s.system.Inv) {entry : UrbEntry}
    (pc : s.pc = .reply entry) :
    s.handler.history.freed.length < s.handler.history.submitted.length := by
  have length := inv.places.length_eq
  simp only [system,pc,hold,UrbHandler.forgetCalls,UrbSystem.inCall,UrbSystem.unlinking,
    UrbSystem.cancelling,UrbSystem.delivering,List.length_append,List.length_map,
    List.length_singleton,List.length_range] at length
  omega

theorem sessionStep_weight {outcomes : Nat → MessageOutcome} {s next : UrbSession}
    (inv : s.system.Inv) (stepped : sessionStep outcomes s = some next) :
    next.weight + 1 ≤ s.weight := by
  have shorter := (@step_advances none outcomes .session s next stepped).length
  have moved := sessionStep_moved stepped
  cases moved with
  | received header socket pc read =>
    obtain ⟨enough,_,left,_⟩ := recvExact_ok _ _ _ _ _ read
    have bound := rank_dispatch header
    have waiting : rank .recv = 1 := rfl
    simp only [weight,pc,waiting,left,List.length_drop,UsbipHeader.size] at enough ⊢
    omega
  | forwarded header data pc =>
    simp only [weight,pc,rank]
    rcases urbHandlerSubmit_cases (s.handler.recordCall (.forward header data)) header data
      (outcomes s.passes).entryAlloc (outcomes s.passes).bufferAlloc (outcomes s.passes).now with
      same | ⟨_,_,_,_,accepted⟩
    · rw [same]
      simp only [UrbHandler.recordCall]
      omega
    · rw [accepted]
      simp only [UrbHandler.recordCall,List.length_append,List.length_singleton]
      omega
  | replied entry err sent client pc send =>
    have room := freed_lt_submitted inv pc
    have target : rank (if err = .success then .drain else .loop) ≤ 4 := by
      split <;> simp [rank]
    cases sent <;>
    · simp only [weight,pc,rank,urbHandlerFreeEntry,UrbHandler.recordReply,if_true,
        Bool.false_eq_true,if_false,List.length_append,List.length_singleton] at shorter target ⊢
      omega
  | unlinked header entry handler pc removed =>
    obtain ⟨_,_,_,_,rfl,rfl⟩ := urbHandlerUnlinkRemove_some removed
    simp only [weight,pc,rank,UrbHandler.recordCall]
    omega
  | missed header pc absent =>
    simp only [weight,pc,rank,UrbHandler.recordCall]
    omega
  | pushed header entry pc =>
    simp only [weight,pc,rank,urbHandlerUnlinkPush]
    omega
  | entered pc | left pc | drained pc empty | noPayload header pc
  | collected entry rest pc queue popped =>
    simp only [weight,pc,rank]
    omega
  | lost socket pc advances | lostPayload header socket pc advances
  | gotPayload header data socket pc read | answered header removed pc =>
    simp only [weight,pc,rank] at shorter ⊢
    omega

theorem worker_weight {device : Option UsbDevice} {outcomes : Nat → MessageOutcome}
    {outcome : WorkerOutcome} {s next : UrbSession}
    (stepped : step device outcomes (.worker outcome) s = some next) :
    next.weight = s.weight ∧ next.pc = s.pc := by
  rw [← Option.some.inj stepped]
  obtain ⟨submitted,freed⟩ := urbWorkerStep_history device outcome s.handler
  exact ⟨by simp only [weight,submitted,freed],rfl⟩

theorem sessionStep_enabled (outcomes : Nat → MessageOutcome) (s : UrbSession)
    (ends : s.client.socket.ending ≠ .silent) (going : s.pc ≠ .ended) :
    ∃ next, sessionStep outcomes s = some next := by
  cases pc : s.pc with
  | loop =>
    simp only [sessionStep,pc]
    split <;> exact ⟨_,rfl⟩
  | recv =>
    simp only [sessionStep,pc]
    split
    next blocked => exact absurd (recvExact_none _ _ _ blocked).2 ends
    next _ => exact ⟨_,rfl⟩
    next _ => exact ⟨_,rfl⟩
  | submit header =>
    simp only [sessionStep,pc]
    split
    next payload =>
      split
      next _ => exact ⟨_,rfl⟩
      next _ =>
        split
        next blocked =>
          simp only [usbipRecvUrbData] at blocked
          split at blocked
          next _ => cases blocked
          next _ => exact absurd (recvExact_none _ _ _ blocked).2 ends
        next _ => exact ⟨_,rfl⟩
        next _ => exact ⟨_,rfl⟩
    next _ => exact ⟨_,rfl⟩
  | drain =>
    simp only [sessionStep,pc]
    split <;> exact ⟨_,rfl⟩
  | unlink header =>
    simp only [sessionStep,pc]
    split <;> exact ⟨_,rfl⟩
  | forward header data => exact ⟨_,by simp only [sessionStep,pc]; rfl⟩
  | reply entry => exact ⟨_,by simp only [sessionStep,pc]; rfl⟩
  | unlinkPush header entry => exact ⟨_,by simp only [sessionStep,pc]; rfl⟩
  | unlinkReply header removed => exact ⟨_,by simp only [sessionStep,pc]; rfl⟩
  | ended => exact absurd pc going

end UrbSession

end UsbOverNetwork
