import UsbOverNetwork.Server.UrbSession

/-! What an attached client is told about its URBs. Completed URBs are taken
to it only after a CMD_SUBMIT, every unlink is reported alike, and a CMD_SUBMIT
for which the handler has no memory gets no reply. -/
namespace UsbOverNetwork
open Runs

namespace UrbSession

/-- The unread bytes hold a complete CMD_SUBMIT header, with only other
headers before it. -/
inductive SubmitAhead : List UInt8 → Prop
  | here (stream) (enough : UsbipHeader.size ≤ stream.length)
      (submit : (decodeHeader (stream.take UsbipHeader.size)).common.command = usbipCmdSubmit) :
      SubmitAhead stream
  | later (stream) (enough : UsbipHeader.size ≤ stream.length)
      (rest : SubmitAhead (stream.drop UsbipHeader.size)) : SubmitAhead stream

def DrainsLater (s : UrbSession) : Prop :=
  match s.pc with
  | .submit _ | .forward _ _ | .drain | .reply _ | .ended => True
  | _ => SubmitAhead s.client.socket.stream

/-- URBs complete, and sends of completions fail, only where a drain follows. -/
def DrainFollows (outcomes : Nat → MessageOutcome) (turn : Turn) (s : UrbSession) : Prop :=
  match turn with
  | .worker _ => ∀ entry, s.handler.worker = .push entry → s.DrainsLater
  | .session =>
    match s.pc with
    | .unlinkPush _ _ => s.DrainsLater
    | .reply entry =>
      (clientSendUrbCompletion s.client entry (outcomes s.passes).stale).1 = .success ∨
        s.handler.completed = [] ∨ SubmitAhead s.client.socket.stream
    | _ => True
  | .signal => True

structure Owed (s : UrbSession) : Prop where
  ready : s.handler.initialized = true
  drained : s.handler.completed = [] ∨ s.DrainsLater

theorem received_drainsLater {s : UrbSession} {header : UsbipHeader} {socket : Socket}
    (read : usbipRecvUrbHeader s.client.socket = some (.ok header,socket))
    (ahead : SubmitAhead s.client.socket.stream) :
    DrainsLater {s with client := {s.client with socket}, pc := dispatch header} := by
  obtain ⟨_,decoded,left,_⟩ := recvExact_ok _ _ _ _ _ read
  by_cases submit : header.common.command = usbipCmdSubmit
  · simp [DrainsLater,dispatch,submit]
  · have rest : SubmitAhead socket.stream := by
      cases ahead with
      | here _ enough this =>
        rw [decoded] at submit
        exact absurd this submit
      | later _ enough rest =>
        rw [left]
        exact rest
    have target : dispatch header = .unlink header ∨ dispatch header = .loop := by
      simp only [dispatch,if_neg submit]
      split <;> simp
    rcases target with pc | pc <;> simpa [DrainsLater,pc] using rest

theorem sessionStep_owed {outcomes : Nat → MessageOutcome} {s next : UrbSession}
    (moved : Moved outcomes s next) (follows : DrainFollows outcomes .session s) (owed : s.Owed) :
    next.Owed := by
  cases moved with
  | entered pc => exact ⟨owed.ready,by simpa [DrainsLater,pc] using owed.drained⟩
  | left pc => exact ⟨owed.ready,Or.inr trivial⟩
  | lost socket pc advances => exact ⟨owed.ready,Or.inr trivial⟩
  | received header socket pc read =>
    refine ⟨owed.ready,?_⟩
    rcases owed.drained with empty | later
    · exact Or.inl empty
    · exact Or.inr (received_drainsLater read (by simpa [DrainsLater,pc] using later))
  | lostPayload header socket pc advances => exact ⟨owed.ready,Or.inr trivial⟩
  | gotPayload header data socket pc read => exact ⟨owed.ready,Or.inr trivial⟩
  | noPayload header pc => exact ⟨owed.ready,Or.inr trivial⟩
  | forwarded header data pc =>
    exact ⟨(submit_flags _ _ _ _ _ _).initialized.trans owed.ready,Or.inr trivial⟩
  | drained pc empty =>
    refine ⟨owed.ready,Or.inl ?_⟩
    cases queue : s.handler.completed with
    | nil => rfl
    | cons entry rest => simp [urbHandlerGetCompleted,owed.ready,queue,queuePop] at empty
  | collected entry rest pc queue popped => exact ⟨owed.ready,Or.inr trivial⟩
  | replied entry err sent client pc send =>
    have same := (clientSendUrbCompletion_kept s.client entry (outcomes s.passes).stale).1.stream
    simp only [DrainFollows,pc,send] at follows same
    refine ⟨by cases sent <;> exact owed.ready,?_⟩
    rcases follows with ok | empty | ahead
    · exact Or.inr (by simp [DrainsLater,ok])
    · exact Or.inl (by cases sent <;> exact empty)
    · by_cases ok : err = .success
      · exact Or.inr (by simp [DrainsLater,ok])
      · exact Or.inr (by simpa [DrainsLater,ok,same] using ahead)
  | missed header pc absent =>
    exact ⟨owed.ready,by simpa [DrainsLater,pc,UrbHandler.recordCall] using owed.drained⟩
  | unlinked header entry handler pc removed =>
    obtain ⟨_,_,_,_,rfl,rfl⟩ := urbHandlerUnlinkRemove_some removed
    exact ⟨owed.ready,by simpa [DrainsLater,pc,UrbHandler.recordCall] using owed.drained⟩
  | pushed header entry pc =>
    simp only [DrainFollows,DrainsLater,pc] at follows
    exact ⟨owed.ready,Or.inr follows⟩
  | answered header removed pc => exact ⟨owed.ready,by simpa [DrainsLater,pc] using owed.drained⟩

theorem step_owed {device : Option UsbDevice} {outcomes : Nat → MessageOutcome} (turn : Turn)
    (s next : UrbSession) (follows : DrainFollows outcomes turn s) (owed : s.Owed)
    (stepped : step device outcomes turn s = some next) : next.Owed := by
  cases turn with
  | session => exact sessionStep_owed (sessionStep_moved stepped) follows owed
  | worker outcome =>
    rw [← Option.some.inj stepped]
    obtain ⟨ready,drained⟩ := owed
    cases worker : s.handler.worker with
    | push entry =>
      refine ⟨by simpa [urbWorkerStep,worker] using ready,Or.inr ?_⟩
      simpa [DrainsLater] using follows entry worker
    | pop =>
      cases queue : s.handler.pending <;>
      exact ⟨by simpa [urbWorkerStep,worker,queue,queuePop] using ready,
        by simpa [urbWorkerStep,worker,queue,queuePop,DrainsLater] using drained⟩
    | _ =>
      exact ⟨by simpa [urbWorkerStep,worker] using ready,
        by simpa [urbWorkerStep,worker,DrainsLater] using drained⟩
  | signal => exact Option.some.inj stepped ▸ ⟨owed.ready,owed.drained⟩

/-- If a drain follows every completion, a session that waits for its next
header has answered every finished URB. -/
theorem no_stranded_completion (device : Option UsbDevice) (outcomes : Nat → MessageOutcome)
    (client : ClientConnection) (busid : Busid) {turns : List Turn} {final : UrbSession}
    (run : GuardedRun (step device outcomes) (DrainFollows outcomes) (start client busid) turns final)
    (waiting : final.pc = .recv) (blocked : usbipRecvUrbHeader final.client.socket = none) :
    final.handler.completed = [] := by
  have owed := run.invariant Owed step_owed ⟨rfl,Or.inl rfl⟩
  rcases owed.drained with empty | later
  · exact empty
  · simp only [DrainsLater,waiting] at later
    have enough : UsbipHeader.size ≤ final.client.socket.stream.length := by
      cases later <;> assumption
    obtain ⟨next,read,_⟩ := recvExact_enough final.client.socket _ decodeHeader enough
    rw [usbipRecvUrbHeader,read] at blocked
    cases blocked

def willing : MessageOutcome := ⟨true,true,true,0,fun _ => 0⟩

def clientOf (messages : List UsbipHeader) : ClientConnection :=
  let bytes := messages.flatMap fun header => (usbipPackHeader header header.common.command).image
  {createClient 1 ⟨RecvEvent.unread bytes [],.silent,[],[]⟩ .empty 0 with state := .attached}

def openKeyboard : Option UsbDevice := some {UsbDevice.keyboard .empty with isOpen := true}

def works : Turn := .worker ⟨⟨true,false,1,[7]⟩,false⟩

def promptTurns : List Turn :=
  [.session,.session,.session,.session,works,works,works,works,.session,.session,.session,.session]

theorem no_stranded_completion_prompt : ∃ final,
    GuardedRun (step openKeyboard fun _ => willing) (DrainFollows fun _ => willing)
      (start (clientOf [.read 1 4]) .empty) promptTurns final ∧
    final.pc = .recv ∧ usbipRecvUrbHeader final.client.socket = none ∧
    final.handler.history.replies.length = 1 ∧ final.handler.completed = [] := by
  obtain ⟨final,run,checked⟩ := guardedRun_of_check (step openKeyboard fun _ => willing)
    (DrainFollows fun _ => willing)
    (fun turn s => match turn,s.pc with
      | .session,.unlinkPush _ _ => false
      | .session,.reply entry =>
        (clientSendUrbCompletion s.client entry willing.stale).1 = .success
      | .worker _,.drain => true
      | .worker _,_ => false
      | _,_ => true)
    (by
      intro turn s allowed
      cases turn with
      | signal => trivial
      | worker outcome =>
        intro entry _
        cases pc : s.pc <;> simp [pc] at allowed
        simp [DrainsLater,pc]
      | session =>
        cases pc : s.pc <;> simp_all [DrainFollows])
    promptTurns (start (clientOf [.read 1 4]) .empty)
    (fun s => s.pc = .recv ∧ (usbipRecvUrbHeader s.client.socket).isNone ∧
      s.handler.history.replies.length = 1) (by decide +kernel)
  obtain ⟨waiting,blocked,replies⟩ := of_decide_eq_true checked
  have blocked := Option.isNone_iff_eq_none.mp blocked
  exact ⟨final,run,waiting,blocked,replies,
    no_stranded_completion openKeyboard _ _ _ run waiting blocked⟩

/-- The worker finishes the only URB after the session has drained. -/
def lateTurns : List Turn :=
  [.session,.session,.session,.session,.session,.session,works,works,works,works,works,works]

theorem stranded_completion : ∃ final,
    Run (step openKeyboard fun _ => willing) (start (clientOf [.read 1 4]) .empty) lateTurns final ∧
    final.pc = .recv ∧ usbipRecvUrbHeader final.client.socket = none ∧
    final.handler.worker = .wait ∧ final.handler.pending = [] ∧
    final.handler.history.replies = [] ∧ final.handler.completed ≠ [] := by
  obtain ⟨final,run,checked⟩ := run_of_check (step openKeyboard fun _ => willing) lateTurns
    (start (clientOf [.read 1 4]) .empty)
    (fun s => s.pc = .recv ∧ (usbipRecvUrbHeader s.client.socket).isNone ∧
      s.handler.worker = .wait ∧ s.handler.pending = [] ∧ s.handler.history.replies = [] ∧
      s.handler.completed ≠ []) (by decide +kernel)
  obtain ⟨waiting,blocked,rest⟩ := of_decide_eq_true checked
  exact ⟨final,run,waiting,Option.isNone_iff_eq_none.mp blocked,rest⟩

/-- With this reading of the status a client learns from each RET_UNLINK
whether its URB was removed, and a removed URB has no RET_SUBMIT. -/
def TruthfulUnlinks (cancelled : UInt32 → Bool) (s : UrbSession) : Prop :=
  ∀ record ∈ s.unlinks, cancelled record.reply.u.status = record.removed.isSome ∧
    ∀ serial, record.removed = some serial → serial ∉ s.handler.history.replies.map Prod.fst

/-- No CMD_UNLINK is handled while the URB it names is still pending. -/
def UnlinksMiss (turn : Turn) (s : UrbSession) : Prop :=
  ∀ header, turn = .session → s.pc = .unlink header →
    ∀ entry ∈ s.handler.pending, entry.seqnum ≠ header.u.seqnumToUnlink

structure Missed (s : UrbSession) : Prop where
  recorded : ∀ record ∈ s.unlinks, record.removed = none ∧ record.reply.u.status = 0
  removing : ∀ header entry, s.pc ≠ .unlinkPush header entry
  replying : ∀ header removed, s.pc = .unlinkReply header removed → removed = none

theorem sessionStep_missed {outcomes : Nat → MessageOutcome} {s next : UrbSession}
    (moved : Moved outcomes s next) (misses : UnlinksMiss .session s) (missed : s.Missed) :
    next.Missed := by
  have elsewhere {t : UrbSession} (same : t.unlinks = s.unlinks)
      (removing : ∀ header entry, t.pc ≠ .unlinkPush header entry)
      (replying : ∀ header removed, t.pc ≠ .unlinkReply header removed) : t.Missed :=
    ⟨same ▸ missed.recorded,removing,fun header removed pc => absurd pc (replying header removed)⟩
  cases moved with
  | entered pc => exact elsewhere rfl (by simp) (by simp)
  | left pc => exact elsewhere rfl (by simp) (by simp)
  | lost socket pc advances => exact elsewhere rfl (by simp) (by simp)
  | received header socket pc read =>
    refine elsewhere rfl ?_ ?_ <;>
    · intro _ _
      simp only [dispatch]
      split
      · simp
      · split <;> simp
  | lostPayload header socket pc advances => exact elsewhere rfl (by simp) (by simp)
  | gotPayload header data socket pc read => exact elsewhere rfl (by simp) (by simp)
  | noPayload header pc => exact elsewhere rfl (by simp) (by simp)
  | forwarded header data pc => exact elsewhere rfl (by simp) (by simp)
  | drained pc empty => exact elsewhere rfl (by simp) (by simp)
  | collected entry rest pc queue popped => exact elsewhere rfl (by simp) (by simp)
  | replied entry err sent client pc send =>
    by_cases ok : err = .success <;> exact elsewhere rfl (by simp [ok]) (by simp [ok])
  | missed header pc absent => exact ⟨missed.recorded,by simp,by simp⟩
  | unlinked header entry handler pc removed =>
    rw [urbHandlerUnlinkRemove_absent (s.handler.recordCall _) _ (misses header rfl pc)] at removed
    cases removed
  | pushed header entry pc => exact absurd pc (missed.removing header entry)
  | answered header removed pc =>
    refine ⟨?_,by simp,by simp⟩
    intro record member
    rcases List.mem_append.mp member with old | new
    · exact missed.recorded record old
    · rw [List.mem_singleton.mp new]
      exact ⟨missed.replying header removed pc,rfl⟩

theorem step_missed {device : Option UsbDevice} {outcomes : Nat → MessageOutcome} (turn : Turn)
    (s next : UrbSession) (misses : UnlinksMiss turn s) (missed : s.Missed)
    (stepped : step device outcomes turn s = some next) : next.Missed := by
  cases turn with
  | session => exact sessionStep_missed (sessionStep_moved stepped) misses missed
  | worker outcome => exact Option.some.inj stepped ▸ ⟨missed.1,missed.2,missed.3⟩
  | signal => exact Option.some.inj stepped ▸ ⟨missed.1,missed.2,missed.3⟩

/-- The status is always zero, so the replies are truthful as long as no
unlink finds its URB still pending. -/
theorem unlinks_truthful (device : Option UsbDevice) (outcomes : Nat → MessageOutcome)
    (client : ClientConnection) (busid : Busid) (cancelled : UInt32 → Bool)
    (zero : cancelled 0 = false) {turns : List Turn} {final : UrbSession}
    (run : GuardedRun (step device outcomes) UnlinksMiss (start client busid) turns final) :
    TruthfulUnlinks cancelled final := by
  have missed := run.invariant Missed step_missed
    ⟨by simp [start],by simp [start],by simp [start]⟩
  intro record member
  obtain ⟨nothing,status⟩ := missed.recorded record member
  rw [status,nothing,zero]
  exact ⟨rfl,by simp⟩

def strayTurns : List Turn := [.session,.session,.session,.session]

theorem unlinks_truthful_stray : ∃ final,
    GuardedRun (step openKeyboard fun _ => willing) UnlinksMiss
      (start (clientOf [.unlink 2 1]) .empty) strayTurns final ∧
    final.unlinks.length = 1 ∧ TruthfulUnlinks (· != 0) final := by
  obtain ⟨final,run,checked⟩ := guardedRun_of_check (step openKeyboard fun _ => willing) UnlinksMiss
    (fun _ s => s.handler.pending = [])
    (by
      intro turn s allowed header _ _ entry member
      rw [of_decide_eq_true allowed] at member
      cases member)
    strayTurns (start (clientOf [.unlink 2 1]) .empty)
    (fun s => s.unlinks.length = 1) (by decide +kernel)
  exact ⟨final,run,of_decide_eq_true checked,
    unlinks_truthful openKeyboard _ _ _ (· != 0) rfl run⟩

/-- One URB is unlinked twice: the first time it is pending, the second time
it is not. The next CMD_SUBMIT then brings its RET_SUBMIT. -/
def doubleTurns : List Turn := List.replicate 21 .session

theorem unlinks_untruthful : ∃ final,
    Run (step openKeyboard fun _ => willing)
      (start (clientOf [.read 1 4,.unlink 2 1,.unlink 3 1,.read 4 4]) .empty) doubleTurns final ∧
    (∀ cancelled, ¬TruthfulUnlinks cancelled final) ∧
    ∃ record ∈ final.unlinks, ∃ serial, record.removed = some serial ∧
      serial ∈ final.handler.history.replies.map Prod.fst := by
  obtain ⟨final,run,checked⟩ := run_of_check (step openKeyboard fun _ => willing) doubleTurns
    (start (clientOf [.read 1 4,.unlink 2 1,.unlink 3 1,.read 4 4]) .empty)
    (fun s => s.unlinks.map (fun record => (record.removed,record.reply.u.status)) =
        [(some 0,0),(none,0)] ∧ s.handler.history.replies.map Prod.fst = [0]) (by decide +kernel)
  obtain ⟨unlinks,replies⟩ := of_decide_eq_true checked
  have removed : (some 0,0) ∈ final.unlinks.map
      (fun record => (record.removed,record.reply.u.status)) := by rw [unlinks]; simp
  have kept : (none,0) ∈ final.unlinks.map
      (fun record => (record.removed,record.reply.u.status)) := by rw [unlinks]; simp
  obtain ⟨first,member,same⟩ := List.mem_map.mp removed
  obtain ⟨second,inside,equal⟩ := List.mem_map.mp kept
  simp only [Prod.mk.injEq] at same equal
  refine ⟨final,run,?_,first,member,0,same.1,by rw [replies]; simp⟩
  intro cancelled truthful
  have yes := (truthful first member).1
  have no := (truthful second inside).1
  rw [same.1,same.2] at yes
  rw [equal.1,equal.2,yes] at no
  cases no

/-- The CMD_SUBMIT just read is not dropped: either the session ends, or its
step through `client_forward_urb`, whatever the worker does before it, appends
exactly one entry with the header's number. -/
def Kept (device : Option UsbDevice) (outcomes : Nat → MessageOutcome) (s : UrbSession)
    (header : UsbipHeader) : Prop :=
  ∀ middle, step device outcomes .session s = some middle → middle.pc = .ended ∨
    ∀ turns before after, Run (step device outcomes) middle turns before → .session ∉ turns →
      step device outcomes .session before = some after →
      ∃ entry, entry.seqnum = header.common.seqnum ∧
        after.handler.pending = before.handler.pending ++ [entry]

def Allocates (outcome : MessageOutcome) (header : UsbipHeader) : Prop :=
  outcome.entryAlloc = true ∧ (header.u.transferBufferLength > 0 → outcome.bufferAlloc = true)

/-- The session gives up on the payload before it forwards the URB: it cannot
allocate it, or the client does not send all of it. -/
def PayloadFails (outcome : MessageOutcome) (header : UsbipHeader) (stream : List UInt8) : Prop :=
  header.hasPayload = true ∧
    (outcome.payloadAlloc = false ∨ stream.length < header.u.transferBufferLength.toNat)

theorem urbHandlerSubmit_pending (handler : UrbHandler) (header : UsbipHeader) (data : List UInt8)
    (outcome : MessageOutcome) (ready : handler.initialized = true) :
    (∃ entry, entry.seqnum = header.common.seqnum ∧
      (urbHandlerSubmit handler header data outcome.entryAlloc outcome.bufferAlloc
        outcome.now).2.pending = handler.pending ++ [entry]) ↔ Allocates outcome header := by
  have length : (createUrb header).bufferLength = header.u.transferBufferLength := rfl
  simp only [urbHandlerSubmit,ready,Allocates,Bool.not_true,Bool.false_eq_true,if_false,length]
  cases outcome.entryAlloc with
  | false => simp
  | true =>
    cases outcome.bufferAlloc with
    | true => simp [queuePush]
    | false =>
      by_cases positive : header.u.transferBufferLength > 0 <;> simp [positive,queuePush]

theorem others_keep_forward {device : Option UsbDevice} {outcomes : Nat → MessageOutcome}
    {s t : UrbSession} {turns : List Turn} (run : Run (step device outcomes) s turns t)
    (others : .session ∉ turns) : t.pc = s.pc ∧ t.passes = s.passes ∧
      t.handler.initialized = s.handler.initialized := by
  induction run with
  | nil => exact ⟨rfl,rfl,rfl⟩
  | cons state turn middle turns final taken _ ih =>
    rw [List.mem_cons,not_or] at others
    obtain ⟨pc,passes,ready⟩ := ih others.2
    rw [pc,passes,ready]
    cases turn with
    | session => exact absurd rfl others.1
    | worker outcome =>
      rw [← Option.some.inj taken]
      exact ⟨rfl,rfl,(urbWorkerStep_flags device outcome state.handler).initialized⟩
    | signal =>
      rw [← Option.some.inj taken]
      exact ⟨rfl,rfl,rfl⟩

theorem payload_fails {outcomes : Nat → MessageOutcome} {s middle : UrbSession}
    {header : UsbipHeader} (read : s.pc = .submit header)
    (fails : PayloadFails (outcomes s.passes) header s.client.socket.stream)
    (stepped : sessionStep outcomes s = some middle) : middle.pc = .ended := by
  obtain ⟨payload,unable | short⟩ := fails
  · simp only [sessionStep,read,payload,unable,Bool.not_false,if_true,Option.some.injEq] at stepped
    rw [← stepped]
  · have positive : header.u.transferBufferLength ≠ 0 := by
      intro zero
      simp [zero] at short
    simp only [sessionStep,read,payload,if_true,usbipRecvUrbData,if_neg positive,
      recvExact_fewer _ _ _ short] at stepped
    split at stepped
    next _ => rw [← Option.some.inj stepped]
    next _ =>
      by_cases silent : s.client.socket.ending = .silent
      · simp [silent] at stepped
      · simp only [silent,if_false,Option.some.injEq] at stepped
        rw [← stepped]

theorem payload_arrives {outcomes : Nat → MessageOutcome} {s : UrbSession} {header : UsbipHeader}
    (read : s.pc = .submit header)
    (arrives : ¬PayloadFails (outcomes s.passes) header s.client.socket.stream) :
    ∃ middle data, sessionStep outcomes s = some middle ∧ middle.pc = .forward header data ∧
      middle.passes = s.passes ∧ middle.handler = s.handler := by
  cases payload : header.hasPayload with
  | false =>
    refine ⟨{s with pc := .forward header []},[],?_,rfl,rfl,rfl⟩
    simp only [sessionStep,read,payload,Bool.false_eq_true,if_false]
  | true =>
    simp only [PayloadFails,payload,true_and,not_or,Bool.not_eq_false,Nat.not_lt] at arrives
    obtain ⟨able,enough⟩ := arrives
    have positive : header.u.transferBufferLength ≠ 0 := by
      intro zero
      simp [UsbipHeader.hasPayload,zero] at payload
    obtain ⟨socket,received,_⟩ := recvExact_enough s.client.socket _ id enough
    refine ⟨{s with
      client := {s.client with
        socket
        bytesReceived := s.client.bytesReceived + header.u.transferBufferLength.toUInt64}
      pc := .forward header
        (s.client.socket.stream.take header.u.transferBufferLength.toNat)},_,?_,rfl,rfl,rfl⟩
    simp only [sessionStep,read,payload,able,if_true,Bool.not_true,Bool.false_eq_true,if_false,
      usbipRecvUrbData,if_neg positive,received,id]

/-- A CMD_SUBMIT is dropped exactly when its payload arrived, or it has none,
and an allocation of `urb_handler_submit` fails. -/
theorem submit_kept_iff (device : Option UsbDevice) (outcomes : Nat → MessageOutcome)
    (client : ClientConnection) (busid : Busid) {turns : List Turn} {s : UrbSession}
    {header : UsbipHeader} (run : Run (step device outcomes) (start client busid) turns s)
    (read : s.pc = .submit header) :
    Kept device outcomes s header ↔
      PayloadFails (outcomes s.passes) header s.client.socket.stream ∨
        Allocates (outcomes s.passes) header := by
  have ready := run.invariant (·.handler.initialized = true)
    (fun turn s next ready stepped => (step_flags turn s next stepped).initialized.trans ready) rfl
  by_cases fails : PayloadFails (outcomes s.passes) header s.client.socket.stream
  · refine iff_of_true ?_ (Or.inl fails)
    intro middle stepped
    exact Or.inl (payload_fails read fails stepped)
  · obtain ⟨middle,data,stepped,pc,passes,handler⟩ := payload_arrives read fails
    rw [or_iff_right fails]
    constructor
    · intro kept
      rcases kept middle stepped with ended | appended
      · rw [pc] at ended
        cases ended
      · obtain ⟨entry,number,pending⟩ := appended [] middle _ (.nil _) (by simp)
          (by simp only [step,sessionStep,pc]; rfl)
        refine (urbHandlerSubmit_pending (middle.handler.recordCall (.forward header data)) header
          data (outcomes s.passes) (handler ▸ ready)).mp ⟨entry,number,?_⟩
        rw [← passes]
        exact pending
    · intro allocates other same
      refine Or.inr ?_
      rw [show other = middle from Option.some.inj (same.symm.trans stepped)]
      intro turns before after others quiet final
      obtain ⟨before_pc,before_passes,before_ready⟩ := others_keep_forward others quiet
      rw [pc] at before_pc
      rw [passes] at before_passes
      rw [handler] at before_ready
      simp only [step,sessionStep,before_pc,clientForwardUrb,Option.some.injEq] at final
      rw [← final,before_passes]
      exact (urbHandlerSubmit_pending (before.handler.recordCall (.forward header data)) header
        data (outcomes s.passes) (before_ready.trans ready)).mpr allocates

theorem submit_kept_read : ∃ s,
    Run (step openKeyboard fun _ => willing) (start (clientOf [.read 1 4]) .empty)
      [.session,.session] s ∧
    s.pc = .submit (.read 1 4) ∧ Kept openKeyboard (fun _ => willing) s (.read 1 4) := by
  obtain ⟨s,run,checked⟩ := run_of_check (step openKeyboard fun _ => willing) [.session,.session]
    (start (clientOf [.read 1 4]) .empty) (fun s => s.pc = .submit (.read 1 4)) (by decide +kernel)
  have read := of_decide_eq_true checked
  exact ⟨s,run,read,(submit_kept_iff openKeyboard _ _ _ run read).mpr (Or.inr ⟨rfl,fun _ => rfl⟩)⟩

def starved : MessageOutcome := {willing with bufferAlloc := false}

theorem submit_dropped : ∃ s,
    Run (step openKeyboard fun _ => starved) (start (clientOf [.read 1 4]) .empty)
      [.session,.session] s ∧
    s.pc = .submit (.read 1 4) ∧ ¬Kept openKeyboard (fun _ => starved) s (.read 1 4) := by
  obtain ⟨s,run,checked⟩ := run_of_check (step openKeyboard fun _ => starved) [.session,.session]
    (start (clientOf [.read 1 4]) .empty)
    (fun s => s.pc = .submit (.read 1 4) ∧
      (sessionStep (fun _ => starved) s).any fun middle => middle.pc ≠ .ended ∧
        (sessionStep (fun _ => starved) middle).any fun after =>
          after.handler.pending = middle.handler.pending) (by decide +kernel)
  obtain ⟨read,forwarded⟩ := of_decide_eq_true checked
  refine ⟨s,run,read,fun kept => ?_⟩
  obtain ⟨middle,stepped,going⟩ := (Option.any_eq_true ..).mp forwarded
  obtain ⟨alive,finished⟩ := of_decide_eq_true going
  obtain ⟨after,final,same⟩ := (Option.any_eq_true ..).mp finished
  rcases kept middle stepped with ended | appended
  · exact alive ended
  · obtain ⟨entry,_,pending⟩ := appended [] middle after (.nil _) (by simp) final
    rw [of_decide_eq_true same] at pending
    simpa using congrArg List.length pending

end UrbSession

end UsbOverNetwork
