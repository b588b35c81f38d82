import UsbOverNetwork.Server.UrbData

/-! What a client that only submits URBs sees of its device. The queues and
the worker add nothing to a server that deals with one request after the other:
it makes the transfer, answers it, and only then reads on. -/
namespace UsbOverNetwork
open Runs

abbrev UrbRequest := UsbipHeader × List UInt8

namespace UrbService

def transfer (request : UrbRequest) : Transfer := usbTransferOf (submitUrb request.1 request.2)

def settle (device : Option UsbDevice) (transfer : Transfer) (outcome : TransferOutcome) :
    Int32 × UInt32 :=
  if !device.any UsbDevice.isOpen then (-eio,0)
  else if outcome.ok then (0,outcome.transferred)
  else
    match transfer with
    | .control _ _ _ _ _ => (-eio,0)
    | .pipe _ _ => (-eio,if outcome.timedOut then outcome.transferred else 0)

/-- Eight bits of the direction and four of the endpoint come back. -/
def retSubmit (request : UsbipHeader) (settled : Int32 × UInt32) : UsbipHeader where
  common :=
    { command := usbipRetSubmit
      seqnum := request.common.seqnum
      devid := request.common.devid
      direction := request.common.direction.toUInt8.toUInt32
      ep := (request.common.ep.toUInt8 &&& 0x0F).toUInt32 }
  u :=
    { word0 := settled.1.toUInt32
      word1 := settled.2
      word2 := request.u.startFrame
      word3 := request.u.numberOfPackets
      word4 := 0
      setup := request.u.setup }

def reply (device : Option UsbDevice) (request : UrbRequest) (outcome : TransferOutcome) :
    List UInt8 :=
  let settled := settle device (transfer request) outcome
  headerCodec.encode (retSubmit request.1 settled) ++
    if request.1.common.direction.toUInt8 = usbipDirIn.toUInt8 && settled.2 > 0
    then outcome.data else []

/-- What the server writes for these requests, if the device answers its
transfers in this way. -/
def replies (device : Option UsbDevice) (answers : Nat → TransferOutcome)
    (requests : List UrbRequest) : List (List UInt8) :=
  requests.mapIdx fun turn request => reply device request (answers turn)

theorem replies_next {device : Option UsbDevice} {answers : Nat → TransferOutcome}
    {requests : List UrbRequest} {turn : Nat} {request : UrbRequest}
    (found : requests[turn]? = some request) :
    ((replies device answers requests).take (turn+1)).flatten =
      ((replies device answers requests).take turn).flatten ++
        reply device request (answers turn) := by
  rw [List.take_add_one,List.flatten_append,replies,List.getElem?_mapIdx,found]
  simp

end UrbService

open UrbService

theorem executed_report (entry : UrbEntry) {device : Option UsbDevice} (outcome : TransferOutcome)
    (opened : device.any UsbDevice.isOpen = true) :
    let report := if entry.urb.endpoint = 0 then usbControlTransfer outcome else usbBulkTransfer outcome
    (entry.executed device outcome).urb.status = (if report.1 = .success then 0 else -eio) ∧
    (entry.executed device outcome).urb.actualLength = report.2 := by
  simp only [UrbEntry.executed,usbSubmitUrb,opened,usbInterruptTransfer,ite_self,Bool.not_true,
    Bool.false_eq_true,if_false]
  generalize (if entry.urb.endpoint = 0 then usbControlTransfer outcome
    else usbBulkTransfer outcome) = report
  by_cases ok : report.1 = .success <;> simp [ok]

theorem executed_settled {entry : UrbEntry} {request : UrbRequest}
    (submitted : entry.Submitted request.1 request.2) (device : Option UsbDevice)
    (outcome : TransferOutcome) :
    (entry.executed device outcome).urb.status = (settle device (transfer request) outcome).1 ∧
    (entry.executed device outcome).urb.actualLength =
      (settle device (transfer request) outcome).2 := by
  cases opened : device.any UsbDevice.isOpen with
  | false => simp [UrbEntry.executed,usbSubmitUrb,settle,opened,submitted.urb,submitUrb,createUrb]
  | true =>
    obtain ⟨status,count⟩ := executed_report entry outcome opened
    rw [status,count,submitted.urb,transfer,usbTransferOf]
    simp only [settle,opened,Bool.not_true,Bool.false_eq_true,if_false]
    by_cases control : (submitUrb request.1 request.2).endpoint = 0
    · rw [if_pos control,if_pos control,usbControlTransfer]
      cases outcome.ok with
      | true => exact ⟨rfl,rfl⟩
      | false => cases outcome.timedOut <;> exact ⟨rfl,rfl⟩
    · rw [if_neg control,if_neg control,usbBulkTransfer]
      cases outcome.ok with
      | true => exact ⟨rfl,rfl⟩
      | false => cases outcome.timedOut <;> exact ⟨rfl,rfl⟩

theorem executed_frames (entry : UrbEntry) (device : Option UsbDevice) (outcome : TransferOutcome) :
    (entry.executed device outcome).urb.startFrame = entry.urb.startFrame ∧
    (entry.executed device outcome).urb.numberOfPackets = entry.urb.numberOfPackets := by
  have kept (urb : UsbUrb) : (usbSubmitUrb device urb outcome).2.startFrame = urb.startFrame ∧
      (usbSubmitUrb device urb outcome).2.numberOfPackets = urb.numberOfPackets := by
    simp only [usbSubmitUrb]
    split <;> exact ⟨rfl,rfl⟩
  simp only [UrbEntry.executed]
  split <;> exact kept entry.urb

theorem executed_return {entry : UrbEntry} {request : UrbRequest}
    (submitted : entry.Submitted request.1 request.2) (device : Option UsbDevice)
    (outcome : TransferOutcome) :
    urbHandlerCreateReturn (entry.executed device outcome) =
      retSubmit request.1 (settle device (transfer request) outcome) := by
  have carries := submitted.carries.executed device outcome
  obtain ⟨status,count⟩ := executed_settled submitted device outcome
  obtain ⟨startFrame,numberOfPackets⟩ := executed_frames entry device outcome
  rw [submitted.urb] at startFrame numberOfPackets
  simp only [urbHandlerCreateReturn,retSubmit,carries.seqnum,carries.devid,carries.direction,
    carries.endpoint,carries.setup,status,count,startFrame,numberOfPackets]
  rfl

theorem executed_returned {entry : UrbEntry} {request : UrbRequest}
    (submitted : entry.Submitted request.1 request.2) (device : Option UsbDevice)
    {outcome : TransferOutcome} (conforms : outcome.Conforms (transfer request))
    (into : request.1.common.direction.toUInt8 = usbipDirIn.toUInt8)
    (counts : (entry.executed device outcome).urb.actualLength ≠ 0) (stale : Nat → UInt8) :
    (entry.executed device outcome).urb.returned stale = outcome.data := by
  obtain ⟨_,_,none | ⟨count,filled⟩⟩ := executed_count entry device outcome
    (by rw [submitted.urb]; rfl)
  · exact absurd none counts
  have moved : 0 < outcome.transferred.toNat :=
    UInt32.lt_iff_toNat_lt.mp (UInt32.pos_iff_ne_zero.mpr (count ▸ counts))
  have inside := conforms.counted.trans (transfer_length_le (submitUrb request.1 request.2))
  obtain ⟨buffer,allocated,_⟩ := submitUrb_room request.2 (lt_of_lt_of_le moved inside)
  rw [submitted.urb,allocated] at filled
  exact returned_filled conforms (submitUrb_reads request.2 into) filled count stale

theorem executed_reply {entry : UrbEntry} {request : UrbRequest}
    (submitted : entry.Submitted request.1 request.2) (device : Option UsbDevice)
    {outcome : TransferOutcome} (conforms : outcome.Conforms (transfer request))
    (stale : Nat → UInt8) :
    UrbSession.completionBytes (entry.executed device outcome) stale =
      reply device request outcome := by
  have direction : (entry.executed device outcome).urb.direction =
      request.1.common.direction.toUInt8 := (submitted.carries.executed device outcome).direction
  obtain ⟨_,count⟩ := executed_settled submitted device outcome
  rw [UrbSession.completionBytes,executed_return submitted,direction,count,reply]
  congr 1
  split
  next counts =>
    obtain ⟨into,positive⟩ := Bool.and_eq_true_iff.mp counts
    refine executed_returned submitted device conforms (of_decide_eq_true into) ?_ stale
    rw [count]
    exact UInt32.pos_iff_ne_zero.mp (of_decide_eq_true positive)
  next _ => rfl

def WorkerPc.taken : WorkerPc → List UrbEntry
  | .exec entry => [entry]
  | _ => []

def WorkerPc.ready : WorkerPc → List UrbEntry
  | .push entry => [entry]
  | _ => []

def UrbPc.leaving : UrbPc → List UrbEntry
  | .reply entry => [entry]
  | _ => []

namespace UrbSession

def requestsOf (messages : List ClientMessage) : List UrbRequest :=
  (messages.filter (·.header.common.command = usbipCmdSubmit)).map fun message =>
    (message.header,message.payload)

theorem callsOf_requests {messages : List ClientMessage}
    (plain : ∀ message ∈ messages, message.header.common.command ≠ usbipCmdUnlink) :
    callsOf messages = (requestsOf messages).map fun request => .forward request.1 request.2 := by
  induction messages with
  | nil => rfl
  | cons message rest ih =>
    obtain ⟨first,others⟩ := List.forall_mem_cons.mp plain
    rw [callsOf,List.flatMap_cons]
    refine (congrArg (message.calls ++ ·) (ih others)).trans ?_
    by_cases submit : message.header.common.command = usbipCmdSubmit
    · simp [ClientMessage.calls,requestsOf,submit]
    · simp [ClientMessage.calls,requestsOf,submit,first]

def finished (s : UrbSession) : List UrbEntry :=
  s.pc.leaving ++ s.handler.completed ++ s.handler.worker.ready

def unfinished (s : UrbSession) : List UrbEntry := s.handler.worker.taken ++ s.handler.pending

/-- The server is not stopped, and the device answers each transfer with the
answer of its number. -/
def Answering (answers : Nat → TransferOutcome) (turn : Turn) (s : UrbSession) : Prop :=
  turn ≠ .signal ∧ ∀ outcome entry, turn = .worker outcome → s.handler.worker = .exec entry →
    outcome.transfer = answers s.handler.history.executed.length

def dealsWithUnlink : UrbPc → Bool
  | .unlink _ => true
  | .unlinkPush _ _ => true
  | .unlinkReply _ _ => true
  | _ => false

def Waits (requests : List UrbRequest) (entry : UrbEntry) : Prop :=
  ∃ request, requests[entry.serial]? = some request ∧ entry.Submitted request.1 request.2

def Done (requests : List UrbRequest) (device : Option UsbDevice) (answers : Nat → TransferOutcome)
    (entry : UrbEntry) : Prop :=
  ∃ waited, Waits requests waited ∧ entry = waited.executed device (answers waited.serial)

/-- The entries stand in one line, in the order of their requests: those freed,
those executed and those to be executed; the replies of the freed ones are sent. -/
structure Serving (messages : List ClientMessage) (device : Option UsbDevice)
    (answers : Nat → TransferOutcome) (before : List UInt8) (s : UrbSession) : Prop where
  parsing : s.Parsing messages
  initialized : s.handler.initialized = true
  delivers : s.client.socket.Delivers
  plain : dealsWithUnlink s.pc = false
  counted : s.handler.history.calls.length = s.handler.history.submitted.length
  line : s.handler.history.freed ++ (s.finished ++ s.unfinished).map UrbEntry.serial =
    List.range s.handler.history.submitted.length
  executed : s.handler.history.executed.length =
    s.handler.history.freed.length + s.finished.length
  waiting : ∀ entry ∈ s.unfinished, Waits (requestsOf messages) entry
  done : ∀ entry ∈ s.finished, Done (requestsOf messages) device answers entry
  sent : s.client.socket.sent = before ++
    ((replies device answers (requestsOf messages)).take s.handler.history.freed.length).flatten

theorem range_middle {front back : List Nat} {middle count : Nat}
    (split : front ++ middle::back = List.range count) : middle = front.length := by
  have inside : front.length < (List.range count).length := by
    rw [← split,List.length_append,List.length_cons]
    omega
  have same : (List.range count)[front.length] = middle := by simp [← split]
  rw [← same,List.getElem_range]

theorem Waits.begin {requests : List UrbRequest} {entry : UrbEntry} (waits : Waits requests entry) :
    Waits requests {entry with inProgress := true} := by
  obtain ⟨request,found,urb,carries⟩ := waits
  exact ⟨request,found,urb,carries.seqnum,carries.devid,carries.setup,carries.direction,
    carries.endpoint⟩

variable {messages : List ClientMessage} {device : Option UsbDevice}
  {answers : Nat → TransferOutcome} {before : List UInt8} {outcomes : Nat → MessageOutcome}
  {s next : UrbSession}

theorem Serving.turn (serving : s.Serving messages device answers before) {entry : UrbEntry}
    (executing : s.handler.worker = .exec entry) :
    entry.serial = s.handler.history.executed.length := by
  have line := serving.line
  simp only [unfinished,executing,WorkerPc.taken,List.singleton_append,List.map_append,
    List.map_cons,← List.append_assoc] at line
  rw [serving.executed]
  simpa using range_middle line

theorem worker_serving (serving : s.Serving messages device answers before) {outcome : WorkerOutcome}
    (answering : ∀ entry, s.handler.worker = .exec entry →
      outcome.transfer = answers s.handler.history.executed.length)
    (parsing : {s with handler := urbWorkerStep device outcome s.handler}.Parsing messages) :
    {s with handler := urbWorkerStep device outcome s.handler}.Serving messages device answers
      before := by
  have turn : ∀ entry, s.handler.worker = .exec entry →
      entry.serial = s.handler.history.executed.length := fun _ executing => serving.turn executing
  obtain ⟨_,initialized,delivers,plain,counted,line,executed,waiting,done,sent⟩ := serving
  obtain ⟨client,handler,serverRunning,pc,passes,unlinks⟩ := s
  obtain ⟨busid,pending,completed,running,ready,worker,history⟩ := handler
  cases worker with
  | pop =>
    cases pending with
    | nil => exact ⟨parsing,initialized,delivers,plain,counted,line,executed,waiting,done,sent⟩
    | cons entry rest =>
      refine ⟨parsing,initialized,delivers,plain,counted,?_,executed,?_,done,sent⟩
      · simpa [finished,unfinished,WorkerPc.taken,WorkerPc.ready,urbWorkerStep,queuePop] using line
      · intro other member
        rcases List.mem_cons.mp member with rfl | later
        · exact (waiting entry List.mem_cons_self).begin
        · exact waiting other (List.mem_cons_of_mem _ later)
  | exec entry =>
    refine ⟨parsing,initialized,delivers,plain,counted,?_,?_,?_,?_,sent⟩
    · simpa [finished,unfinished,WorkerPc.taken,WorkerPc.ready,urbWorkerStep,UrbEntry.executed]
        using line
    · simp only [finished,WorkerPc.ready,List.append_nil] at executed
      simp [finished,WorkerPc.ready,urbWorkerStep,executed,Nat.add_assoc]
    · exact fun other member => waiting other (List.mem_cons_of_mem _ member)
    · intro other member
      rcases List.mem_append.mp member with old | new
      · exact done other (List.mem_append_left _ old)
      · refine ⟨entry,waiting entry List.mem_cons_self,?_⟩
        rw [List.mem_singleton.mp new,turn entry rfl,answering entry rfl]
  | push entry =>
    refine ⟨parsing,initialized,delivers,plain,counted,?_,?_,waiting,?_,sent⟩
    · simpa [finished,unfinished,WorkerPc.taken,WorkerPc.ready,urbWorkerStep,queuePush] using line
    · simpa [finished,WorkerPc.ready,urbWorkerStep,queuePush] using executed
    · simpa [finished,WorkerPc.ready,urbWorkerStep,queuePush] using done
  | test =>
    cases running <;>
    exact ⟨parsing,initialized,delivers,plain,counted,line,executed,waiting,done,sent⟩
  | wait =>
    obtain ⟨transfer,waitFailed⟩ := outcome
    cases waitFailed <;>
    exact ⟨parsing,initialized,delivers,plain,counted,line,executed,waiting,done,sent⟩
  | stopped => exact ⟨parsing,initialized,delivers,plain,counted,line,executed,waiting,done,sent⟩

theorem recv_delivers (delivers : s.client.socket.Delivers) (pc : s.pc = .recv)
    (stepped : sessionStep outcomes s = some next) : next.client.socket.Delivers := by
  have kept {result : Except ErrorCode UsbipHeader} {socket : Socket}
      (read : usbipRecvUrbHeader s.client.socket = some (result,socket)) : socket.Delivers := by
    rw [Socket.Delivers,(recvExact_output _ _ _ _ _ read).2]
    exact delivers
  simp only [sessionStep,pc] at stepped
  split at stepped
  next _ => cases stepped
  next socket read => exact Option.some.inj stepped ▸ kept read
  next header socket read => exact Option.some.inj stepped ▸ kept read

theorem submit_delivers {header : UsbipHeader} (delivers : s.client.socket.Delivers)
    (pc : s.pc = .submit header) (stepped : sessionStep outcomes s = some next) :
    next.client.socket.Delivers := by
  have kept {result : Except ErrorCode (List UInt8)} {socket : Socket}
      (read : usbipRecvUrbData s.client.socket header.u.transferBufferLength =
        some (result,socket)) : socket.Delivers := by
    simp only [usbipRecvUrbData] at read
    split at read
    next _ => cases read; exact delivers
    next _ =>
      rw [Socket.Delivers,(recvExact_output _ _ _ _ _ read).2]
      exact delivers
  simp only [sessionStep,pc] at stepped
  split at stepped
  next _ =>
    split at stepped
    next _ => exact Option.some.inj stepped ▸ delivers
    next _ =>
      split at stepped
      next _ => cases stepped
      next socket read => exact Option.some.inj stepped ▸ kept read
      next data socket read => exact Option.some.inj stepped ▸ kept read
  next _ => exact Option.some.inj stepped ▸ delivers

theorem Serving.quiet (serving : s.Serving messages device answers before)
    (parsing : next.Parsing messages) (handler : next.handler = s.handler)
    (leaving : next.pc.leaving = s.pc.leaving) (plain : dealsWithUnlink next.pc = false)
    (delivers : next.client.socket.Delivers)
    (sent : next.client.socket.sent = s.client.socket.sent) :
    next.Serving messages device answers before := by
  have finished : next.finished = s.finished := by
    rw [UrbSession.finished,UrbSession.finished,handler,leaving]
  have unfinished : next.unfinished = s.unfinished := by
    rw [UrbSession.unfinished,UrbSession.unfinished,handler]
  refine ⟨parsing,?_,delivers,plain,?_,?_,?_,?_,?_,?_⟩
  · rw [handler,serving.initialized]
  · rw [handler,serving.counted]
  · rw [handler,finished,unfinished,serving.line]
  · rw [handler,finished,serving.executed]
  · rw [unfinished]
    exact serving.waiting
  · rw [finished]
    exact serving.done
  · rw [sent,handler,serving.sent]

theorem Parsing.dispatches (parsing : s.Parsing messages)
    (plain : ∀ message ∈ messages, message.header.common.command ≠ usbipCmdUnlink)
    {header : UsbipHeader} (pc : s.pc = dispatch header) :
    dealsWithUnlink (dispatch header) = false := by
  obtain ⟨_,_,rest,calls,hand,made⟩ := parsing
  rw [pc] at hand
  rw [dispatch] at hand ⊢
  split at hand
  next submit => rw [if_pos submit]; rfl
  next submit =>
    rw [if_neg submit]
    split at hand
    next unlink =>
      simp only [InHand] at hand
      rw [callsOf_requests plain,hand.1] at made
      have call : UrbCall.unlink header.u.seqnumToUnlink ∈
          (requestsOf messages).map fun request => .forward request.1 request.2 := by
        rw [made]
        simp
      obtain ⟨_,_,other⟩ := List.mem_map.mp call
      cases other
    next unlink => rw [if_neg unlink]; rfl

theorem Parsing.forwards (parsing : s.Parsing messages)
    (plain : ∀ message ∈ messages, message.header.common.command ≠ usbipCmdUnlink)
    {header : UsbipHeader} {data : List UInt8} (pc : s.pc = .forward header data) :
    (requestsOf messages)[s.handler.history.calls.length]? = some (header,data) := by
  obtain ⟨_,_,rest,calls,hand,made⟩ := parsing
  simp only [InHand,pc] at hand
  rw [callsOf_requests plain,hand.1] at made
  have call := congrArg (·[s.handler.history.calls.length]?) made
  simp only [List.append_assoc,List.singleton_append,List.getElem?_append_right le_rfl,
    Nat.sub_self,List.getElem?_cons_zero,List.getElem?_map] at call
  obtain ⟨request,found,same⟩ := Option.map_eq_some_iff.mp call
  cases same
  exact found

/-- Nothing fails on the server while it queues a request. -/
def AllocatesAll (outcomes : Nat → MessageOutcome) : Prop :=
  ∀ pass, (outcomes pass).payloadAlloc = true ∧ (outcomes pass).entryAlloc = true ∧
    (outcomes pass).bufferAlloc = true

theorem submit_accepted {handler : UrbHandler} (initialized : handler.initialized = true)
    (header : UsbipHeader) (data : List UInt8) (now : UInt64) :
    ∃ entry : UrbEntry, entry.Submitted header data ∧
      entry.serial = handler.history.submitted.length ∧
      (urbHandlerSubmit handler header data true true now).2 = {handler with
        pending := handler.pending ++ [entry]
        history := {handler.history with submitted := handler.history.submitted ++ [header]}} := by
  rcases urbHandlerSubmit_result handler header data true true now with
    ⟨error,failed,refused⟩ | ⟨entry,submitted,serial,_,accepted⟩
  · have accepted : (urbHandlerSubmit handler header data true true now).1 = .success := by
      simp [urbHandlerSubmit,initialized]
    rw [refused] at accepted
    exact absurd accepted failed
  · exact ⟨entry,submitted,serial,by rw [accepted]⟩

theorem forwarded_serving (serving : s.Serving messages device answers before)
    (plain : ∀ message ∈ messages, message.header.common.command ≠ usbipCmdUnlink)
    {header : UsbipHeader} {data : List UInt8} (pc : s.pc = .forward header data) (now : UInt64)
    (forwarded : next = {s with
      client := {s.client with urbsProcessed := s.client.urbsProcessed+1}
      handler := (urbHandlerSubmit (s.handler.recordCall (.forward header data)) header data
        true true now).2
      pc := .drain})
    (parsing : next.Parsing messages) : next.Serving messages device answers before := by
  have found := serving.parsing.forwards plain pc
  rw [serving.counted] at found
  have initialized : (s.handler.recordCall (.forward header data)).initialized = true :=
    serving.initialized
  obtain ⟨entry,submitted,serial,accepted⟩ := submit_accepted initialized header data now
  have number : entry.serial = s.handler.history.submitted.length := serial
  rw [accepted] at forwarded
  subst forwarded
  obtain ⟨_,ready,delivers,_,counted,line,executed,waiting,done,sent⟩ := serving
  simp only [finished,unfinished,pc,UrbPc.leaving,List.nil_append] at line executed waiting done
  refine ⟨parsing,ready,delivers,rfl,?_,?_,executed,?_,done,sent⟩
  · simp [UrbHandler.recordCall,counted]
  · simp only [finished,unfinished,UrbPc.leaving,UrbHandler.recordCall,List.nil_append,
      List.map_append,List.length_append,List.length_singleton,List.range_succ,← line] at number ⊢
    simp [number]
  · intro other member
    simp only [unfinished,UrbHandler.recordCall,← List.append_assoc,List.mem_append] at member
    rcases member with old | new
    · exact waiting other (List.mem_append.mpr old)
    · rw [List.mem_singleton.mp new]
      exact ⟨(header,data),number ▸ found,submitted⟩

/-- The answers are those of a conforming driver to these requests. -/
def ConformingAnswers (requests : List UrbRequest) (answers : Nat → TransferOutcome) : Prop :=
  ∀ turn request, requests[turn]? = some request → (answers turn).Conforms (transfer request)

theorem replied_serving (serving : s.Serving messages device answers before)
    (conforming : ConformingAnswers (requestsOf messages) answers)
    {entry : UrbEntry} (pc : s.pc = .reply entry) (stale : Nat → UInt8) {sent : Bool}
    {client : ClientConnection}
    (send : clientSendUrbCompletion s.client entry stale = (.success,sent,client))
    (replies : List (Nat × UsbipHeader)) (replied : next = {s with
      client
      handler := {s.handler with history := {s.handler.history with
        replies
        freed := s.handler.history.freed ++ [entry.serial]}}
      pc := .drain})
    (parsing : next.Parsing messages) : next.Serving messages device answers before := by
  obtain ⟨_,ready,delivers,_,counted,line,executed,waiting,done,written⟩ := serving
  have still := (completion_delivers s.client entry stale delivers).2
  obtain ⟨taken,_,accepted,whole⟩ := completion_sent s.client entry stale
  rw [send] at still accepted whole
  simp only [finished,unfinished,pc,UrbPc.leaving,List.cons_append,List.nil_append,
    List.map_cons] at line executed waiting done
  obtain ⟨waited,⟨request,found,submitted⟩,rfl⟩ := done entry List.mem_cons_self
  have turn : waited.serial = s.handler.history.freed.length := range_middle line
  have bytes : taken = reply device request (answers s.handler.history.freed.length) := by
    rw [whole rfl,executed_reply submitted device (conforming _ _ found),turn]
  rw [turn] at found
  subst replied
  refine ⟨parsing,ready,still,rfl,counted,?_,?_,waiting,?_,?_⟩
  · simpa [finished,unfinished,UrbPc.leaving] using line
  · simp only [finished,UrbPc.leaving,List.nil_append,List.length_cons,List.length_append,
      List.length_nil] at executed ⊢
    omega
  · exact fun other member => done other (List.mem_cons_of_mem _ member)
  · rw [List.length_append,List.length_singleton,replies_next found,← List.append_assoc,← written,
      ← bytes]
    exact accepted

theorem session_serving (serving : s.Serving messages device answers before)
    (plain : ∀ message ∈ messages, message.header.common.command ≠ usbipCmdUnlink)
    (able : AllocatesAll outcomes) (conforming : ConformingAnswers (requestsOf messages) answers)
    (parsing : next.Parsing messages) (stepped : sessionStep outcomes s = some next) :
    next.Serving messages device answers before := by
  have unlinked (deals : dealsWithUnlink s.pc = true) : next.Serving messages device answers before := by
    rw [serving.plain] at deals
    cases deals
  cases sessionStep_moved stepped with
  | entered pc => exact serving.quiet parsing rfl (by rw [pc]; rfl) rfl serving.delivers rfl
  | left pc => exact serving.quiet parsing rfl (by rw [pc]; rfl) rfl serving.delivers rfl
  | lost socket pc advances =>
    exact serving.quiet parsing rfl (by rw [pc]; rfl) rfl
      (recv_delivers serving.delivers pc stepped) (recv_sent pc stepped)
  | received header socket pc read =>
    have away : (dispatch header).leaving = [] := by
      simp only [dispatch]
      split
      · rfl
      · split <;> rfl
    exact serving.quiet parsing rfl (by rw [pc]; exact away) (parsing.dispatches plain rfl)
      (recv_delivers serving.delivers pc stepped) (recv_sent pc stepped)
  | lostPayload header socket pc advances =>
    exact serving.quiet parsing rfl (by rw [pc]; rfl) rfl
      (submit_delivers serving.delivers pc stepped) (submit_sent pc stepped)
  | gotPayload header data socket pc read =>
    exact serving.quiet parsing rfl (by rw [pc]; rfl) rfl
      (submit_delivers serving.delivers pc stepped) (submit_sent pc stepped)
  | noPayload header pc => exact serving.quiet parsing rfl (by rw [pc]; rfl) rfl serving.delivers rfl
  | forwarded header data pc =>
    obtain ⟨_,entry,buffer⟩ := able s.passes
    exact forwarded_serving serving plain pc (outcomes s.passes).now (by rw [entry,buffer]) parsing
  | drained pc empty => exact serving.quiet parsing rfl (by rw [pc]; rfl) rfl serving.delivers rfl
  | collected entry rest pc queue popped =>
    obtain ⟨_,ready,delivers,_,counted,line,executed,waiting,done,sent⟩ := serving
    simp only [finished,unfinished,pc,queue,UrbPc.leaving,List.nil_append] at line executed waiting done
    exact ⟨parsing,ready,delivers,rfl,counted,line,executed,waiting,done,sent⟩
  | replied entry err sent client pc send =>
    have whole := (completion_delivers s.client entry (outcomes s.passes).stale serving.delivers).1
    rw [send] at whole
    obtain rfl : err = .success := whole
    cases sent <;> exact replied_serving serving conforming pc _ send _ rfl parsing
  | missed header pc absent => exact unlinked (by rw [pc]; rfl)
  | unlinked header entry handler pc removed => exact unlinked (by rw [pc]; rfl)
  | pushed header entry pc => exact unlinked (by rw [pc]; rfl)
  | answered header removed pc => exact unlinked (by rw [pc]; rfl)

theorem step_serving (plain : ∀ message ∈ messages, message.header.common.command ≠ usbipCmdUnlink)
    (able : AllocatesAll outcomes) (conforming : ConformingAnswers (requestsOf messages) answers)
    (turn : Turn) (s next : UrbSession) (answering : Answering answers turn s)
    (serving : s.Serving messages device answers before)
    (stepped : step device outcomes turn s = some next) :
    next.Serving messages device answers before := by
  have parsing := step_parsing (fun pass => (able pass).1) turn s next answering.1 serving.parsing
    stepped
  cases turn with
  | session => exact session_serving serving plain able conforming parsing stepped
  | worker outcome =>
    cases Option.some.inj stepped
    exact worker_serving serving (fun entry => answering.2 outcome entry rfl) parsing
  | signal => exact absurd rfl answering.1

/-- As long as its client only submits URBs, the session writes what a server
writes that deals with one request after the other, and the device is asked for
the transfers of the requests in their order. Once everything is read and both
queues are empty, every request has its reply. -/
theorem serves_in_order (device : Option UsbDevice) (outcomes : Nat → MessageOutcome)
    (client : ClientConnection) (busid : Busid) (messages : List ClientMessage)
    (answers : Nat → TransferOutcome) (attached : client.state = .attached)
    (delivers : client.socket.Delivers) (asked : client.socket.stream = streamOf messages)
    (plain : ∀ message ∈ messages, message.header.common.command ≠ usbipCmdUnlink)
    (able : AllocatesAll outcomes) (conforming : ConformingAnswers (requestsOf messages) answers)
    {turns : List Turn} {final : UrbSession}
    (run : GuardedRun (step device outcomes) (Answering answers) (start client busid) turns final) :
    ∃ served, served ≤ (requestsOf messages).length ∧
      final.client.socket.sent = client.socket.sent ++
        ((replies device answers (requestsOf messages)).take served).flatten ∧
      (∀ entry, final.handler.worker = .exec entry → ∃ request,
        (requestsOf messages)[final.handler.history.executed.length]? = some request ∧
        entry.urb = submitUrb request.1 request.2) ∧
      (sessionStep outcomes final = none → final.finished = [] → final.unfinished = [] →
        served = (requestsOf messages).length) := by
  have serving : final.Serving messages device answers client.socket.sent :=
    run.invariant _ (step_serving plain able conforming)
      ⟨⟨rfl,attached,messages,[],⟨rfl,asked⟩,rfl⟩,rfl,delivers,rfl,rfl,rfl,rfl,by
        simp [unfinished,start,urbHandlerStarted,WorkerPc.taken],by
        simp [finished,start,urbHandlerStarted,WorkerPc.ready,UrbPc.leaving],by
        simp [start,urbHandlerStarted,UrbHistory.empty]⟩
  have asked : final.handler.history.submitted.length ≤ (requestsOf messages).length := by
    obtain ⟨_,_,rest,calls,_,made⟩ := serving.parsing
    have lengths := congrArg List.length made
    rw [callsOf_requests plain,List.length_map,List.length_append,List.length_append,
      serving.counted] at lengths
    omega
  have line := congrArg List.length serving.line
  rw [List.length_append,List.length_map,List.length_range] at line
  refine ⟨final.handler.history.freed.length,by omega,serving.sent,?_,?_⟩
  · intro entry executing
    obtain ⟨request,found,submitted⟩ := serving.waiting entry (by
      simp [unfinished,WorkerPc.taken,executing])
    rw [serving.turn executing] at found
    exact ⟨request,found,submitted.urb⟩
  · intro stops finished unfinished
    have calls := congrArg List.length
      (serving.parsing.stuck (fun pass => (able pass).1) stops).1
    rw [callsOf_requests plain,List.length_map,serving.counted] at calls
    rw [finished,unfinished] at line
    simpa [calls] using line

def writeThenRead : List ClientMessage := mixedMessages.take 2

def oneAfterTheOther : List Turn :=
  List.replicate 4 .session ++ List.replicate 4 works ++ List.replicate 7 .session ++
    List.replicate 4 works ++ List.replicate 5 .session

def keyPressed : TransferOutcome := ⟨true,false,1,[7]⟩

theorem writeThenRead_conform :
    ∀ request ∈ requestsOf writeThenRead, keyPressed.Conforms (transfer request) := by
  decide +kernel

theorem serves_in_order_two : ∃ final,
    GuardedRun (step openKeyboard fun _ => willing) (Answering fun _ => keyPressed)
      (start (trickling (streamOf writeThenRead)) .empty) oneAfterTheOther final ∧
    final.client.socket.sent = (replies openKeyboard (fun _ => keyPressed)
      (requestsOf writeThenRead)).flatten := by
  obtain ⟨final,run,checked⟩ := guardedRun_of_check (step openKeyboard fun _ => willing)
    (Answering fun _ => keyPressed) (fun turn _ => turn = .session ∨ turn = works)
    (by
      intro turn s allowed
      rcases of_decide_eq_true allowed with rfl | rfl
      · exact ⟨nofun,nofun⟩
      · exact ⟨nofun,fun _ _ same _ => by cases same; rfl⟩)
    oneAfterTheOther (start (trickling (streamOf writeThenRead)) .empty)
    (fun s => s.pc = .ended ∧ s.finished = [] ∧ s.unfinished = []) (by decide +kernel)
  obtain ⟨ended,finished,unfinished⟩ := of_decide_eq_true checked
  have stops : sessionStep (fun _ => willing) final = none := by rw [sessionStep,ended]
  obtain ⟨served,_,sent,_,all⟩ := serves_in_order openKeyboard (fun _ => willing)
    (trickling (streamOf writeThenRead)) .empty writeThenRead (fun _ => keyPressed) rfl
    (by simp [Socket.Delivers,trickling,createClient]) (by decide +kernel)
    (by decide) (fun _ => ⟨rfl,rfl,rfl⟩)
    (fun _ request found => writeThenRead_conform request (List.mem_of_getElem? found)) run
  refine ⟨final,run,?_⟩
  have whole : served = (replies openKeyboard (fun _ => keyPressed)
      (requestsOf writeThenRead)).length := by
    rw [all stops finished unfinished,replies,List.length_mapIdx]
  rw [sent,whole,List.take_length]
  rfl

end UrbSession

end UsbOverNetwork
