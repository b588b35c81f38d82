import UsbOverNetwork.Server.UrbStream
import UsbOverNetwork.Server.UrbTrace

/-! The data of a URB: what a write takes to the device, and what a completion
brings back from it. -/
namespace UsbOverNetwork
open Runs

def UsbUrb.WritesFrom (urb : UsbUrb) (payload : List UInt8) : Prop :=
  (usbTransferOf urb).reads = false → ∀ count ≤ (usbTransferOf urb).length,
    count ≤ payload.length ∧ (urb.buffer.getD []).take count = (payload.take count).map some

/-- The session reads a payload for the 32-bit direction 0 alone, and a read
needs none; every other request must write nothing. -/
def UsbipHeader.SettledDirection (header : UsbipHeader) : Prop :=
  let ep := header.common.ep.toUInt8
  let length := header.u.transferBufferLength
  header.common.direction = usbipDirOut ∨ header.common.direction.toUInt8 = usbipDirIn.toUInt8 ∨
    ep &&& usbDirIn ≠ 0 ∨ (ep = 0 ∧ bmRequestType header.u.setup &&& usbDirIn ≠ 0) ∨
    length = 0 ∨ (ep = 0 ∧ length.toUInt16 = 0)

/-- The payload `handle_client_session` has read for a CMD_SUBMIT: all of the
announced bytes for an OUT request, nothing else. -/
structure UsbipHeader.Carries (header : UsbipHeader) (payload : List UInt8) : Prop where
  command : header.common.command = usbipCmdSubmit
  length : payload.length =
    if header.hasPayload then header.u.transferBufferLength.toNat else 0

theorem transfer_length_le (urb : UsbUrb) :
    (usbTransferOf urb).length ≤ urb.bufferLength.toNat := by
  rw [usbTransferOf]
  split
  · exact Nat.mod_le _ _
  · exact le_rfl

theorem urbBuffer_length (urb : UsbUrb) (data : List UInt8) :
    (urbBuffer urb data).length = urb.bufferLength.toNat := by
  have fits : ((if urb.direction = usbipDirOut.toUInt8
      then (data.take urb.bufferLength.toNat).map some else []) : Buffer).length ≤
      urb.bufferLength.toNat := by
    split
    · simp
    · exact Nat.zero_le _
  rw [urbBuffer,List.length_append,List.length_replicate]
  omega

theorem submitUrb_buffer {header : UsbipHeader} {payload : List UInt8}
    (out : header.common.direction = usbipDirOut)
    (whole : payload.length = header.u.transferBufferLength.toNat) :
    ((submitUrb header payload).buffer.getD []) = payload.map some := by
  have direction : (createUrb header).direction = usbipDirOut.toUInt8 := by simp [createUrb,out]
  have length : (createUrb header).bufferLength = header.u.transferBufferLength := rfl
  by_cases empty : header.u.transferBufferLength = 0
  · have bare : payload = [] := by simpa [empty] using whole
    simp [submitUrb,length,empty,bare]
  · have positive : 0 < header.u.transferBufferLength := UInt32.pos_iff_ne_zero.mpr empty
    simp only [submitUrb,length,positive,if_true,Option.getD_some,urbBuffer,direction,← whole,
      List.take_length,List.length_map,Nat.sub_self,List.replicate_zero,List.append_nil]

theorem submitUrb_reads {header : UsbipHeader} (data : List UInt8)
    (into : (createUrb header).direction = usbipDirIn.toUInt8) :
    (usbTransferOf (submitUrb header data)).reads = true := by
  have address : (createUrb header).endpoint = header.common.ep.toUInt8 ||| usbDirIn := by
    have bits : header.common.direction.toUInt8 = usbipDirIn.toUInt8 := into
    simp [createUrb,bits]
  rw [usbTransferOf_submitUrb,address,if_neg (endpoint_in_ne_zero _)]
  simp [Transfer.reads,endpoint_in,usbDirIn_ne_zero]

theorem writesFrom_nil (urb : UsbUrb) :
    urb.WritesFrom [] ↔ (usbTransferOf urb).reads = true ∨ (usbTransferOf urb).length = 0 := by
  constructor
  · intro writes
    cases reads : (usbTransferOf urb).reads with
    | true => exact Or.inl rfl
    | false => exact Or.inr (Nat.le_zero.mp (writes reads _ le_rfl).1)
  · rintro (reads | none) writes count bound
    · rw [reads] at writes
      cases writes
    · rw [none] at bound
      simp [Nat.le_zero.mp bound]

theorem writesFrom_iff {header : UsbipHeader} {payload : List UInt8}
    (carries : header.Carries payload) :
    (submitUrb header payload).WritesFrom payload ↔ header.SettledDirection := by
  by_cases out : header.common.direction = usbipDirOut
  · refine iff_of_true ?_ (Or.inl out)
    have whole : payload.length = header.u.transferBufferLength.toNat := by
      rw [carries.length]
      by_cases empty : header.u.transferBufferLength = 0
      · simp [empty]
      · simp [UsbipHeader.hasPayload,out,UInt32.pos_iff_ne_zero.mpr empty]
    intro _ count bound
    have inside : count ≤ payload.length := by
      rw [whole]
      exact bound.trans (transfer_length_le _)
    exact ⟨inside,by rw [submitUrb_buffer out whole,List.map_take]⟩
  · have bare : payload = [] := by
      have none : header.hasPayload = false := by simp [UsbipHeader.hasPayload,out]
      simpa [none] using carries.length
    subst bare
    rw [writesFrom_nil]
    by_cases into : header.common.direction.toUInt8 = usbipDirIn.toUInt8
    · exact iff_of_true (Or.inl (submitUrb_reads [] into)) (Or.inr (Or.inl into))
    · rw [usbTransferOf_submitUrb]
      have address : (createUrb header).endpoint = header.common.ep.toUInt8 := by
        simp [createUrb,into]
      rw [address]
      by_cases control : header.common.ep.toUInt8 = 0
      · have cut : header.u.transferBufferLength = 0 → header.u.transferBufferLength.toUInt16 = 0 := by
          intro zero
          rw [zero]
          rfl
        have empty : header.u.transferBufferLength.toUInt16.toNat = 0 ↔
            header.u.transferBufferLength.toUInt16 = 0 := UInt16.toNat_inj (b := 0)
        rw [if_pos control]
        simp only [Transfer.reads,Transfer.length,UsbipHeader.SettledDirection,out,into,control,
          bne_iff_ne,empty,UInt8.zero_and]
        tauto
      · have empty : header.u.transferBufferLength.toNat = 0 ↔
            header.u.transferBufferLength = 0 := UInt32.toNat_inj (b := 0)
        rw [if_neg control]
        simp only [Transfer.reads,Transfer.length,UsbipHeader.SettledDirection,out,into,control,
          bne_iff_ne,empty]
        tauto

namespace UrbSession

/-- The bytes the session has read last are those of the message in hand. -/
def Behind (before : List UInt8) : UrbPc → Prop
  | .submit header => header.common.command = usbipCmdSubmit ∧ headerCodec.encode header <:+ before
  | .forward header data => header.Carries data ∧ headerCodec.encode header ++ data <:+ before
  | _ => True

/-- Each URB forwarded is a header of the stream and the bytes that follow it there. -/
structure Reading (stream : List UInt8) (s : UrbSession) : Prop where
  position : s.pc = .ended ∨
    ∃ before, stream = before ++ s.client.socket.stream ∧ Behind before s.pc
  forwarded : ∀ header data, .forward header data ∈ s.handler.history.calls →
    header.Carries data ∧ headerCodec.encode header ++ data <:+: stream

theorem received_reading {stream before : List UInt8} {header : UsbipHeader} {socket next : Socket}
    (whole : stream = before ++ socket.stream)
    (read : usbipRecvUrbHeader socket = some (.ok header,next)) :
    ∃ after, stream = after ++ next.stream ∧ Behind after (dispatch header) := by
  obtain ⟨enough,decoded,left,_⟩ := recvExact_ok _ _ _ _ _ read
  have encoded : headerCodec.encode header = socket.stream.take UsbipHeader.size := by
    rw [decoded]
    apply headerCodec_lawful.encode_decode
    exact List.length_take_of_le enough
  refine ⟨before ++ socket.stream.take UsbipHeader.size,?_,?_⟩
  · rw [left,List.append_assoc,List.take_append_drop]
    exact whole
  · simp only [dispatch]
    split
    next submit => exact ⟨submit,encoded ▸ List.suffix_append _ _⟩
    next _ => split <;> trivial

/-- A submit that is not given up is forwarded with as many bytes of the stream
as its header asks for. -/
theorem submit_stepped {outcomes : Nat → MessageOutcome} {header : UsbipHeader} {s next : UrbSession}
    (pc : s.pc = .submit header) (stepped : sessionStep outcomes s = some next) : next.pc = .ended ∨
      ∃ data, next.pc = .forward header data ∧ next.passes = s.passes ∧
        s.client.socket.stream = data ++ next.client.socket.stream ∧
        data.length = if header.hasPayload then header.u.transferBufferLength.toNat else 0 := by
  simp only [sessionStep,pc] at stepped
  split at stepped
  next has =>
    have positive : header.u.transferBufferLength ≠ 0 := by
      intro zero
      simp [UsbipHeader.hasPayload,zero] at has
    split at stepped
    next _ => exact Or.inl (Option.some.inj stepped ▸ rfl)
    next _ =>
      simp only [usbipRecvUrbData,if_neg positive] at stepped
      split at stepped
      next _ => cases stepped
      next _ => exact Or.inl (Option.some.inj stepped ▸ rfl)
      next data socket read =>
        obtain ⟨enough,got,left,_⟩ := recvExact_ok _ _ _ _ _ read
        refine Option.some.inj stepped ▸ Or.inr ⟨data,rfl,rfl,?_,?_⟩
        · rw [left,got,id,List.take_append_drop]
        · rw [got,id,List.length_take_of_le enough,if_pos has]
  next none =>
    refine Option.some.inj stepped ▸ Or.inr ⟨[],rfl,rfl,rfl,?_⟩
    rw [List.length_nil,if_neg none]

theorem submit_reading {outcomes : Nat → MessageOutcome} {stream before : List UInt8}
    {header : UsbipHeader} {s next : UrbSession} (pc : s.pc = .submit header)
    (whole : stream = before ++ s.client.socket.stream) (behind : Behind before s.pc)
    (stepped : sessionStep outcomes s = some next) : next.pc = .ended ∨
      ∃ after, stream = after ++ next.client.socket.stream ∧ Behind after next.pc := by
  rw [pc] at behind
  obtain ⟨submit,front,rfl⟩ := behind
  refine (submit_stepped pc stepped).imp_right ?_
  rintro ⟨data,forward,_,read,length⟩
  refine ⟨front ++ headerCodec.encode header ++ data,?_,?_⟩
  · rw [whole,read]
    simp only [List.append_assoc]
  · rw [forward]
    exact ⟨⟨submit,length⟩,by rw [List.append_assoc]; exact List.suffix_append _ _⟩

theorem sessionStep_reading {outcomes : Nat → MessageOutcome} {stream : List UInt8}
    {s next : UrbSession} (reading : Reading stream s)
    (stepped : sessionStep outcomes s = some next) : Reading stream next := by
  obtain ⟨position,forwarded⟩ := reading
  have going : s.pc ≠ .ended := by
    intro ended
    simp [sessionStep,ended] at stepped
  obtain ⟨before,whole,behind⟩ := position.resolve_left going
  have moves {t : UrbSession} (calls : t.handler.history.calls = s.handler.history.calls)
      (unread : t.client.socket.stream = s.client.socket.stream) (free : Behind before t.pc) :
      Reading stream t :=
    ⟨Or.inr ⟨before,unread ▸ whole,free⟩,calls ▸ forwarded⟩
  cases sessionStep_moved stepped with
  | entered pc => exact moves rfl rfl trivial
  | left pc => exact moves rfl rfl trivial
  | lost socket pc advances => exact ⟨Or.inl rfl,forwarded⟩
  | received header socket pc read => exact ⟨Or.inr (received_reading whole read),forwarded⟩
  | lostPayload header socket pc advances => exact ⟨Or.inl rfl,forwarded⟩
  | gotPayload header data socket pc read =>
    exact ⟨submit_reading pc whole behind stepped,forwarded⟩
  | noPayload header pc => exact ⟨submit_reading pc whole behind stepped,forwarded⟩
  | forwarded header data pc =>
    rw [pc] at behind
    obtain ⟨carries,held⟩ := behind
    refine ⟨Or.inr ⟨before,whole,trivial⟩,?_⟩
    rw [submit_calls]
    intro header' data' member
    rcases List.mem_append.mp member with old | new
    · exact forwarded header' data' old
    · cases List.mem_singleton.mp new
      exact ⟨carries,held.isInfix.trans ⟨[],s.client.socket.stream,by simp [whole]⟩⟩
  | drained pc empty => exact moves rfl rfl trivial
  | collected entry rest pc queue popped => exact moves rfl rfl trivial
  | replied entry err sent client pc send =>
    have input := (clientSendUrbCompletion_kept s.client entry (outcomes s.passes).stale).1
    rw [send] at input
    apply moves
    · cases sent <;> rfl
    · exact input.stream
    · by_cases ok : err = .success <;> simp [ok,Behind]
  | missed header pc absent =>
    refine ⟨Or.inr ⟨before,whole,trivial⟩,?_⟩
    intro header' data' member
    exact forwarded header' data' (by simpa [UrbHandler.recordCall] using member)
  | unlinked header entry handler pc removed =>
    refine ⟨Or.inr ⟨before,whole,trivial⟩,?_⟩
    obtain ⟨_,_,_,_,rfl,rfl⟩ := urbHandlerUnlinkRemove_some removed
    intro header' data' member
    exact forwarded header' data' (by simpa [UrbHandler.recordCall] using member)
  | pushed header entry pc => exact moves rfl rfl trivial
  | answered header removed pc => exact moves rfl rfl trivial

theorem step_reading {device : Option UsbDevice} {outcomes : Nat → MessageOutcome}
    {stream : List UInt8} (turn : Turn) (s next : UrbSession) (reading : Reading stream s)
    (stepped : step device outcomes turn s = some next) : Reading stream next := by
  cases turn with
  | session => exact sessionStep_reading reading stepped
  | worker outcome =>
    rw [← Option.some.inj stepped]
    refine ⟨reading.position,?_⟩
    rw [worker_calls]
    exact reading.forwarded
  | signal => exact Option.some.inj stepped ▸ ⟨reading.position,reading.forwarded⟩

/-- Whatever the worker executes is one of the messages received, and what it
writes is that message's payload exactly when the three places that look at
the direction agree. -/
theorem written_payload_iff (device : Option UsbDevice) (outcomes : Nat → MessageOutcome)
    (client : ClientConnection) (busid : Busid) {turns : List Turn} {final : UrbSession}
    {entry : UrbEntry} (run : Run (step device outcomes) (start client busid) turns final)
    (executing : final.handler.worker = .exec entry) :
    ∃ accepted : List (UsbipHeader × List UInt8),
      (accepted.map fun message => UrbCall.forward message.1 message.2).Sublist
        final.handler.history.calls ∧
      accepted.map Prod.fst = final.handler.history.submitted ∧
      ∃ header payload, accepted[entry.serial]? = some (header,payload) ∧
        headerCodec.encode header ++ payload <:+: client.socket.stream ∧
        header.Carries payload ∧
        (entry.urb.WritesFrom payload ↔ header.SettledDirection) := by
  obtain ⟨actions,trace,traced,same,calls⟩ := UrbTrace.session_traced run
  have inv := traced.invariant UrbTrace.Inv UrbTrace.step_inv (UrbTrace.started_inv busid)
  have reading := run.invariant (Reading client.socket.stream) step_reading
    ⟨Or.inr ⟨[],rfl,trivial⟩,fun _ _ member => nomatch member⟩
  have taken : entry ∈ trace.state.waitingEntries := by
    rw [same]
    simp [UrbSystem.waitingEntries,UrbSystem.taken,system,UrbHandler.forgetCalls,executing]
  obtain ⟨header,payload,found,submitted⟩ := inv.waiting entry taken
  have call := calls.subset (List.mem_map_of_mem (List.mem_of_getElem? found))
  obtain ⟨carries,received⟩ := reading.forwarded header payload call
  refine ⟨trace.note.accepted,calls,?_,header,payload,found,received,carries,?_⟩
  · rw [inv.headers,same]
    rfl
  · rw [submitted.urb]
    exact writesFrom_iff carries

def untilExecuting : List Turn :=
  [.session,.session,.session,.session,works,works]

def executingBuffer (s : UrbSession) (check : UsbUrb → Bool) : Bool :=
  s.system.taken.any fun entry => check entry.urb

theorem executing_of_check {s : UrbSession} {check : UsbUrb → Bool}
    (checked : executingBuffer s check = true) :
    ∃ entry, s.handler.worker = .exec entry ∧ check entry.urb = true := by
  obtain ⟨entry,taken,passed⟩ := List.any_eq_true.mp checked
  cases worker : s.handler.worker with
  | exec other =>
    simp only [system,UrbSystem.taken,UrbHandler.forgetCalls,worker,List.mem_singleton] at taken
    exact ⟨other,rfl,taken ▸ passed⟩
  | _ => simp [system,UrbSystem.taken,UrbHandler.forgetCalls,worker] at taken

theorem written_payload_two : ∃ final entry payload,
    Run (step openKeyboard fun _ => willing)
      (start (trickling (headerCodec.encode (.write 1 2) ++ [7,9])) .empty) untilExecuting final ∧
    final.handler.worker = .exec entry ∧ payload.length = 2 ∧ entry.urb.WritesFrom payload := by
  obtain ⟨final,run,checked⟩ := run_of_check (step openKeyboard fun _ => willing) untilExecuting
    (start (trickling (headerCodec.encode (.write 1 2) ++ [7,9])) .empty)
    (fun s => s.handler.history.calls = [.forward (.write 1 2) [7,9]] ∧
      executingBuffer s fun urb => urb.buffer = some [some 7,some 9]) (by decide +kernel)
  obtain ⟨calls,held⟩ := of_decide_eq_true checked
  obtain ⟨entry,executing,_⟩ := executing_of_check held
  obtain ⟨accepted,listed,_,header,payload,found,_,_,written⟩ :=
    written_payload_iff openKeyboard (fun _ => willing) _ .empty run executing
  have call := listed.subset (List.mem_map_of_mem (List.mem_of_getElem? found))
  rw [calls,List.mem_singleton] at call
  cases call
  exact ⟨final,entry,_,run,executing,rfl,written.mpr (Or.inl rfl)⟩

/-- A write whose direction field is 256: its low byte says OUT. -/
def strayWrite : UsbipHeader := {UsbipHeader.write 1 4 with
  common := ⟨usbipCmdSubmit,1,0x00010001,256,2⟩}

/-- The session reads no payload for it, yet four bytes that were never
written go out to the device. -/
theorem written_uninitialised : ∃ final entry,
    Run (step openKeyboard fun _ => willing) (start (clientOf [strayWrite]) .empty) untilExecuting
      final ∧
    final.handler.worker = .exec entry ∧ usbTransferOf entry.urb = .pipe 2 4 ∧
    entry.urb.buffer = some [none,none,none,none] ∧
    ∀ payload, ¬entry.urb.WritesFrom payload := by
  obtain ⟨final,run,checked⟩ := run_of_check (step openKeyboard fun _ => willing) untilExecuting
    (start (clientOf [strayWrite]) .empty)
    (fun s => executingBuffer s fun urb => usbTransferOf urb = .pipe 2 4 ∧
      urb.buffer = some [none,none,none,none]) (by decide +kernel)
  obtain ⟨entry,executing,passed⟩ := executing_of_check checked
  obtain ⟨transfer,buffer⟩ := of_decide_eq_true passed
  refine ⟨final,entry,run,executing,transfer,buffer,fun payload writes => ?_⟩
  obtain ⟨inside,same⟩ := writes (by rw [transfer]; rfl) 4 (by rw [transfer]; exact le_rfl)
  rw [buffer] at same
  have first : none ∈ (payload.take 4).map some := same ▸ List.mem_cons_self
  obtain ⟨byte,_,defined⟩ := List.mem_map.mp first
  cases defined

end UrbSession

/-- What WinUSB promises of a transfer: it never counts more than it was given,
and a read has filled exactly that many bytes. -/
structure TransferOutcome.Conforms (outcome : TransferOutcome) (transfer : Transfer) : Prop where
  counted : outcome.transferred.toNat ≤ transfer.length
  filled : transfer.reads = true → outcome.data.length = outcome.transferred.toNat

instance (outcome : TransferOutcome) (transfer : Transfer) :
    Decidable (outcome.Conforms transfer) :=
  decidable_of_iff (outcome.transferred.toNat ≤ transfer.length ∧
    (transfer.reads = true → outcome.data.length = outcome.transferred.toNat))
    ⟨fun ⟨counted,filled⟩ => ⟨counted,filled⟩,fun ⟨counted,filled⟩ => ⟨counted,filled⟩⟩

theorem fillBuffer_length {buffer : Option Buffer} {transfer : Transfer} (outcome : TransferOutcome)
    (room : transfer.length ≤ (buffer.getD []).length) :
    (fillBuffer buffer transfer outcome).map List.length = buffer.map List.length := by
  rw [fillBuffer]
  split
  · cases buffer with
    | none => rfl
    | some bytes =>
      simp only [Option.getD_some] at room
      simp only [Option.map_some,List.length_append,List.length_map,List.length_take,
        List.length_drop,Option.some.injEq]
      omega
  · rfl

theorem transfer_count (outcome : TransferOutcome) {result : ErrorCode × UInt32}
    (reported : result = usbControlTransfer outcome ∨ result = usbBulkTransfer outcome) :
    result.2 = 0 ∨ result.2 = outcome.transferred := by
  rcases reported with rfl | rfl
  · simp only [usbControlTransfer]
    split
    · exact Or.inr rfl
    · split <;> exact Or.inl rfl
  · simp only [usbBulkTransfer]
    split
    · exact Or.inr rfl
    · split
      · exact Or.inr rfl
      · exact Or.inl rfl

theorem executed_urb (entry : UrbEntry) (device : Option UsbDevice) (outcome : TransferOutcome) :
    let urb := (usbSubmitUrb device entry.urb outcome).2
    (entry.executed device outcome).urb.bufferLength = urb.bufferLength ∧
    (entry.executed device outcome).urb.direction = urb.direction ∧
    (entry.executed device outcome).urb.actualLength = urb.actualLength ∧
    (entry.executed device outcome).urb.buffer = urb.buffer := by
  simp only [UrbEntry.executed]
  split <;> exact ⟨rfl,rfl,rfl,rfl⟩

/-- After its transfer a URB still counts nothing, or it has the count of the
transfer and the buffer the transfer has left. -/
theorem executed_count (entry : UrbEntry) (device : Option UsbDevice) (outcome : TransferOutcome)
    (fresh : entry.urb.actualLength = 0) :
    (entry.executed device outcome).urb.bufferLength = entry.urb.bufferLength ∧
    (entry.executed device outcome).urb.direction = entry.urb.direction ∧
    ((entry.executed device outcome).urb.actualLength = 0 ∨
      (entry.executed device outcome).urb.actualLength = outcome.transferred ∧
        (entry.executed device outcome).urb.buffer =
          fillBuffer entry.urb.buffer (usbTransferOf entry.urb) outcome) := by
  obtain ⟨length,direction,count,buffer⟩ := executed_urb entry device outcome
  rw [length,direction,count,buffer]
  simp only [usbSubmitUrb]
  split
  · exact ⟨rfl,rfl,Or.inl fresh⟩
  · refine ⟨rfl,rfl,?_⟩
    have reported : (if entry.urb.endpoint = 0 then usbControlTransfer outcome
        else if entry.urb.type = usbEndpointXferBulk then usbBulkTransfer outcome
        else usbInterruptTransfer outcome) = usbControlTransfer outcome ∨
      (if entry.urb.endpoint = 0 then usbControlTransfer outcome
        else if entry.urb.type = usbEndpointXferBulk then usbBulkTransfer outcome
        else usbInterruptTransfer outcome) = usbBulkTransfer outcome := by
      split
      · exact Or.inl rfl
      · exact Or.inr (ite_self _)
    rcases transfer_count outcome reported with none | all
    · exact Or.inl none
    · exact Or.inr ⟨all,rfl⟩

theorem executed_size (entry : UrbEntry) (device : Option UsbDevice) (outcome : TransferOutcome)
    (room : (usbTransferOf entry.urb).length ≤ (entry.urb.buffer.getD []).length) :
    (entry.executed device outcome).urb.buffer.map List.length =
      entry.urb.buffer.map List.length := by
  obtain ⟨_,_,_,buffer⟩ := executed_urb entry device outcome
  rw [buffer]
  simp only [usbSubmitUrb]
  split
  · rfl
  · exact fillBuffer_length outcome room

theorem submitUrb_size (header : UsbipHeader) (data : List UInt8) :
    (submitUrb header data).buffer.map List.length =
      if 0 < header.u.transferBufferLength then some header.u.transferBufferLength.toNat
      else none := by
  have length : (createUrb header).bufferLength = header.u.transferBufferLength := rfl
  simp only [submitUrb,length]
  split
  · rw [Option.map_some,urbBuffer_length,length]
  · rfl

theorem submitUrb_room {header : UsbipHeader} (data : List UInt8)
    (some : 0 < header.u.transferBufferLength.toNat) :
    ∃ buffer, (submitUrb header data).buffer = Option.some buffer ∧
      buffer.length = header.u.transferBufferLength.toNat := by
  have size := submitUrb_size header data
  have positive : 0 < header.u.transferBufferLength := UInt32.lt_iff_toNat_lt.mpr some
  rw [if_pos positive] at size
  exact Option.map_eq_some_iff.mp size

theorem returned_filled {urb : UsbUrb} {buffer : Buffer} {transfer : Transfer}
    {outcome : TransferOutcome} (conforms : outcome.Conforms transfer)
    (reads : transfer.reads = true)
    (filled : urb.buffer = fillBuffer (some buffer) transfer outcome)
    (count : urb.actualLength = outcome.transferred) (stale : Nat → UInt8) :
    urb.returned stale = outcome.data := by
  have length := conforms.filled reads
  have whole : outcome.data.take transfer.length = outcome.data :=
    List.take_of_length_le (length ▸ conforms.counted)
  rw [UsbUrb.returned,filled,count,fillBuffer,if_pos reads,← length]
  apply List.ext_getElem
  · simp
  · intro i left right
    simp [whole,List.getElem?_append,right]

namespace UrbTrace

def Conforming (action : UrbAction) (t : UrbTrace) : Prop :=
  ∀ device outcome, action = .worker device outcome →
    ∀ entry ∈ t.state.taken, outcome.transfer.Conforms (usbTransferOf entry.urb)

def Conformed (notes : UrbNotes) : Prop :=
  ∀ serial outcome, (serial,outcome) ∈ notes.transfers → ∃ header data,
    notes.accepted[serial]? = some (header,data) ∧
    outcome.Conforms (usbTransferOf (submitUrb header data))

structure Safe (t : UrbTrace) : Prop where
  inv : t.Inv
  conformed : Conformed t.note

theorem step_safe (action : UrbAction) (t next : UrbTrace) (conforming : Conforming action t)
    (safe : t.Safe) (stepped : step action t = some next) : next.Safe := by
  refine ⟨step_inv action t next safe.inv stepped,?_⟩
  obtain ⟨after,taken,rfl⟩ := noting_taken stepped
  intro serial outcome made
  rcases List.mem_append.mp made with old | new
  · obtain ⟨header,data,found,conforms⟩ := safe.conformed serial outcome old
    refine ⟨header,data,?_,conforms⟩
    simp only [UrbNotes.take]
    rw [List.getElem?_append_left (List.getElem?_eq_some_iff.mp found).1]
    exact found
  · cases action with
    | worker device result =>
      obtain ⟨entry,held,same⟩ := List.mem_map.mp new
      cases same
      obtain ⟨header,data,found,submitted⟩ :=
        (safe.inv.waiting entry (List.mem_append_right _ held)).take (.worker device result)
          t.state after
      refine ⟨header,data,found,?_⟩
      rw [← submitted.urb]
      exact conforming device result rfl entry held
    | _ => cases new

/-- A finished URB counts nothing, or it counts what the device's transfer for
it has moved. -/
theorem Finished.count {notes : UrbNotes} {entry : UrbEntry} (finished : Finished notes entry)
    (conformed : Conformed notes) : entry.urb.actualLength = 0 ∨
      ∃ outcome, (entry.serial,outcome) ∈ notes.transfers ∧
        entry.urb.actualLength ≤ entry.urb.bufferLength ∧
        (∃ buffer, entry.urb.buffer = some buffer ∧
          buffer.length = entry.urb.bufferLength.toNat) ∧
        (entry.urb.direction = usbipDirIn.toUInt8 →
          ∀ stale, entry.urb.returned stale = outcome.data) := by
  cases finished with
  | cancelled entry fresh =>
    obtain ⟨header,data,found,submitted⟩ := fresh
    left
    simp [UrbEntry.cancel,submitted.urb,submitUrb,createUrb]
  | executed entry device outcome fresh made =>
    obtain ⟨header,data,found,submitted⟩ := fresh
    obtain ⟨header',data',found',conforms⟩ := conformed entry.serial outcome made
    cases found.symm.trans found'
    obtain ⟨length,direction,none | ⟨count,filled⟩⟩ :=
      executed_count entry device outcome (by simp [submitted.urb,submitUrb,createUrb])
    · exact Or.inl none
    by_cases zero : outcome.transferred = 0
    · exact Or.inl (count.trans zero)
    have capacity : entry.urb.bufferLength = header.u.transferBufferLength := by
      rw [submitted.urb]
      rfl
    rw [submitted.urb] at filled
    have room : (usbTransferOf (submitUrb header data)).length ≤
      header.u.transferBufferLength.toNat := transfer_length_le (submitUrb header data)
    have moved : 0 < outcome.transferred.toNat :=
      UInt32.lt_iff_toNat_lt.mp (UInt32.pos_iff_ne_zero.mpr zero)
    have inside := conforms.counted.trans room
    obtain ⟨buffer,allocated,size⟩ := submitUrb_room data (lt_of_lt_of_le moved inside)
    rw [allocated] at filled
    refine Or.inr ⟨outcome,made,?_,?_,?_⟩
    · rw [count,length,capacity,UInt32.le_iff_toNat_le]
      exact inside
    · have kept : (fillBuffer (some buffer) (usbTransferOf (submitUrb header data)) outcome).map
          List.length = some buffer.length := fillBuffer_length outcome (size ▸ room)
      obtain ⟨left,same,total⟩ := Option.map_eq_some_iff.mp kept
      exact ⟨left,filled.trans same,by rw [total,size,length,capacity]⟩
    · intro into stale
      rw [direction,submitted.urb] at into
      exact returned_filled conforms (submitUrb_reads data into) filled count stale

theorem Finished.data {notes : UrbNotes} {entry : UrbEntry} (finished : Finished notes entry)
    (conformed : Conformed notes) (stale : Nat → UInt8) :
    ∃ data : List UInt8, UrbSession.completionBytes entry stale =
        headerCodec.encode (urbHandlerCreateReturn entry) ++ data ∧
      data.length = (if entry.urb.direction = usbipDirIn.toUInt8
        then entry.urb.actualLength.toNat else 0) ∧
      (data ≠ [] → ∃ outcome, (entry.serial,outcome) ∈ notes.transfers ∧ data = outcome.data) := by
  refine ⟨_,rfl,?_⟩
  by_cases into : entry.urb.direction = usbipDirIn.toUInt8
  · rcases finished.count conformed with none | ⟨outcome,made,_,_,returned⟩
    · simp [into,none]
    · by_cases zero : entry.urb.actualLength = 0
      · simp [into,zero]
      · have positive : 0 < entry.urb.actualLength := UInt32.pos_iff_ne_zero.mpr zero
        have length : (entry.urb.returned stale).length = entry.urb.actualLength.toNat := by
          simp [UsbUrb.returned]
        simp only [into,positive,decide_true,Bool.and_self,if_true]
        exact ⟨length,fun _ => ⟨outcome,made,returned into stale⟩⟩
  · simp [into]

/-- Every completed URB counts at most what its buffer holds, and its
completion carries exactly the bytes that its own transfer has read: all of them
where the socket delivers, a front part of the message where it fails. -/
theorem completions_safe {device : Busid} {actions : List UrbAction} {final : UrbTrace}
    (run : GuardedRun step Conforming (started device) actions final) :
    ∀ entry ∈ final.state.handler.completed ++ final.state.delivering,
      entry.urb.actualLength ≤ entry.urb.bufferLength ∧
      (0 < entry.urb.actualLength → ∃ buffer, entry.urb.buffer = some buffer ∧
        buffer.length = entry.urb.bufferLength.toNat) ∧
      ∀ client stale, ∃ data taken : List UInt8,
        data.length = (if entry.urb.direction = usbipDirIn.toUInt8
          then entry.urb.actualLength.toNat else 0) ∧
        (data ≠ [] → ∃ outcome, (entry.serial,outcome) ∈ final.note.transfers ∧
          data = outcome.data) ∧
        taken <+: headerCodec.encode (urbHandlerCreateReturn entry) ++ data ∧
        (clientSendUrbCompletion client entry stale).2.2.socket.sent = client.socket.sent ++ taken ∧
        ((clientSendUrbCompletion client entry stale).1 = .success →
          taken = headerCodec.encode (urbHandlerCreateReturn entry) ++ data) ∧
        (client.socket.Delivers → (clientSendUrbCompletion client entry stale).1 = .success) := by
  have safe : final.Safe := run.invariant Safe step_safe
    ⟨started_inv device,fun _ _ made => nomatch made⟩
  intro entry member
  have finished : Finished final.note entry := by
    apply safe.inv.finished
    simp only [UrbSystem.finishedEntries,List.mem_append] at member ⊢
    tauto
  refine ⟨?_,?_,?_⟩
  · rcases finished.count safe.conformed with none | ⟨_,_,fits,_⟩
    · rw [none]
      exact UInt32.zero_le
    · exact fits
  · intro positive
    rcases finished.count safe.conformed with none | ⟨_,_,_,buffer,_⟩
    · rw [none] at positive
      exact absurd positive (by decide)
    · exact buffer
  · intro client stale
    obtain ⟨data,bytes,length,own⟩ := finished.data safe.conformed stale
    obtain ⟨taken,front,accepted,whole⟩ := UrbSession.completion_sent client entry stale
    rw [bytes] at front whole
    exact ⟨data,taken,length,own,front,accepted,whole,
      fun delivers => (UrbSession.completion_delivers client entry stale delivers).1⟩

def oneRead : List UrbAction :=
  let work : UrbAction := .worker UrbSession.openKeyboard ⟨⟨true,false,1,[7]⟩,false⟩
  [.submit (.read 1 4) [] true true 0,work,work,work,work,.getCompleted]

/-- The one byte the keyboard gives goes to the client behind the header. -/
theorem completions_safe_read : ∃ final entry outcome,
    GuardedRun step Conforming (started .empty) oneRead final ∧
    final.state.delivering = [entry] ∧ (entry.serial,outcome) ∈ final.note.transfers ∧
    outcome.data = [7] ∧
    ∀ stale, (clientSendUrbCompletion (UrbSession.clientOf []) entry stale).1 = .success ∧
      (clientSendUrbCompletion (UrbSession.clientOf []) entry stale).2.2.socket.sent =
        headerCodec.encode (urbHandlerCreateReturn entry) ++ [7] := by
  obtain ⟨final,run,checked⟩ := guardedRun_of_check step Conforming
    (fun action t => decide (∀ entry ∈ t.state.taken,
      ∀ made ∈ UrbNotes.newTransfers t.state action, made.2.Conforms (usbTransferOf entry.urb)))
    (by
      intro action t allowed device outcome same entry member
      subst same
      exact of_decide_eq_true allowed entry member (entry.serial,outcome.transfer)
        (List.mem_map.mpr ⟨entry,member,rfl⟩))
    oneRead (started .empty)
    (fun t => t.state.delivering.map (fun entry => (entry.urb.direction,entry.urb.actualLength)) =
      [(usbipDirIn.toUInt8,1)] ∧ ∀ made ∈ t.note.transfers, made.2.data = [7]) (by decide +kernel)
  obtain ⟨held,moved⟩ := of_decide_eq_true checked
  obtain ⟨entry,held,fields⟩ := List.map_eq_singleton_iff.mp held
  obtain ⟨direction,count⟩ := Prod.mk.inj fields
  obtain ⟨_,_,completes⟩ := completions_safe run entry (by simp [held])
  have delivers : (UrbSession.clientOf []).socket.Delivers := by
    intro event member
    cases member
  have unsent : (UrbSession.clientOf []).socket.sent = [] := rfl
  have sends (stale) : ∃ outcome, (entry.serial,outcome) ∈ final.note.transfers ∧
      (clientSendUrbCompletion (UrbSession.clientOf []) entry stale).1 = .success ∧
      (clientSendUrbCompletion (UrbSession.clientOf []) entry stale).2.2.socket.sent =
        headerCodec.encode (urbHandlerCreateReturn entry) ++ [7] := by
    obtain ⟨data,taken,length,own,_,accepted,whole,delivered⟩ :=
      completes (UrbSession.clientOf []) stale
    rw [direction,if_pos rfl,count] at length
    obtain ⟨outcome,made,rfl⟩ := own (List.ne_nil_of_length_pos (by rw [length]; decide))
    rw [whole (delivered delivers),moved _ made,unsent,List.nil_append] at accepted
    exact ⟨outcome,made,delivered delivers,accepted⟩
  obtain ⟨outcome,made,_⟩ := sends fun _ => 0
  refine ⟨final,entry,outcome,run,held,made,moved _ made,?_⟩
  intro stale
  obtain ⟨_,_,sent⟩ := sends stale
  exact sent

end UrbTrace

end UsbOverNetwork
