import UsbOverNetwork.Server.UrbData

/-! Isochronous requests. The protocol puts one descriptor behind a message for
each packet it announces; the session carries their number from the request to
the reply, and neither reads a descriptor nor sends one. -/
namespace UsbOverNetwork
open Runs

def isoBytes (descriptors : List UsbipIsoPacketDescriptor) : List UInt8 :=
  descriptors.flatMap isoPacketCodec.encode

theorem isoBytes_length (descriptors : List UsbipIsoPacketDescriptor) :
    (isoBytes descriptors).length = 16*descriptors.length := by
  induction descriptors with
  | nil => rfl
  | cons descriptor rest ih =>
    have size : (isoPacketCodec.encode descriptor).length = 16 :=
      isoPacketCodec_lawful.size_encode descriptor
    rw [isoBytes,List.flatMap_cons,List.length_append,size,← isoBytes,ih,List.length_cons]
    omega

/-- A CMD_SUBMIT of the protocol with isochronous packets: behind the header
the payload of an OUT request, then a descriptor for each packet. -/
structure IsoRequest where
  header : UsbipHeader
  payload : List UInt8
  descriptors : List UsbipIsoPacketDescriptor
  carries : header.Carries payload
  isochronous : 0 < header.u.numberOfPackets ∧ header.u.numberOfPackets < 0xFFFFFFFF
  counted : descriptors.length = header.u.numberOfPackets.toNat

def IsoRequest.encode (request : IsoRequest) : List UInt8 :=
  headerCodec.encode request.header ++ request.payload ++ isoBytes request.descriptors

theorem IsoRequest.trailer (request : IsoRequest) : 0 < (isoBytes request.descriptors).length := by
  have some := UInt32.lt_iff_toNat_lt.mp request.isochronous.1
  have positive : 0 < request.header.u.numberOfPackets.toNat := some
  rw [isoBytes_length,request.counted]
  omega

namespace UrbSession

/-- Where the session that has met the request in pass `base` reads next. -/
def Misframed (request : IsoRequest) (rest : List UInt8) (base : Nat) (s : UrbSession) : Prop :=
  match s.pc with
  | .recv =>
    (s.passes = base ∧ s.client.socket.stream = request.encode ++ rest) ∨
    (s.passes = base+1 ∧ s.client.socket.stream = isoBytes request.descriptors ++ rest) ∨
    base+1 < s.passes
  | .submit header =>
    (s.passes = base ∧ header = request.header ∧
      s.client.socket.stream = request.payload ++ (isoBytes request.descriptors ++ rest)) ∨
    base < s.passes
  | .forward _ _ | .drain | .reply _ | .loop =>
    (s.passes = base ∧ s.client.socket.stream = isoBytes request.descriptors ++ rest) ∨
    base < s.passes
  | .unlink _ | .unlinkPush _ _ | .unlinkReply _ _ => base < s.passes
  | .ended => True

variable {outcomes : Nat → MessageOutcome} {request : IsoRequest} {rest : List UInt8} {base : Nat}
  {s next : UrbSession}

theorem request_header {header : UsbipHeader} {socket after : Socket}
    (stream : socket.stream = request.encode ++ rest)
    (read : usbipRecvUrbHeader socket = some (.ok header,after)) :
    header = request.header ∧
      after.stream = request.payload ++ (isoBytes request.descriptors ++ rest) := by
  obtain ⟨_,decoded,left,_⟩ := recvExact_ok _ _ _ _ _ read
  have size : (headerCodec.encode request.header).length = UsbipHeader.size :=
    headerCodec_lawful.size_encode _
  have split : socket.stream = headerCodec.encode request.header ++
      (request.payload ++ (isoBytes request.descriptors ++ rest)) := by
    rw [stream,IsoRequest.encode]
    simp only [List.append_assoc]
  constructor
  · rw [decoded,split,List.take_left' size]
    exact headerCodec_lawful.decode_encode _
  · rw [left,split]
    exact List.drop_left' size

theorem request_payload (pc : s.pc = .submit request.header)
    (stream : s.client.socket.stream =
      request.payload ++ (isoBytes request.descriptors ++ rest))
    (stepped : sessionStep outcomes s = some next) : next.pc = .ended ∨
      (∃ data, next.pc = .forward request.header data) ∧ next.passes = s.passes ∧
      next.client.socket.stream = isoBytes request.descriptors ++ rest := by
  refine (submit_stepped pc stepped).imp_right ?_
  rintro ⟨data,forward,passes,read,length⟩
  have same : data.length = request.payload.length := length.trans request.carries.length.symm
  exact ⟨⟨data,forward⟩,passes,(List.append_inj (read.symm.trans stream) same).2⟩

theorem dispatch_later {t : UrbSession} {header : UsbipHeader} (pc : t.pc = dispatch header)
    (later : base < t.passes) : t.Misframed request rest base := by
  unfold dispatch at pc
  split at pc
  next _ => simp [Misframed,pc,later]
  next _ => split at pc <;> simp [Misframed,pc,later]

theorem submit_misframed {header : UsbipHeader} {data : List UInt8} (pc : s.pc = .submit header)
    (forwards : next.pc = .forward header data) (passes : next.passes = s.passes)
    (stepped : sessionStep outcomes s = some next) (misframed : s.Misframed request rest base) :
    next.Misframed request rest base := by
  simp only [Misframed,pc] at misframed
  simp only [Misframed,forwards,passes]
  rcases misframed with ⟨now,rfl,stream⟩ | later
  · rcases request_payload pc stream stepped with ended | ⟨_,_,left⟩
    · rw [forwards] at ended
      cases ended
    · exact Or.inl ⟨now,left⟩
  · exact Or.inr later

theorem sessionStep_misframed (misframed : s.Misframed request rest base)
    (stepped : sessionStep outcomes s = some next) : next.Misframed request rest base := by
  cases sessionStep_moved stepped with
  | entered pc =>
    simp only [Misframed,pc] at misframed ⊢
    rcases misframed with ⟨now,stream⟩ | later
    · exact Or.inr (Or.inl ⟨by rw [now],stream⟩)
    · exact Or.inr (Or.inr (by omega))
  | left pc => trivial
  | lost socket pc advances => trivial
  | lostPayload header socket pc advances => trivial
  | received header socket pc read =>
    simp only [Misframed,pc] at misframed
    rcases misframed with ⟨now,stream⟩ | ⟨after,_⟩ | later
    · obtain ⟨rfl,left⟩ := request_header stream read
      have submit : dispatch request.header = .submit request.header :=
        if_pos request.carries.command
      simp only [submit,Misframed,true_and]
      exact Or.inl ⟨now,left⟩
    · exact dispatch_later rfl (show base < s.passes by omega)
    · exact dispatch_later rfl (show base < s.passes by omega)
  | gotPayload header data socket pc read => exact submit_misframed pc rfl rfl stepped misframed
  | noPayload header pc => exact submit_misframed pc rfl rfl stepped misframed
  | replied entry err sent client pc send =>
    have input := (clientSendUrbCompletion_kept s.client entry (outcomes s.passes).stale).1
    rw [send] at input
    simp only [Misframed,pc] at misframed
    rw [← input.stream] at misframed
    by_cases ok : err = .success <;> simpa only [Misframed,ok,if_true,if_false] using misframed
  | forwarded header data pc => simpa only [Misframed,pc] using misframed
  | drained pc empty => simpa only [Misframed,pc] using misframed
  | collected entry queue pc found popped => simpa only [Misframed,pc] using misframed
  | missed header pc absent => simpa only [Misframed,pc] using misframed
  | unlinked header entry handler pc removed => simpa only [Misframed,pc] using misframed
  | pushed header entry pc => simpa only [Misframed,pc] using misframed
  | answered header removed pc =>
    simp only [Misframed,pc] at misframed
    exact Or.inr misframed

theorem step_misframed {device : Option UsbDevice} (turn : Turn) (s next : UrbSession)
    (misframed : s.Misframed request rest base) (stepped : step device outcomes turn s = some next) :
    next.Misframed request rest base := by
  cases turn with
  | session => exact sessionStep_misframed misframed stepped
  | worker outcome => exact Option.some.inj stepped ▸ misframed
  | signal => exact Option.some.inj stepped ▸ misframed

structure At (s : UrbSession) (passes : Nat) (pc : UrbPc) : Prop where
  pc : s.pc = pc
  passes : s.passes = passes
  running : s.serverRunning = true
  attached : s.client.state = .attached

theorem sessionStep_at {passes : Nat} {pc : UrbPc} (stepped : sessionStep outcomes s = some next)
    (running : s.serverRunning = true) (attached : s.client.state = .attached)
    (reached : next.pc = pc) (pass : next.passes = passes) : next.At passes pc := by
  have state := (@step_attachment none outcomes .session s next stepped).state
  have runs : next.serverRunning = s.serverRunning := by
    cases sessionStep_moved stepped <;> rfl
  exact ⟨reached,pass,runs.trans running,state.trans attached⟩

theorem drain_leaves (device : Option UsbDevice) (outcomes : Nat → MessageOutcome) {passes : Nat}
    {s : UrbSession} (drains : s.At passes .drain)
    (empty : urbHandlerGetCompleted s.handler = (none,s.handler)) :
    ∃ turns final, Run (step device outcomes) s turns final ∧ final.At passes .loop := by
  refine ⟨[.session],{s with pc := .loop},.single _ ?_,rfl,drains.passes,drains.running,
    drains.attached⟩
  simp only [step,sessionStep,drains.pc,empty]

theorem reply_returns (device : Option UsbDevice) (outcomes : Nat → MessageOutcome) {passes : Nat}
    {s : UrbSession} {entry : UrbEntry} (replies : s.At passes (.reply entry)) :
    ∃ after, step device outcomes .session s = some after ∧
      (after.At passes .loop ∨
        after.At passes .drain ∧ after.handler.completed = s.handler.completed) := by
  obtain ⟨after,stepped⟩ : ∃ after, sessionStep outcomes s = some after := by
    simp only [sessionStep,replies.pc]
    exact ⟨_,rfl⟩
  refine ⟨after,stepped,?_⟩
  have arrives (pc : UrbPc) (reached : after.pc = pc) (pass : after.passes = s.passes) :
      after.At passes pc :=
    sessionStep_at stepped replies.running replies.attached reached (pass.trans replies.passes)
  cases send : clientSendUrbCompletion s.client entry (outcomes s.passes).stale with
  | mk err rest =>
    simp only [sessionStep,replies.pc,send,Option.some.injEq] at stepped
    subst stepped
    by_cases sent : err = .success
    · refine Or.inr ⟨arrives _ (if_pos sent) rfl,?_⟩
      simp only [urbHandlerFreeEntry]
      split <;> rfl
    · exact Or.inl (arrives _ (if_neg sent) rfl)

/-- Every entry in the completed queue is collected once; a reply that fails
ends the drain. -/
theorem drain_returns (device : Option UsbDevice) (outcomes : Nat → MessageOutcome) {passes : Nat}
    (queue : List UrbEntry) (s : UrbSession) (drains : s.At passes .drain)
    (completed : s.handler.completed = queue) :
    ∃ turns final, Run (step device outcomes) s turns final ∧ final.At passes .loop := by
  induction queue generalizing s with
  | nil =>
    rcases urbHandlerGetCompleted_cases s.handler with empty | ⟨_,_,queue,_⟩
    · exact drain_leaves device outcomes drains empty
    · rw [completed] at queue
      cases queue
  | cons entry others ih =>
    rcases urbHandlerGetCompleted_cases s.handler with empty | ⟨first,rest,queue,popped⟩
    · exact drain_leaves device outcomes drains empty
    · obtain ⟨rfl,rfl⟩ := List.cons.inj (completed.symm.trans queue)
      let collected : UrbSession := {s with
        handler := {s.handler with completed := others}
        pc := .reply entry}
      have collects : step device outcomes .session s = some collected := by
        simp only [step,sessionStep,drains.pc,popped]
        rfl
      obtain ⟨after,answers,left | ⟨again,kept⟩⟩ := reply_returns device outcomes
        (show collected.At passes (.reply entry) from
          ⟨rfl,drains.passes,drains.running,drains.attached⟩)
      · exact ⟨[.session,.session],after,.cons _ _ _ _ _ collects (.single _ answers),left⟩
      · obtain ⟨turns,final,run,loop⟩ := ih after again kept
        exact ⟨.session::.session::turns,final,
          .cons _ _ _ _ _ collects (.cons _ _ _ _ _ answers run),loop⟩

/-- The session reads the request and its payload, forwards it, drains the
completed queue and comes back for the next header. -/
theorem request_returns (device : Option UsbDevice) {base : Nat} {s : UrbSession}
    (reads : s.At base .recv) (stream : s.client.socket.stream = request.encode ++ rest)
    (able : (outcomes base).payloadAlloc = true) :
    ∃ turns final, Run (step device outcomes) s turns final ∧ final.At (base+1) .recv := by
  have enough : UsbipHeader.size ≤ s.client.socket.stream.length := by
    have size : (headerCodec.encode request.header).length = UsbipHeader.size :=
      headerCodec_lawful.size_encode _
    simp only [stream,IsoRequest.encode,List.length_append,size]
    omega
  obtain ⟨socket,read,_⟩ := recvExact_enough s.client.socket _ decodeHeader enough
  obtain ⟨same,left⟩ := request_header stream read
  have submit : dispatch request.header = .submit request.header := if_pos request.carries.command
  rw [same] at read
  let first : UrbSession := {s with client := {s.client with socket}, pc := .submit request.header}
  have begins : step device outcomes .session s = some first := by
    simp only [step,sessionStep,reads.pc,usbipRecvUrbHeader,read,submit]
    rfl
  have arrives : ¬PayloadFails (outcomes first.passes) request.header first.client.socket.stream := by
    have passes : first.passes = base := reads.passes
    rintro ⟨has,unable | short⟩
    · rw [passes,able] at unable
      cases unable
    · have length := request.carries.length
      have unread : first.client.socket.stream =
        request.payload ++ (isoBytes request.descriptors ++ rest) := left
      rw [if_pos has] at length
      simp only [unread,List.length_append,length] at short
      omega
  obtain ⟨second,data,receives,forward,passes,_⟩ := payload_arrives rfl arrives
  have forwards := sessionStep_at receives reads.running reads.attached forward
    (passes.trans reads.passes)
  obtain ⟨third,calls⟩ : ∃ third, sessionStep outcomes second = some third := by
    simp only [sessionStep,forward]
    exact ⟨_,rfl⟩
  have drains : third.At base .drain := by
    apply sessionStep_at calls forwards.running forwards.attached
    · simp only [sessionStep,forward,Option.some.injEq] at calls
      rw [← calls]
    · simp only [sessionStep,forward,Option.some.injEq] at calls
      rw [← calls]
      exact forwards.passes
  obtain ⟨turns,last,run,loop⟩ := drain_returns device outcomes _ third drains rfl
  have enters : step device outcomes .session last =
      some {last with pc := .recv, passes := last.passes+1} := by
    simp [step,sessionStep,loop.pc,loop.running,loop.attached]
  refine ⟨.session::.session::.session::(turns ++ [.session]),
    {last with pc := .recv, passes := last.passes+1},
    .cons _ _ _ _ _ begins (.cons _ _ _ _ _ receives (.cons _ _ _ _ _ calls
      (run.append (.single _ enters)))),rfl,?_,loop.running,loop.attached⟩
  rw [loop.passes]

end UrbSession

/-- A RET_SUBMIT as the protocol frames it: behind the data of a read a
descriptor for each packet the header announces. -/
def IsoFramed (entry : UrbEntry) (bytes : List UInt8) : Prop :=
  ∃ data descriptors, bytes = headerCodec.encode (urbHandlerCreateReturn entry) ++ data ++
      isoBytes descriptors ∧
    data.length = (if entry.urb.direction = usbipDirIn.toUInt8
      then entry.urb.actualLength.toNat else 0) ∧
    descriptors.length = (urbHandlerCreateReturn entry).u.numberOfPackets.toNat

theorem completionBytes_length (entry : UrbEntry) (stale : Nat → UInt8) :
    (UrbSession.completionBytes entry stale).length =
      UsbipHeader.size + if entry.urb.direction = usbipDirIn.toUInt8
        then entry.urb.actualLength.toNat else 0 := by
  have size : (headerCodec.encode (urbHandlerCreateReturn entry)).length = UsbipHeader.size :=
    headerCodec_lawful.size_encode _
  rw [UrbSession.completionBytes,List.length_append,size]
  by_cases into : entry.urb.direction = usbipDirIn.toUInt8
  · by_cases zero : entry.urb.actualLength = 0
    · simp [into,zero]
    · simp [into,UInt32.pos_iff_ne_zero.mpr zero,UsbUrb.returned]
  · simp [into]

theorem completion_not_isoFramed {entry : UrbEntry} (some : 0 < entry.urb.numberOfPackets.toNat)
    (client : ClientConnection) (stale : Nat → UInt8) {bytes : List UInt8}
    (sent : (clientSendUrbCompletion client entry stale).2.2.socket.sent =
      client.socket.sent ++ bytes) : ¬IsoFramed entry bytes := by
  rintro ⟨data,descriptors,rfl,carried,counted⟩
  obtain ⟨taken,front,accepted,_⟩ := UrbSession.completion_sent client entry stale
  rw [sent] at accepted
  cases List.append_cancel_left accepted
  have size : (headerCodec.encode (urbHandlerCreateReturn entry)).length = UsbipHeader.size :=
    headerCodec_lawful.size_encode _
  have packets : (urbHandlerCreateReturn entry).u.numberOfPackets = entry.urb.numberOfPackets := rfl
  have length := front.length_le
  rw [completionBytes_length,List.length_append,List.length_append,size,carried,isoBytes_length,
    counted,packets] at length
  omega

theorem executed_packets (entry : UrbEntry) (device : Option UsbDevice) (outcome : TransferOutcome) :
    (entry.executed device outcome).urb.numberOfPackets = entry.urb.numberOfPackets := by
  have kept : (usbSubmitUrb device entry.urb outcome).2.numberOfPackets =
      entry.urb.numberOfPackets := by
    simp only [usbSubmitUrb]
    split <;> rfl
  rw [← kept]
  simp only [UrbEntry.executed]
  split <;> rfl

namespace UrbSession

/-- The session takes the descriptors for the next header, in every run and for
every number of packets, and no reply carries any. -/
theorem iso_never_framed (device : Option UsbDevice) (outcomes : Nat → MessageOutcome)
    (request : IsoRequest) (rest : List UInt8) (s : UrbSession) (reads : s.pc = .recv)
    (stream : s.client.socket.stream = request.encode ++ rest) :
    (∀ turns next, Run (step device outcomes) s turns next → next.pc = .recv →
      next.passes = s.passes+1 →
      next.client.socket.stream = isoBytes request.descriptors ++ rest ∧
      next.client.socket.stream ≠ rest) ∧
    (s.serverRunning = true → s.client.state = .attached →
      (outcomes s.passes).payloadAlloc = true → request.payload.length < 2^31 →
      ∃ turns next, Run (step device outcomes) s turns next ∧ next.pc = .recv ∧
        next.passes = s.passes+1) ∧
    ∀ entry done : UrbEntry, entry.Submitted request.header request.payload →
      (done = entry.cancel ∨ ∃ device outcome, done = entry.executed device outcome) →
      (urbHandlerCreateReturn done).u.numberOfPackets = request.header.u.numberOfPackets ∧
      ∀ client stale bytes, (clientSendUrbCompletion client done stale).2.2.socket.sent =
        client.socket.sent ++ bytes → ¬IsoFramed done bytes := by
  refine ⟨?_,?_,?_⟩
  · intro turns next run again pass
    have initially : s.Misframed request rest s.passes := by
      simp only [Misframed,reads,true_and]
      exact Or.inl stream
    have misframed := run.invariant (Misframed request rest s.passes) step_misframed initially
    simp only [Misframed,again,pass] at misframed
    rcases misframed with ⟨before,_⟩ | ⟨_,left⟩ | after
    · omega
    · refine ⟨left,fun same => ?_⟩
      rw [left] at same
      have none := List.append_left_eq_self.mp same
      have some := request.trailer
      rw [none] at some
      cases some
    · omega
  · intro running attached able _
    obtain ⟨turns,next,run,again⟩ := request_returns device ⟨reads,rfl,running,attached⟩ stream able
    exact ⟨turns,next,run,again.pc,again.passes⟩
  · intro entry done submitted ended
    have packets : done.urb.numberOfPackets = request.header.u.numberOfPackets := by
      have fresh : entry.urb.numberOfPackets = request.header.u.numberOfPackets := by
        rw [submitted.urb]
        rfl
      rcases ended with rfl | ⟨device,outcome,rfl⟩
      · exact fresh
      · exact (executed_packets entry device outcome).trans fresh
    refine ⟨packets,fun client stale bytes sent => completion_not_isoFramed ?_ client stale sent⟩
    rw [packets]
    exact UInt32.lt_iff_toNat_lt.mp request.isochronous.1

def isoRead : IsoRequest where
  header := {UsbipHeader.read 1 4 with u := {(UsbipHeader.read 1 4).u with word3 := 1}}
  payload := []
  descriptors := [⟨0,4,0,0⟩]
  carries := ⟨rfl,rfl⟩
  isochronous := ⟨by decide,by decide⟩
  counted := rfl

def isoClient : ClientConnection :=
  trickling (isoRead.encode ++ headerCodec.encode (.read 2 4))

theorem iso_never_framed_read : ∃ turns next,
    Run (step openKeyboard fun _ => willing)
      {start isoClient .empty with pc := .recv, passes := 1} turns next ∧
    next.pc = .recv ∧ next.client.socket.stream ≠ headerCodec.encode (.read 2 4) := by
  obtain ⟨misread,returns,_⟩ := iso_never_framed openKeyboard (fun _ => willing) isoRead
    (headerCodec.encode (.read 2 4)) {start isoClient .empty with pc := .recv, passes := 1} rfl
    (by decide +kernel)
  obtain ⟨turns,next,run,again,pass⟩ := returns rfl rfl rfl (by decide)
  exact ⟨turns,next,run,again,(misread turns next run again pass).2⟩

/-- The next header is made of the sixteen descriptor bytes and the beginning
of the real one: its command is 0, so the message behind it is lost as well. -/
theorem iso_misread : ∃ before after,
    Run (step openKeyboard fun _ => willing) (start isoClient .empty) (List.replicate 6 .session)
      before ∧
    before.pc = .recv ∧ before.passes = 2 ∧
    before.client.socket.stream = isoBytes isoRead.descriptors ++ headerCodec.encode (.read 2 4) ∧
    before.client.socket.stream ≠ headerCodec.encode (.read 2 4) ∧
    sessionStep (fun _ => willing) before = some after ∧ after.pc = .loop := by
  obtain ⟨before,run,checked⟩ := run_of_check (step openKeyboard fun _ => willing)
    (List.replicate 6 .session) (start isoClient .empty)
    (fun s => s.pc = .recv ∧ s.passes = 2 ∧
      s.client.socket.stream = isoBytes isoRead.descriptors ++ headerCodec.encode (.read 2 4) ∧
      s.client.socket.stream ≠ headerCodec.encode (.read 2 4) ∧
      (sessionStep (fun _ => willing) s).any fun after => after.pc = .loop) (by decide +kernel)
  obtain ⟨pc,passes,stream,other,next⟩ := of_decide_eq_true checked
  cases stepped : sessionStep (fun _ => willing) before with
  | none => simp [stepped] at next
  | some after =>
    rw [stepped,Option.any_some] at next
    exact ⟨before,after,run,pc,passes,stream,other,stepped,of_decide_eq_true next⟩

end UrbSession

end UsbOverNetwork
