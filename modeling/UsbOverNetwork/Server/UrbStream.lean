import UsbOverNetwork.Common.Codec
import UsbOverNetwork.Server.UrbReplies

/-! The byte streams of an attached client. The session reads back exactly
the messages the client encoded, however the socket cuts them; what it writes
is a sequence of whole replies as long as nothing follows a reply cut short. -/
namespace UsbOverNetwork
open Runs Bytes

/-- A header and the bytes that follow it: the payload of a CMD_SUBMIT to the
device, nothing for every other message. -/
structure ClientMessage where
  header : UsbipHeader
  payload : List UInt8
  carried : payload.length = if header.common.command = usbipCmdSubmit ∧
    header.common.direction = usbipDirOut then header.u.transferBufferLength.toNat else 0
  bounded : payload.length < 2^31

namespace ClientMessage

def encode (message : ClientMessage) : List UInt8 :=
  headerCodec.encode message.header ++ message.payload

def calls (message : ClientMessage) : List UrbCall :=
  if message.header.common.command = usbipCmdSubmit then
    [.forward message.header message.payload]
  else if message.header.common.command = usbipCmdUnlink then
    [.unlink message.header.u.seqnumToUnlink]
  else []

theorem take_encode (message : ClientMessage) (rest : List UInt8) :
    (message.encode ++ rest).take UsbipHeader.size = headerCodec.encode message.header := by
  rw [encode,List.append_assoc]
  exact List.take_left' (headerCodec_lawful.size_encode _)

theorem drop_encode (message : ClientMessage) (rest : List UInt8) :
    (message.encode ++ rest).drop UsbipHeader.size = message.payload ++ rest := by
  rw [encode,List.append_assoc]
  exact List.drop_left' (headerCodec_lawful.size_encode _)

theorem size_le_encode (message : ClientMessage) (rest : List UInt8) :
    UsbipHeader.size ≤ (message.encode ++ rest).length := by
  have size : (headerCodec.encode message.header).length = UsbipHeader.size :=
    headerCodec_lawful.size_encode _
  simp only [encode,List.length_append,size]
  omega

theorem payload_length (message : ClientMessage)
    (submit : message.header.common.command = usbipCmdSubmit) : message.payload.length =
      if message.header.hasPayload then message.header.u.transferBufferLength.toNat else 0 := by
  rw [message.carried]
  by_cases out : message.header.common.direction = usbipDirOut
  · by_cases zero : message.header.u.transferBufferLength = 0
    · simp [submit,out,zero]
    · have positive : 0 < message.header.u.transferBufferLength := UInt32.pos_iff_ne_zero.mpr zero
      simp [submit,out,UsbipHeader.hasPayload,positive]
  · simp [out,UsbipHeader.hasPayload]

end ClientMessage

namespace UrbSession

def streamOf (messages : List ClientMessage) : List UInt8 := messages.flatMap ClientMessage.encode

def callsOf (messages : List ClientMessage) : List UrbCall := messages.flatMap ClientMessage.calls

/-- With `rest` still to be read, the calls the message in hand will make and
the bytes of it that are unread. -/
def InHand (rest : List ClientMessage) (stream : List UInt8) : UrbPc → List UrbCall → Prop
  | .submit header,calls => ∃ payload, calls = [.forward header payload] ∧
      stream = payload ++ streamOf rest ∧
      payload.length = if header.hasPayload then header.u.transferBufferLength.toNat else 0
  | .forward header data,calls => calls = [.forward header data] ∧ stream = streamOf rest
  | .unlink header,calls => calls = [.unlink header.u.seqnumToUnlink] ∧ stream = streamOf rest
  | .ended,calls => calls = [] ∧ stream = [] ∧ rest = []
  | _,calls => calls = [] ∧ stream = streamOf rest

structure Parsing (messages : List ClientMessage) (s : UrbSession) : Prop where
  running : s.serverRunning = true
  attached : s.client.state = .attached
  position : ∃ rest calls, InHand rest s.client.socket.stream s.pc calls ∧
    callsOf messages = s.handler.history.calls ++ calls ++ callsOf rest

theorem recv_parsing {outcomes : Nat → MessageOutcome} {messages : List ClientMessage}
    {s next : UrbSession} (pc : s.pc = .recv) (parsing : s.Parsing messages)
    (stepped : sessionStep outcomes s = some next) : next.Parsing messages := by
  obtain ⟨running,attached,rest,calls,hand,made⟩ := parsing
  simp only [pc,InHand] at hand
  obtain ⟨rfl,stream⟩ := hand
  cases rest with
  | nil =>
    have short : s.client.socket.stream.length < UsbipHeader.size := by
      simp [stream,streamOf,UsbipHeader.size]
    simp only [sessionStep,pc,usbipRecvUrbHeader,recvExact_fewer _ _ _ short] at stepped
    by_cases silent : s.client.socket.ending = .silent
    · simp [silent] at stepped
    · simp only [silent,if_false,Option.some.injEq] at stepped
      rw [← stepped]
      exact ⟨running,attached,[],[],⟨rfl,by simp [Socket.stream],rfl⟩,made⟩
  | cons message rest =>
    have whole : s.client.socket.stream = message.encode ++ streamOf rest := stream
    have enough : UsbipHeader.size ≤ s.client.socket.stream.length :=
      whole ▸ message.size_le_encode _
    obtain ⟨socket,read,left,_⟩ := recvExact_enough s.client.socket _ decodeHeader enough
    have header : decodeHeader (s.client.socket.stream.take UsbipHeader.size) = message.header := by
      rw [whole,message.take_encode]
      exact headerCodec_lawful.decode_encode _
    rw [whole,message.drop_encode] at left
    rw [header] at read
    simp only [sessionStep,pc,usbipRecvUrbHeader,read,Option.some.injEq] at stepped
    rw [← stepped]
    refine ⟨running,attached,rest,message.calls,?_,by simpa [callsOf] using made⟩
    by_cases submit : message.header.common.command = usbipCmdSubmit
    · rw [dispatch,if_pos submit,ClientMessage.calls,if_pos submit]
      exact ⟨message.payload,rfl,left,message.payload_length submit⟩
    · have bare : message.payload = [] := by simpa [submit] using message.carried
      rw [bare,List.nil_append] at left
      rw [dispatch,if_neg submit,ClientMessage.calls,if_neg submit]
      by_cases unlink : message.header.common.command = usbipCmdUnlink
      · rw [if_pos unlink,if_pos unlink]
        exact ⟨rfl,left⟩
      · rw [if_neg unlink,if_neg unlink]
        exact ⟨rfl,left⟩

theorem submit_parsing {outcomes : Nat → MessageOutcome} {messages : List ClientMessage}
    {s next : UrbSession} {header : UsbipHeader} (pc : s.pc = .submit header)
    (able : ∀ pass, (outcomes pass).payloadAlloc = true) (parsing : s.Parsing messages)
    (stepped : sessionStep outcomes s = some next) : next.Parsing messages := by
  obtain ⟨running,attached,rest,calls,hand,made⟩ := parsing
  simp only [pc,InHand] at hand
  obtain ⟨payload,rfl,stream,length⟩ := hand
  cases has : header.hasPayload with
  | false =>
    have bare : payload = [] := by simpa [has] using length
    subst bare
    simp only [sessionStep,pc,has,Bool.false_eq_true,if_false,Option.some.injEq] at stepped
    rw [← stepped]
    exact ⟨running,attached,rest,_,⟨rfl,stream⟩,made⟩
  | true =>
    rw [has,if_pos rfl] at length
    have positive : header.u.transferBufferLength ≠ 0 := by
      intro zero
      simp [UsbipHeader.hasPayload,zero] at has
    obtain ⟨socket,read,left,_⟩ := recvExact_enough s.client.socket
      header.u.transferBufferLength.toNat id (by simp [stream,length])
    rw [stream,← length,List.take_left] at read
    rw [stream,← length,List.drop_left] at left
    rw [length] at read
    simp only [sessionStep,pc,has,able,if_true,Bool.not_true,Bool.false_eq_true,if_false,
      usbipRecvUrbData,if_neg positive,read,id,Option.some.injEq] at stepped
    rw [← stepped]
    exact ⟨running,attached,rest,_,⟨rfl,left⟩,made⟩

theorem sessionStep_parsing {outcomes : Nat → MessageOutcome} {messages : List ClientMessage}
    {s next : UrbSession} (able : ∀ pass, (outcomes pass).payloadAlloc = true)
    (parsing : s.Parsing messages) (stepped : sessionStep outcomes s = some next) :
    next.Parsing messages := by
  have ⟨running,attached,rest,calls,hand,made⟩ := parsing
  cases sessionStep_moved stepped with
  | entered pc => exact ⟨running,attached,rest,calls,by simpa [InHand,pc] using hand,made⟩
  | left pc =>
    -- the loop goes on: the server runs and its client stays attached
    simp [sessionStep,pc,running,attached] at stepped
  | lost socket pc advances => exact recv_parsing pc parsing stepped
  | received header socket pc read => exact recv_parsing pc parsing stepped
  | lostPayload header socket pc advances => exact submit_parsing pc able parsing stepped
  | gotPayload header data socket pc read => exact submit_parsing pc able parsing stepped
  | noPayload header pc => exact submit_parsing pc able parsing stepped
  | forwarded header data pc =>
    simp only [InHand,pc] at hand
    obtain ⟨rfl,stream⟩ := hand
    refine ⟨running,attached,rest,[],⟨rfl,stream⟩,?_⟩
    rw [made,submit_calls,UrbHandler.recordCall,List.append_nil]
  | drained pc empty => exact ⟨running,attached,rest,calls,by simpa [InHand,pc] using hand,made⟩
  | collected entry queue pc found popped =>
    exact ⟨running,attached,rest,calls,by simpa [InHand,pc] using hand,made⟩
  | replied entry err sent client pc send =>
    obtain ⟨input,same⟩ := clientSendUrbCompletion_kept s.client entry (outcomes s.passes).stale
    rw [send] at input same
    refine ⟨running,same.state.trans attached,rest,calls,?_,by cases sent <;> exact made⟩
    simp only [InHand,pc] at hand
    by_cases ok : err = .success <;> simpa [InHand,ok,input.stream] using hand
  | missed header pc absent =>
    simp only [InHand,pc] at hand
    obtain ⟨rfl,stream⟩ := hand
    exact ⟨running,attached,rest,[],⟨rfl,stream⟩,by simpa [UrbHandler.recordCall] using made⟩
  | unlinked header entry handler pc removed =>
    simp only [InHand,pc] at hand
    obtain ⟨rfl,stream⟩ := hand
    obtain ⟨_,_,_,_,rfl,rfl⟩ := urbHandlerUnlinkRemove_some removed
    exact ⟨running,attached,rest,[],⟨rfl,stream⟩,by simpa [UrbHandler.recordCall] using made⟩
  | pushed header entry pc => exact ⟨running,attached,rest,calls,by simpa [InHand,pc] using hand,made⟩
  | answered header removed pc =>
    exact ⟨running,attached,rest,calls,by simpa [InHand,pc] using hand,made⟩

theorem step_parsing {device : Option UsbDevice} {outcomes : Nat → MessageOutcome}
    {messages : List ClientMessage} (able : ∀ pass, (outcomes pass).payloadAlloc = true)
    (turn : Turn) (s next : UrbSession) (up : turn ≠ .signal) (parsing : s.Parsing messages)
    (stepped : step device outcomes turn s = some next) : next.Parsing messages := by
  cases turn with
  | session => exact sessionStep_parsing able parsing stepped
  | worker outcome =>
    obtain ⟨running,attached,rest,calls,hand,made⟩ := parsing
    rw [← Option.some.inj stepped]
    exact ⟨running,attached,rest,calls,hand,by rw [made,worker_calls]⟩
  | signal => exact absurd rfl up

/-- Where the session cannot go on it has read everything: it waits for a
header behind the last message, or it has ended there. -/
theorem Parsing.stuck {outcomes : Nat → MessageOutcome} {messages : List ClientMessage}
    {s : UrbSession} (able : ∀ pass, (outcomes pass).payloadAlloc = true)
    (parsing : s.Parsing messages) (stops : sessionStep outcomes s = none) :
    s.handler.history.calls = callsOf messages ∧ s.client.socket.stream = [] := by
  obtain ⟨running,attached,rest,calls,hand,made⟩ := parsing
  cases pc : s.pc with
  | recv =>
    simp only [pc,InHand] at hand
    obtain ⟨rfl,stream⟩ := hand
    cases rest with
    | nil => exact ⟨by simpa [callsOf] using made.symm,by simpa [streamOf] using stream⟩
    | cons message rest =>
      have whole : s.client.socket.stream = message.encode ++ streamOf rest := stream
      obtain ⟨socket,read,_⟩ := recvExact_enough s.client.socket UsbipHeader.size decodeHeader
        (whole ▸ message.size_le_encode _)
      simp [sessionStep,pc,usbipRecvUrbHeader,read] at stops
  | submit header =>
    simp only [pc,InHand] at hand
    obtain ⟨payload,_,stream,length⟩ := hand
    have arrives : ¬PayloadFails (outcomes s.passes) header s.client.socket.stream := by
      rintro ⟨has,unable | short⟩
      · rw [able] at unable
        cases unable
      · rw [has,if_pos rfl] at length
        simp only [stream,List.length_append] at short
        omega
    obtain ⟨middle,data,stepped,_⟩ := payload_arrives pc arrives
    rw [stepped] at stops
    cases stops
  | ended =>
    simp only [pc,InHand] at hand
    obtain ⟨rfl,stream,rfl⟩ := hand
    exact ⟨by simpa [callsOf] using made.symm,stream⟩
  | loop =>
    simp only [sessionStep,pc] at stops
    split at stops <;> cases stops
  | drain =>
    simp only [sessionStep,pc] at stops
    split at stops <;> cases stops
  | unlink header =>
    simp only [sessionStep,pc] at stops
    split at stops <;> cases stops
  | forward header data => simp [sessionStep,pc] at stops
  | reply entry => simp [sessionStep,pc] at stops
  | unlinkPush header entry => simp [sessionStep,pc] at stops
  | unlinkReply header removed => simp [sessionStep,pc] at stops

theorem step_system_inv {device : Option UsbDevice} {outcomes : Nat → MessageOutcome} (turn : Turn)
    (s next : UrbSession) (inv : s.system.Inv) (stepped : step device outcomes turn s = some next) :
    next.system.Inv := by
  obtain ⟨actions,matched⟩ := step_matched turn s next stepped
  exact matched.invariant UrbSystem.Inv UrbSystem.step_inv inv

theorem step_weight {device : Option UsbDevice} {outcomes : Nat → MessageOutcome} (turn : Turn)
    (s next : UrbSession) (inv : s.system.Inv) (stepped : step device outcomes turn s = some next) :
    next.weight + (if turn == .session then 1 else 0) ≤ s.weight := by
  cases turn with
  | session => exact sessionStep_weight inv stepped
  | worker outcome => exact (worker_weight stepped).1.le
  | signal => exact Option.some.inj stepped ▸ le_rfl

/-- However the socket cuts the client's messages, the session makes their
calls in order; after at most so many steps it has made all of them and read
every byte. -/
theorem session_parses (device : Option UsbDevice) (outcomes : Nat → MessageOutcome)
    (client : ClientConnection) (busid : Busid) (messages : List ClientMessage)
    (attached : client.state = .attached) (sent : client.socket.stream = streamOf messages)
    (able : ∀ pass, (outcomes pass).payloadAlloc = true) {turns : List Turn} {final : UrbSession}
    (run : GuardedRun (step device outcomes) (fun turn _ => turn ≠ .signal) (start client busid)
      turns final) :
    final.handler.history.calls <+: callsOf messages ∧
    turns.count .session ≤ 4*(streamOf messages).length + 2 ∧
    (sessionStep outcomes final = none →
      final.handler.history.calls = callsOf messages ∧ final.client.socket.stream = []) := by
  have parsing : final.Parsing messages := run.invariant (Parsing messages) (step_parsing able)
    ⟨rfl,attached,messages,[],⟨rfl,sent⟩,rfl⟩
  have bound := run.run.bounded weight (· == .session) (fun s => s.system.Inv) step_system_inv
    step_weight (UrbSystem.started_inv busid)
  refine ⟨?_,?_,parsing.stuck able⟩
  · obtain ⟨_,_,rest,calls,_,made⟩ := parsing
    rw [made,List.append_assoc]
    exact List.prefix_append _ _
  · simp only [weight,start,sent,rank,urbHandlerStarted,UrbHistory.empty,List.length_nil] at bound
    rw [List.count]
    omega

def mixedMessages : List ClientMessage :=
  [⟨.write 1 2,[7,9],rfl,by decide⟩,⟨.read 2 4,[],rfl,by decide⟩,
    ⟨.unlink 3 1,[],rfl,by decide⟩,
    ⟨{UsbipHeader.read 4 4 with common := ⟨0x20,4,0,usbipDirOut,0⟩},[],rfl,by decide⟩]

def trickling (bytes : List UInt8) : ClientConnection :=
  {createClient 1 ⟨bytes.map (.chunk · []),.closed,[],[]⟩ .empty 0 with state := .attached}

theorem session_parses_mixed : ∃ final,
    GuardedRun (step openKeyboard fun _ => willing) (fun turn _ => turn ≠ .signal)
      (start (trickling (streamOf mixedMessages)) .empty) (List.replicate 19 .session) final ∧
    sessionStep (fun _ => willing) final = none ∧
    final.handler.history.calls = callsOf mixedMessages ∧ final.client.socket.stream = [] := by
  obtain ⟨final,run,checked⟩ := guardedRun_of_check (step openKeyboard fun _ => willing)
    (fun turn _ => turn ≠ .signal) (fun turn _ => turn ≠ .signal) (by simp)
    (List.replicate 19 .session) (start (trickling (streamOf mixedMessages)) .empty)
    (fun s => s.pc = .ended) (by decide +kernel)
  have stops : sessionStep (fun _ => willing) final = none := by
    rw [sessionStep,of_decide_eq_true checked]
  obtain ⟨_,_,all⟩ := session_parses openKeyboard (fun _ => willing)
    (trickling (streamOf mixedMessages)) .empty mixedMessages rfl (by decide +kernel)
    (fun _ => rfl) run
  exact ⟨final,run,stops,all stops⟩

/-- A complete message of the server: a RET_SUBMIT header with, for a read, as
many bytes as it announces, or a RET_UNLINK header. -/
inductive WholeReply : List UInt8 → Prop
  | submit (header data) (command : header.common.command = usbipRetSubmit)
      (carried : data.length = if header.common.direction = usbipDirIn
        then header.u.actualLength.toNat else 0) :
      WholeReply (headerCodec.encode header ++ data)
  | unlink (header) (command : header.common.command = usbipRetUnlink) :
      WholeReply (headerCodec.encode header)

def WellFormed (bytes : List UInt8) : Prop :=
  ∃ replies : List (List UInt8), (∀ reply ∈ replies, WholeReply reply) ∧ bytes <+: replies.flatten

def completionBytes (entry : UrbEntry) (stale : Nat → UInt8) : List UInt8 :=
  headerCodec.encode (urbHandlerCreateReturn entry) ++
    if entry.urb.direction = usbipDirIn.toUInt8 && entry.urb.actualLength > 0
    then entry.urb.returned stale else []

theorem completionBytes_whole (entry : UrbEntry) (stale : Nat → UInt8) :
    WholeReply (completionBytes entry stale) := by
  refine .submit _ _ rfl ?_
  have direction : (urbHandlerCreateReturn entry).common.direction = usbipDirIn ↔
      entry.urb.direction = usbipDirIn.toUInt8 := by
    rw [← UInt32.toNat_inj,← UInt8.toNat_inj]
    simp [urbHandlerCreateReturn,usbipDirIn]
  have length : (urbHandlerCreateReturn entry).u.actualLength = entry.urb.actualLength := rfl
  by_cases reads : entry.urb.direction = usbipDirIn.toUInt8
  · by_cases zero : entry.urb.actualLength = 0
    · simp [reads,direction.mpr reads,length,zero]
    · have positive : 0 < entry.urb.actualLength := UInt32.pos_iff_ne_zero.mpr zero
      simp [reads,direction.mpr reads,length,positive,UsbUrb.returned]
  · simp [reads,direction]

theorem usbipSendUrbData_part (socket : Socket) (data : List UInt8) :
    ∃ taken, taken <+: data ∧ (usbipSendUrbData socket data).2.sent = socket.sent ++ taken ∧
      ((usbipSendUrbData socket data).1 = .success → taken = data) := by
  simp only [usbipSendUrbData]
  split
  next empty => exact ⟨[],List.nil_prefix,by simp,fun _ => (List.length_eq_zero_iff.mp empty).symm⟩
  next _ =>
    obtain ⟨taken,front,accepted⟩ := sendExact_part socket data
    refine ⟨taken,front,accepted,fun ok => ?_⟩
    rw [sendExact_success socket data ok] at accepted
    exact (List.append_cancel_left accepted).symm

/-- A completion that fails on the way leaves the front part of its message
in the stream, one that succeeds leaves all of it. -/
theorem completion_sent (client : ClientConnection) (entry : UrbEntry) (stale : Nat → UInt8) :
    ∃ taken, taken <+: completionBytes entry stale ∧
      (clientSendUrbCompletion client entry stale).2.2.socket.sent = client.socket.sent ++ taken ∧
      ((clientSendUrbCompletion client entry stale).1 = .success →
        taken = completionBytes entry stale) := by
  have sending : usbipSendUrbHeader client.socket (urbHandlerCreateReturn entry) =
      sendExact client.socket (headerCodec.encode (urbHandlerCreateReturn entry)) := rfl
  simp only [clientSendUrbCompletion,sending]
  split
  next socket stepped =>
    have all := sendExact_success _ _ (congrArg Prod.fst stepped)
    rw [stepped] at all
    split
    next reads =>
      obtain ⟨taken,part,accepted,ended⟩ := usbipSendUrbData_part socket (entry.urb.returned stale)
      rw [completionBytes,if_pos reads]
      refine ⟨_ ++ taken,(List.prefix_append_right_inj _).mpr part,?_⟩
      rw [all,List.append_assoc] at accepted
      split
      next next finished =>
        rw [finished] at accepted ended
        exact ⟨accepted,fun _ => by rw [ended rfl]⟩
      next next _ finished =>
        rw [finished] at accepted
        exact ⟨accepted,fun ok => absurd ok (by assumption)⟩
    next reads =>
      rw [completionBytes,if_neg reads,List.append_nil]
      exact ⟨_,List.prefix_rfl,all,fun _ => rfl⟩
  next socket failed stepped =>
    obtain ⟨taken,part,accepted⟩ := sendExact_part client.socket
      (headerCodec.encode (urbHandlerCreateReturn entry))
    rw [stepped] at accepted
    exact ⟨taken,part.trans (List.prefix_append _ _),accepted,fun ok => absurd ok failed⟩

theorem completion_delivers (client : ClientConnection) (entry : UrbEntry) (stale : Nat → UInt8)
    (delivers : client.socket.Delivers) :
    (clientSendUrbCompletion client entry stale).1 = .success ∧
      (clientSendUrbCompletion client entry stale).2.2.socket.Delivers := by
  obtain ⟨first,header,still,_⟩ := sendExact_delivers client.socket
    (headerCodec.encode (urbHandlerCreateReturn entry)) delivers
  have sending : usbipSendUrbHeader client.socket (urbHandlerCreateReturn entry) =
      (.success,first) := header
  obtain ⟨second,data,last,_⟩ := sendExact_delivers first (entry.urb.returned stale) still
  have returned : ∃ left, usbipSendUrbData first (entry.urb.returned stale) = (.success,left) ∧
      left.Delivers := by
    rw [usbipSendUrbData]
    split
    · exact ⟨first,rfl,still⟩
    · exact ⟨second,data,last⟩
  obtain ⟨left,returned,delivered⟩ := returned
  simp only [clientSendUrbCompletion,sending,returned]
  split
  · exact ⟨rfl,delivered⟩
  · exact ⟨rfl,still⟩

theorem encode_ne_nil (header : UsbipHeader) : headerCodec.encode header ≠ [] := by
  intro empty
  have size := headerCodec_lawful.size_encode header
  rw [empty] at size
  cases size

theorem completion_refused (client : ClientConnection) (entry : UrbEntry) (stale : Nat → UInt8)
    (refused : client.socket.refuses = true) :
    (clientSendUrbCompletion client entry stale).2.2.socket.sent = client.socket.sent := by
  have sending : usbipSendUrbHeader client.socket (urbHandlerCreateReturn entry) =
      sendExact client.socket (headerCodec.encode (urbHandlerCreateReturn entry)) := rfl
  obtain ⟨kept,failed⟩ := sendExact_refused client.socket
    (headerCodec.encode (urbHandlerCreateReturn entry)) refused (encode_ne_nil _)
  simp only [clientSendUrbCompletion,sending]
  split
  next socket stepped =>
    rw [stepped] at failed
    cases failed
  next socket _ stepped =>
    rw [stepped] at kept
    exact kept

def replyBytes (outcomes : Nat → MessageOutcome) (s : UrbSession) : List UInt8 :=
  match s.pc with
  | .reply entry => completionBytes entry (outcomes s.passes).stale
  | .unlinkReply header _ =>
    headerCodec.encode (usbipCreateUrbUnlinkRet header.common.seqnum header.common.devid 0)
  | _ => []

/-- The session with a note whether the socket ever took some bytes of a
message but not all of them; no modelled code reads the note. -/
structure Written where
  session : UrbSession
  cut : Bool
deriving DecidableEq

def cutShort (outcomes : Nat → MessageOutcome) (s next : UrbSession) : Bool :=
  s.client.socket.sent.length < next.client.socket.sent.length &&
    next.client.socket.sent.length < s.client.socket.sent.length + (replyBytes outcomes s).length

def Written.step (device : Option UsbDevice) (outcomes : Nat → MessageOutcome) (turn : Turn)
    (w : Written) : Option Written :=
  (UrbSession.step device outcomes turn w.session).map fun next =>
    ⟨next,w.cut || cutShort outcomes w.session next⟩

/-- Behind a message that was cut short the socket takes no more bytes. -/
def NothingBehindCut (outcomes : Nat → MessageOutcome) (turn : Turn) (w : Written) : Prop :=
  turn = .session → w.cut = true → replyBytes outcomes w.session ≠ [] →
    w.session.client.socket.refuses = true

theorem usbipRecvUrbData_sent {socket next : Socket} {length : UInt32}
    {result : Except ErrorCode (List UInt8)}
    (read : usbipRecvUrbData socket length = some (result,next)) : next.sent = socket.sent := by
  simp only [usbipRecvUrbData] at read
  split at read
  next _ =>
    cases read
    rfl
  next _ => exact (recvExact_output _ _ _ _ _ read).1

theorem recv_sent {outcomes : Nat → MessageOutcome} {s next : UrbSession} (pc : s.pc = .recv)
    (stepped : sessionStep outcomes s = some next) :
    next.client.socket.sent = s.client.socket.sent := by
  simp only [sessionStep,pc] at stepped
  split at stepped
  next _ => cases stepped
  next socket read => exact Option.some.inj stepped ▸ (recvExact_output _ _ _ _ _ read).1
  next header socket read => exact Option.some.inj stepped ▸ (recvExact_output _ _ _ _ _ read).1

theorem submit_sent {outcomes : Nat → MessageOutcome} {s next : UrbSession} {header : UsbipHeader}
    (pc : s.pc = .submit header) (stepped : sessionStep outcomes s = some next) :
    next.client.socket.sent = s.client.socket.sent := by
  simp only [sessionStep,pc] at stepped
  split at stepped
  next _ =>
    split at stepped
    next _ => exact Option.some.inj stepped ▸ rfl
    next _ =>
      split at stepped
      next _ => cases stepped
      next socket read => exact Option.some.inj stepped ▸ usbipRecvUrbData_sent read
      next data socket read => exact Option.some.inj stepped ▸ usbipRecvUrbData_sent read
  next _ => exact Option.some.inj stepped ▸ rfl

theorem sessionStep_written {outcomes : Nat → MessageOutcome} {s next : UrbSession}
    (stepped : sessionStep outcomes s = some next) :
    ∃ taken, taken <+: replyBytes outcomes s ∧
      next.client.socket.sent = s.client.socket.sent ++ taken ∧
      (s.client.socket.refuses = true → taken = []) := by
  have quiet (same : next.client.socket.sent = s.client.socket.sent) :
      ∃ taken, taken <+: replyBytes outcomes s ∧
        next.client.socket.sent = s.client.socket.sent ++ taken ∧
        (s.client.socket.refuses = true → taken = []) :=
    ⟨[],List.nil_prefix,by simp [same],fun _ => rfl⟩
  cases sessionStep_moved stepped with
  | lost socket pc advances => exact quiet (recv_sent pc stepped)
  | received header socket pc read => exact quiet (recv_sent pc stepped)
  | lostPayload header socket pc advances => exact quiet (submit_sent pc stepped)
  | gotPayload header data socket pc read => exact quiet (submit_sent pc stepped)
  | replied entry err sent client pc send =>
    obtain ⟨taken,part,accepted,_⟩ := completion_sent s.client entry (outcomes s.passes).stale
    refine ⟨taken,by simpa [replyBytes,pc] using part,by rw [← accepted,send],?_⟩
    intro refused
    rw [completion_refused _ _ _ refused] at accepted
    exact List.self_eq_append_right.mp accepted
  | answered header removed pc =>
    obtain ⟨taken,part,accepted⟩ := sendExact_part s.client.socket (headerCodec.encode
      (usbipCreateUrbUnlinkRet header.common.seqnum header.common.devid 0))
    refine ⟨taken,by simpa [replyBytes,pc] using part,accepted,?_⟩
    intro refused
    rw [(sendExact_refused _ _ refused (encode_ne_nil _)).1] at accepted
    exact List.self_eq_append_right.mp accepted
  | _ => exact quiet rfl

theorem replyBytes_whole (outcomes : Nat → MessageOutcome) (s : UrbSession)
    (due : replyBytes outcomes s ≠ []) : WholeReply (replyBytes outcomes s) := by
  cases pc : s.pc with
  | reply entry =>
    simp only [replyBytes,pc]
    exact completionBytes_whole entry _
  | unlinkReply header removed =>
    simp only [replyBytes,pc]
    exact .unlink _ rfl
  | _ => simp [replyBytes,pc] at due

namespace Written

/-- What the socket has taken behind `before`: whole messages, and behind them
a part of one more only if a message was cut short. -/
structure Inv (before : List UInt8) (w : Written) : Prop where
  exact : w.cut = false → ∃ replies : List (List UInt8), (∀ reply ∈ replies, WholeReply reply) ∧
    w.session.client.socket.sent = before ++ replies.flatten
  part : ∃ bytes, WellFormed bytes ∧ w.session.client.socket.sent = before ++ bytes

theorem session_inv {before : List UInt8} {outcomes : Nat → MessageOutcome} {w : Written}
    {next : UrbSession} (allowed : NothingBehindCut outcomes .session w) (inv : w.Inv before)
    (stepped : sessionStep outcomes w.session = some next) :
    Inv before ⟨next,w.cut || cutShort outcomes w.session next⟩ := by
  obtain ⟨taken,front,accepted,refused⟩ := sessionStep_written stepped
  by_cases none : taken = []
  · -- nothing is written: the note stays what it was
    rw [none,List.append_nil] at accepted
    have uncut : cutShort outcomes w.session next = false := by simp [cutShort,accepted]
    rw [uncut,Bool.or_false]
    exact ⟨by simpa only [accepted] using inv.exact,by simpa only [accepted] using inv.part⟩
  · have due : replyBytes outcomes w.session ≠ [] := fun empty => none (by simpa [empty] using front)
    have clean : w.cut = false := by
      by_contra cut
      exact none (refused (allowed rfl (by simpa using cut) due))
    obtain ⟨replies,whole,sent⟩ := inv.exact clean
    have more : ∀ reply ∈ replies ++ [replyBytes outcomes w.session], WholeReply reply := by
      simpa [or_imp,forall_and] using ⟨whole,replyBytes_whole outcomes w.session due⟩
    constructor
    · intro uncut
      have all : taken = replyBytes outcomes w.session := by
        apply front.eq_of_length_le
        have some : 0 < taken.length := List.length_pos_iff.mpr none
        simp only [cutShort,clean,accepted,List.length_append,Bool.false_or,Bool.and_eq_false_iff,
          decide_eq_false_iff_not] at uncut
        omega
      refine ⟨replies ++ [replyBytes outcomes w.session],more,?_⟩
      rw [accepted,sent,all]
      simp
    · refine ⟨replies.flatten ++ taken,⟨replies ++ [replyBytes outcomes w.session],more,?_⟩,?_⟩
      · simpa using front
      · rw [accepted,sent,List.append_assoc]

theorem step_inv {before : List UInt8} {device : Option UsbDevice}
    {outcomes : Nat → MessageOutcome} (turn : Turn) (w next : Written)
    (allowed : NothingBehindCut outcomes turn w) (inv : w.Inv before)
    (stepped : step device outcomes turn w = some next) : next.Inv before := by
  obtain ⟨session,taken,rfl⟩ := Option.map_eq_some_iff.mp stepped
  cases turn with
  | session => exact session_inv allowed inv taken
  | worker outcome =>
    cases Option.some.inj taken
    exact ⟨fun clean => inv.exact (Bool.or_eq_false_iff.mp clean).1,inv.part⟩
  | signal =>
    cases Option.some.inj taken
    exact ⟨fun clean => inv.exact (Bool.or_eq_false_iff.mp clean).1,inv.part⟩

theorem run_written {device : Option UsbDevice} {outcomes : Nat → MessageOutcome}
    {first last : UrbSession} {turns : List Turn}
    (run : Run (UrbSession.step device outcomes) first turns last) (cut : Bool) :
    ∃ after, Run (step device outcomes) ⟨first,cut⟩ turns ⟨last,after⟩ := by
  induction run generalizing cut with
  | nil => exact ⟨cut,.nil _⟩
  | cons state turn middle turns final taken _ ih =>
    obtain ⟨after,rest⟩ := ih (cut || cutShort outcomes state middle)
    exact ⟨after,.cons _ _ _ _ _ (by simp [step,taken]) rest⟩

end Written

/-- As long as the socket takes nothing behind a message it cut short, what it
has taken is the beginning of a sequence of whole messages. -/
theorem output_wellFormed (device : Option UsbDevice) (outcomes : Nat → MessageOutcome)
    (client : ClientConnection) (busid : Busid) {turns : List Turn} {final : Written}
    (run : GuardedRun (Written.step device outcomes) (NothingBehindCut outcomes)
      ⟨start client busid,false⟩ turns final) :
    ∃ bytes, WellFormed bytes ∧ final.session.client.socket.sent = client.socket.sent ++ bytes :=
  (run.invariant (Written.Inv client.socket.sent) Written.step_inv
    ⟨fun _ => ⟨[],by simp,by simp [start]⟩,[],⟨[],by simp,by simp⟩,by simp [start]⟩).part

def falteringClient (messages : List UsbipHeader) (outgoing : List SendEvent) : ClientConnection :=
  {clientOf messages with socket := {(clientOf messages).socket with outgoing}}

def unlinkTwice : List Turn := List.replicate 8 .session

theorem output_wellFormed_refused : ∃ final,
    GuardedRun (Written.step openKeyboard fun _ => willing) (NothingBehindCut fun _ => willing)
      ⟨start (falteringClient [.unlink 1 9,.unlink 2 9] [.accept 2,.error,.error]) .empty,false⟩
      unlinkTwice final ∧
    final.session.client.socket.sent = [0,0] ∧ WellFormed [0,0] := by
  obtain ⟨final,run,checked⟩ := guardedRun_of_check (Written.step openKeyboard fun _ => willing)
    (NothingBehindCut fun _ => willing)
    (fun _ w => !w.cut || w.session.client.socket.refuses)
    (by
      intro turn w allowed _ cut _
      simpa [cut] using allowed)
    unlinkTwice
    ⟨start (falteringClient [.unlink 1 9,.unlink 2 9] [.accept 2,.error,.error]) .empty,false⟩
    (fun w => w.session.client.socket.sent = [0,0]) (by decide +kernel)
  have sent := of_decide_eq_true checked
  obtain ⟨bytes,well,same⟩ := output_wellFormed openKeyboard (fun _ => willing) _ .empty run
  rw [sent] at same
  exact ⟨final,run,sent,by simpa [same,falteringClient,clientOf,createClient] using well⟩

theorem WholeReply.commands {reply : List UInt8} (whole : WholeReply reply) :
    ∃ rest, reply = bigEndian32 usbipRetSubmit ++ rest ∨ reply = bigEndian32 usbipRetUnlink ++ rest := by
  have start (header : UsbipHeader) : (headerCodec.encode header).take 4 =
      bigEndian32 header.common.command :=
    headerCodec_lawful.layout header (0,bigEndian32 header.common.command)
      (by simp [headerCodec,headerFields,commonFields])
  cases whole with
  | submit header data command carried =>
    refine ⟨(headerCodec.encode header).drop 4 ++ data,Or.inl ?_⟩
    rw [← command,← start,← List.append_assoc,List.take_append_drop]
  | unlink header command =>
    refine ⟨(headerCodec.encode header).drop 4,Or.inr ?_⟩
    rw [← command,← start,List.take_append_drop]

/-- The first RET_UNLINK is cut short after two bytes and the second one goes
out whole: the client reads a message with no known command. -/
theorem output_malformed : ∃ final,
    Run (step openKeyboard fun _ => willing)
      (start (falteringClient [.unlink 1 9,.unlink 2 9] [.accept 2,.error]) .empty)
      unlinkTwice final ∧
    ¬∃ bytes, WellFormed bytes ∧ final.client.socket.sent =
      (falteringClient [.unlink 1 9,.unlink 2 9] [.accept 2,.error]).socket.sent ++ bytes := by
  obtain ⟨final,run,checked⟩ := run_of_check (step openKeyboard fun _ => willing) unlinkTwice
    (start (falteringClient [.unlink 1 9,.unlink 2 9] [.accept 2,.error]) .empty)
    (fun s => s.client.socket.sent.take 4 = [0,0,0,0]) (by decide +kernel)
  refine ⟨final,run,?_⟩
  rintro ⟨bytes,⟨replies,whole,front⟩,sent⟩
  have zeros : bytes.take 4 = [0,0,0,0] := by
    have same : final.client.socket.sent = bytes := sent
    rw [← same]
    exact of_decide_eq_true checked
  have first := (List.take_prefix 4 bytes).trans front
  rw [zeros] at first
  cases replies with
  | nil => simp at first
  | cons reply more =>
    obtain ⟨rest,submit | unlink⟩ := (whole reply (by simp)).commands
    · simp [submit,bigEndian32,byte,usbipRetSubmit] at first
    · simp [unlink,bigEndian32,byte,usbipRetUnlink] at first

end UrbSession

end UsbOverNetwork
