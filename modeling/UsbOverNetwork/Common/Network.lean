import UsbOverNetwork.Library.Bytes

/-! The byte streams of one connected socket as `net_send_all` and
`net_recv_all` see them. The operating system decides how a stream is cut into
chunks, when a call would block, and when the connection ends or fails. -/
namespace UsbOverNetwork

inductive ErrorCode
  | success
  | outOfMemory
  | invalidParam
  | notFound
  | timeout
  | busy
  | permissionDenied
  | notInitialized
  | socketConnect
  | socketSend
  | socketRecv
  | usbInit
  | usbNotFound
  | usbBusy
  | usbIoFailed
  | usbDescriptorError
  | deviceBusy
  | protocolInvalid
  | protocolUnsupported
  | vhciNotFound
  | vhciAttachFailed
  | vhciNoFreePort
  | vhciInvalidPort
  | threadCreate
  | mutexInit
deriving DecidableEq, Repr

inductive RecvEvent
  | chunk (first : UInt8) (rest : List UInt8)
  | wouldBlock
deriving DecidableEq, Repr

/-- What `recv` does once the peer's bytes are used up. On a silent
connection the call does not return. -/
inductive StreamEnd
  | closed
  | failed
  | silent
deriving DecidableEq, Repr

inductive SendEvent
  | accept (count : Nat)
  | wouldBlock
  | error
deriving DecidableEq, Repr

/-- `outgoing` lists what the next `send` calls do; later ones take all they are given. -/
structure Socket where
  incoming : List RecvEvent
  ending : StreamEnd
  outgoing : List SendEvent
  sent : List UInt8
deriving DecidableEq, Repr

namespace RecvEvent

def bytes : RecvEvent → List UInt8
  | .chunk first rest => first::rest
  | .wouldBlock => []

def unread : List UInt8 → List RecvEvent → List RecvEvent
  | [],events => events
  | first::rest,events => .chunk first rest::events

end RecvEvent

def Socket.stream (socket : Socket) : List UInt8 := socket.incoming.flatMap RecvEvent.bytes

inductive Received
  | full (data : List UInt8)
  | short (count : Nat)
  | error
  | blocked
deriving DecidableEq, Repr

def recvLoop (ending : StreamEnd) :
    List RecvEvent → Nat → List UInt8 → Received × List RecvEvent
  | events,0,got => (.full got,events)
  | [],_+1,got =>
    match ending with
    | .closed => (.short got.length,[])
    | .failed => (.error,[])
    | .silent => (.blocked,[])
  | .wouldBlock::events,remaining+1,got => recvLoop ending events (remaining+1) got
  | .chunk first rest::events,remaining+1,got =>
    if rest.length ≤ remaining then
      recvLoop ending events (remaining - rest.length) (got ++ first::rest)
    else
      (.full (got ++ first::rest.take remaining),RecvEvent.unread (rest.drop remaining) events)

/-- A length of 2³¹ or more reaches `recv` as a negative `int`; whether such a
call fails is left to the socket, like every other failure. -/
def netRecvAll (socket : Socket) (len : Nat) : Received × Socket :=
  let (result,incoming) := recvLoop socket.ending socket.incoming len []
  (result,{socket with incoming})

def sendLoop (len : Nat) :
    List SendEvent → List UInt8 → List UInt8 → Int × List SendEvent × List UInt8
  | events,[],sent => (len,events,sent)
  | [],remaining,sent => (len,[],sent ++ remaining)
  | .wouldBlock::events,remaining,sent => sendLoop len events remaining sent
  | .error::events,_,sent => (-1,events,sent)
  | .accept count::events,remaining,sent =>
    if count = 0 then (len - remaining.length,events,sent)
    else sendLoop len events (remaining.drop count) (sent ++ remaining.take count)

def netSendAll (socket : Socket) (data : List UInt8) : Int × Socket :=
  let (result,outgoing,sent) := sendLoop data.length socket.outgoing data socket.sent
  (result,{socket with outgoing,sent})

@[simp] theorem unread_bytes (rest : List UInt8) (events : List RecvEvent) :
    (RecvEvent.unread rest events).flatMap RecvEvent.bytes =
      rest ++ events.flatMap RecvEvent.bytes := by
  cases rest <;> simp [RecvEvent.unread,RecvEvent.bytes]

/-- Enough bytes in the stream: exactly the next `len` of them are read,
however they are cut into chunks. -/
theorem recvLoop_full (ending : StreamEnd) (events : List RecvEvent) (len : Nat)
    (got : List UInt8) (enough : len ≤ (events.flatMap RecvEvent.bytes).length) :
    ∃ rest, recvLoop ending events len got =
        (.full (got ++ (events.flatMap RecvEvent.bytes).take len),rest) ∧
      rest.flatMap RecvEvent.bytes = (events.flatMap RecvEvent.bytes).drop len := by
  induction events generalizing len got with
  | nil =>
    have none : len = 0 := by simpa using enough
    subst none
    exact ⟨[],by simp [recvLoop],by simp⟩
  | cons event events ih =>
    cases len with
    | zero => exact ⟨event::events,by simp [recvLoop],by simp⟩
    | succ remaining =>
      cases event with
      | wouldBlock =>
        obtain ⟨rest,read,left⟩ := ih (remaining+1) got (by simpa [RecvEvent.bytes] using enough)
        exact ⟨rest,by simpa [recvLoop,RecvEvent.bytes] using read,
          by simpa [RecvEvent.bytes] using left⟩
      | chunk first more =>
        simp only [List.flatMap_cons,RecvEvent.bytes,List.length_append,List.length_cons] at enough
        by_cases whole : more.length ≤ remaining
        · obtain ⟨rest,read,left⟩ := ih (remaining - more.length) (got ++ first::more) (by omega)
          refine ⟨rest,?_,?_⟩
          · rw [recvLoop,if_pos whole,read]
            simp [RecvEvent.bytes,List.take_append,List.take_of_length_le whole]
          · simpa [RecvEvent.bytes,List.drop_append,List.drop_of_length_le whole] using left
        · have inside : remaining - more.length = 0 := by omega
          refine ⟨RecvEvent.unread (more.drop remaining) events,?_,?_⟩
          · rw [recvLoop,if_neg whole]
            simp [RecvEvent.bytes,List.take_append,inside]
          · simp [RecvEvent.bytes,List.drop_append,inside]

theorem recvLoop_fewer (ending : StreamEnd) (events : List RecvEvent) (len : Nat)
    (got : List UInt8) (fewer : (events.flatMap RecvEvent.bytes).length < len) :
    recvLoop ending events len got = (match ending with
      | .closed => .short (got ++ events.flatMap RecvEvent.bytes).length
      | .failed => .error
      | .silent => .blocked,[]) := by
  induction events generalizing len got with
  | nil =>
    cases len with
    | zero => simp at fewer
    | succ remaining => cases ending <;> simp [recvLoop]
  | cons event events ih =>
    cases len with
    | zero => simp at fewer
    | succ remaining =>
      cases event with
      | wouldBlock =>
        simpa [recvLoop,RecvEvent.bytes] using
          ih (remaining+1) got (by simpa [RecvEvent.bytes] using fewer)
      | chunk first more =>
        simp only [List.flatMap_cons,RecvEvent.bytes,List.length_append,List.length_cons] at fewer
        rw [recvLoop,if_pos (by omega),ih (remaining - more.length) (got ++ first::more) (by omega)]
        simp [RecvEvent.bytes,List.append_assoc]

theorem netRecvAll_full (socket : Socket) (len : Nat) (enough : len ≤ socket.stream.length) :
    ∃ next, netRecvAll socket len = (.full (socket.stream.take len),next) ∧
      next.stream = socket.stream.drop len ∧ next.ending = socket.ending ∧
      next.outgoing = socket.outgoing ∧ next.sent = socket.sent := by
  obtain ⟨rest,read,left⟩ := recvLoop_full socket.ending socket.incoming len [] enough
  exact ⟨{socket with incoming := rest},by simp [netRecvAll,read,Socket.stream],left,rfl,rfl,rfl⟩

theorem netRecvAll_fewer (socket : Socket) (len : Nat) (fewer : socket.stream.length < len) :
    netRecvAll socket len = (match socket.ending with
      | .closed => .short socket.stream.length
      | .failed => .error
      | .silent => .blocked,{socket with incoming := []}) := by
  simp [netRecvAll,recvLoop_fewer socket.ending socket.incoming len [] fewer,Socket.stream]

theorem sendLoop_all (len : Nat) (events : List SendEvent) (remaining sent : List UInt8)
    (bound : remaining.length ≤ len) (all : (sendLoop len events remaining sent).1 = len) :
    (sendLoop len events remaining sent).2.2 = sent ++ remaining := by
  induction events generalizing remaining sent with
  | nil => cases remaining <;> simp [sendLoop]
  | cons event events ih =>
    cases remaining with
    | nil => simp [sendLoop]
    | cons first rest =>
      cases event with
      | wouldBlock => exact ih (first::rest) sent bound all
      | error =>
        simp only [sendLoop] at all
        omega
      | accept count =>
        by_cases none : count = 0
        · simp only [sendLoop,none,if_true,List.length_cons] at all
          omega
        · simp only [sendLoop,none,if_false] at all ⊢
          rw [ih _ _ (le_trans (by simp) bound) all,List.append_assoc,List.take_append_drop]

theorem sendLoop_part (len : Nat) (events : List SendEvent) (remaining sent : List UInt8) :
    ∃ taken, taken <+: remaining ∧ (sendLoop len events remaining sent).2.2 = sent ++ taken := by
  induction events generalizing remaining sent with
  | nil => cases remaining <;> exact ⟨_,List.prefix_rfl,by simp [sendLoop]⟩
  | cons event events ih =>
    cases remaining with
    | nil => exact ⟨[],List.prefix_rfl,by simp [sendLoop]⟩
    | cons first rest =>
      cases event with
      | wouldBlock => exact ih (first::rest) sent
      | error => exact ⟨[],List.nil_prefix,by simp [sendLoop]⟩
      | accept count =>
        by_cases none : count = 0
        · exact ⟨[],List.nil_prefix,by simp [sendLoop,none]⟩
        · obtain ⟨taken,⟨left,split⟩,accepted⟩ := ih ((first::rest).drop count)
            (sent ++ (first::rest).take count)
          refine ⟨(first::rest).take count ++ taken,?_,?_⟩
          · exact ⟨left,by rw [List.append_assoc,split,List.take_append_drop]⟩
          · simp only [sendLoop,none,if_false]
            rw [accepted,List.append_assoc]

def refuses : List SendEvent → Bool
  | .wouldBlock::events => refuses events
  | .error::_ => true
  | .accept 0::_ => true
  | _ => false

/-- The next byte given to `send` is not taken. -/
def Socket.refuses (socket : Socket) : Bool := UsbOverNetwork.refuses socket.outgoing

theorem sendLoop_refused (len : Nat) (events : List SendEvent) (remaining sent : List UInt8)
    (refused : refuses events = true) (some : remaining ≠ []) :
    (sendLoop len events remaining sent).2.2 = sent := by
  induction events with
  | nil => cases refused
  | cons event events ih =>
    obtain ⟨first,rest,rfl⟩ := List.exists_cons_of_ne_nil some
    cases event with
    | wouldBlock => exact ih refused
    | error => simp [sendLoop]
    | accept count =>
      cases count with
      | zero => simp [sendLoop]
      | succ count => cases refused

/-- No `send` fails or takes nothing; it may still take less than it was given. -/
def Socket.Delivers (socket : Socket) : Prop :=
  ∀ event ∈ socket.outgoing, event ≠ .error ∧ event ≠ .accept 0

theorem sendLoop_delivers (len : Nat) (events : List SendEvent) (remaining sent : List UInt8)
    (delivers : ∀ event ∈ events, event ≠ .error ∧ event ≠ .accept 0) :
    (sendLoop len events remaining sent).1 = len ∧
      ∀ event ∈ (sendLoop len events remaining sent).2.1, event ≠ .error ∧ event ≠ .accept 0 := by
  induction events generalizing remaining sent with
  | nil => cases remaining <;> simp [sendLoop]
  | cons event events ih =>
    have others : ∀ event ∈ events, event ≠ .error ∧ event ≠ .accept 0 :=
      fun other member => delivers other (List.mem_cons_of_mem _ member)
    cases remaining with
    | nil => exact ⟨by simp [sendLoop],by simpa [sendLoop] using delivers⟩
    | cons first rest =>
      cases event with
      | wouldBlock => exact ih (first::rest) sent others
      | error => exact absurd rfl (delivers .error (by simp)).1
      | accept count =>
        by_cases none : count = 0
        · exact absurd (congrArg SendEvent.accept none) (delivers _ (by simp)).2
        · simp only [sendLoop,none,if_false]
          exact ih _ _ others

theorem netSendAll_all (socket : Socket) (data : List UInt8)
    (all : (netSendAll socket data).1 = data.length) :
    (netSendAll socket data).2.sent = socket.sent ++ data :=
  sendLoop_all data.length socket.outgoing data socket.sent le_rfl all

end UsbOverNetwork
