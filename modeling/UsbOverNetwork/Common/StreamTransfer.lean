import UsbOverNetwork.Common.Network

/-! `net_send_all` and `net_recv_all` with their machine integers: a pointer
into the caller's buffer, a `size_t` of what remains, and one call of `send` or
`recv` at a time. -/
namespace UsbOverNetwork

/-- What one call of `send` or `recv` returns: a count, or `SOCKET_ERROR` with
`WSAEWOULDBLOCK` or another error. On a silent connection `recv` does not return. -/
inductive SocketReturn
  | count (bytes : Int32)
  | wouldBlock
  | failed
  | blocked
deriving DecidableEq

def Socket.send (socket : Socket) (offered : List UInt8) : SocketReturn × Socket :=
  match socket.outgoing with
  | [] => (.count (Int32.ofNat offered.length),{socket with sent := socket.sent ++ offered})
  | .wouldBlock::outgoing => (.wouldBlock,{socket with outgoing})
  | .error::outgoing => (.failed,{socket with outgoing})
  | .accept count::outgoing =>
    (.count (Int32.ofNat (offered.take count).length),
      {socket with outgoing, sent := socket.sent ++ offered.take count})

/-- `recv` into room for some bytes gives the front of one chunk. -/
def Socket.recv (socket : Socket) (room : Nat) : SocketReturn × List UInt8 × Socket :=
  match socket.incoming with
  | [] =>
    (match socket.ending with
      | .closed => .count 0
      | .failed => .failed
      | .silent => .blocked,[],socket)
  | .wouldBlock::incoming => (.wouldBlock,[],{socket with incoming})
  | .chunk first rest::incoming =>
    let bytes := (first::rest).take room
    (.count (Int32.ofNat bytes.length),bytes,
      {socket with incoming := RecvEvent.unread ((first::rest).drop room) incoming})

def storeAt (memory : List UInt8) (offset : Nat) (bytes : List UInt8) : List UInt8 :=
  memory.take offset ++ bytes ++ memory.drop (offset + bytes.length)

/-- What a connection that ends too early gives, once all its bytes are read. -/
def StreamEnd.received (ending : StreamEnd) (count : Nat) : Received :=
  match ending with
  | .closed => .short count
  | .failed => .error
  | .silent => .blocked

namespace Winsock

def asInt (size : UInt64) : Int32 := size.toUInt32.toInt32

def asSize (count : Int32) : UInt64 := count.toInt64.toUInt64

/-- A call that does not return is told from one that does. -/
inductive Returned
  | value (result : Int64)
  | blocked
deriving DecidableEq

def sendAllLoop (buffer : List UInt8) (len : UInt64) :
    Nat → Socket → Nat → UInt64 → Option (Returned × Socket)
  | 0,_,_,_ => none
  | fuel+1,socket,ptr,remaining =>
    if remaining = 0 then some (.value len.toInt64,socket)
    else
      match socket.send ((buffer.drop ptr).take (asInt remaining).toNatClampNeg) with
      | (.wouldBlock,socket) => sendAllLoop buffer len fuel socket ptr remaining
      | (.failed,socket) => some (.value (-1),socket)
      | (.blocked,socket) => some (.blocked,socket)
      | (.count sent,socket) =>
        if sent = 0 then some (.value (len - remaining).toInt64,socket)
        else sendAllLoop buffer len fuel socket (ptr + sent.toNatClampNeg) (remaining - asSize sent)

def netSendAll (fuel : Nat) (socket : Socket) (buffer : List UInt8) (len : UInt64) :
    Option (Returned × Socket) :=
  sendAllLoop buffer len fuel socket 0 len

def recvAllLoop (len : UInt64) :
    Nat → Socket → List UInt8 → Nat → UInt64 → Option (Returned × List UInt8 × Socket)
  | 0,_,_,_,_ => none
  | fuel+1,socket,memory,ptr,remaining =>
    if remaining = 0 then some (.value len.toInt64,memory,socket)
    else
      match socket.recv (asInt remaining).toNatClampNeg with
      | (.wouldBlock,_,socket) => recvAllLoop len fuel socket memory ptr remaining
      | (.failed,_,socket) => some (.value (-1),memory,socket)
      | (.blocked,_,socket) => some (.blocked,memory,socket)
      | (.count received,bytes,socket) =>
        -- the connection is closed
        if received = 0 then some (.value (len - remaining).toInt64,memory,socket)
        else recvAllLoop len fuel socket (storeAt memory ptr bytes) (ptr + received.toNatClampNeg)
          (remaining - asSize received)

def netRecvAll (fuel : Nat) (socket : Socket) (memory : List UInt8) (len : UInt64) :
    Option (Returned × List UInt8 × Socket) :=
  recvAllLoop len fuel socket memory 0 len

theorem asInt_short {size : UInt64} (short : size.toNat < 2^31) :
    (asInt size).toNatClampNeg = size.toNat :=
  Int32.toNatClampNeg_ofNat_of_lt short

theorem asSize_count {count : Nat} (short : count < 2^31) :
    (asSize (Int32.ofNat count)).toNat = count := by
  have fits : (count : Int) ≤ Int32.maxValue.toInt := by
    rw [Int32.toInt_maxValue]
    omega
  rw [asSize,Int32.toInt64_ofNat' fits,Int64.toUInt64_ofNat',UInt64.toNat_ofNat']
  exact Nat.mod_eq_of_lt (by omega)

theorem sub_count {size : UInt64} {count : Nat} (short : size.toNat < 2^31)
    (part : count ≤ size.toNat) :
    (size - asSize (Int32.ofNat count)).toNat = size.toNat - count := by
  have counted := asSize_count (Nat.lt_of_le_of_lt part short)
  rw [UInt64.toNat_sub_of_le,counted]
  rw [UInt64.le_iff_toNat_le,counted]
  exact part

theorem sub_all {size : UInt64} (short : size.toNat < 2^31) :
    size - asSize (Int32.ofNat size.toNat) = 0 := by
  have gone := sub_count short le_rfl
  rw [Nat.sub_self] at gone
  exact UInt64.toNat_inj.mp gone

theorem count_eq_zero {count : Nat} (short : count < 2^31) : Int32.ofNat count = 0 ↔ count = 0 := by
  constructor
  · intro zero
    have counted := congrArg Int32.toNatClampNeg zero
    rwa [Int32.toNatClampNeg_ofNat_of_lt short] at counted
  · rintro rfl
    rfl

theorem toInt64_eq (size : UInt64) : size.toInt64 = Int64.ofInt size.toNat := by
  rw [Int64.ofInt_eq_ofNat,← UInt64.toInt64_ofNat',UInt64.ofNat_toNat]

theorem ne_zero_iff {size : UInt64} : size ≠ 0 ↔ 0 < size.toNat := by
  rw [Nat.pos_iff_ne_zero,not_iff_not]
  exact UInt64.toNat_inj.symm

section Send

variable {buffer : List UInt8} {len remaining : UInt64} {ptr : Nat}

theorem sendAllLoop_count (fuel : Nat) {socket next : Socket} {count : Nat} (more : remaining ≠ 0)
    (small : remaining.toNat < 2^31) (part : count ≤ remaining.toNat)
    (called : socket.send ((buffer.drop ptr).take remaining.toNat) =
      (.count (Int32.ofNat count),next)) :
    sendAllLoop buffer len (fuel+1) socket ptr remaining =
      if count = 0 then some (.value (len - remaining).toInt64,next)
      else sendAllLoop buffer len fuel next (ptr + count) (remaining - asSize (Int32.ofNat count)) := by
  have short := Nat.lt_of_le_of_lt part small
  rw [sendAllLoop,if_neg more,asInt_short small,called]
  dsimp only
  rw [if_congr (count_eq_zero short) rfl rfl,Int32.toNatClampNeg_ofNat_of_lt short]

theorem drop_length_take (bytes : List UInt8) (count : Nat) :
    bytes.drop (bytes.take count).length = bytes.drop count := by
  rw [List.length_take]
  rcases Nat.le_total count bytes.length with part | whole
  · rw [Nat.min_eq_left part]
  · rw [Nat.min_eq_right whole,List.drop_length,List.drop_of_length_le whole]

theorem sendLoop_more (len : Nat) (events : List SendEvent) {rest : List UInt8} (sent : List UInt8)
    (some : rest ≠ []) :
    sendLoop len events rest sent =
      match events with
      | [] => (len,[],sent ++ rest)
      | .wouldBlock::events => sendLoop len events rest sent
      | .error::events => (-1,events,sent)
      | .accept count::events =>
        if count = 0 then ((len : Int) - rest.length,events,sent)
        else sendLoop len events (rest.drop count) (sent ++ rest.take count) := by
  obtain ⟨first,others,rfl⟩ := List.exists_cons_of_ne_nil some
  cases events with
  | nil => rfl
  | cons event events => cases event <;> rfl

theorem sendAllLoop_eq (short : len.toNat < 2^31) (whole : buffer.length = len.toNat) (fuel : Nat)
    (incoming : List RecvEvent) (ending : StreamEnd) (events later : List SendEvent)
    (sent sent' : List UInt8) (result : Int) (step : ptr + remaining.toNat = len.toNat)
    (enough : events.length + (if remaining = 0 then 0 else 1) < fuel)
    (looped : sendLoop len.toNat events (buffer.drop ptr) sent = (result,later,sent')) :
    sendAllLoop buffer len fuel ⟨incoming,ending,events,sent⟩ ptr remaining =
      some (.value (Int64.ofInt result),⟨incoming,ending,later,sent'⟩) := by
  induction fuel generalizing events sent ptr remaining with
  | zero => omega
  | succ fuel ih =>
    have left : (buffer.drop ptr).length = remaining.toNat := by
      rw [List.length_drop]
      omega
    by_cases done : remaining = 0
    · have none : buffer.drop ptr = [] := by
        apply List.eq_nil_of_length_eq_zero
        rw [left,done]
        rfl
      rw [none] at looped
      rw [sendAllLoop,if_pos done,toInt64_eq]
      cases events <;> cases looped <;> rfl
    · have positive := ne_zero_iff.mp done
      have small : remaining.toNat < 2^31 := by omega
      have some : buffer.drop ptr ≠ [] := List.ne_nil_of_length_pos (left.symm ▸ positive)
      have offered : (buffer.drop ptr).take remaining.toNat = buffer.drop ptr := by
        rw [← left,List.take_length]
      rw [if_neg done] at enough
      rw [sendLoop_more _ _ _ some] at looped
      cases events with
      | nil =>
        have called : Socket.send ⟨incoming,ending,[],sent⟩ ((buffer.drop ptr).take remaining.toNat) =
            (.count (Int32.ofNat remaining.toNat),
              ⟨incoming,ending,[],sent ++ buffer.drop ptr⟩) := by
          rw [offered,← left]
          rfl
        rw [sendAllLoop_count fuel done small le_rfl called,if_neg (by omega),sub_all small]
        apply ih
        · rw [UInt64.toNat_zero]
          omega
        · rw [if_pos rfl]
          omega
        · rw [← List.drop_drop,← left,List.drop_length]
          exact looped
      | cons event events =>
        rw [List.length_cons] at enough
        cases event with
        | wouldBlock =>
          rw [sendAllLoop,if_neg done]
          apply ih events sent step
          · rw [if_neg done]
            omega
          · exact looped
        | error =>
          rw [sendAllLoop,if_neg done]
          cases looped
          rfl
        | accept count =>
          have called : Socket.send ⟨incoming,ending,.accept count::events,sent⟩
              ((buffer.drop ptr).take remaining.toNat) =
              (.count (Int32.ofNat ((buffer.drop ptr).take count).length),
                ⟨incoming,ending,events,sent ++ (buffer.drop ptr).take count⟩) := by
            rw [offered]
            rfl
          have part : ((buffer.drop ptr).take count).length ≤ remaining.toNat := by
            rw [List.length_take,left]
            exact Nat.min_le_right _ _
          have kept := sub_count small part
          dsimp only at looped
          rw [sendAllLoop_count fuel done small part called]
          by_cases zero : count = 0
          · have before : remaining ≤ len := UInt64.le_iff_toNat_le.mpr (by omega)
            rw [if_pos zero] at looped
            rw [zero,List.take_zero,List.length_nil,if_pos rfl,List.append_nil,toInt64_eq,
              UInt64.toNat_sub_of_le _ _ before,Int.natCast_sub (by omega),← left]
            cases looped
            rfl
          · rw [if_neg zero,← drop_length_take] at looped
            have taken : ((buffer.drop ptr).take count).length ≠ 0 := by
              rw [List.length_take,left]
              omega
            rw [if_neg taken]
            apply ih
            · omega
            · split <;> omega
            · rw [← List.drop_drop]
              exact looped

end Send

section Recv

variable {len remaining : UInt64} {memory : List UInt8} {ptr : Nat}

theorem storeAt_nil (memory : List UInt8) (offset : Nat) : storeAt memory offset [] = memory := by
  simp [storeAt]

theorem length_storeAt {bytes : List UInt8} (inside : ptr + bytes.length ≤ memory.length) :
    (storeAt memory ptr bytes).length = memory.length := by
  simp only [storeAt,List.length_append,List.length_take,List.length_drop]
  omega

theorem storeAt_storeAt (first second : List UInt8) (inside : ptr ≤ memory.length) :
    storeAt (storeAt memory ptr first) (ptr + first.length) second =
      storeAt memory ptr (first ++ second) := by
  have start : (memory.take ptr ++ first).length = ptr + first.length := by
    rw [List.length_append,List.length_take,Nat.min_eq_left inside]
  simp only [storeAt]
  rw [← start,List.take_left,List.drop_append,List.drop_of_length_le (by omega),
    Nat.add_sub_cancel_left,List.drop_drop,start]
  simp [Nat.add_assoc]

theorem recv_whole {first : UInt8} {rest : List UInt8} {room : Nat}
    (part : (first::rest).length ≤ room) (events : List RecvEvent) (ending : StreamEnd)
    (outgoing : List SendEvent) (sent : List UInt8) :
    Socket.recv ⟨.chunk first rest::events,ending,outgoing,sent⟩ room =
      (.count (Int32.ofNat (first::rest).length),first::rest,⟨events,ending,outgoing,sent⟩) := by
  simp only [Socket.recv]
  rw [List.take_of_length_le part,List.drop_of_length_le part]
  rfl

theorem length_front {rest : List UInt8} {more : Nat} (first : UInt8) (larger : ¬ rest.length ≤ more) :
    (first::rest.take more).length = more + 1 := by
  rw [List.length_cons,List.length_take,Nat.min_eq_left (Nat.le_of_not_le larger)]

theorem recv_front {room more : Nat} (counted : room = more + 1) (first : UInt8) (rest : List UInt8)
    (events : List RecvEvent) (ending : StreamEnd) (outgoing : List SendEvent) (sent : List UInt8) :
    Socket.recv ⟨.chunk first rest::events,ending,outgoing,sent⟩ room =
      (.count (Int32.ofNat (first::rest.take more).length),first::rest.take more,
        ⟨RecvEvent.unread (rest.drop more) events,ending,outgoing,sent⟩) := by
  rw [counted]
  rfl

def Returned.of (len : UInt64) : Received → Returned
  | .full _ => .value len.toInt64
  | .short count => .value (Int64.ofInt count)
  | .error => .value (-1)
  | .blocked => .blocked

theorem recvAllLoop_count (fuel : Nat) {socket next : Socket} {bytes : List UInt8}
    (more : remaining ≠ 0) (small : remaining.toNat < 2^31) (some : bytes ≠ [])
    (part : bytes.length ≤ remaining.toNat)
    (called : socket.recv remaining.toNat = (.count (Int32.ofNat bytes.length),bytes,next)) :
    recvAllLoop len (fuel+1) socket memory ptr remaining =
      recvAllLoop len fuel next (storeAt memory ptr bytes) (ptr + bytes.length)
        (remaining - asSize (Int32.ofNat bytes.length)) := by
  have short := Nat.lt_of_le_of_lt part small
  have positive : bytes.length ≠ 0 := fun none => some (List.eq_nil_of_length_eq_zero none)
  rw [recvAllLoop,if_neg more,asInt_short small,called]
  dsimp only
  rw [if_neg (mt (count_eq_zero short).mp positive),Int32.toNatClampNeg_ofNat_of_lt short]

/-- The loop does what the list model of `net_recv_all` does, and stores the
bytes as they come. -/
theorem recvAllLoop_eq (short : len.toNat < 2^31) (fuel : Nat) (events later : List RecvEvent)
    (ending : StreamEnd) (outgoing : List SendEvent) (sent got memory : List UInt8) (ptr : Nat)
    (remaining : UInt64) (received : Received)
    (step : ptr + remaining.toNat = len.toNat) (room : len.toNat ≤ memory.length)
    (stored : got.length = ptr)
    (enough : (if remaining = 0 then 0 else events.length + 1) < fuel)
    (read : recvLoop ending events remaining.toNat got = (received,later)) :
    recvAllLoop len fuel ⟨events,ending,outgoing,sent⟩ memory ptr remaining =
      some (.of len received,
        storeAt memory ptr ((events.flatMap RecvEvent.bytes).take remaining.toNat),
        ⟨later,ending,outgoing,sent⟩) := by
  induction fuel generalizing events memory ptr remaining got with
  | zero => omega
  | succ fuel ih =>
    by_cases done : remaining = 0
    · subst done
      rw [recvAllLoop,if_pos rfl]
      have stop : recvLoop ending events 0 got = (.full got,events) := by
        cases events <;> rfl
      cases stop.symm.trans read
      rw [UInt64.toNat_zero,List.take_zero,storeAt_nil]
      rfl
    · have positive := ne_zero_iff.mp done
      have small : remaining.toNat < 2^31 := by omega
      obtain ⟨more,counted⟩ := Nat.exists_eq_add_one_of_ne_zero (Nat.ne_of_gt positive)
      rw [if_neg done] at enough
      rw [counted] at read
      cases events with
      | nil =>
        have before : remaining ≤ len := UInt64.le_iff_toNat_le.mpr (by omega)
        have count : (len - remaining).toInt64 = Int64.ofInt got.length := by
          rw [toInt64_eq,UInt64.toNat_sub_of_le _ _ before,stored,← step,Nat.add_sub_cancel]
        rw [recvAllLoop,if_neg done,List.flatMap_nil,List.take_nil,storeAt_nil]
        cases ending with
        | closed =>
          cases read
          exact congrArg (fun value => some (Returned.value value,memory,_)) count
        | failed => cases read; rfl
        | silent => cases read; rfl
      | cons event events =>
        rw [List.length_cons] at enough
        cases event with
        | wouldBlock =>
          rw [recvAllLoop,if_neg done]
          apply ih events got memory ptr remaining step room stored
          · rw [if_neg done]
            omega
          · rw [counted]
            exact read
        | chunk first rest =>
          rw [List.flatMap_cons,RecvEvent.bytes]
          by_cases whole : rest.length ≤ more
          · have part : (first::rest).length ≤ remaining.toNat := by
              rw [List.length_cons]
              omega
            have kept := sub_count small part
            rw [recvLoop,if_pos whole] at read
            rw [recvAllLoop_count fuel done small (List.cons_ne_nil _ _) part (recv_whole part _ _ _ _)]
            have next := ih events (got ++ first::rest) (storeAt memory ptr (first::rest))
              (ptr + (first::rest).length) (remaining - asSize (Int32.ofNat (first::rest).length))
              (by omega)
              (by rw [length_storeAt (by omega)]; exact room)
              (by rw [List.length_append]; omega)
              (by split <;> omega)
              (by rw [kept,counted,List.length_cons,Nat.add_sub_add_right]; exact read)
            rw [kept,storeAt_storeAt _ _ (by omega)] at next
            rw [List.take_append,List.take_of_length_le part]
            exact next
          · have filled : (first::rest.take more).length = remaining.toNat :=
              (length_front first whole).trans counted.symm
            have called := recv_front counted first rest events ending outgoing sent
            obtain ⟨fuel,rfl⟩ := Nat.exists_eq_add_one_of_ne_zero (show fuel ≠ 0 by omega)
            rw [recvLoop,if_neg whole] at read
            cases read
            rw [recvAllLoop_count (fuel+1) done small (List.cons_ne_nil _ _) (Nat.le_of_eq filled) called,
              filled,sub_all small,recvAllLoop,if_pos rfl]
            have enoughBytes : more + 1 ≤ (first::rest).length := by
              rw [List.length_cons]
              omega
            rw [counted,List.take_append_of_le_length enoughBytes]
            rfl

end Recv

theorem ofInt_inj {first second : Int} (low : -1 ≤ first) (high : first < 2147483648)
    (low' : -1 ≤ second) (high' : second < 2147483648) :
    Int64.ofInt first = Int64.ofInt second ↔ first = second := by
  constructor
  · intro same
    have values := congrArg Int64.toInt same
    rwa [Int64.toInt_ofInt_of_le (by omega) (by omega),
      Int64.toInt_ofInt_of_le (by omega) (by omega)] at values
  · rintro rfl
    rfl

/-- A front part of the data is taken; the result is the length exactly when
that part is all of it. -/
def TakesFront (len : Nat) (data sent : List UInt8) (result : Int) (sent' : List UInt8) : Prop :=
  ∃ taken, taken <+: data ∧ sent' = sent ++ taken ∧ -1 ≤ result ∧ result ≤ len ∧
    (result = len ↔ taken = data)

theorem takesFront_all (len : Nat) (data sent : List UInt8) :
    TakesFront len data sent len (sent ++ data) :=
  ⟨data,List.prefix_rfl,rfl,by omega,Int.le_refl _,iff_of_true rfl rfl⟩

theorem takesFront_none {len : Nat} {data : List UInt8} (sent : List UInt8) {result : Int}
    (some : data ≠ []) (low : -1 ≤ result) (high : result < len) :
    TakesFront len data sent result sent :=
  ⟨[],List.nil_prefix,(List.append_nil sent).symm,low,Int.le_of_lt high,
    iff_of_false (Int.ne_of_lt high) (Ne.symm some)⟩

theorem sendLoop_takesFront (len : Nat) (events : List SendEvent) (remaining sent : List UInt8)
    (bound : remaining.length ≤ len) :
    TakesFront len remaining sent (sendLoop len events remaining sent).1
      (sendLoop len events remaining sent).2.2 := by
  induction events generalizing remaining sent with
  | nil =>
    have all := takesFront_all len remaining sent
    cases remaining with
    | nil => rwa [List.append_nil] at all
    | cons first rest => exact all
  | cons event events ih =>
    cases remaining with
    | nil =>
      have all := takesFront_all len [] sent
      rwa [List.append_nil] at all
    | cons first rest =>
      have some : first::rest ≠ [] := List.cons_ne_nil first rest
      rw [List.length_cons] at bound
      cases event with
      | wouldBlock => exact ih (first::rest) sent (by rw [List.length_cons]; exact bound)
      | error =>
        apply takesFront_none sent some
        · exact Int.le_refl (-1)
        · simp only [sendLoop]
          omega
      | accept count =>
        rw [sendLoop_more _ _ _ some]
        dsimp only
        by_cases none : count = 0
        · rw [if_pos none]
          apply takesFront_none sent some
          · rw [List.length_cons]
            omega
          · rw [List.length_cons]
            omega
        · rw [if_neg none]
          have shorter : ((first::rest).drop count).length ≤ len := by
            rw [List.length_drop,List.length_cons]
            omega
          obtain ⟨taken,front,accepted,low,high,all⟩ := ih ((first::rest).drop count)
            (sent ++ (first::rest).take count) shorter
          refine ⟨(first::rest).take count ++ taken,?_,?_,low,high,?_⟩
          · have joined := (List.prefix_append_right_inj ((first::rest).take count)).mpr front
            rwa [List.take_append_drop] at joined
          · rw [accepted,List.append_assoc]
          · rw [all]
            constructor
            · rintro rfl
              exact List.take_append_drop count (first::rest)
            · intro whole
              have split := whole.trans (List.take_append_drop count (first::rest)).symm
              exact List.append_cancel_left split

theorem netSendAll_eq {socket : Socket} {buffer : List UInt8} {len : UInt64} {fuel : Nat}
    (short : len.toNat < 2^31) (whole : buffer.length = len.toNat)
    (enough : socket.outgoing.length + 1 < fuel) :
    netSendAll fuel socket buffer len =
      some (.value (Int64.ofInt (UsbOverNetwork.netSendAll socket buffer).1),
        (UsbOverNetwork.netSendAll socket buffer).2) := by
  apply sendAllLoop_eq short whole fuel
  · omega
  · split <;> omega
  · rw [List.drop_zero,← whole]
    rfl

theorem netRecvAll_eq {socket : Socket} {memory : List UInt8} {len : UInt64} {fuel : Nat}
    (short : len.toNat < 2^31) (room : len.toNat ≤ memory.length)
    (enough : socket.incoming.length + 1 < fuel) :
    netRecvAll fuel socket memory len =
      some (.of len (UsbOverNetwork.netRecvAll socket len.toNat).1,
        storeAt memory 0 (socket.stream.take len.toNat),
        (UsbOverNetwork.netRecvAll socket len.toNat).2) := by
  apply recvAllLoop_eq short fuel socket.incoming _ socket.ending socket.outgoing socket.sent []
    memory 0 len
  · omega
  · exact room
  · rfl
  · split <;> omega
  · rfl

section Exact

variable {len : UInt64}

/-- The number of bytes that a call of `net_send_all` is sure to get through
before a `send` fails or takes nothing; `none` when none of them does. -/
def capacity : List SendEvent → Option Nat
  | [] => none
  | .wouldBlock::events => capacity events
  | .error::_ => some 0
  | .accept count::events => if count = 0 then some 0 else (capacity events).map (count + ·)

/-- What of the data the socket accepts, however it cuts it. -/
def takes (socket : Socket) (data : List UInt8) : List UInt8 :=
  match capacity socket.outgoing with
  | none => data
  | some count => data.take count

theorem sendLoop_capacity (len : Nat) (events : List SendEvent) (remaining sent : List UInt8) :
    (sendLoop len events remaining sent).2.2 = sent ++ (match capacity events with
      | none => remaining
      | some count => remaining.take count) := by
  induction events generalizing remaining sent with
  | nil => cases remaining <;> simp [sendLoop,capacity]
  | cons event events ih =>
    cases remaining with
    | nil => cases capacity (event::events) <;> simp [sendLoop]
    | cons first rest =>
      cases event with
      | wouldBlock => exact ih (first::rest) sent
      | error => simp [sendLoop,capacity]
      | accept count =>
        by_cases none : count = 0
        · simp [sendLoop,capacity,none]
        · simp only [sendLoop,capacity,none,if_false,ih,List.append_assoc]
          cases capacity events with
          | none => simp
          | some more =>
            simp only [Option.map_some]
            rw [List.take_add]

theorem capacity_delivers (events : List SendEvent)
    (delivers : ∀ event ∈ events, event ≠ .error ∧ event ≠ .accept 0) : capacity events = none := by
  induction events with
  | nil => rfl
  | cons event events ih =>
    obtain ⟨first,rest⟩ := List.forall_mem_cons.mp delivers
    cases event with
    | wouldBlock => exact ih rest
    | error => exact absurd rfl first.1
    | accept count =>
      have some : count ≠ 0 := by
        rintro rfl
        exact first.2 rfl
      rw [capacity,if_neg some,ih rest]
      rfl

theorem takes_delivers {socket : Socket} (delivers : socket.Delivers) (data : List UInt8) :
    takes socket data = data := by
  rw [takes,capacity_delivers socket.outgoing delivers]

theorem netSendAll_exact (short : len.toNat < 2^31) (socket : Socket) (buffer : List UInt8)
    (whole : buffer.length = len.toNat) (fuel : Nat) (enough : socket.outgoing.length + 1 < fuel) :
    ∃ result after, netSendAll fuel socket buffer len = some (.value result,after) ∧
      takes socket buffer <+: buffer ∧ after.sent = socket.sent ++ takes socket buffer ∧
      (result = len.toInt64 ↔ takes socket buffer = buffer) ∧
      (socket.Delivers → result = len.toInt64) := by
  obtain ⟨taken,front,accepted,low,high,all⟩ := sendLoop_takesFront buffer.length socket.outgoing
    buffer socket.sent le_rfl
  have same : taken = takes socket buffer :=
    List.append_cancel_left (accepted.symm.trans (sendLoop_capacity _ _ _ _))
  subst same
  have shorter : (sendLoop buffer.length socket.outgoing buffer socket.sent).1 < 2^31 := by omega
  have complete : Int64.ofInt (sendLoop buffer.length socket.outgoing buffer socket.sent).1 =
      len.toInt64 ↔ takes socket buffer = buffer := by
    rw [toInt64_eq,← whole,← all]
    exact ofInt_inj low shorter (by omega) (by omega)
  exact ⟨_,_,netSendAll_eq short whole enough,front,accepted,complete,
    fun delivers => complete.mpr (takes_delivers delivers buffer)⟩

theorem netRecvAll_exact (short : len.toNat < 2^31) (socket : Socket) (memory : List UInt8)
    (room : len.toNat ≤ memory.length) (fuel : Nat) (enough : socket.incoming.length + 1 < fuel) :
    ∃ after, netRecvAll fuel socket memory len =
        some (if len.toNat ≤ socket.stream.length then .value len.toInt64
            else .of len (socket.ending.received socket.stream.length),
          socket.stream.take len.toNat ++ memory.drop (socket.stream.take len.toNat).length,after) ∧
      after.stream = socket.stream.drop len.toNat := by
  have stored : storeAt memory 0 (socket.stream.take len.toNat) =
      socket.stream.take len.toNat ++ memory.drop (socket.stream.take len.toNat).length := by
    simp [storeAt]
  rw [netRecvAll_eq short room enough,stored]
  by_cases complete : len.toNat ≤ socket.stream.length
  · obtain ⟨next,read,left,_⟩ := netRecvAll_full socket len.toNat complete
    rw [read,if_pos complete]
    exact ⟨next,rfl,left⟩
  · have fewer := Nat.lt_of_not_le complete
    rw [netRecvAll_fewer socket len.toNat fewer,if_neg complete]
    refine ⟨{socket with incoming := []},?_,?_⟩
    · cases socket.ending <;> rfl
    · rw [List.drop_of_length_le (Nat.le_of_lt fewer)]
      rfl

theorem error_ne_full (short : len.toNat < 2^31) : Returned.of len .error ≠ .value len.toInt64 := by
  rw [toInt64_eq]
  intro same
  have minus : Int64.ofInt (-1) = Int64.ofInt len.toNat := Returned.value.inj same
  have values := (ofInt_inj (by omega) (by omega) (by omega) (by omega)).mp minus
  omega

theorem received_ne_full {count : Nat} (short : len.toNat < 2^31) (fewer : count < len.toNat)
    (ending : StreamEnd) : Returned.of len (ending.received count) ≠ .value len.toInt64 := by
  cases ending with
  | closed =>
    rw [toInt64_eq]
    intro same
    have values := (ofInt_inj (by omega) (by omega) (by omega) (by omega)).mp
      (Returned.value.inj same)
    omega
  | failed => exact error_ne_full short
  | silent =>
    intro same
    cases same

theorem netRecvAll_iff (short : len.toNat < 2^31) (socket : Socket) (memory : List UInt8)
    (room : len.toNat ≤ memory.length) (fuel : Nat) (enough : socket.incoming.length + 1 < fuel) :
    ∃ returned memory' after, netRecvAll fuel socket memory len = some (returned,memory',after) ∧
      (returned = .value len.toInt64 ↔
        len.toNat ≤ socket.stream.length ∧ memory'.take len.toNat = socket.stream.take len.toNat) ∧
      (len.toNat ≤ socket.stream.length → returned = .value len.toInt64) ∧
      ∃ count, count ≤ len.toNat ∧ after.stream = socket.stream.drop count ∧
        memory' = socket.stream.take count ++ memory.drop count := by
  obtain ⟨after,read,left⟩ := netRecvAll_exact short socket memory room fuel enough
  refine ⟨_,_,after,read,?_,fun complete => if_pos complete,min len.toNat socket.stream.length,
    Nat.min_le_left _ _,?_,?_⟩
  · by_cases complete : len.toNat ≤ socket.stream.length
    · rw [if_pos complete]
      refine iff_of_true rfl ⟨complete,?_⟩
      rw [List.take_append_of_le_length (by rw [List.length_take]; omega),List.take_take,
        Nat.min_self]
    · rw [if_neg complete]
      exact iff_of_false (received_ne_full short (Nat.lt_of_not_le complete) socket.ending)
        (fun both => complete both.1)
  · rw [left]
    rcases Nat.le_total len.toNat socket.stream.length with complete | fewer
    · rw [Nat.min_eq_left complete]
    · rw [Nat.min_eq_right fewer,List.drop_of_length_le fewer,List.drop_length]
  · rw [List.length_take]
    rcases Nat.le_total len.toNat socket.stream.length with complete | fewer
    · rw [Nat.min_eq_left complete]
    · rw [Nat.min_eq_right fewer,List.take_of_length_le fewer,List.take_length]

theorem netRecvAll_fragmented (short : len.toNat < 2^31) (socket other : Socket)
    (stream : other.stream = socket.stream) (ending : other.ending = socket.ending)
    (memory : List UInt8) (room : len.toNat ≤ memory.length) (fuel : Nat)
    (enough : socket.incoming.length + 1 < fuel) (enough' : other.incoming.length + 1 < fuel) :
    ∃ returned memory' after after', netRecvAll fuel socket memory len = some (returned,memory',after) ∧
      netRecvAll fuel other memory len = some (returned,memory',after') ∧
      after'.stream = after.stream := by
  obtain ⟨after,read,left⟩ := netRecvAll_exact short socket memory room fuel enough
  obtain ⟨after',read',left'⟩ := netRecvAll_exact short other memory room fuel enough'
  rw [stream,ending] at read'
  rw [stream] at left'
  exact ⟨_,_,after,after',read,read',left'.trans left.symm⟩

end Exact

end Winsock

/-- One call of `net_send_all` and one of `net_recv_all` of a length that fits
an `int`: what is sent, what is received, and that nothing of it depends on how
either side cuts the bytes. -/
theorem exact_stream_transfer (len : UInt64) (short : len.toNat < 2^31) :
    (∀ (socket : Socket) (buffer : List UInt8), buffer.length = len.toNat →
      ∀ fuel, socket.outgoing.length + 1 < fuel →
      ∃ result after, Winsock.netSendAll fuel socket buffer len = some (.value result,after) ∧
        Winsock.takes socket buffer <+: buffer ∧
        after.sent = socket.sent ++ Winsock.takes socket buffer ∧
        (result = len.toInt64 ↔ Winsock.takes socket buffer = buffer) ∧
        (socket.Delivers → result = len.toInt64)) ∧
    (∀ (socket : Socket) (memory : List UInt8), len.toNat ≤ memory.length →
      ∀ fuel, socket.incoming.length + 1 < fuel →
      ∃ returned memory' after,
        Winsock.netRecvAll fuel socket memory len = some (returned,memory',after) ∧
        (returned = .value len.toInt64 ↔ len.toNat ≤ socket.stream.length ∧
          memory'.take len.toNat = socket.stream.take len.toNat) ∧
        (len.toNat ≤ socket.stream.length → returned = .value len.toInt64) ∧
        ∃ count, count ≤ len.toNat ∧ after.stream = socket.stream.drop count ∧
          memory' = socket.stream.take count ++ memory.drop count) ∧
    (∀ (socket other : Socket), other.stream = socket.stream → other.ending = socket.ending →
      ∀ memory, len.toNat ≤ memory.length →
      ∀ fuel, socket.incoming.length + 1 < fuel → other.incoming.length + 1 < fuel →
      ∃ returned memory' after after',
        Winsock.netRecvAll fuel socket memory len = some (returned,memory',after) ∧
        Winsock.netRecvAll fuel other memory len = some (returned,memory',after') ∧
        after'.stream = after.stream) ∧
    (∀ (sender receiver : Socket) (buffer : List UInt8), buffer.length = len.toNat →
      ∀ fuel, sender.outgoing.length + 1 < fuel → receiver.incoming.length + 1 < fuel →
      ∃ result after accepted, Winsock.netSendAll fuel sender buffer len = some (.value result,after) ∧
        after.sent = sender.sent ++ accepted ∧ (sender.Delivers → result = len.toInt64) ∧
        (result = len.toInt64 →
          ∀ rest, receiver.stream = accepted ++ rest → ∀ memory, memory.length = len.toNat →
          ∃ next, Winsock.netRecvAll fuel receiver memory len = some (.value len.toInt64,buffer,next) ∧
            next.stream = rest)) := by
  refine ⟨Winsock.netSendAll_exact short,Winsock.netRecvAll_iff short,
    Winsock.netRecvAll_fragmented short,?_⟩
  intro sender receiver buffer whole fuel enough enough'
  obtain ⟨result,after,returned,_,given,complete,all⟩ :=
    Winsock.netSendAll_exact short sender buffer whole fuel enough
  refine ⟨result,after,_,returned,given,all,?_⟩
  intro sent rest stream memory room
  rw [complete.mp sent] at stream
  obtain ⟨next,read,left⟩ := Winsock.netRecvAll_exact short receiver memory
    (Nat.le_of_eq room.symm) fuel enough'
  rw [stream,← whole] at read left
  have complete : buffer.length ≤ (buffer ++ rest).length := by
    rw [List.length_append]
    exact Nat.le_add_right _ _
  rw [if_pos complete,List.take_left,List.drop_of_length_le (by rw [room,whole]),
    List.append_nil] at read
  rw [List.drop_left] at left
  exact ⟨next,read,left⟩

/-- Three bytes that the sender's socket takes in two parts, the receiver gets
in two other parts, with a byte more behind them. -/
theorem exact_stream_transfer_fragmented : ∃ after next,
    Winsock.netSendAll 5 ⟨[],.closed,[.accept 2,.wouldBlock,.accept 5],[]⟩ [1,2,3] 3 =
      some (.value 3,after) ∧ after.sent = [1,2,3] ∧
    Winsock.netRecvAll 5 ⟨[.chunk 1 [],.wouldBlock,.chunk 2 [3,4]],.closed,[],[]⟩ [0,0,0] 3 =
      some (.value 3,[1,2,3],next) ∧ next.stream = [4] := by
  have transfer := exact_stream_transfer 3 (by decide)
  obtain ⟨result,after,accepted,returned,given,delivered,received⟩ := transfer.2.2.2
    ⟨[],.closed,[.accept 2,.wouldBlock,.accept 5],[]⟩
    ⟨[.chunk 1 [],.wouldBlock,.chunk 2 [3,4]],.closed,[],[]⟩ [1,2,3] rfl 5 (by decide) (by decide)
  have all : result = 3 := delivered (by simp [Socket.Delivers])
  rw [all] at returned
  have sent : after.sent = [1,2,3] := by
    have run : Winsock.netSendAll 5 ⟨[],.closed,[.accept 2,.wouldBlock,.accept 5],[]⟩ [1,2,3] 3 =
        some (.value 3,⟨[],.closed,[],[1,2,3]⟩) := rfl
    cases run.symm.trans returned
    rfl
  rw [sent,List.nil_append] at given
  obtain ⟨next,read,left⟩ := received all [4] (given ▸ rfl) [0,0,0] rfl
  exact ⟨after,next,returned,sent,read,left⟩

end UsbOverNetwork
