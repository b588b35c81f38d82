import Mathlib.Order.Monotone.Defs
import UsbOverNetwork.Common.Auth
import UsbOverNetwork.Common.StreamTransfer

/-! `net_recv_all_timeout` on a tick counter that wraps: which waits it hands to
`socket_select`, against a clock that does not wrap, and what it returns. -/
namespace UsbOverNetwork

structure TimeVal where
  tvSec : UInt32
  tvUsec : UInt32
deriving DecidableEq

/-- The timeout `socket_select` gives to `select`; none means to wait for ever. -/
def socketSelectTime (timeoutMs : UInt32) : Option TimeVal :=
  if timeoutMs = 0xFFFFFFFF then none else some ⟨timeoutMs / 1000,(timeoutMs % 1000) * 1000⟩

/-- The true time in milliseconds at each call of `GetTickCount`, and what
`select` returns in each turn. -/
structure Waiting where
  clock : Nat → Nat
  select : Nat → Option TimeVal → Int32

structure Wait where
  turn : Nat
  timeoutMs : UInt32
deriving DecidableEq

structure TimedRun where
  returned : Winsock.Returned
  memory : List UInt8
  socket : Socket
  waits : List Wait

namespace Waiting

def tick (waiting : Waiting) (reading : Nat) : UInt32 := UInt32.ofNat (waiting.clock reading)

def ready (waiting : Waiting) (socket : Socket) (turn : Nat) (time : Option TimeVal) : Int32 :=
  if socket.incoming = [] ∧ socket.ending = .silent then 0 else waiting.select turn time

def patience (waiting : Waiting) : Patience where
  tick := waiting.tick
  select turn wait := 0 < waiting.select turn (socketSelectTime wait)

def elapsed (waiting : Waiting) (turn : Nat) : Nat := waiting.clock (turn+1) - waiting.clock 0

/-- A clock that does not go back and advances less than the counter can tell. -/
structure Steady (waiting : Waiting) : Prop where
  monotone : Monotone waiting.clock
  advance : ∀ reading, waiting.clock reading - waiting.clock 0 < 2^32

end Waiting

namespace Winsock

/-- The first half of a turn: what is left of the time is given to `socket_select`. -/
def awaitReadable (waiting : Waiting) (timeoutMs start : UInt32) (socket : Socket) (turn : Nat)
    (waits : List Wait) : Bool × List Wait :=
  let elapsed := waiting.tick (turn+1) - start
  if timeoutMs ≤ elapsed then (false,waits)
  else
    let wait := timeoutMs - elapsed
    let result := waiting.ready socket turn (socketSelectTime wait)
    (!decide (result ≤ 0),waits ++ [⟨turn,wait⟩])

def recvAllTimeoutLoop (waiting : Waiting) (len : UInt64) (timeoutMs start : UInt32) :
    Nat → Nat → Socket → List UInt8 → Nat → UInt64 → List Wait → Option TimedRun
  | 0,_,_,_,_,_,_ => none
  | fuel+1,turn,socket,memory,ptr,remaining,waits =>
    if remaining = 0 then some ⟨.value len.toInt64,memory,socket,waits⟩
    else
      let (readable,waits) := awaitReadable waiting timeoutMs start socket turn waits
      if !readable then some ⟨.value (-1),memory,socket,waits⟩
      else
        match socket.recv (asInt remaining).toNatClampNeg with
        | (.wouldBlock,_,socket) =>
          recvAllTimeoutLoop waiting len timeoutMs start fuel (turn+1) socket memory ptr remaining
            waits
        | (.failed,_,socket) => some ⟨.value (-1),memory,socket,waits⟩
        | (.blocked,_,socket) => some ⟨.blocked,memory,socket,waits⟩
        | (.count received,bytes,socket) =>
          if received = 0 then some ⟨.value (len - remaining).toInt64,memory,socket,waits⟩
          else recvAllTimeoutLoop waiting len timeoutMs start fuel (turn+1) socket
            (storeAt memory ptr bytes) (ptr + received.toNatClampNeg)
            (remaining - asSize received) waits

def netRecvAllTimeout (fuel : Nat) (waiting : Waiting) (socket : Socket) (memory : List UInt8)
    (len : UInt64) (timeoutMs : UInt32) : Option TimedRun :=
  recvAllTimeoutLoop waiting len timeoutMs (waiting.tick 0) fuel 0 socket memory 0 len []

end Winsock

theorem tick_sub {first second : Nat} (order : first ≤ second) (close : second - first < 2^32) :
    (UInt32.ofNat second - UInt32.ofNat first).toNat = second - first := by
  rw [UInt32.toNat_sub,UInt32.toNat_ofNat',UInt32.toNat_ofNat']
  omega

theorem Waiting.Steady.elapsed {waiting : Waiting} (steady : waiting.Steady) (turn : Nat) :
    (waiting.tick (turn+1) - waiting.tick 0).toNat = waiting.elapsed turn :=
  tick_sub (steady.monotone (Nat.zero_le _)) (steady.advance _)

structure Waiting.Answers (waiting : Waiting) (timeoutMs : UInt32) (turns : Nat) : Prop where
  early : ∀ turn < turns, waiting.elapsed turn < timeoutMs.toNat
  readable : ∀ turn < turns,
    0 < waiting.select turn (socketSelectTime (timeoutMs - UInt32.ofNat (waiting.elapsed turn)))

theorem Waiting.Answers.waits {waiting : Waiting} {timeoutMs : UInt32} {turns : Nat}
    (answers : waiting.Answers timeoutMs turns) (steady : waiting.Steady) :
    ∀ turn < turns, waiting.patience.waits timeoutMs turn = true := by
  intro turn before
  have elapsed : waiting.tick (turn+1) - waiting.tick 0 = UInt32.ofNat (waiting.elapsed turn) := by
    rw [← steady.elapsed turn,UInt32.ofNat_toNat]
  have early : waiting.tick (turn+1) - waiting.tick 0 < timeoutMs := by
    rw [UInt32.lt_iff_toNat_lt,steady.elapsed turn]
    exact answers.early turn before
  have readable := answers.readable turn before
  rw [← elapsed] at readable
  rw [Patience.waits]
  simp only [Waiting.patience,early,readable,decide_true,Bool.and_self]

/-- A wait is of at least one millisecond and at most the time that is left,
and `select` is given it as it is. -/
structure Wait.Proper (wait : Wait) (waiting : Waiting) (timeoutMs : UInt32) : Prop where
  early : waiting.elapsed wait.turn < timeoutMs.toNat
  positive : 1 ≤ wait.timeoutMs.toNat
  left : wait.timeoutMs.toNat ≤ timeoutMs.toNat - waiting.elapsed wait.turn
  finite : ∃ time, socketSelectTime wait.timeoutMs = some time ∧
    time.tvSec.toNat * 1000 + time.tvUsec.toNat / 1000 = wait.timeoutMs.toNat ∧
    time.tvUsec.toNat < 1000000

theorem socketSelectTime_finite {timeoutMs : UInt32} (finite : timeoutMs.toNat < 2^32 - 1) :
    ∃ time, socketSelectTime timeoutMs = some time ∧
      time.tvSec.toNat * 1000 + time.tvUsec.toNat / 1000 = timeoutMs.toNat ∧
      time.tvUsec.toNat < 1000000 := by
  have bounded : timeoutMs ≠ 0xFFFFFFFF := by
    rintro rfl
    exact absurd finite (by decide)
  have seconds : (timeoutMs / 1000).toNat = timeoutMs.toNat / 1000 := UInt32.toNat_div _ _
  have rest : (timeoutMs % 1000 * 1000).toNat = timeoutMs.toNat % 1000 * 1000 := by
    rw [UInt32.toNat_mul,UInt32.toNat_mod]
    have thousand : (1000 : UInt32).toNat = 1000 := rfl
    rw [thousand]
    omega
  refine ⟨_,if_neg bounded,?_,?_⟩
  · dsimp only
    rw [seconds,rest]
    omega
  · dsimp only
    rw [rest]
    omega

theorem recvTimeoutLoop_refused {patience : Patience} {timeoutMs : UInt32} {ending : StreamEnd}
    {events : List RecvEvent} {more turn : Nat} {got : List UInt8}
    (refused : patience.waits timeoutMs turn = false) :
    recvTimeoutLoop patience timeoutMs ending events (more+1) turn got = (.error,events) := by
  cases events with
  | nil => cases ending <;> simp only [recvTimeoutLoop,refused,Bool.false_eq_true,if_false]
  | cons event events => cases event <;> simp only [recvTimeoutLoop,refused,Bool.not_false,if_true]

namespace Winsock

variable {waiting : Waiting} {len remaining : UInt64} {timeoutMs : UInt32}

theorem awaitReadable_waits (steady : waiting.Steady) (finite : timeoutMs.toNat < 2^32 - 1)
    (socket : Socket) (turn : Nat) (waits : List Wait)
    (sofar : ∀ wait ∈ waits, wait.Proper waiting timeoutMs) :
    ∀ wait ∈ (awaitReadable waiting timeoutMs (waiting.tick 0) socket turn waits).2,
      wait.Proper waiting timeoutMs := by
  rw [awaitReadable]
  dsimp only
  split
  next _ => exact sofar
  next early =>
    have elapsed := steady.elapsed turn
    have before : waiting.tick (turn+1) - waiting.tick 0 ≤ timeoutMs :=
      UInt32.le_of_lt (UInt32.not_le.mp early)
    have short := UInt32.lt_iff_toNat_lt.mp (UInt32.not_le.mp early)
    have left := UInt32.toNat_sub_of_le _ _ before
    rw [elapsed] at short left
    intro wait listed
    rcases List.mem_append.mp listed with earlier | now
    · exact sofar wait earlier
    · rw [List.mem_singleton.mp now]
      refine ⟨short,?_,Nat.le_of_eq left,socketSelectTime_finite ?_⟩
      · dsimp only
        omega
      · dsimp only
        omega

theorem recvAllTimeoutLoop_waits (steady : waiting.Steady) (finite : timeoutMs.toNat < 2^32 - 1)
    (fuel turn : Nat) (socket : Socket) (memory : List UInt8) (ptr : Nat) (waits : List Wait)
    (sofar : ∀ wait ∈ waits, wait.Proper waiting timeoutMs) (run : TimedRun)
    (looped : recvAllTimeoutLoop waiting len timeoutMs (waiting.tick 0) fuel turn socket memory ptr
      remaining waits = some run) :
    ∀ wait ∈ run.waits, wait.Proper waiting timeoutMs := by
  induction fuel generalizing turn socket memory ptr remaining waits with
  | zero => cases looped
  | succ fuel ih =>
    have all := awaitReadable_waits steady finite socket turn waits sofar
    rw [recvAllTimeoutLoop] at looped
    split at looped
    next _ => cases looped; exact sofar
    next _ =>
      dsimp only at looped
      split at looped
      next _ => cases looped; exact all
      next _ =>
        split at looped
        next _ => exact ih _ _ _ _ _ all looped
        next _ => cases looped; exact all
        next _ => cases looped; exact all
        next _ =>
          split at looped
          next _ => cases looped; exact all
          next _ => exact ih _ _ _ _ _ all looped

section Turn

variable {fuel turn ptr : Nat} {memory : List UInt8} {waits : List Wait} {socket next : Socket}

/-- On a connection that is not silent the turn goes on when the handshake's
model says so. -/
theorem awaitReadable_eq (readable : ¬ (socket.incoming = [] ∧ socket.ending = .silent)) :
    (awaitReadable waiting timeoutMs (waiting.tick 0) socket turn waits).1 =
      waiting.patience.waits timeoutMs turn := by
  rw [awaitReadable,Patience.waits]
  dsimp only
  have tick (reading : Nat) : waiting.patience.tick reading = waiting.tick reading := rfl
  rw [tick,tick]
  split
  next late =>
    have refused : ¬ waiting.tick (turn+1) - waiting.tick 0 < timeoutMs := UInt32.not_lt.mpr late
    rw [decide_eq_false refused,Bool.false_and]
  next early =>
    rw [decide_eq_true (UInt32.not_le.mp early),Bool.true_and,Waiting.ready,if_neg readable,
      Waiting.patience]
    dsimp only
    rw [← decide_not,decide_eq_decide]
    exact Int32.not_le

theorem awaitReadable_silent (silent : socket.incoming = [] ∧ socket.ending = .silent) :
    (awaitReadable waiting timeoutMs (waiting.tick 0) socket turn waits).1 = false := by
  rw [awaitReadable]
  dsimp only
  split
  next _ => rfl
  next _ =>
    rw [Waiting.ready,if_pos silent]
    rfl

theorem recvAllTimeoutLoop_count {bytes : List UInt8} (more : remaining ≠ 0)
    (small : remaining.toNat < 2^31)
    (ready : (awaitReadable waiting timeoutMs (waiting.tick 0) socket turn waits).1 = true)
    (some : bytes ≠ []) (part : bytes.length ≤ remaining.toNat)
    (called : socket.recv remaining.toNat = (.count (Int32.ofNat bytes.length),bytes,next)) :
    recvAllTimeoutLoop waiting len timeoutMs (waiting.tick 0) (fuel+1) turn socket memory ptr
        remaining waits =
      recvAllTimeoutLoop waiting len timeoutMs (waiting.tick 0) fuel (turn+1) next
        (storeAt memory ptr bytes) (ptr + bytes.length)
        (remaining - asSize (Int32.ofNat bytes.length))
        (awaitReadable waiting timeoutMs (waiting.tick 0) socket turn waits).2 := by
  have short := Nat.lt_of_le_of_lt part small
  have positive : bytes.length ≠ 0 := fun none => some (List.eq_nil_of_length_eq_zero none)
  rw [recvAllTimeoutLoop,if_neg more,asInt_short small]
  dsimp only
  rw [ready,called]
  dsimp only
  rw [if_neg (mt (count_eq_zero short).mp positive),Int32.toNatClampNeg_ofNat_of_lt short]
  rfl

def Stops (waiting : Waiting) (len : UInt64) (timeoutMs : UInt32) (fuel turn : Nat) (socket : Socket)
    (memory : List UInt8) (ptr : Nat) (remaining : UInt64) (waits : List Wait) (received : Received)
    (last : Socket) : Prop :=
  ∃ taken waits', recvAllTimeoutLoop waiting len timeoutMs (waiting.tick 0) fuel turn socket memory ptr
      remaining waits = some ⟨.of len received,storeAt memory ptr taken,last,waits'⟩ ∧
    socket.stream = taken ++ last.stream

theorem stops_filled {got : List UInt8} :
    Stops waiting len timeoutMs (fuel+1) turn socket memory ptr 0 waits (.full got) socket := by
  refine ⟨[],waits,?_,rfl⟩
  rw [recvAllTimeoutLoop,if_pos rfl,storeAt_nil]
  rfl

theorem stops_refused (more : remaining ≠ 0)
    (refused : (awaitReadable waiting timeoutMs (waiting.tick 0) socket turn waits).1 = false) :
    Stops waiting len timeoutMs (fuel+1) turn socket memory ptr remaining waits .error socket := by
  refine ⟨[],(awaitReadable waiting timeoutMs (waiting.tick 0) socket turn waits).2,?_,rfl⟩
  rw [recvAllTimeoutLoop,if_neg more,storeAt_nil]
  dsimp only
  rw [refused]
  rfl

theorem stops_ended (more : remaining ≠ 0) (before : remaining ≤ len) (ended : socket.incoming = [])
    (ready : (awaitReadable waiting timeoutMs (waiting.tick 0) socket turn waits).1 = true) :
    Stops waiting len timeoutMs (fuel+1) turn socket memory ptr remaining waits
      (socket.ending.received (len.toNat - remaining.toNat)) socket := by
  have count : (len - remaining).toInt64 = Int64.ofInt (len.toNat - remaining.toNat : Nat) := by
    rw [toInt64_eq,UInt64.toNat_sub_of_le _ _ before]
  refine ⟨[],(awaitReadable waiting timeoutMs (waiting.tick 0) socket turn waits).2,?_,rfl⟩
  rw [recvAllTimeoutLoop,if_neg more,storeAt_nil]
  dsimp only
  rw [ready,Socket.recv,ended]
  cases socket.ending with
  | closed =>
    rw [StreamEnd.received,Returned.of,← count]
    rfl
  | failed => rfl
  | silent => rfl

theorem Stops.stored {bytes : List UInt8} {received : Received} {last : Socket} (more : remaining ≠ 0)
    (small : remaining.toNat < 2^31)
    (ready : (awaitReadable waiting timeoutMs (waiting.tick 0) socket turn waits).1 = true)
    (some : bytes ≠ []) (part : bytes.length ≤ remaining.toNat) (inside : ptr ≤ memory.length)
    (called : socket.recv remaining.toNat = (.count (Int32.ofNat bytes.length),bytes,next))
    (gives : socket.stream = bytes ++ next.stream)
    (stops : Stops waiting len timeoutMs fuel (turn+1) next (storeAt memory ptr bytes)
      (ptr + bytes.length) (remaining - asSize (Int32.ofNat bytes.length))
      (awaitReadable waiting timeoutMs (waiting.tick 0) socket turn waits).2 received last) :
    Stops waiting len timeoutMs (fuel+1) turn socket memory ptr remaining waits received last := by
  obtain ⟨taken,waits',looped,split⟩ := stops
  refine ⟨bytes ++ taken,waits',?_,?_⟩
  · rw [recvAllTimeoutLoop_count more small ready some part called,looped,
      storeAt_storeAt bytes taken inside]
  · rw [gives,split,List.append_assoc]

end Turn

theorem recvAllTimeoutLoop_eq (short : len.toNat < 2^31) (fuel turn : Nat)
    (events later : List RecvEvent) (ending : StreamEnd) (outgoing : List SendEvent)
    (sent got memory : List UInt8) (ptr : Nat) (remaining : UInt64) (waits : List Wait)
    (received : Received) (step : ptr + remaining.toNat = len.toNat) (room : len.toNat ≤ memory.length)
    (stored : got.length = ptr)
    (enough : (if remaining = 0 then 0 else events.length + 1) < fuel)
    (read : recvTimeoutLoop waiting.patience timeoutMs ending events remaining.toNat turn got =
      (received,later)) :
    Stops waiting len timeoutMs fuel turn ⟨events,ending,outgoing,sent⟩ memory ptr remaining waits
      received ⟨later,ending,outgoing,sent⟩ := by
  induction fuel generalizing turn events memory ptr remaining got waits with
  | zero => omega
  | succ fuel ih =>
    by_cases done : remaining = 0
    · subst done
      have stop : recvTimeoutLoop waiting.patience timeoutMs ending events 0 turn got =
          (.full got,events) := by
        cases events <;> rfl
      cases stop.symm.trans read
      exact stops_filled
    · have positive := ne_zero_iff.mp done
      have small : remaining.toNat < 2^31 := by omega
      obtain ⟨more,counted⟩ := Nat.exists_eq_add_one_of_ne_zero (Nat.ne_of_gt positive)
      rw [if_neg done] at enough
      rw [counted] at read
      by_cases silent : events = [] ∧ ending = .silent
      · obtain ⟨rfl,rfl⟩ := silent
        cases read
        exact stops_refused done (awaitReadable_silent ⟨rfl,rfl⟩)
      · have answered : (awaitReadable waiting timeoutMs (waiting.tick 0)
            ⟨events,ending,outgoing,sent⟩ turn waits).1 = waiting.patience.waits timeoutMs turn :=
          awaitReadable_eq silent
        cases ready : waiting.patience.waits timeoutMs turn with
        | false =>
          cases (recvTimeoutLoop_refused ready).symm.trans read
          exact stops_refused done (answered.trans ready)
        | true =>
          rw [ready] at answered
          cases events with
          | nil =>
            have before : remaining ≤ len := UInt64.le_iff_toNat_le.mpr (by omega)
            have given : (ending.received (len.toNat - remaining.toNat),[]) = (received,later) := by
              have front : len.toNat - remaining.toNat = got.length := by omega
              rw [front]
              cases ending with
              | closed => simpa only [recvTimeoutLoop,ready,if_true,StreamEnd.received] using read
              | failed => exact read
              | silent => exact absurd ⟨rfl,rfl⟩ silent
            cases given
            exact stops_ended done before rfl answered
          | cons event events =>
            rw [List.length_cons] at enough
            cases event with
            | wouldBlock =>
              rw [recvTimeoutLoop,ready] at read
              rw [Stops,recvAllTimeoutLoop,if_neg done]
              dsimp only
              rw [answered]
              apply ih (turn+1) events got memory ptr remaining _ step room stored
              · rw [if_neg done]
                omega
              · rw [counted]
                exact read
            | chunk first rest =>
              rw [recvTimeoutLoop,ready] at read
              simp only [Bool.not_true,Bool.false_eq_true,if_false] at read
              by_cases whole : rest.length ≤ more
              · have part : (first::rest).length ≤ remaining.toNat := by
                  rw [List.length_cons]
                  omega
                have kept := sub_count small part
                rw [if_pos whole] at read
                refine .stored done small answered (List.cons_ne_nil _ _) part (by omega)
                  (recv_whole part _ _ _ _) rfl ?_
                apply ih (turn+1) events (got ++ first::rest)
                · omega
                · rw [length_storeAt (by omega)]
                  exact room
                · rw [List.length_append]
                  omega
                · split <;> omega
                · rw [kept,counted,List.length_cons,Nat.add_sub_add_right]
                  exact read
              · have filled : (first::rest.take more).length = remaining.toNat :=
                  (length_front first whole).trans counted.symm
                obtain ⟨fuel,rfl⟩ := Nat.exists_eq_add_one_of_ne_zero (show fuel ≠ 0 by omega)
                rw [if_neg whole] at read
                cases read
                refine .stored done small answered (List.cons_ne_nil _ _) (Nat.le_of_eq filled) (by omega)
                  (recv_front counted first rest events ending outgoing sent) ?_ ?_
                · have front : first::rest.take more ++ rest.drop more = first::rest := by
                    rw [List.cons_append,List.take_append_drop]
                  simp only [Socket.stream]
                  rw [unread_bytes,List.flatMap_cons,RecvEvent.bytes,← List.append_assoc,front]
                · rw [filled,sub_all small]
                  exact stops_filled

theorem netRecvAllTimeout_eq (waiting : Waiting) (timeoutMs : UInt32) (short : len.toNat < 2^31) (socket : Socket)
    (memory : List UInt8) (room : len.toNat ≤ memory.length) (fuel : Nat)
    (enough : socket.incoming.length + 1 < fuel) :
    ∃ taken waits, netRecvAllTimeout fuel waiting socket memory len timeoutMs =
      some ⟨.of len (UsbOverNetwork.netRecvAllTimeout waiting.patience socket len.toNat timeoutMs).1,
        taken ++ memory.drop taken.length,
        (UsbOverNetwork.netRecvAllTimeout waiting.patience socket len.toNat timeoutMs).2,waits⟩ ∧
      socket.stream = taken ++
        (UsbOverNetwork.netRecvAllTimeout waiting.patience socket len.toNat timeoutMs).2.stream := by
  obtain ⟨taken,waits,looped,split⟩ := recvAllTimeoutLoop_eq short fuel 0 socket.incoming _
    socket.ending socket.outgoing socket.sent [] memory 0 len [] _ (Nat.zero_add _) room rfl
    (by split <;> omega) rfl
  have stored : storeAt memory 0 taken = taken ++ memory.drop taken.length := by simp [storeAt]
  rw [stored] at looped
  exact ⟨taken,waits,looped,split⟩

end Winsock

/-- A receive that is not complete has failed, or has met the end of a closed
connection and read everything before it. -/
theorem recvTimeoutLoop_incomplete {patience : Patience} {timeoutMs : UInt32} {ending : StreamEnd}
    {events rest : List RecvEvent} {len turn : Nat} {got : List UInt8} {received : Received}
    (read : recvTimeoutLoop patience timeoutMs ending events len turn got = (received,rest)) :
    (∃ data, received = .full data) ∨ received = .error ∨
      ending = .closed ∧ rest = [] ∧ (events.flatMap RecvEvent.bytes).length < len ∧
        received = .short (got ++ events.flatMap RecvEvent.bytes).length := by
  induction events generalizing len turn got with
  | nil =>
    cases len with
    | zero =>
      cases read
      exact .inl ⟨got,rfl⟩
    | succ remaining =>
      cases ending with
      | closed =>
        simp only [recvTimeoutLoop] at read
        split at read
        next _ =>
          cases read
          exact .inr (.inr ⟨rfl,rfl,Nat.succ_pos _,by simp⟩)
        next _ =>
          cases read
          exact .inr (.inl rfl)
      | failed =>
        cases read
        exact .inr (.inl rfl)
      | silent =>
        cases read
        exact .inr (.inl rfl)
  | cons event events ih =>
    cases len with
    | zero =>
      cases read
      exact .inl ⟨got,rfl⟩
    | succ remaining =>
      cases event with
      | wouldBlock =>
        simp only [recvTimeoutLoop] at read
        split at read
        next _ =>
          cases read
          exact .inr (.inl rfl)
        next _ => exact ih read
      | chunk first more =>
        simp only [recvTimeoutLoop] at read
        split at read
        next _ =>
          cases read
          exact .inr (.inl rfl)
        next _ =>
          split at read
          next whole =>
            rcases ih read with full | failed | ⟨closed,none,fewer,count⟩
            · exact .inl full
            · exact .inr (.inl failed)
            · refine .inr (.inr ⟨closed,none,?_,?_⟩)
              · simp only [List.flatMap_cons,RecvEvent.bytes,List.length_append,List.length_cons]
                omega
              · rw [count,List.flatMap_cons,RecvEvent.bytes,List.append_assoc]
          next _ =>
            cases read
            exact .inl ⟨_,rfl⟩

/-- On a clock that does not go back and advances less than 2³² ms, wherever the
counter starts: every wait is proper; a receive of a length that fits an `int`
returns that length with exactly the next bytes of the stream, -1, or, on a
connection that is closed too early, the number of bytes there were. It does
return the length when the bytes come and every wait is answered in time. -/
theorem timed_receive (waiting : Waiting) (steady : waiting.Steady) (timeoutMs : UInt32)
    (finite : timeoutMs.toNat < 2^32 - 1) (len : UInt64) (socket : Socket) (memory : List UInt8)
    (fuel : Nat) :
    (∀ run, Winsock.netRecvAllTimeout fuel waiting socket memory len timeoutMs = some run →
      ∀ wait ∈ run.waits, wait.Proper waiting timeoutMs) ∧
    (len.toNat < 2^31 → len.toNat ≤ memory.length → socket.incoming.length + 1 < fuel →
      ∃ run, Winsock.netRecvAllTimeout fuel waiting socket memory len timeoutMs = some run ∧
        (run.returned = .value len.toInt64 → len.toNat ≤ socket.stream.length ∧
          run.memory = socket.stream.take len.toNat ++ memory.drop len.toNat ∧
          run.socket.stream = socket.stream.drop len.toNat) ∧
        (run.returned = .value len.toInt64 ∨ run.returned = .value (-1) ∨
          socket.ending = .closed ∧ socket.stream.length < len.toNat ∧
            run.returned = .value (Int64.ofInt socket.stream.length) ∧
            run.memory = socket.stream ++ memory.drop socket.stream.length) ∧
        (len.toNat ≤ socket.stream.length →
          waiting.Answers timeoutMs (recvTurns socket.incoming len.toNat) →
          run.returned = .value len.toInt64)) := by
  refine ⟨Winsock.recvAllTimeoutLoop_waits steady finite fuel 0 socket memory 0 [] (by simp),?_⟩
  intro short room enough
  obtain ⟨taken,waits,ran,split⟩ :=
    Winsock.netRecvAllTimeout_eq waiting timeoutMs short socket memory room fuel enough
  refine ⟨_,ran,and_assoc.mp ⟨?_,?_⟩⟩
  case refine_2 =>
    intro complete answers
    obtain ⟨next,read,_⟩ :=
      netRecvAllTimeout_enough socket len.toNat complete (answers.waits steady)
    rw [read]
    rfl
  dsimp only
  cases read : netRecvAllTimeout waiting.patience socket len.toNat timeoutMs with
  | mk received next =>
    rw [read] at split
    have looped : recvTimeoutLoop waiting.patience timeoutMs socket.ending socket.incoming len.toNat 0
        [] = (received,next.incoming) := by
      simp only [netRecvAllTimeout,Prod.mk.injEq] at read
      exact Prod.ext read.1 (congrArg Socket.incoming read.2)
    rcases recvTimeoutLoop_incomplete looped with ⟨data,rfl⟩ | rfl | ⟨closed,none,fewer,rfl⟩
    · obtain ⟨complete,_,left⟩ := netRecvAllTimeout_full read
      have given : taken = socket.stream.take len.toNat := by
        rw [left] at split
        have whole := (List.take_append_drop len.toNat socket.stream).trans split
        exact (List.append_cancel_right whole).symm
      have filled : taken.length = len.toNat := by
        rw [given,List.length_take,Nat.min_eq_left complete]
      refine ⟨fun _ => ⟨complete,?_,left⟩,.inl rfl⟩
      rw [filled,given]
    · exact ⟨fun same => absurd same (Winsock.error_ne_full short),.inr (.inl rfl)⟩
    · have all : taken = socket.stream := by
        have empty : next.stream = [] := by rw [Socket.stream,none]; rfl
        rw [empty,List.append_nil] at split
        exact split.symm
      have shorter : Winsock.Returned.of len (.short socket.stream.length) ≠ .value len.toInt64 :=
        Winsock.received_ne_full short fewer .closed
      refine ⟨fun same => absurd same shorter,.inr (.inr ⟨closed,fewer,rfl,?_⟩)⟩
      rw [all]

def Waiting.wrapping : Waiting where
  clock reading := 2^32 - 2 + min reading 9
  select _ _ := 1

theorem timed_receive_wrapping :
    ∃ run, Winsock.netRecvAllTimeout 5 .wrapping ⟨[.chunk 1 [2],.wouldBlock,.chunk 3 [4]],.closed,[],[]⟩
        [0,0,0] 3 10 = some run ∧
      run.returned = .value 3 ∧ run.memory = [1,2,3] ∧
      ∀ wait ∈ run.waits, wait.Proper .wrapping 10 := by
  have steady : Waiting.wrapping.Steady := by
    refine ⟨?_,?_⟩
    · intro first second order
      simp only [Waiting.wrapping]
      omega
    · intro reading
      simp only [Waiting.wrapping]
      omega
  have timed := timed_receive .wrapping steady 10 (by decide) 3
    ⟨[.chunk 1 [2],.wouldBlock,.chunk 3 [4]],.closed,[],[]⟩ [0,0,0] 5
  obtain ⟨run,ran,exact_,_,succeeds⟩ := timed.2 (by decide) (by decide) (by decide)
  have whole : run.returned = .value 3 := by
    apply succeeds (by decide)
    refine ⟨?_,?_⟩
    · intro turn before
      have limit : (10 : UInt32).toNat = 10 := rfl
      simp only [Waiting.elapsed,Waiting.wrapping,limit]
      omega
    · intro turn before
      have one : (0 : Int32) < 1 := by decide
      exact one
  exact ⟨run,ran,whole,(exact_ whole).2.1,timed.1 run ran⟩

end UsbOverNetwork
