import UsbOverNetwork.Common.Network

/-! The preshared token: where a program takes it from, and the exchange that
comes first on a connection when it is not empty. -/
namespace UsbOverNetwork

def authTokenMaxLen : Nat := 64
def authWireHeaderLen : Nat := 5
def authTimeoutMs : UInt32 := 5000

/-- A C string of any length. -/
structure Token where
  chars : List UInt8
  noNul : (0 : UInt8) ∉ chars

namespace Token

theorem noNul_nil : (0 : UInt8) ∉ ([] : List UInt8) := List.not_mem_nil

def empty : Token := ⟨[],noNul_nil⟩

@[ext] theorem ext {first second : Token} (same : first.chars = second.chars) : first = second := by
  cases first; cases second; congr

instance : DecidableEq Token := fun _ _ => decidable_of_iff _ ⟨ext,congrArg chars⟩

def truncate (room : Nat) (token : Token) : Token :=
  ⟨token.chars.take room,fun member => token.noNul (List.mem_of_mem_take member)⟩

end Token

def defaultAuthToken : Token := .empty

def authGetToken (cliArg env : Option Token) : Token :=
  match cliArg.filter (·.chars ≠ []) with
  | some token => token
  | none =>
    match env.filter (·.chars ≠ []) with
    | some token => token
    | none => defaultAuthToken

def authIsEnabled (token : Option Token) : Bool := token.any (·.chars ≠ [])

/-- "UBON", most significant byte first. -/
def authWireMagic : List UInt8 := [0x55,0x42,0x4f,0x4e]

/-- The empty list when there is nothing to send. -/
def buildHandshake (bufLen : Nat) (token : Option Token) : List UInt8 :=
  match token.filter (·.chars ≠ []) with
  | none => []
  | some token =>
    if authTokenMaxLen < token.chars.length ∨ bufLen < authWireHeaderLen + token.chars.length then []
    else authWireMagic ++ [UInt8.ofNat token.chars.length] ++ token.chars

/-- What `GetTickCount` returns, call by call, and whether a `socket_select`
finds the socket readable in the time it is given. -/
structure Patience where
  tick : Nat → UInt32
  select : Nat → UInt32 → Bool

/-- One turn of the loop of `net_recv_all_timeout`; the first tick is its start. -/
def Patience.waits (patience : Patience) (timeoutMs : UInt32) (turn : Nat) : Bool :=
  let elapsed := patience.tick (turn+1) - patience.tick 0
  elapsed < timeoutMs && patience.select turn (timeoutMs - elapsed)

/-- Nothing is ever readable on a silent connection. -/
def recvTimeoutLoop (patience : Patience) (timeoutMs : UInt32) (ending : StreamEnd) :
    List RecvEvent → Nat → Nat → List UInt8 → Received × List RecvEvent
  | events,0,_,got => (.full got,events)
  | [],_+1,turn,got =>
    match ending with
    | .closed => (if patience.waits timeoutMs turn then .short got.length else .error,[])
    | .failed => (.error,[])
    | .silent => (.error,[])
  | .wouldBlock::events,remaining+1,turn,got =>
    if !patience.waits timeoutMs turn then (.error,.wouldBlock::events)
    else recvTimeoutLoop patience timeoutMs ending events (remaining+1) (turn+1) got
  | .chunk first rest::events,remaining+1,turn,got =>
    if !patience.waits timeoutMs turn then (.error,.chunk first rest::events)
    else if rest.length ≤ remaining then
      recvTimeoutLoop patience timeoutMs ending events (remaining - rest.length) (turn+1)
        (got ++ first::rest)
    else
      (.full (got ++ first::rest.take remaining),RecvEvent.unread (rest.drop remaining) events)

def netRecvAllTimeout (patience : Patience) (socket : Socket) (len : Nat) (timeoutMs : UInt32) :
    Received × Socket :=
  let (result,incoming) := recvTimeoutLoop patience timeoutMs socket.ending socket.incoming len 0 []
  (result,{socket with incoming})

/-- Zero when the tokens agree in what the comparison looks at: the low byte of
both lengths and the bytes that both have. -/
def tokenDiff (expected got : List UInt8) : UInt8 :=
  (List.zipWith (· ^^^ ·) expected got).foldl (· ||| ·)
    (UInt8.ofNat (expected.length ^^^ got.length))

structure HandshakeWaits where
  header : Patience
  token : Patience

def authServerHandshake (expectedToken : Option Token) (waits : HandshakeWaits) (socket : Socket) :
    ErrorCode × Socket :=
  match expectedToken.filter (·.chars ≠ []) with
  | none => (.success,socket)
  | some expected =>
    match netRecvAllTimeout waits.header socket authWireHeaderLen authTimeoutMs with
    | (.full header,socket) =>
      if header.take 4 ≠ authWireMagic then (.permissionDenied,socket)
      else
        let length := (header.getD 4 0).toNat
        if length = 0 ∨ authTokenMaxLen < length then (.permissionDenied,socket)
        else
          match netRecvAllTimeout waits.token socket length authTimeoutMs with
          | (.full got,socket) =>
            (if tokenDiff expected.chars got = 0 then .success else .permissionDenied,socket)
          | (_,socket) => (.permissionDenied,socket)
    | (_,socket) => (.permissionDenied,socket)

def authClientHandshake (socket : Socket) (token : Option Token) : ErrorCode × Socket :=
  if !authIsEnabled token then (.success,socket)
  else
    let bytes := buildHandshake (authWireHeaderLen + authTokenMaxLen) token
    if bytes = [] then (.invalidParam,socket)
    else
      let (sent,socket) := netSendAll socket bytes
      (if sent = bytes.length then .success else .socketSend,socket)

theorem authGetToken_env {cliArg : Option Token} {token : Token} (enabled : token.chars ≠ [])
    (agrees : ∀ arg, cliArg = some arg → arg.chars = [] ∨ arg = token) :
    authGetToken cliArg (some token) = token := by
  have env : (some token).filter (·.chars ≠ []) = some token := by simp [Option.filter,enabled]
  cases cliArg with
  | none => simp [authGetToken,Option.filter,enabled]
  | some arg =>
    rcases agrees arg rfl with blank | rfl
    · simp [authGetToken,Option.filter,blank,enabled]
    · simp [authGetToken,Option.filter,enabled]

theorem authIsEnabled_some {token : Token} (enabled : token.chars ≠ []) :
    authIsEnabled (some token) = true := by
  simp [authIsEnabled,enabled]

theorem foldl_or_eq_zero (bytes : List UInt8) (start : UInt8) :
    bytes.foldl (· ||| ·) start = 0 ↔ start = 0 ∧ ∀ byte ∈ bytes, byte = 0 := by
  induction bytes generalizing start with
  | nil => simp
  | cons byte bytes ih =>
    rw [List.foldl_cons,ih,UInt8.or_eq_zero_iff,List.forall_mem_cons,and_assoc]

theorem zipWith_xor_eq_zero (first second : List UInt8) :
    (∀ byte ∈ List.zipWith (· ^^^ ·) first second, byte = 0) ↔
      first.take second.length = second.take first.length := by
  induction first generalizing second with
  | nil => simp
  | cons byte first ih =>
    cases second with
    | nil => simp
    | cons other second => simp [ih]

theorem lengths_xor (first second : Nat) :
    UInt8.ofNat (first ^^^ second) = 0 ↔ first % 256 = second % 256 := by
  rw [UInt8.ofNat_xor,UInt8.xor_eq_zero_iff,← UInt8.toNat_inj,UInt8.toNat_ofNat',UInt8.toNat_ofNat']

/-- The comparison accepts every token that agrees with the beginning of the
expected one and in length with the low byte of its length. -/
theorem tokenDiff_eq_zero (expected got : List UInt8) : tokenDiff expected got = 0 ↔
    expected.length % 256 = got.length % 256 ∧
      expected.take got.length = got.take expected.length := by
  rw [tokenDiff,foldl_or_eq_zero,lengths_xor,zipWith_xor_eq_zero]

theorem recvTimeoutLoop_full {patience : Patience} {timeoutMs : UInt32} {ending : StreamEnd}
    {events rest : List RecvEvent} {len turn : Nat} {got data : List UInt8}
    (read : recvTimeoutLoop patience timeoutMs ending events len turn got = (.full data,rest)) :
    len ≤ (events.flatMap RecvEvent.bytes).length ∧
      data = got ++ (events.flatMap RecvEvent.bytes).take len ∧
      rest.flatMap RecvEvent.bytes = (events.flatMap RecvEvent.bytes).drop len := by
  induction events generalizing len turn got with
  | nil =>
    cases len with
    | zero =>
      cases read
      simp
    | succ remaining =>
      cases ending with
      | closed =>
        simp only [recvTimeoutLoop] at read
        split at read <;> cases read
      | failed => cases read
      | silent => cases read
  | cons event events ih =>
    cases len with
    | zero =>
      cases read
      simp
    | succ remaining =>
      cases event with
      | wouldBlock =>
        simp only [recvTimeoutLoop] at read
        split at read
        · cases read
        · simpa [RecvEvent.bytes] using ih read
      | chunk first more =>
        simp only [recvTimeoutLoop] at read
        split at read
        · cases read
        · split at read
          next whole =>
            obtain ⟨enough,filled,left⟩ := ih read
            simp only [List.flatMap_cons,RecvEvent.bytes,List.length_append,List.length_cons]
            refine ⟨by omega,?_,?_⟩
            · rw [filled]
              simp [List.take_append,List.take_of_length_le whole]
            · rw [left]
              simp [List.drop_append,List.drop_of_length_le whole]
          next longer =>
            have inside : remaining - more.length = 0 := by omega
            cases read
            simp only [List.flatMap_cons,RecvEvent.bytes,List.length_append,List.length_cons]
            refine ⟨by omega,?_,?_⟩
            · simp [List.take_append,inside]
            · simp [List.drop_append,inside]

def recvTurns : List RecvEvent → Nat → Nat
  | _,0 => 0
  | [],_+1 => 0
  | event::events,remaining+1 => recvTurns events (remaining + 1 - event.bytes.length) + 1

theorem recvTimeoutLoop_enough {patience : Patience} {timeoutMs : UInt32} (ending : StreamEnd)
    (events : List RecvEvent) (len turn : Nat) (got : List UInt8)
    (enough : len ≤ (events.flatMap RecvEvent.bytes).length)
    (waits : ∀ i < recvTurns events len, patience.waits timeoutMs (turn + i) = true) :
    ∃ rest, recvTimeoutLoop patience timeoutMs ending events len turn got =
      (.full (got ++ (events.flatMap RecvEvent.bytes).take len),rest) := by
  induction events generalizing len turn got with
  | nil =>
    have none : len = 0 := by simpa using enough
    subst none
    exact ⟨[],by simp [recvTimeoutLoop]⟩
  | cons event events ih =>
    cases len with
    | zero => exact ⟨event::events,by simp [recvTimeoutLoop]⟩
    | succ remaining =>
      have first_turn : patience.waits timeoutMs turn = true := waits 0 (Nat.succ_pos _)
      have later (i : Nat) (turns : i < recvTurns events (remaining + 1 - event.bytes.length)) :
          patience.waits timeoutMs (turn+1+i) = true := by
        rw [Nat.add_assoc,Nat.add_comm 1]
        exact waits (i+1) (Nat.succ_lt_succ turns)
      cases event with
      | wouldBlock =>
        obtain ⟨rest,read⟩ := ih (remaining+1) (turn+1) got (by simpa [RecvEvent.bytes] using enough)
          later
        exact ⟨rest,by simpa [recvTimeoutLoop,first_turn,RecvEvent.bytes] using read⟩
      | chunk first more =>
        simp only [List.flatMap_cons,RecvEvent.bytes,List.length_append,List.length_cons] at enough
        simp only [RecvEvent.bytes,List.length_cons,Nat.reduceSubDiff] at later
        by_cases whole : more.length ≤ remaining
        · obtain ⟨rest,read⟩ := ih (remaining - more.length) (turn+1) (got ++ first::more) (by omega)
            later
          refine ⟨rest,?_⟩
          simp only [recvTimeoutLoop,first_turn,Bool.not_true,Bool.false_eq_true,if_false,if_pos whole,
            read]
          simp [RecvEvent.bytes,List.take_append,List.take_of_length_le whole]
        · have inside : remaining - more.length = 0 := by omega
          refine ⟨RecvEvent.unread (more.drop remaining) events,?_⟩
          simp only [recvTimeoutLoop,first_turn,Bool.not_true,Bool.false_eq_true,if_false,if_neg whole]
          simp [RecvEvent.bytes,List.take_append,inside]

theorem netRecvAllTimeout_full {patience : Patience} {socket next : Socket} {len : Nat}
    {timeoutMs : UInt32} {data : List UInt8}
    (read : netRecvAllTimeout patience socket len timeoutMs = (.full data,next)) :
    len ≤ socket.stream.length ∧ data = socket.stream.take len ∧
      next.stream = socket.stream.drop len := by
  cases looped : recvTimeoutLoop patience timeoutMs socket.ending socket.incoming len 0 [] with
  | mk result rest =>
    simp only [netRecvAllTimeout,looped,Prod.mk.injEq] at read
    obtain ⟨rfl,rfl⟩ := read
    exact recvTimeoutLoop_full looped

theorem netRecvAllTimeout_enough {patience : Patience} {timeoutMs : UInt32} (socket : Socket)
    (len : Nat) (enough : len ≤ socket.stream.length)
    (waits : ∀ turn < recvTurns socket.incoming len, patience.waits timeoutMs turn = true) :
    ∃ next, netRecvAllTimeout patience socket len timeoutMs = (.full (socket.stream.take len),next) ∧
      next.stream = socket.stream.drop len := by
  obtain ⟨rest,looped⟩ := recvTimeoutLoop_enough socket.ending socket.incoming len 0 [] enough
    (fun turn turns => by rw [Nat.zero_add]; exact waits turn turns)
  have read : netRecvAllTimeout patience socket len timeoutMs =
      (.full (socket.stream.take len),{socket with incoming := rest}) := by
    simp [netRecvAllTimeout,looped,Socket.stream]
  exact ⟨_,read,(netRecvAllTimeout_full read).2.2⟩

theorem getD_of_take {bytes : List UInt8} (front : List UInt8) (enough : front.length < bytes.length)
    (same : bytes.take front.length = front) :
    bytes.take (front.length+1) = front ++ [bytes.getD front.length 0] := by
  rw [List.take_succ_eq_append_getElem enough,same,List.getD_eq_getElem?_getD,
    List.getElem?_eq_getElem enough,Option.getD_some]

theorem authServerHandshake_accepts {expected : Token} {waits : HandshakeWaits}
    {socket next : Socket} (enabled : expected.chars ≠ [])
    (accepted : authServerHandshake (some expected) waits socket = (.success,next)) :
    ∃ got : List UInt8, 0 < got.length ∧ got.length ≤ authTokenMaxLen ∧
      authWireMagic ++ UInt8.ofNat got.length::got <+: socket.stream ∧
      tokenDiff expected.chars got = 0 := by
  have filtered : (some expected).filter (·.chars ≠ []) = some expected := by
    simp [Option.filter,enabled]
  simp only [authServerHandshake,filtered] at accepted
  split at accepted
  next header middle first =>
    obtain ⟨enough,rfl,left⟩ := netRecvAllTimeout_full first
    split at accepted
    next _ => cases accepted
    next magic =>
      generalize named : (socket.stream.take authWireHeaderLen).getD 4 0 = length at accepted
      split at accepted
      next _ => cases accepted
      next proper =>
        split at accepted
        next got last second =>
          obtain ⟨more,rfl,_⟩ := netRecvAllTimeout_full second
          have taken : (middle.stream.take length.toNat).length = length.toNat := by
            rw [List.length_take,Nat.min_eq_left more]
          have header : socket.stream.take authWireHeaderLen = authWireMagic ++ [length] := by
            have five : (socket.stream.take authWireHeaderLen).length = authWireHeaderLen := by
              rw [List.length_take,Nat.min_eq_left enough]
            have split : (socket.stream.take authWireHeaderLen).take authWireHeaderLen =
                authWireMagic ++ [(socket.stream.take authWireHeaderLen).getD 4 0] :=
              getD_of_take authWireMagic (by rw [five]; decide) (not_ne_iff.mp magic)
            rwa [List.take_of_length_le five.le,named] at split
          refine ⟨middle.stream.take length.toNat,by omega,by omega,?_,?_⟩
          · rw [taken,UInt8.ofNat_toNat,left]
            have whole : socket.stream.take (authWireHeaderLen + length.toNat) = authWireMagic ++
                length::(socket.stream.drop authWireHeaderLen).take length.toNat := by
              rw [List.take_add,header]
              simp
            exact whole ▸ List.take_prefix _ _
          · by_contra differs
            rw [if_neg differs] at accepted
            cases accepted
        next _ => cases accepted
  next _ => cases accepted

theorem authServerHandshake_result (expected : Option Token) (waits : HandshakeWaits) (socket : Socket) :
    (authServerHandshake expected waits socket).1 = .success ∨
      (authServerHandshake expected waits socket).1 = .permissionDenied := by
  simp only [authServerHandshake]
  split
  next _ => exact .inl rfl
  next expected _ =>
    split
    next header middle _ =>
      split
      next _ => exact .inr rfl
      next _ =>
        generalize header.getD 4 0 = length
        split
        next _ => exact .inr rfl
        next _ =>
          split
          next got last _ =>
            by_cases same : tokenDiff expected.chars got = 0
            · exact .inl (if_pos same)
            · exact .inr (if_neg same)
          next _ => exact .inr rfl
    next _ => exact .inr rfl

/-- Every part of the header and of a token of this length comes before its
timeout. -/
structure HandshakeWaits.InTime (waits : HandshakeWaits) (socket : Socket) (length : Nat) : Prop where
  header : ∀ turn < recvTurns socket.incoming authWireHeaderLen,
    waits.header.waits authTimeoutMs turn = true
  token : ∀ turn < recvTurns
      (netRecvAllTimeout waits.header socket authWireHeaderLen authTimeoutMs).2.incoming length,
    waits.token.waits authTimeoutMs turn = true

/-- A frame that comes in time is consumed, and no more than it; the comparison
decides. -/
theorem authServerHandshake_frame {expected : Token} (enabled : expected.chars ≠ [])
    {got rest : List UInt8} (some : got ≠ []) (fits : got.length ≤ authTokenMaxLen)
    {waits : HandshakeWaits} {socket : Socket}
    (stream : socket.stream = authWireMagic ++ UInt8.ofNat got.length::got ++ rest)
    (inTime : waits.InTime socket got.length) :
    ∃ next, next.stream = rest ∧ authServerHandshake (Option.some expected) waits socket =
      (if tokenDiff expected.chars got = 0 then .success else .permissionDenied,next) := by
  have filtered : (Option.some expected).filter (·.chars ≠ []) = Option.some expected := by
    simp [Option.filter,enabled]
  have counts : (UInt8.ofNat got.length).toNat = got.length := by
    simp only [authTokenMaxLen] at fits
    rw [UInt8.toNat_ofNat']
    omega
  obtain ⟨middle,first,left⟩ := netRecvAllTimeout_enough socket authWireHeaderLen
    (by simp [stream,authWireMagic,authWireHeaderLen]) inTime.header
  have token := inTime.token
  rw [first] at token
  rw [stream] at first left
  have remaining : middle.stream = got ++ rest := left
  obtain ⟨last,second,over_frame⟩ := netRecvAllTimeout_enough middle got.length
    (by simp [remaining]) token
  rw [remaining,List.take_left] at second
  rw [remaining,List.drop_left] at over_frame
  have header : (authWireMagic ++ UInt8.ofNat got.length::got ++ rest).take authWireHeaderLen =
      authWireMagic ++ [UInt8.ofNat got.length] := rfl
  have magic : (authWireMagic ++ [UInt8.ofNat got.length]).take 4 = authWireMagic := rfl
  have length : (authWireMagic ++ [UInt8.ofNat got.length]).getD 4 0 = UInt8.ofNat got.length := rfl
  have proper : ¬(got.length = 0 ∨ authTokenMaxLen < got.length) := by
    have positive := List.length_pos_iff.mpr some
    omega
  refine ⟨last,over_frame,?_⟩
  simp only [authServerHandshake,filtered,first,header,magic,length,ne_eq,not_true_eq_false,if_false,
    counts,if_neg proper,second]

/-- A clock that stands still and a socket that is always readable. -/
def Patience.prompt : Patience := ⟨fun _ => 0,fun _ _ => true⟩

theorem prompt_waits (turn : Nat) : Patience.prompt.waits authTimeoutMs turn = true := by
  simp [Patience.waits,Patience.prompt,authTimeoutMs]

theorem prompt_inTime (socket : Socket) (length : Nat) :
    HandshakeWaits.InTime ⟨.prompt,.prompt⟩ socket length :=
  ⟨fun turn _ => prompt_waits turn,fun turn _ => prompt_waits turn⟩

/-- The peer can make the handshake succeed with every token that the comparison
takes for the expected one. -/
theorem authServerHandshake_grants {expected : Token} (enabled : expected.chars ≠ [])
    {got : List UInt8} (some : got ≠ []) (fits : got.length ≤ authTokenMaxLen)
    (same : tokenDiff expected.chars got = 0) :
    ∃ waits socket next, socket.stream = authWireMagic ++ UInt8.ofNat got.length::got ∧
      authServerHandshake (Option.some expected) waits socket = (.success,next) := by
  let socket : Socket :=
    ⟨RecvEvent.unread (authWireMagic ++ UInt8.ofNat got.length::got) [],.closed,[],[]⟩
  have stream : socket.stream = authWireMagic ++ UInt8.ofNat got.length::got := by
    simp [socket,Socket.stream]
  obtain ⟨next,_,accepted⟩ := authServerHandshake_frame enabled some fits
    (stream.trans (List.append_nil _).symm) (prompt_inTime socket got.length)
  exact ⟨⟨.prompt,.prompt⟩,socket,next,stream,by rw [accepted,if_pos same]⟩

/-- Whoever is accepted has sent exactly the expected token. -/
def HandshakeSound (expected : Token) : Prop :=
  ∀ waits socket next, authServerHandshake (some expected) waits socket = (.success,next) →
    ∃ length : UInt8, length.toNat = expected.chars.length ∧
      authWireMagic ++ length::expected.chars <+: socket.stream

theorem handshake_sound_iff (expected : Token) (enabled : expected.chars ≠ []) :
    HandshakeSound expected ↔ expected.chars.length < 256 ∨ expected.chars.length % 256 = 0 ∨
      authTokenMaxLen < expected.chars.length % 256 := by
  constructor
  · intro sound
    by_contra unsound
    simp only [not_or,Nat.not_lt] at unsound
    obtain ⟨long,positive,fits⟩ := unsound
    have length : (expected.chars.take (expected.chars.length % 256)).length =
        expected.chars.length % 256 := by
      rw [List.length_take]
      omega
    have same : tokenDiff expected.chars (expected.chars.take (expected.chars.length % 256)) = 0 := by
      rw [tokenDiff_eq_zero,length]
      exact ⟨(Nat.mod_mod _ _).symm,(List.take_of_length_le (by omega)).symm⟩
    obtain ⟨waits,socket,next,stream,accepted⟩ := authServerHandshake_grants enabled
      (List.ne_nil_of_length_pos (by omega)) (by omega) same
    obtain ⟨count,counts,whole⟩ := sound waits socket next accepted
    have bound := count.toNat_lt
    omega
  · intro condition waits socket next accepted
    obtain ⟨got,some,fits,front,same⟩ := authServerHandshake_accepts enabled accepted
    obtain ⟨lengths,chars⟩ := (tokenDiff_eq_zero _ _).mp same
    simp only [authTokenMaxLen] at fits condition
    have length : got.length = expected.chars.length := by omega
    have equal : got = expected.chars := by
      rwa [length,List.take_length,← length,List.take_length,eq_comm] at chars
    subst equal
    exact ⟨_,by rw [UInt8.toNat_ofNat']; omega,front⟩

def shortToken : Token := ⟨[0x61,0x62],by decide⟩

theorem handshake_sound_short : HandshakeSound shortToken :=
  (handshake_sound_iff shortToken (by decide)).mpr (Or.inl (by decide))

def longToken : Token := ⟨List.replicate 257 0x61,by decide +kernel⟩

/-- Of a token of 257 equal letters the first one is enough. -/
theorem handshake_unsound : ∃ socket next,
    socket.stream = authWireMagic ++ [1,0x61] ∧
    authServerHandshake (some longToken) ⟨.prompt,.prompt⟩ socket = (.success,next) ∧
    ¬HandshakeSound longToken := by
  let socket : Socket := ⟨RecvEvent.unread (authWireMagic ++ [1,0x61]) [],.closed,[],[]⟩
  have computed : (authServerHandshake (some longToken) ⟨.prompt,.prompt⟩ socket).1 = .success := by
    decide +kernel
  generalize handshake : authServerHandshake (some longToken) ⟨.prompt,.prompt⟩ socket = result
    at computed
  refine ⟨socket,result.2,rfl,handshake.trans (Prod.ext computed rfl),fun sound => ?_⟩
  obtain ⟨length,counts,_⟩ := sound _ socket _ (handshake.trans (Prod.ext computed rfl))
  have all : longToken.chars.length = 257 := List.length_replicate
  have bound := length.toNat_lt
  omega

theorem buildHandshake_frame {token : Token} (enabled : token.chars ≠ [])
    (fits : token.chars.length ≤ authTokenMaxLen) :
    buildHandshake (authWireHeaderLen + authTokenMaxLen) (some token) =
      authWireMagic ++ UInt8.ofNat token.chars.length::token.chars := by
  have filtered : (some token).filter (·.chars ≠ []) = some token := by simp [Option.filter,enabled]
  have room : ¬(authTokenMaxLen < token.chars.length ∨
      authWireHeaderLen + authTokenMaxLen < authWireHeaderLen + token.chars.length) := by omega
  simp only [buildHandshake,filtered,if_neg room]
  simp

theorem tokenDiff_short {expected got : Token} (first : expected.chars.length ≤ authTokenMaxLen)
    (second : got.chars.length ≤ authTokenMaxLen) :
    tokenDiff expected.chars got.chars = 0 ↔ expected = got := by
  rw [tokenDiff_eq_zero]
  simp only [authTokenMaxLen] at first second
  constructor
  · intro agree
    have length : expected.chars.length = got.chars.length := by omega
    have chars := agree.2
    rw [← length,List.take_length,length,List.take_length] at chars
    exact Token.ext chars
  · rintro rfl
    exact ⟨rfl,rfl⟩

theorem authClientHandshake_frame {token : Token} (enabled : token.chars ≠ [])
    (fits : token.chars.length ≤ authTokenMaxLen) (peer : Socket) :
    authClientHandshake peer (some token) =
      let frame := authWireMagic ++ UInt8.ofNat token.chars.length::token.chars
      (if (netSendAll peer frame).1 = frame.length then .success else .socketSend,
        (netSendAll peer frame).2) := by
  have nonempty : authWireMagic ++ UInt8.ofNat token.chars.length::token.chars ≠ [] := by
    simp [authWireMagic]
  simp only [authClientHandshake,authIsEnabled_some enabled,Bool.not_true,Bool.false_eq_true,if_false,
    buildHandshake_frame enabled fits,if_neg nonempty]

theorem frame_front {first second rest : List UInt8} (short : first.length ≤ authTokenMaxLen)
    (fits : second.length ≤ authTokenMaxLen)
    (front : authWireMagic ++ UInt8.ofNat first.length::first <+:
      authWireMagic ++ UInt8.ofNat second.length::second ++ rest) : first = second := by
  rw [List.append_assoc,List.prefix_append_right_inj,List.cons_append,List.cons_prefix_cons] at front
  obtain ⟨counts,start⟩ := front
  have lengths : first.length = second.length := by
    simp only [authTokenMaxLen] at short fits
    have same := congrArg UInt8.toNat counts
    rw [UInt8.toNat_ofNat',UInt8.toNat_ofNat'] at same
    omega
  have both := List.prefix_iff_eq_take.mp start
  rwa [lengths,List.take_left] at both

theorem authServerHandshake_denies {expected token : Token} (different : expected ≠ token)
    (enabled : expected.chars ≠ []) (short : expected.chars.length ≤ authTokenMaxLen)
    (fits : token.chars.length ≤ authTokenMaxLen) {socket : Socket} {rest : List UInt8}
    (stream : socket.stream = authWireMagic ++ UInt8.ofNat token.chars.length::token.chars ++ rest)
    (waits : HandshakeWaits) :
    (authServerHandshake (some expected) waits socket).1 = .permissionDenied := by
  refine (authServerHandshake_result _ _ _).resolve_left fun succeeded => ?_
  have accepted : authServerHandshake (some expected) waits socket =
      (.success,(authServerHandshake (some expected) waits socket).2) := Prod.ext succeeded rfl
  obtain ⟨got,_,small,front,same⟩ := authServerHandshake_accepts enabled accepted
  rw [stream] at front
  rw [frame_front small fits front] at same
  exact different ((tokenDiff_short short fits).mp same)

/-- What the client's handshake puts on the stream is taken off it by a server
with the same token, byte for byte, and refused by one with another token. -/
theorem handshake_framed (token : Token) (enabled : token.chars ≠ [])
    (fits : token.chars.length ≤ authTokenMaxLen) (peer : Socket) :
    ∃ frame, frame.length = authWireHeaderLen + token.chars.length ∧
      (peer.Delivers → (authClientHandshake peer (some token)).1 = .success) ∧
      ((authClientHandshake peer (some token)).1 = .success →
        (authClientHandshake peer (some token)).2.sent = peer.sent ++ frame) ∧
      ∀ socket rest, socket.stream = frame ++ rest →
        (∀ waits : HandshakeWaits, waits.InTime socket token.chars.length →
          ∃ next, authServerHandshake (some token) waits socket = (.success,next) ∧
            next.stream = rest) ∧
        ∀ other : Token, other ≠ token → other.chars ≠ [] → other.chars.length ≤ authTokenMaxLen →
          ∀ waits, (authServerHandshake (some other) waits socket).1 = .permissionDenied := by
  have handshake := authClientHandshake_frame enabled fits peer
  refine ⟨authWireMagic ++ UInt8.ofNat token.chars.length::token.chars,?_,?_,?_,?_⟩
  · simp [authWireMagic,authWireHeaderLen]
    omega
  · intro delivers
    rw [handshake]
    exact if_pos (sendLoop_delivers _ _ _ _ delivers).1
  · intro succeeded
    rw [handshake] at succeeded ⊢
    refine netSendAll_all peer _ ?_
    by_contra short
    have failed := (if_neg short).symm.trans succeeded
    cases failed
  · intro socket rest stream
    constructor
    · intro waits inTime
      obtain ⟨next,left,accepted⟩ := authServerHandshake_frame enabled enabled fits stream inTime
      rw [if_pos ((tokenDiff_short fits fits).mpr rfl)] at accepted
      exact ⟨next,accepted,left⟩
    · intro other different named short
      exact authServerHandshake_denies different named short fits stream

def framedRequest : Socket :=
  ⟨(authWireMagic ++ [2,0x61,0x62] ++ [0x01,0x11]).map fun byte => .chunk byte [],.closed,[],[]⟩

theorem handshake_framed_short : ∃ next,
    authServerHandshake (some shortToken) ⟨.prompt,.prompt⟩ framedRequest = (.success,next) ∧
      next.stream = [0x01,0x11] := by
  obtain ⟨frame,_,delivered,sent,received⟩ := handshake_framed shortToken (by decide) (by decide)
    ⟨[],.closed,[],[]⟩
  have framed := sent (delivered (by simp [Socket.Delivers]))
  refine (received framedRequest [0x01,0x11] ?_).1 _ (prompt_inTime _ _)
  rw [← List.nil_append frame,← framed]
  decide +kernel

end UsbOverNetwork
