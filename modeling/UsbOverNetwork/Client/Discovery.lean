import UsbOverNetwork.Library.Text

/-! The search for servers on the local network: two broadcasts, and whatever
datagrams come back before the time is up. -/
namespace UsbOverNetwork
open Text

def maxDiscoveredServers : Nat := 32
def usbipPort : UInt16 := 3240
def discoveryPort : UInt16 := 3241
def discoveryMagic : List UInt8 := ascii "USBIP_DISCOVER"
def serverResponseMagic : List UInt8 := ascii "USBIP_SERVER"

structure DiscoveredServer where
  ipAddress : CString 63
  port : UInt16
  hostname : CString 127
  deviceCount : Int
  responseTimeMs : UInt64
deriving DecidableEq

/-- The source is what `inet_ntoa` makes of the sender's address. -/
structure Datagram where
  source : CString 63
  port : UInt16
  data : List UInt8
deriving DecidableEq

/-- What a turn of the loop gets from `udp_recvfrom_timeout`, between two calls
of `GetTickCount`. -/
structure DiscoveryTurn where
  now : UInt32
  received : Option Datagram
  answered : UInt32
deriving DecidableEq

inductive DiscoveryStatus
  | success
  | invalidParam
  | socketCreate
  | socketOption
  | socketBind
  | socketSend
deriving DecidableEq, Repr

/-- A datagram that does not fit into the buffer is lost, and an empty one is
taken for a timeout. -/
def udpRecvfrom (len : Nat) (received : Option Datagram) : Option Datagram :=
  received.filter fun datagram => 0 < datagram.data.length ∧ datagram.data.length ≤ len

/-- What an `int` holds after a conversion. -/
def toInt (value : Int) : Int := value.bmod (2^32)

def Datagram.text (datagram : Datagram) : List UInt8 := datagram.data.takeWhile (· != 0)

def parseResponse (text : List UInt8) : Option (CString 127 × Int) :=
  if serverResponseMagic.isPrefixOf text then
    let text := (text.drop serverResponseMagic.length).dropWhile (· = 0x20)
    match scanWord 127 text with
    | none => none
    | some (word,rest) => some (.ofBuffer word,((scanInt rest).map toInt).getD 0)
  else none

def discoveryReceive (start : UInt32) (turn : DiscoveryTurn) (servers : List DiscoveredServer) :
    List DiscoveredServer :=
  match udpRecvfrom 511 turn.received with
  | none => servers
  | some datagram =>
    match parseResponse datagram.text with
    | none => servers
    | some (hostname,deviceCount) => servers ++
        [⟨datagram.source,usbipPort,hostname,deviceCount,(turn.answered - start).toUInt64⟩]

/-- The receive loop of `discovery_broadcast`. -/
def discoveryCollect (start timeoutMs : UInt32) :
    List DiscoveryTurn → List DiscoveredServer → List DiscoveredServer
  | [],servers => servers
  | turn::turns,servers =>
    if servers.length < maxDiscoveredServers then
      if turn.now - start ≥ timeoutMs then servers
      else discoveryCollect start timeoutMs turns (discoveryReceive start turn servers)
    else servers

structure DiscoveryCall where
  result : Bool
  created : Bool
  broadcast : Bool
  bound : Bool
  broadcastAddr : CString 63
  sent : Bool
  timeoutMs : UInt32
  start : UInt32
  turns : List DiscoveryTurn

structure DiscoveryOutcome where
  status : DiscoveryStatus
  servers : List DiscoveredServer
  sent : List (CString 63)

def limitedBroadcast : CString 63 := .ofBuffer (ascii "255.255.255.255")

/-- `sent` lists where the request goes: first to the directed broadcast address
and, if that is sent, to the limited one too, whatever becomes of it. -/
def discoveryBroadcast (call : DiscoveryCall) : DiscoveryOutcome :=
  if !call.result then ⟨.invalidParam,[],[]⟩
  else if !call.created then ⟨.socketCreate,[],[]⟩
  else if !call.broadcast then ⟨.socketOption,[],[]⟩
  else if !call.bound then ⟨.socketBind,[],[]⟩
  else if !call.sent then ⟨.socketSend,[],[]⟩
  else ⟨.success,discoveryCollect call.start call.timeoutMs call.turns [],
    [call.broadcastAddr,limitedBroadcast]⟩

/-- A response with something in it besides blanks. -/
def WellFormed (text : List UInt8) : Prop :=
  serverResponseMagic <+: text ∧ ∃ char ∈ text.drop serverResponseMagic.length, isSpace char = false

instance (text : List UInt8) : Decidable (WellFormed text) :=
  inferInstanceAs (Decidable (_ ∧ _))

def DiscoveryTurn.responder (turn : DiscoveryTurn) : Option (CString 63) :=
  (udpRecvfrom 511 turn.received).bind fun datagram =>
    if WellFormed datagram.text then some datagram.source else none

def responders (start timeoutMs : UInt32) (turns : List DiscoveryTurn) : List (CString 63) :=
  (turns.takeWhile fun turn => turn.now - start < timeoutMs).filterMap DiscoveryTurn.responder

theorem blanks_dropped (text : List UInt8) :
    (∀ char ∈ text.dropWhile (· = 0x20), isSpace char = true) ↔ ∀ char ∈ text, isSpace char = true := by
  constructor
  · intro rest char member
    rw [← List.takeWhile_append_dropWhile (p := (· = 0x20)) (l := text)] at member
    rcases List.mem_append.mp member with skipped | left
    · have blank := List.mem_takeWhile_imp (p := fun char => decide (char = 0x20)) skipped
      cases of_decide_eq_true blank
      decide
    · exact rest char left
  · exact fun all char member => all char ((List.dropWhile_sublist _).subset member)

theorem parseResponse_isSome (text : List UInt8) :
    (parseResponse text).isSome = true ↔ WellFormed text := by
  simp only [parseResponse,WellFormed]
  by_cases front : serverResponseMagic <+: text
  · rw [if_pos (List.isPrefixOf_iff_prefix.mpr front)]
    have word := (scanWord_none (show 0 < 127 by decide)
      ((text.drop serverResponseMagic.length).dropWhile (· = 0x20))).trans (blanks_dropped _)
    constructor
    · intro parsed
      refine ⟨front,?_⟩
      by_contra blank
      rw [word.mpr (by simpa using blank)] at parsed
      cases parsed
    · rintro ⟨_,char,member,solid⟩
      split
      next none =>
        rw [word.mp none char member] at solid
        cases solid
      next => rfl
  · rw [if_neg fun same => front (List.isPrefixOf_iff_prefix.mp same)]
    exact iff_of_false nofun fun formed => front formed.1

section Collecting

variable {start timeoutMs : UInt32} {servers : List DiscoveredServer}

theorem discoveryReceive_addresses (start : UInt32) (turn : DiscoveryTurn)
    (servers : List DiscoveredServer) :
    (discoveryReceive start turn servers).map DiscoveredServer.ipAddress =
      servers.map DiscoveredServer.ipAddress ++ turn.responder.toList := by
  simp only [discoveryReceive,DiscoveryTurn.responder]
  cases udpRecvfrom 511 turn.received with
  | none => simp
  | some datagram =>
    have formed := parseResponse_isSome datagram.text
    cases parsed : parseResponse datagram.text with
    | none =>
      rw [parsed] at formed
      have blank : ¬WellFormed datagram.text := fun good => nomatch formed.mpr good
      simp [blank,parsed]
    | some response =>
      rw [parsed] at formed
      simp [formed.mp rfl,parsed]

theorem discoveryCollect_addresses (turns : List DiscoveryTurn)
    (room : servers.length ≤ maxDiscoveredServers) :
    (discoveryCollect start timeoutMs turns servers).map DiscoveredServer.ipAddress =
      (servers.map DiscoveredServer.ipAddress ++ responders start timeoutMs turns).take
        maxDiscoveredServers := by
  induction turns generalizing servers with
  | nil =>
    have short : (servers.map DiscoveredServer.ipAddress).length ≤ maxDiscoveredServers := by
      simpa using room
    simp [discoveryCollect,responders,List.take_of_length_le short]
  | cons turn turns ih =>
    simp only [discoveryCollect]
    by_cases space : servers.length < maxDiscoveredServers
    · rw [if_pos space]
      by_cases late : turn.now - start ≥ timeoutMs
      · rw [if_pos late]
        have ended : responders start timeoutMs (turn::turns) = [] := by
          simp [responders,UInt32.not_lt.mpr late]
        rw [ended,List.append_nil,List.take_of_length_le (by simpa using room)]
      · rw [if_neg late]
        have inTime : turn.now - start < timeoutMs := UInt32.not_le.mp late
        have next : responders start timeoutMs (turn::turns) =
            turn.responder.toList ++ responders start timeoutMs turns := by
          simp only [responders,inTime,decide_true,List.takeWhile_cons_of_pos]
          cases responds : turn.responder <;> simp [responds]
        have grown : (discoveryReceive start turn servers).length ≤ maxDiscoveredServers := by
          have sizes := congrArg List.length (discoveryReceive_addresses start turn servers)
          have single : turn.responder.toList.length ≤ 1 := by cases turn.responder <;> simp
          simp only [List.length_map,List.length_append] at sizes
          omega
        rw [ih grown,discoveryReceive_addresses,next,List.append_assoc]
    · rw [if_neg space]
      have full : (servers.map DiscoveredServer.ipAddress).length = maxDiscoveredServers := by
        rw [List.length_map]
        omega
      rw [List.take_append_of_le_length full.ge,List.take_of_length_le full.le]

end Collecting

def DiscoveryCall.asks (call : DiscoveryCall) : Bool :=
  call.result && call.created && call.broadcast && call.bound && call.sent

/-- No server is listed twice, and no more of them than there is room for. -/
structure DiscoveryOutcome.Listed (outcome : DiscoveryOutcome) : Prop where
  distinct : (outcome.servers.map DiscoveredServer.ipAddress).Nodup
  capacity : outcome.servers.length ≤ maxDiscoveredServers

theorem discoveryBroadcast_addresses (call : DiscoveryCall) :
    (discoveryBroadcast call).servers.map DiscoveredServer.ipAddress =
      if call.asks then (responders call.start call.timeoutMs call.turns).take maxDiscoveredServers
      else [] := by
  obtain ⟨result,created,broadcast,bound,_,sent,_,_,turns⟩ := call
  cases result <;> cases created <;> cases broadcast <;> cases bound <;> cases sent <;>
    first | rfl | exact discoveryCollect_addresses turns (Nat.zero_le _)

/-- Every server is listed once exactly when none of those listed has answered twice. -/
theorem discovery_listed_iff (call : DiscoveryCall) : (discoveryBroadcast call).Listed ↔
    (call.asks = true →
      ((responders call.start call.timeoutMs call.turns).take maxDiscoveredServers).Nodup) := by
  have addresses := discoveryBroadcast_addresses call
  have size := congrArg List.length addresses
  rw [List.length_map] at size
  cases asked : call.asks with
  | false =>
    rw [asked] at addresses size
    exact iff_of_true ⟨by rw [addresses]; exact List.nodup_nil,by simp [size]⟩ nofun
  | true =>
    rw [asked,if_pos rfl] at addresses size
    constructor
    · intro listed _
      rw [← addresses]
      exact listed.distinct
    · intro once
      exact ⟨by rw [addresses]; exact once rfl,size.le.trans (List.length_take_le ..)⟩

def answeredTwice : DiscoveryCall where
  result := true
  created := true
  broadcast := true
  bound := true
  broadcastAddr := .ofBuffer (ascii "192.168.1.255")
  sent := true
  timeoutMs := 3000
  start := 0
  turns :=
    let response := ⟨.ofBuffer (ascii "192.168.1.7"),discoveryPort,ascii "USBIP_SERVER desk 2"⟩
    [⟨0,some response,10⟩,⟨10,some response,11⟩,⟨500,none,1000⟩]

theorem server_listed_twice :
    let outcome := discoveryBroadcast answeredTwice
    outcome.sent = [answeredTwice.broadcastAddr,limitedBroadcast] ∧
      outcome.servers.map DiscoveredServer.ipAddress =
        [.ofBuffer (ascii "192.168.1.7"),.ofBuffer (ascii "192.168.1.7")] ∧ ¬outcome.Listed := by
  have listed : (discoveryBroadcast answeredTwice).servers.map DiscoveredServer.ipAddress =
      [.ofBuffer (ascii "192.168.1.7"),.ofBuffer (ascii "192.168.1.7")] := by decide +kernel
  refine ⟨rfl,listed,fun once => ?_⟩
  have distinct := once.distinct
  rw [listed] at distinct
  simp at distinct

end UsbOverNetwork
