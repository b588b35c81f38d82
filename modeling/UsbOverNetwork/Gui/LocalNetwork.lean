import UsbOverNetwork.Common.Addresses
import UsbOverNetwork.Gui.Discovery

/-! A search on the client's own link: who hears the requests, and what becomes
of the answers in whatever order, how often and how late they arrive. -/
namespace UsbOverNetwork
open Bytes Text

/-- A host with a server window. `hostname` is what `gethostname` gives. -/
structure NetworkServer where
  address : UnicastAddress
  hostname : Option (CString 127)
  devices : DeviceList

namespace NetworkServer

def name (server : NetworkServer) : CString 127 := server.hostname.getD fallbackHostname

def source (server : NetworkServer) : CString 63 := .ofBuffer (dottedQuad server.address.sAddr)

/-- A socket that is bound to every address takes what is sent to the host, to
the broadcast address of its link and to the limited broadcast address. -/
def Hears (server : NetworkServer) (text : CString 63) : Prop :=
  destination text.chars = server.address.own ∨
    destination text.chars = (ntohl server.address.bcast).toBitVec ∨
    destination text.chars = BitVec.allOnes 32

def answer (server : NetworkServer) (client : CString 63) (port : UInt16) : Option Datagram :=
  (discoveryListenerTurn server.hostname server.devices (some ⟨client,port,discoveryMagic⟩)).map
    fun answered => ⟨server.source,discoveryPort,answered.2.2⟩

def shown (server : NetworkServer) (responseTimeMs : UInt64) : DiscoveredServer :=
  ⟨server.source,usbipPort,server.name,sharedCount server.devices,responseTimeMs⟩

/-- The host name is a word, and the count is one that an `int` holds. -/
structure Plain (server : NetworkServer) : Prop where
  named : server.name.chars ≠ []
  word : ∀ char ∈ server.name.chars, isSpace char = false
  counted : sharedCount server.devices < 2^31

end NetworkServer

structure Arrival where
  now : UInt32
  sender : Option NetworkServer
  answered : UInt32

def Arrival.turn (client : CString 63) (port : UInt16) (arrival : Arrival) : DiscoveryTurn :=
  ⟨arrival.now,arrival.sender.bind fun server => server.answer client port,arrival.answered⟩

def Arrival.shown (start : UInt32) (arrival : Arrival) : Option DiscoveredServer :=
  arrival.sender.map fun server => server.shown (arrival.answered - start).toUInt64

section Answers

variable {server : NetworkServer} {client : CString 63} {port : UInt16} {start timeoutMs : UInt32}

theorem request_taken : discoveryListenerTurn server.hostname server.devices
    (some ⟨client,port,discoveryMagic⟩) =
      some (client,port,(discoveryResponse server.name (sharedCount server.devices)).chars) := by
  have size : 0 < discoveryMagic.length ∧ discoveryMagic.length ≤ 255 := by decide
  have taken : udpRecvfrom 255 (some ⟨client,port,discoveryMagic⟩) =
      some ⟨client,port,discoveryMagic⟩ := by
    rw [udpRecvfrom,Option.filter_some,if_pos]
    exact decide_eq_true size
  have magic : discoveryMagic.isPrefixOf (Datagram.text ⟨client,port,discoveryMagic⟩) = true :=
    show discoveryMagic.isPrefixOf (discoveryMagic.takeWhile (· != 0)) = true by decide
  simp only [discoveryListenerTurn,taken,magic,if_true]
  rfl

theorem answer_text (plain : server.Plain) : server.answer client port =
    some ⟨server.source,discoveryPort,responseText server.name (sharedCount server.devices)⟩ := by
  rw [NetworkServer.answer,request_taken,discoveryResponse_chars plain.counted]
  rfl

theorem receive_answer (plain : server.Plain) (servers : List DiscoveredServer) (now answered : UInt32) :
    discoveryReceive start ⟨now,server.answer client port,answered⟩ servers =
      servers ++ [server.shown (answered - start).toUInt64] := by
  have length : (responseText server.name (sharedCount server.devices)).length ≤ 151 :=
    responseText_length plain.counted
  have some_bytes : 0 < (responseText server.name (sharedCount server.devices)).length := by
    rw [responseText,List.length_append,List.length_cons]
    omega
  have taken : udpRecvfrom 511 (server.answer client port) = server.answer client port := by
    rw [answer_text plain,udpRecvfrom,Option.filter_some,if_pos]
    exact decide_eq_true ⟨some_bytes,length.trans (by decide)⟩
  have text : Datagram.text ⟨server.source,discoveryPort,
      responseText server.name (sharedCount server.devices)⟩ =
      responseText server.name (sharedCount server.devices) :=
    List.takeWhile_eq_self_iff.mpr (responseText_noNul _)
  simp only [discoveryReceive,taken]
  rw [answer_text plain]
  simp only [text,parseResponse_text plain.named plain.word plain.counted]
  rfl

theorem receive_arrival {arrival : Arrival} (plain : ∀ server ∈ arrival.sender, server.Plain)
    (servers : List DiscoveredServer) :
    discoveryReceive start (arrival.turn client port) servers =
      servers ++ (arrival.shown start).toList := by
  obtain ⟨now,sender,answered⟩ := arrival
  cases sender with
  | none => simp [Arrival.turn,Arrival.shown,discoveryReceive,udpRecvfrom]
  | some server => exact receive_answer (plain server rfl) servers now answered

theorem collect_arrivals (arrivals : List Arrival)
    (plain : ∀ arrival ∈ arrivals, ∀ server ∈ arrival.sender, server.Plain)
    {servers : List DiscoveredServer} (room : servers.length ≤ maxDiscoveredServers) :
    discoveryCollect start timeoutMs (arrivals.map (Arrival.turn client port)) servers =
      (servers ++ (arrivals.takeWhile fun arrival => arrival.now - start < timeoutMs).filterMap
        (Arrival.shown start)).take maxDiscoveredServers := by
  induction arrivals generalizing servers with
  | nil => simp [discoveryCollect,List.take_of_length_le room]
  | cons arrival arrivals ih =>
    obtain ⟨first,rest⟩ := List.forall_mem_cons.mp plain
    have now : (arrival.turn client port).now = arrival.now := rfl
    rw [List.map_cons,discoveryCollect,now]
    by_cases space : servers.length < maxDiscoveredServers
    · rw [if_pos space]
      by_cases late : arrival.now - start ≥ timeoutMs
      · have ended : (arrival::arrivals).takeWhile (fun arrival => arrival.now - start < timeoutMs) =
            [] := by simp [UInt32.not_lt.mpr late]
        rw [if_pos late,ended,List.filterMap_nil,List.append_nil,List.take_of_length_le room]
      · have inTime : arrival.now - start < timeoutMs := UInt32.not_le.mp late
        have single : (arrival.shown start).toList.length ≤ 1 := by
          cases arrival.shown start <;> simp
        have grown : (servers ++ (arrival.shown start).toList).length ≤ maxDiscoveredServers := by
          rw [List.length_append]
          omega
        rw [if_neg late,receive_arrival first,ih rest grown,List.takeWhile_cons_of_pos (by simpa using inTime),
          List.filterMap_cons,List.append_assoc]
        cases arrival.shown start <;> rfl
    · rw [if_neg space,List.take_append_of_le_length (by omega),List.take_of_length_le room]

end Answers

section Search

variable {call : DiscoveryCall} {adapters : AdaptersCall} {arrivals : List Arrival}

theorem asks_collects (asks : call.asks = true) : discoveryBroadcast call =
    ⟨.success,discoveryCollect call.start call.timeoutMs call.turns [],
      [call.broadcastAddr,limitedBroadcast]⟩ := by
  simp only [DiscoveryCall.asks,Bool.and_eq_true] at asks
  obtain ⟨⟨⟨⟨result,created⟩,broadcast⟩,bound⟩,sent⟩ := asks
  simp [discoveryBroadcast,result,created,broadcast,bound,sent]

theorem limitedBroadcast_destination : destination limitedBroadcast.chars = BitVec.allOnes 32 := by
  decide +kernel

theorem link_hears {address : UnicastAddress} (chosen : adapters.chosen = some address)
    (some : 0 < address.onLinkPrefixLength) {server : NetworkServer}
    (same : server.address.onLinkPrefixLength = address.onLinkPrefixLength)
    (onLink : server.address.own ∈ address.link) :
    server.Hears (getBroadcastAddress 63 adapters) := by
  apply Or.inr
  apply Or.inl
  rw [destination_broadcast chosen (by decide)]
  exact ((bcast_eq_iff some same).mpr onLink).symm

/-- A search that is answered by plain servers, in whatever order, how often and
how late, lists the answers that come in time as long as there is room: each is
the server it comes from, by its own address, name and number of shared devices.
Every server on the client's link hears both requests. -/
theorem discovery_finds_link {client : CString 63} {port : UInt16} (asks : call.asks = true)
    (addressed : call.broadcastAddr = getBroadcastAddress 63 adapters)
    (turns : call.turns = arrivals.map (Arrival.turn client port))
    (plain : ∀ arrival ∈ arrivals, ∀ server ∈ arrival.sender, server.Plain) :
    (discoveryBroadcast call).servers =
      ((arrivals.takeWhile fun arrival => arrival.now - call.start < call.timeoutMs).filterMap
        (Arrival.shown call.start)).take maxDiscoveredServers ∧
    ∀ address, adapters.chosen = some address → 0 < address.onLinkPrefixLength →
      ∀ server : NetworkServer, server.address.onLinkPrefixLength = address.onLinkPrefixLength →
        server.address.own ∈ address.link →
          (discoveryBroadcast call).sent.length = 2 ∧
          ∀ text ∈ (discoveryBroadcast call).sent, server.Hears text := by
  rw [asks_collects asks]
  refine ⟨?_,?_⟩
  · rw [turns]
    exact collect_arrivals arrivals plain (Nat.zero_le _)
  · intro address chosen some server same onLink
    refine ⟨rfl,?_⟩
    intro text asked
    rcases List.mem_cons.mp asked with rfl | last
    · rw [addressed]
      exact link_hears chosen some same onLink
    · rw [List.mem_singleton.mp last]
      exact Or.inr (Or.inr limitedBroadcast_destination)

def desk : NetworkServer := ⟨⟨0x0901a8c0,24⟩,some (.ofBuffer (ascii "desk")),⟨[]⟩⟩

def shelf : NetworkServer := ⟨⟨0x0a01a8c0,24⟩,none,⟨[createEntry (.keyboard .empty)]⟩⟩

def homeArrivals : List Arrival :=
  [⟨0,some shelf,20⟩,⟨20,some desk,30⟩,⟨30,none,530⟩,⟨530,some shelf,540⟩,⟨3000,some desk,3010⟩]

def homeSearch : DiscoveryCall where
  result := true
  created := true
  broadcast := true
  bound := true
  broadcastAddr := getBroadcastAddress 63 homeAdapters
  sent := true
  timeoutMs := 3000
  start := 0
  turns := homeArrivals.map (Arrival.turn (.ofBuffer (ascii "192.168.1.7")) 50000)

theorem homeArrivals_plain : ∀ arrival ∈ homeArrivals, ∀ server ∈ arrival.sender, server.Plain := by
  have desk_plain : desk.Plain := ⟨by decide,by decide +kernel,by decide⟩
  have shelf_plain : shelf.Plain := ⟨by decide,by decide +kernel,by decide⟩
  intro arrival listed server sent
  simp only [homeArrivals,List.mem_cons,List.not_mem_nil,or_false] at listed
  rcases listed with rfl | rfl | rfl | rfl | rfl <;> cases sent
  · exact shelf_plain
  · exact desk_plain
  · exact shelf_plain
  · exact desk_plain

theorem discovery_finds_link_home :
    (discoveryBroadcast homeSearch).servers = [shelf.shown 20,desk.shown 30,shelf.shown 540] ∧
    (∀ text ∈ (discoveryBroadcast homeSearch).sent, desk.Hears text) := by
  obtain ⟨listed,heard⟩ := @discovery_finds_link homeSearch homeAdapters homeArrivals _ _ rfl rfl rfl
    homeArrivals_plain
  have onLink : desk.address.own ∈ UnicastAddress.link ⟨0x0701a8c0,24⟩ :=
    Subnet.mem_subnet.mpr (by decide)
  refine ⟨?_,(heard ⟨0x0701a8c0,24⟩ rfl (by decide) desk rfl onLink).2⟩
  rw [listed]
  rfl

end Search

end UsbOverNetwork
