import UsbOverNetwork.Client.Discovery
import UsbOverNetwork.Server.DeviceList

/-! The server's answer to a discovery request, and what the client reads out
of it. -/
namespace UsbOverNetwork
open Text

/-- What the listener has for a host name when `gethostname` fails. -/
def fallbackHostname : CString 127 := .ofBuffer (ascii "USB-Server")

def sharedCount (devices : DeviceList) : Nat := devices.entries.countP DeviceEntry.isShared

/-- The text that `snprintf` prints, before it is cut to the buffer. -/
def responseText (hostname : CString 127) (count : Int) : List UInt8 :=
  serverResponseMagic ++ 0x20::(hostname.chars ++ 0x20::decimalInt count)

def discoveryResponse (hostname : CString 127) (count : Int) : CString 255 :=
  .ofBuffer (responseText hostname count)

/-- One turn of `discovery_listener_thread`: the address, the port and the bytes
of the answer, if there is one. -/
def discoveryListenerTurn (hostname : Option (CString 127)) (devices : DeviceList)
    (received : Option Datagram) : Option (CString 63 × UInt16 × List UInt8) :=
  match udpRecvfrom 255 received with
  | none => none
  | some request =>
    if discoveryMagic.isPrefixOf request.text then
      some (request.source,request.port,
        (discoveryResponse (hostname.getD fallbackHostname) (sharedCount devices)).chars)
    else none

section Responses

variable {hostname : CString 127}

theorem decimal_small {count : Nat} (small : count < 2^31) : (decimal count).length ≤ 10 :=
  decimal_length_le (by decide) (small.trans (by decide))

theorem decimalInt_nat (count : Nat) : decimalInt count = decimal count := by
  simp [decimalInt]

theorem responseText_length {count : Nat} (small : count < 2^31) :
    (responseText hostname count).length ≤ 151 := by
  have digits := decimal_small small
  have fits := hostname.fits
  have magic : serverResponseMagic.length = 12 := by decide
  simp only [responseText,decimalInt_nat,List.length_append,List.length_cons,magic]
  omega

theorem responseText_noNul (count : Nat) : ∀ char ∈ responseText hostname count, (char != 0) = true := by
  have magic : ∀ char ∈ serverResponseMagic, (char != 0) = true := List.all_eq_true.mp (by decide)
  have host : ∀ char ∈ hostname.chars, (char != 0) = true := by
    intro char member
    simpa using ne_of_mem_of_not_mem member hostname.noNul
  have digits : ∀ char ∈ decimal count, (char != 0) = true := by
    intro char member
    have digit := decimal_isDigit count char member
    by_contra zero
    cases (by simpa using zero : char = 0)
    exact absurd digit (by decide)
  intro char member
  simp only [responseText,decimalInt_nat,List.mem_append,List.mem_cons] at member
  rcases member with front | rfl | name | rfl | number
  · exact magic char front
  · rfl
  · exact host char name
  · rfl
  · exact digits char number

theorem discoveryResponse_chars {count : Nat} (small : count < 2^31) :
    (discoveryResponse hostname count).chars = responseText hostname count := by
  have length := @responseText_length hostname _ small
  simp only [discoveryResponse,CString.ofBuffer]
  rw [List.takeWhile_eq_self_iff.mpr (responseText_noNul count),List.take_of_length_le (by omega)]

theorem parseResponse_text (named : hostname.chars ≠ [])
    (plain : ∀ char ∈ hostname.chars, isSpace char = false) {count : Nat} (small : count < 2^31) :
    parseResponse (responseText hostname count) = some (hostname,(count : Int)) := by
  have front : serverResponseMagic.isPrefixOf (responseText hostname count) = true :=
    List.isPrefixOf_iff_prefix.mpr (List.prefix_append _ _)
  obtain ⟨first,more,split⟩ := List.exists_cons_of_ne_nil named
  have begins : first ≠ 0x20 := by
    rintro rfl
    have solid := plain 0x20 (by rw [split]; exact List.mem_cons_self)
    exact absurd solid (by decide)
  have name : (0x20::(hostname.chars ++ 0x20::decimalInt count)).dropWhile (· = 0x20) =
      hostname.chars ++ 0x20::decimalInt count := by
    rw [split]
    simp [begins]
  have word : scanWord 127 (hostname.chars ++ 0x20::decimalInt count) =
      some (hostname.chars,0x20::decimalInt count) :=
    scanWord_word named plain hostname.fits (by rintro _ ⟨⟩; rfl)
  have number : scanInt ([0x20] ++ decimalInt count) = some (count : Int) :=
    scanInt_decimal count (List.forall_mem_singleton.mpr (by decide))
  rw [List.singleton_append] at number
  have kept : toInt count = count := by
    simp only [toInt]
    exact Int.bmod_eq_of_le (by omega) (by omega)
  rw [parseResponse,if_pos front]
  simp only [responseText,List.drop_left,name,word,number,Option.map_some,Option.getD_some,kept,
    CString.ofBuffer_chars]

theorem discoveryListenerTurn_answer {devices : DeviceList} {request : Option Datagram}
    {answer : CString 63 × UInt16 × List UInt8}
    (answered : discoveryListenerTurn (some hostname) devices request = some answer) :
    answer.2.2 = (discoveryResponse hostname (sharedCount devices)).chars := by
  unfold discoveryListenerTurn at answered
  split at answered
  next => cases answered
  next datagram _ =>
    split at answered
    next => cases answered; rfl
    next => cases answered

/-- What the listener answers fits its buffer, and a client that receives it in
time lists the host name and the count that the listener has put in. -/
theorem discovery_round_trip (named : hostname.chars ≠ [])
    (plain : ∀ char ∈ hostname.chars, isSpace char = false) {devices : DeviceList}
    (small : sharedCount devices < 2^31) {request : Option Datagram}
    {answer : CString 63 × UInt16 × List UInt8}
    (answered : discoveryListenerTurn (some hostname) devices request = some answer) :
    (responseText hostname (sharedCount devices)).length ≤ 255 ∧
    answer.2.2 = responseText hostname (sharedCount devices) ∧
    ∀ (start timeoutMs : UInt32) (turn : DiscoveryTurn) (turns : List DiscoveryTurn)
      (servers : List DiscoveredServer) (source : CString 63) (port : UInt16),
      turn.received = some ⟨source,port,answer.2.2⟩ →
      turn.now - start < timeoutMs → servers.length < maxDiscoveredServers →
        discoveryCollect start timeoutMs (turn::turns) servers =
          discoveryCollect start timeoutMs turns (servers ++
            [⟨source,usbipPort,hostname,sharedCount devices,(turn.answered - start).toUInt64⟩]) := by
  have length : (responseText hostname (sharedCount devices)).length ≤ 151 :=
    responseText_length small
  have printed : answer.2.2 = responseText hostname (sharedCount devices) :=
    (discoveryListenerTurn_answer answered).trans (discoveryResponse_chars small)
  refine ⟨by omega,printed,?_⟩
  intro start timeoutMs turn turns servers source port received inTime room
  rw [printed] at received
  have text : Datagram.text ⟨source,port,responseText hostname (sharedCount devices)⟩ =
      responseText hostname (sharedCount devices) :=
    List.takeWhile_eq_self_iff.mpr (responseText_noNul _)
  have taken : udpRecvfrom 511 turn.received =
      some ⟨source,port,responseText hostname (sharedCount devices)⟩ := by
    have some_bytes : 0 < (responseText hostname (sharedCount devices)).length := by
      rw [responseText,List.length_append,List.length_cons]
      omega
    rw [received]
    simp [udpRecvfrom,Option.filter,some_bytes]
    omega
  have listed : discoveryReceive start turn servers = servers ++
      [⟨source,usbipPort,hostname,sharedCount devices,(turn.answered - start).toUInt64⟩] := by
    simp only [discoveryReceive,taken,text,parseResponse_text named plain small]
  rw [discoveryCollect,if_pos room,if_neg (UInt32.not_le.mpr inTime),listed]

end Responses

def longestName : CString 127 := ⟨List.replicate 127 0x61,by simp,by simp⟩

/-- As many shared devices as an `int` can count. -/
def crowdedList : DeviceList := ⟨List.replicate 2147483647 (createEntry (.keyboard .empty))⟩

theorem crowdedList_shared : sharedCount crowdedList = 2147483647 := by
  have shared : (createEntry (.keyboard .empty)).isShared = true := rfl
  rw [sharedCount,crowdedList,List.countP_replicate,if_pos shared]

/-- The longest name and the largest count. -/
theorem discovery_round_trip_longest : ∃ answer,
    discoveryListenerTurn (some longestName) crowdedList (some ⟨.empty,50000,discoveryMagic⟩) =
      some answer ∧ answer.2.2.length ≤ 255 ∧
    discoveryCollect 0 3000 [⟨0,some ⟨.empty,discoveryPort,answer.2.2⟩,10⟩] [] =
      [⟨.empty,usbipPort,longestName,2147483647,10⟩] := by
  have plain : ∀ char ∈ longestName.chars, isSpace char = false := by
    intro char member
    rw [List.eq_of_mem_replicate member]
    rfl
  have asked : udpRecvfrom 255 (some ⟨.empty,50000,discoveryMagic⟩) =
      some ⟨.empty,50000,discoveryMagic⟩ := by decide +kernel
  have answered : discoveryListenerTurn (some longestName) crowdedList
      (some ⟨.empty,50000,discoveryMagic⟩) = some (.empty,50000,
        (discoveryResponse longestName (sharedCount crowdedList)).chars) := by
    have magic : discoveryMagic.isPrefixOf (Datagram.text ⟨.empty,50000,discoveryMagic⟩) = true := by
      decide +kernel
    simp only [discoveryListenerTurn,asked,magic,if_true,Option.getD_some]
  obtain ⟨fits,printed,received⟩ := discovery_round_trip (by simp [longestName]) plain
    (by rw [crowdedList_shared]; decide) answered
  refine ⟨_,answered,printed ▸ fits,?_⟩
  have listed := received 0 3000 ⟨0,some ⟨.empty,discoveryPort,_⟩,10⟩ [] [] .empty discoveryPort rfl
    (by decide) (by decide)
  rw [crowdedList_shared] at listed ⊢
  exact listed

end UsbOverNetwork
