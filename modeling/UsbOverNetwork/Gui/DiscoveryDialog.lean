import UsbOverNetwork.Client.Discovery

/-! The message in which the client lists the servers it has found. It is built
in a buffer of fixed size, one line for each server. -/
namespace UsbOverNetwork
open Text

/-- Text without anything beyond ASCII, as wide characters. -/
def wideText (text : List UInt8) : List UInt16 := text.map UInt8.toUInt16

/-- The conversion of an ASCII string that is shorter than the buffer. -/
def guiUtf8ToWide (utf8 : List UInt8) (wideLen : Nat) : List UInt16 :=
  (wideText utf8).take (wideLen - 1)

def dialogHeading : List UInt16 := wideText (ascii "Found servers:\n\n")
def dialogClosing : List UInt16 := wideText (ascii "\nUsing first server.")

def dialogLine (index : Nat) (server : DiscoveredServer) : List UInt16 :=
  let ipW := guiUtf8ToWide server.ipAddress.chars 32
  (wideText (decimal (index+1)) ++ wideText (ascii ". ") ++ ipW ++ wideText (ascii "\n")).take 63

/-- What `msg` holds after each `wcscat`. -/
def dialogAppends (msg : List UInt16) (index : Nat) : List DiscoveredServer → List (List UInt16)
  | [] => [msg ++ dialogClosing]
  | server::servers =>
    let msg := msg ++ dialogLine index server
    msg::dialogAppends msg (index+1) servers

/-- The address put into the server field, what `msg` holds after each write to
it, and what is shown. -/
structure DiscoveryDialog where
  server : Option (CString 63)
  writes : List (List UInt16)
  shown : List UInt16

def showDiscoveryResults : List DiscoveredServer → DiscoveryDialog
  | [] =>
    ⟨none,[],wideText (ascii "No servers found on LAN.\nTry entering IP address manually.")⟩
  | [server] => ⟨some server.ipAddress,[],wideText (ascii "Found 1 server. Address filled in.")⟩
  | first::others =>
    let writes := dialogHeading::dialogAppends dialogHeading 0 (first::others)
    ⟨some first.ipAddress,writes,writes.getLastD []⟩

def msgSize : Nat := 512

/-- No write goes beyond the end of `msg`, its terminator included. -/
def DiscoveryDialog.Fits (dialog : DiscoveryDialog) : Prop :=
  ∀ text ∈ dialog.writes, text.length + 1 ≤ msgSize

def DottedQuad (text : List UInt8) : Prop :=
  ∃ a b c d : UInt8, text = decimal a.toNat ++ 0x2e::(decimal b.toNat ++
    0x2e::(decimal c.toNat ++ 0x2e::decimal d.toNat))

def addressesLength : List DiscoveredServer → Nat
  | [] => 0
  | server::rest => server.ipAddress.chars.length + addressesLength rest

theorem DottedQuad.length_le {text : List UInt8} (quad : DottedQuad text) : text.length ≤ 15 := by
  obtain ⟨a,b,c,d,rfl⟩ := quad
  have part (byte : UInt8) : (decimal byte.toNat).length ≤ 3 :=
    decimal_length_le (by decide) (byte.toNat_lt.trans (by decide))
  have first := part a
  have second := part b
  have third := part c
  have fourth := part d
  simp only [List.length_append,List.length_cons]
  omega

theorem decimal_length {value : Nat} (small : value < 100) :
    (decimal value).length = if value < 10 then 1 else 2 := by
  have some := List.length_pos_of_ne_nil (decimal_ne_nil value)
  have two : (decimal value).length ≤ 2 := decimal_length_le (by decide) small
  split
  next one =>
    have single : (decimal value).length ≤ 1 := decimal_length_le (by decide) one
    omega
  next more =>
    have longer : ¬ (decimal value).length ≤ 1 := by
      rw [decimal,List.length_map,Nat.length_toDigits_le_iff (by decide) (by decide)]
      exact more
    omega

theorem dialogLine_length {index : Nat} {server : DiscoveredServer} (small : index < 32)
    (quad : DottedQuad server.ipAddress.chars) :
    (dialogLine index server).length =
      (if index < 9 then 1 else 2) + 3 + server.ipAddress.chars.length := by
  have short := quad.length_le
  have digits := decimal_length (show index+1 < 100 by omega)
  have blank : (ascii ". ").length = 2 := rfl
  have newline : (ascii "\n").length = 1 := rfl
  simp only [dialogLine,guiUtf8ToWide,wideText,List.length_take,List.length_append,List.length_map,
    digits,blank,newline]
  split <;> split <;> omega

theorem dialogAppends_fit_iff (servers : List DiscoveredServer) (msg : List UInt16) (index : Nat)
    (quads : ∀ server ∈ servers, DottedQuad server.ipAddress.chars)
    (small : index + servers.length ≤ 32) :
    (∀ text ∈ dialogAppends msg index servers, text.length + 1 ≤ msgSize) ↔
      msg.length + addressesLength servers + 4*servers.length +
        ((index + servers.length - 9) - (index - 9)) + 21 ≤ msgSize := by
  induction servers generalizing msg index with
  | nil =>
    have closing : dialogClosing.length = 20 := rfl
    simp only [dialogAppends,List.forall_mem_singleton,List.length_append,closing,addressesLength,
      List.length_nil]
    omega
  | cons server servers ih =>
    rw [List.length_cons] at small
    have line := dialogLine_length (show index < 32 by omega) (quads server List.mem_cons_self)
    have rest := ih (msg ++ dialogLine index server) (index+1)
      (fun other listed => quads other (List.mem_cons_of_mem _ listed)) (by omega)
    simp only [dialogAppends,List.forall_mem_cons]
    rw [rest,List.length_append,line]
    simp only [addressesLength,List.length_cons]
    split <;> omega

theorem showDiscoveryResults_fits_iff (servers : List DiscoveredServer)
    (quads : ∀ server ∈ servers, DottedQuad server.ipAddress.chars)
    (capacity : servers.length ≤ maxDiscoveredServers) :
    (showDiscoveryResults servers).Fits ↔ servers.length ≤ 1 ∨
      addressesLength servers + 4*servers.length + (servers.length - 9) ≤ 475 := by
  cases servers with
  | nil => exact iff_of_true (by simp [DiscoveryDialog.Fits,showDiscoveryResults]) (.inl (by simp))
  | cons first others =>
    cases others with
    | nil => exact iff_of_true (by simp [DiscoveryDialog.Fits,showDiscoveryResults]) (.inl le_rfl)
    | cons second others =>
      have heading : dialogHeading.length = 16 := rfl
      have appends := dialogAppends_fit_iff (first::second::others) dialogHeading 0 quads
        (by rw [Nat.zero_add]; exact capacity)
      simp only [DiscoveryDialog.Fits,showDiscoveryResults,List.forall_mem_cons (a := dialogHeading)]
      rw [appends,heading]
      simp only [List.length_cons,msgSize]
      omega

/-- Whoever sends the client a datagram does so from an IPv4 address. -/
def DiscoveryCall.QuadSources (call : DiscoveryCall) : Prop :=
  ∀ turn ∈ call.turns, ∀ datagram, turn.received = some datagram →
    DottedQuad datagram.source.chars

theorem responder_quad {turn : DiscoveryTurn} {source : CString 63}
    (quads : ∀ datagram, turn.received = some datagram → DottedQuad datagram.source.chars)
    (responds : turn.responder = some source) : DottedQuad source.chars := by
  obtain ⟨datagram,received,given⟩ := Option.bind_eq_some_iff.mp responds
  split at given
  next _ =>
    cases given
    exact quads datagram (Option.filter_eq_some_iff.mp received).1
  next _ => cases given

theorem discovered_quad {call : DiscoveryCall} (sources : call.QuadSources) :
    ∀ server ∈ (discoveryBroadcast call).servers, DottedQuad server.ipAddress.chars := by
  intro server listed
  have address := List.mem_map_of_mem (f := DiscoveredServer.ipAddress) listed
  rw [discoveryBroadcast_addresses call] at address
  split at address
  next _ =>
    obtain ⟨turn,heard,responds⟩ := List.mem_filterMap.mp (List.mem_of_mem_take address)
    have inTime := List.takeWhile_sublist _ |>.subset heard
    exact responder_quad (sources turn inTime) responds
  next _ => cases address

theorem discovered_capacity (call : DiscoveryCall) :
    (discoveryBroadcast call).servers.length ≤ maxDiscoveredServers := by
  have size := congrArg List.length (discoveryBroadcast_addresses call)
  rw [List.length_map] at size
  rw [size]
  split
  next _ => exact List.length_take_le _ _
  next _ => exact Nat.zero_le _

/-- The message stays inside its buffer exactly when the discovered servers are
at most one, or few enough for the length of their addresses. -/
theorem discovery_dialog_fits_iff (call : DiscoveryCall) (sources : call.QuadSources) :
    (showDiscoveryResults (discoveryBroadcast call).servers).Fits ↔
      (discoveryBroadcast call).servers.length ≤ 1 ∨
      addressesLength (discoveryBroadcast call).servers + 4*(discoveryBroadcast call).servers.length +
        ((discoveryBroadcast call).servers.length - 9) ≤ 475 :=
  showDiscoveryResults_fits_iff _ (discovered_quad sources) (discovered_capacity call)

theorem answeredTwice_quads : answeredTwice.QuadSources := by
  intro turn listed datagram received
  have source : DottedQuad (ascii "192.168.1.7") := ⟨192,168,1,7,by decide⟩
  simp only [answeredTwice,List.mem_cons,List.not_mem_nil,or_false] at listed
  rcases listed with rfl | rfl | rfl
  · cases received
    exact source
  · cases received
    exact source
  · cases received

theorem discovery_dialog_fits_twice :
    (showDiscoveryResults (discoveryBroadcast answeredTwice).servers).Fits := by
  have few : addressesLength (discoveryBroadcast answeredTwice).servers +
      4*(discoveryBroadcast answeredTwice).servers.length +
      ((discoveryBroadcast answeredTwice).servers.length - 9) ≤ 475 := by decide +kernel
  exact (discovery_dialog_fits_iff answeredTwice answeredTwice_quads).mpr (.inr few)

def crowdedNetwork : DiscoveryCall where
  result := true
  created := true
  broadcast := true
  bound := true
  broadcastAddr := .ofBuffer (ascii "192.168.100.255")
  sent := true
  timeoutMs := 3000
  start := 0
  turns := (List.range 32).map fun host =>
    ⟨0,some ⟨.ofBuffer (ascii "192.168.100." ++ decimal (100 + host)),discoveryPort,
      ascii "USBIP_SERVER desk 2"⟩,10⟩

theorem crowdedNetwork_quads : crowdedNetwork.QuadSources := by
  have printed : ∀ host < 32,
      (CString.ofBuffer (ascii "192.168.100." ++ decimal (100 + host)) : CString 63).chars =
        decimal (192 : UInt8).toNat ++ 0x2e::(decimal (168 : UInt8).toNat ++
          0x2e::(decimal (100 : UInt8).toNat ++ 0x2e::decimal (UInt8.ofNat (100 + host)).toNat)) := by
    decide +kernel
  intro turn listed datagram received
  obtain ⟨host,inside,rfl⟩ := List.mem_map.mp listed
  cases received
  exact ⟨192,168,100,UInt8.ofNat (100 + host),printed host (List.mem_range.mp inside)⟩

theorem crowded_dialog_overflows :
    crowdedNetwork.QuadSources ∧
      ¬ (showDiscoveryResults (discoveryBroadcast crowdedNetwork).servers).Fits := by
  refine ⟨crowdedNetwork_quads,?_⟩
  rw [showDiscoveryResults_fits_iff _ (discovered_quad crowdedNetwork_quads)
    (discovered_capacity crowdedNetwork)]
  decide +kernel

end UsbOverNetwork
