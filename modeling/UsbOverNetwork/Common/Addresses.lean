import UsbOverNetwork.Library.Subnet
import UsbOverNetwork.Library.Text

/-! The addresses of this host's own adapters, and the broadcast address of the
link they are on. -/
namespace UsbOverNetwork
open Bytes Text

/-- `s_addr` has the bytes of the address in network order; what is computed
with it is the word that a little-endian host reads there. -/
def htonl (value : UInt32) : UInt32 := swap32 value

def ntohl (value : UInt32) : UInt32 := swap32 value

def dottedQuad (sAddr : UInt32) : List UInt8 :=
  [0x2e].intercalate ((image32 sAddr).map fun octet => decimal octet.toNat)

/-- `inet_ntop` into an array of `room + 1` bytes; `none` when it does not fit. -/
def inetNtop (room : Nat) (sAddr : UInt32) : Option (CString room) :=
  if (dottedQuad sAddr).length ≤ room then some (.ofBuffer (dottedQuad sAddr)) else none

/-- A part of an address, as C writes numbers: decimal, octal behind a zero and
hexadecimal behind `0x`. -/
def inetPart (part : List UInt8) : Option Nat :=
  match part with
  | [] => none
  | [0x30] => some 0
  | 0x30::mark::digits =>
    if lower mark = 0x78 then
      if digits ≠ [] ∧ digits.all (fun char => (hexDigit char).isSome) then
        some ((hexDigits digits).foldl (fun value digit => 16*value + digit) 0)
      else none
    else if (mark::digits).all (fun char => 0x30 ≤ char && char ≤ 0x37) then
      some ((mark::digits).foldl (fun value char => 8*value + (char.toNat - 0x30)) 0)
    else none
  | digits => if digits.all isDigit then some (digitsValue digits) else none

/-- The parts of an address, all but the last of them a byte, in the order of
the host; the last part has the bytes that are left. -/
def inetWord : List Nat → Option Nat
  | [last] => if last < 2^32 then some last else none
  | [first,last] =>
    if first < 256 ∧ last < 2^24 then some (2^24*first + last) else none
  | [first,second,last] =>
    if first < 256 ∧ second < 256 ∧ last < 2^16 then some (2^24*first + 2^16*second + last)
    else none
  | [first,second,third,last] =>
    if first < 256 ∧ second < 256 ∧ third < 256 ∧ last < 256 then
      some (2^24*first + 2^16*second + 2^8*third + last)
    else none
  | _ => none

def inaddrNone : UInt32 := 0xffffffff

def inetAddr (text : List UInt8) : UInt32 :=
  match ((text.splitOn 0x2e).mapM inetPart).bind inetWord with
  | none => inaddrNone
  | some word => htonl (UInt32.ofNat word)

/-- What the two functions read of an `IP_ADAPTER_UNICAST_ADDRESS`. -/
structure UnicastAddress where
  sAddr : UInt32
  onLinkPrefixLength : UInt8
deriving DecidableEq

/-- Whether `OperStatus` is `IfOperStatusUp` and `IfType` is
`IF_TYPE_SOFTWARE_LOOPBACK`, and the addresses of the adapter. -/
structure Adapter where
  operStatusUp : Bool
  softwareLoopback : Bool
  unicast : List UnicastAddress
deriving DecidableEq

inductive AdaptersAnswer
  | noError (adapters : List Adapter)
  | bufferOverflow
  | failed

structure AdaptersCall where
  allocated : Bool
  first : AdaptersAnswer
  reallocated : Bool
  second : AdaptersAnswer

inductive AddressError
  | outOfMemory
  | hostNotFound
deriving DecidableEq, Repr

/-- The list of adapters; a buffer that is too small is replaced once. -/
def getAdapters (call : AdaptersCall) : Except AddressError (List Adapter) :=
  if !call.allocated then .error .outOfMemory
  else match call.first with
    | .noError adapters => .ok adapters
    | .failed => .error .hostNotFound
    | .bufferOverflow =>
      if !call.reallocated then .error .outOfMemory
      else match call.second with
        | .noError adapters => .ok adapters
        | _ => .error .hostNotFound

/-- The two loops: the first address of an adapter in use that `write` can write. -/
def firstAddress {α : Type} (write : UnicastAddress → Option α) : List Adapter → Option α
  | [] => none
  | adapter::adapters =>
    if !adapter.operStatusUp || adapter.softwareLoopback then firstAddress write adapters
    else match adapter.unicast.findSome? write with
      | some text => some text
      | none => firstAddress write adapters

/-- For a prefix length of 0 the shift by 32 is undefined in C; here it shifts
by 0, as the processor does. -/
def onLinkMask (prefixLength : UInt8) : UInt32 :=
  if prefixLength < 32 then htonl (~~~(((1 : UInt32) <<< (32 - prefixLength.toUInt32)) - 1))
  else 0xffffffff

def UnicastAddress.bcast (address : UnicastAddress) : UInt32 :=
  (address.sAddr &&& onLinkMask address.onLinkPrefixLength) |||
    ~~~onLinkMask address.onLinkPrefixLength

/-- `get_broadcast_address` into an array of `room + 1` bytes. -/
def getBroadcastAddress (room : Nat) (call : AdaptersCall) : CString room :=
  match getAdapters call with
  | .error _ => .ofBuffer (ascii "255.255.255.255")
  | .ok adapters =>
    (firstAddress (fun address => inetNtop room address.bcast) adapters).getD
      (.ofBuffer (ascii "255.255.255.255"))

/-- `get_local_ip` into an array of `room + 1` bytes. -/
def getLocalIp (room : Nat) (call : AdaptersCall) : Except AddressError (CString room) :=
  match getAdapters call with
  | .error error => .error error
  | .ok adapters =>
    match firstAddress (fun address => inetNtop room address.sAddr) adapters with
    | some text => .ok text
    | none => .error .hostNotFound

section DottedQuads

theorem inetPart_octet (octet : UInt8) : inetPart (decimal octet.toNat) = some octet.toNat := by
  have each : ∀ value < 256, inetPart (decimal value) = some value := by decide +kernel
  exact each _ octet.toNat_lt

theorem decimal_noDot (value : Nat) : (0x2e : UInt8) ∉ decimal value := by
  intro member
  have digit := decimal_isDigit value _ member
  exact absurd digit (by decide)

theorem dottedQuad_splitOn (sAddr : UInt32) :
    (dottedQuad sAddr).splitOn 0x2e = (image32 sAddr).map fun octet => decimal octet.toNat := by
  apply List.splitOn_intercalate
  · intro part member
    obtain ⟨octet,_,rfl⟩ := List.mem_map.mp member
    exact decimal_noDot _
  · simp [image32]

theorem inetAddr_dottedQuad (sAddr : UInt32) : inetAddr (dottedQuad sAddr) = sAddr := by
  have bound (index : Nat) := (byte index sAddr.toNat).toNat_lt
  have word : UInt32.ofNat (2^24*(byte 0 sAddr.toNat).toNat + 2^16*(byte 1 sAddr.toNat).toNat +
      2^8*(byte 2 sAddr.toNat).toNat + (byte 3 sAddr.toNat).toNat) = swap32 sAddr := by
    unfold swap32 word32
    congr 1
    omega
  simp only [inetAddr,dottedQuad_splitOn,image32,List.map_cons,List.map_nil,List.mapM_cons,
    List.mapM_nil,inetPart_octet]
  simp only [bind,pure,Option.bind_some,inetWord,bound,and_self,if_true,word,htonl,swap32_swap32]

theorem dottedQuad_length (sAddr : UInt32) : (dottedQuad sAddr).length ≤ 15 := by
  have three (octet : UInt8) : (decimal octet.toNat).length ≤ 3 :=
    decimal_length_le (by decide) (octet.toNat_lt.trans (by decide))
  have first := three (byte 0 sAddr.toNat)
  have second := three (byte 1 sAddr.toNat)
  have third := three (byte 2 sAddr.toNat)
  have fourth := three (byte 3 sAddr.toNat)
  simp [dottedQuad,image32,List.intercalate]
  omega

theorem dottedQuad_noNul (sAddr : UInt32) : ∀ char ∈ dottedQuad sAddr, (char != 0) = true := by
  have digits (value : Nat) : ∀ char ∈ decimal value, (char != 0) = true := by
    intro char member
    have digit := decimal_isDigit value char member
    by_contra zero
    cases (by simpa using zero : char = 0)
    exact absurd digit (by decide)
  intro char member
  simp only [dottedQuad,image32,List.intercalate,List.map_cons,List.map_nil,List.intersperse,
    List.flatten_cons,List.flatten_nil,List.mem_append,List.mem_singleton,List.append_nil] at member
  rcases member with first | rfl | second | rfl | third | rfl | fourth
  · exact digits _ char first
  · rfl
  · exact digits _ char second
  · rfl
  · exact digits _ char third
  · rfl
  · exact digits _ char fourth

theorem inetNtop_room {room : Nat} (roomy : 15 ≤ room) (sAddr : UInt32) :
    inetNtop room sAddr = some (.ofBuffer (dottedQuad sAddr)) :=
  if_pos ((dottedQuad_length sAddr).trans roomy)

theorem ofBuffer_dottedQuad {room : Nat} (roomy : 15 ≤ room) (sAddr : UInt32) :
    (CString.ofBuffer (dottedQuad sAddr) : CString room).chars = dottedQuad sAddr := by
  simp only [CString.ofBuffer]
  rw [List.takeWhile_eq_self_iff.mpr (dottedQuad_noNul sAddr),
    List.take_of_length_le ((dottedQuad_length sAddr).trans roomy)]

end DottedQuads

section Links

def UnicastAddress.own (address : UnicastAddress) : BitVec 32 := (ntohl address.sAddr).toBitVec

/-- Prefix lengths from 32 on are those of a host on its own. -/
def UnicastAddress.prefixLength (address : UnicastAddress) : Nat :=
  min address.onLinkPrefixLength.toNat 32

def UnicastAddress.link (address : UnicastAddress) : Set (BitVec 32) :=
  Subnet.subnet address.prefixLength address.own

theorem onLinkMask_mask {prefixLength : UInt8} (some : 0 < prefixLength) :
    (ntohl (onLinkMask prefixLength)).toBitVec = Subnet.mask 32 (min prefixLength.toNat 32) := by
  have inside : 0 < prefixLength.toNat := UInt8.lt_iff_toNat_lt.mp some
  unfold onLinkMask
  split
  next short =>
    have within : prefixLength.toNat < 32 := UInt8.lt_iff_toNat_lt.mp short
    rw [ntohl,htonl,swap32_swap32,Nat.min_eq_left within.le,Subnet.mask_eq_not inside within.le]
    have hosts : (32 - prefixLength.toUInt32).toNat = 32 - prefixLength.toNat := by
      rw [UInt32.toNat_sub_of_le _ _ (UInt32.le_iff_toNat_le.mpr (by simpa using within.le))]
      simp
    have shift : ((32 - prefixLength.toUInt32).toBitVec % 32).toNat = 32 - prefixLength.toNat := by
      rw [BitVec.toNat_umod,UInt32.toNat_toBitVec,hosts]
      exact Nat.mod_eq_of_lt (show 32 - prefixLength.toNat < 32 by omega)
    rw [UInt32.toBitVec_not,UInt32.toBitVec_sub,UInt32.toBitVec_shiftLeft,BitVec.shiftLeft_eq',shift]
    rfl
  next long =>
    have outside : 32 ≤ prefixLength.toNat := by
      have least := UInt8.le_iff_toNat_le.mp (UInt8.not_lt.mp long)
      exact least
    rw [Nat.min_eq_right outside]
    decide

theorem bcast_broadcast {address : UnicastAddress} (some : 0 < address.onLinkPrefixLength) :
    (ntohl address.bcast).toBitVec = Subnet.broadcast address.prefixLength address.own := by
  have mask := onLinkMask_mask some
  rw [ntohl] at mask
  simp only [UnicastAddress.bcast,ntohl,swap32_or,swap32_and,swap32_not,UInt32.toBitVec_or,
    UInt32.toBitVec_and,UInt32.toBitVec_not,mask]
  rfl

/-- Two hosts of the same prefix length broadcast to one address exactly when
they are on one link. -/
theorem bcast_eq_iff {address other : UnicastAddress} (some : 0 < address.onLinkPrefixLength)
    (same : other.onLinkPrefixLength = address.onLinkPrefixLength) :
    (ntohl other.bcast).toBitVec = (ntohl address.bcast).toBitVec ↔ other.own ∈ address.link := by
  have lengths : other.prefixLength = address.prefixLength := by
    rw [UnicastAddress.prefixLength,same,UnicastAddress.prefixLength]
  rw [bcast_broadcast some,bcast_broadcast (same ▸ some),lengths,eq_comm]
  exact Subnet.broadcast_eq_iff

end Links

section Adapters

variable {α : Type} {room : Nat}

def addressesInUse (adapters : List Adapter) : List UnicastAddress :=
  (adapters.filter fun adapter => adapter.operStatusUp && !adapter.softwareLoopback).flatMap
    Adapter.unicast

theorem firstAddress_eq (write : UnicastAddress → Option α) (adapters : List Adapter) :
    firstAddress write adapters = (addressesInUse adapters).findSome? write := by
  induction adapters with
  | nil => rfl
  | cons adapter adapters ih =>
    unfold firstAddress
    split
    next skipped =>
      have out : (adapter.operStatusUp && !adapter.softwareLoopback) = false := by
        cases up : adapter.operStatusUp <;> simp_all
      have same : addressesInUse (adapter::adapters) = addressesInUse adapters := by
        rw [addressesInUse,List.filter_cons,out]
        rfl
      rw [ih,same]
    next used =>
      have inside : (adapter.operStatusUp && !adapter.softwareLoopback) = true := by
        simpa using used
      have split : addressesInUse (adapter::adapters) = adapter.unicast ++ addressesInUse adapters := by
        rw [addressesInUse,List.filter_cons,inside]
        rfl
      rw [split,List.findSome?_append,ih]
      cases adapter.unicast.findSome? write <;> rfl

theorem firstAddress_roomy (roomy : 15 ≤ room) (value : UnicastAddress → UInt32)
    (adapters : List Adapter) :
    firstAddress (fun address => inetNtop room (value address)) adapters =
      (addressesInUse adapters).head?.map fun address => .ofBuffer (dottedQuad (value address)) := by
  rw [firstAddress_eq]
  cases addressesInUse adapters with
  | nil => rfl
  | cons address rest => simp [inetNtop_room roomy]

def AdaptersCall.chosen (call : AdaptersCall) : Option UnicastAddress :=
  match getAdapters call with
  | .error _ => none
  | .ok adapters => (addressesInUse adapters).head?

theorem getBroadcastAddress_eq (call : AdaptersCall) (roomy : 15 ≤ room) :
    getBroadcastAddress room call =
      (call.chosen.map fun address => .ofBuffer (dottedQuad address.bcast)).getD
        (.ofBuffer (ascii "255.255.255.255")) := by
  unfold getBroadcastAddress AdaptersCall.chosen
  cases getAdapters call with
  | error => rfl
  | ok adapters =>
    exact congrArg (Option.getD · _) (firstAddress_roomy roomy UnicastAddress.bcast adapters)

theorem getLocalIp_eq (call : AdaptersCall) (roomy : 15 ≤ room) :
    (getLocalIp room call).toOption =
      call.chosen.map fun address => .ofBuffer (dottedQuad address.sAddr) := by
  unfold getLocalIp AdaptersCall.chosen
  cases getAdapters call with
  | error => rfl
  | ok adapters =>
    have written := firstAddress_roomy roomy UnicastAddress.sAddr adapters
    simp only [written]
    cases (addressesInUse adapters).head? <;> rfl

def destination (text : List UInt8) : BitVec 32 := (ntohl (inetAddr text)).toBitVec

theorem destination_dottedQuad (sAddr : UInt32) :
    destination (dottedQuad sAddr) = (ntohl sAddr).toBitVec := by
  rw [destination,inetAddr_dottedQuad]

theorem destination_broadcast {call : AdaptersCall} {address : UnicastAddress}
    (chosen : call.chosen = some address) (roomy : 15 ≤ room) :
    destination (getBroadcastAddress room call).chars = (ntohl address.bcast).toBitVec := by
  rw [getBroadcastAddress_eq call roomy,chosen,Option.map_some,Option.getD_some,
    ofBuffer_dottedQuad roomy,destination_dottedQuad]

/-- A request that is sent to the broadcast address goes to the last address of
the link that this host says it is on, and the hosts that take that address for
their own broadcast address are those with the same first bits. Off every link
it goes to the limited broadcast address. -/
theorem broadcast_covers_link (call : AdaptersCall) (roomy : 15 ≤ room) :
    (call.chosen = none → destination (getBroadcastAddress room call).chars = BitVec.allOnes 32 ∧
      (getLocalIp room call).toOption = none) ∧
    ∀ address, call.chosen = some address → 0 < address.onLinkPrefixLength →
      IsGreatest address.link (destination (getBroadcastAddress room call).chars) ∧
      (∀ other : UnicastAddress, other.onLinkPrefixLength = address.onLinkPrefixLength →
        ((ntohl other.bcast).toBitVec = destination (getBroadcastAddress room call).chars ↔
          ∀ index < address.prefixLength,
            other.own.getMsbD index = address.own.getMsbD index)) ∧
      ∃ text, (getLocalIp room call).toOption = some text ∧ destination text.chars ∈ address.link := by
  rw [getLocalIp_eq call roomy]
  refine ⟨?_,?_⟩
  · intro alone
    have limited : ascii "255.255.255.255" = dottedQuad 0xffffffff := by decide +kernel
    rw [getBroadcastAddress_eq call roomy,alone,Option.map_none,Option.getD_none,limited,
      ofBuffer_dottedQuad roomy,destination_dottedQuad]
    exact ⟨by decide,rfl⟩
  · intro address chosen some
    rw [destination_broadcast chosen roomy,chosen,Option.map_some]
    refine ⟨?_,?_,_,rfl,?_⟩
    · rw [bcast_broadcast some]
      exact Subnet.isGreatest_broadcast address.own
    · intro other same
      rw [bcast_eq_iff some same]
      exact Subnet.mem_subnet_iff_bits (Nat.min_le_right _ _)
    · rw [ofBuffer_dottedQuad roomy,destination_dottedQuad]
      exact Subnet.self_mem_subnet address.own

def homeAdapters : AdaptersCall where
  allocated := true
  first := .bufferOverflow
  reallocated := true
  second := .noError [⟨true,true,[⟨0x0100007f,8⟩]⟩,⟨false,false,[⟨0x0100a8c0,16⟩]⟩,
    ⟨true,false,[⟨0x0701a8c0,24⟩]⟩]

theorem broadcast_covers_link_home :
    (getBroadcastAddress 63 homeAdapters).chars = ascii "192.168.1.255" ∧
    IsGreatest (UnicastAddress.link ⟨0x0701a8c0,24⟩)
      (destination (getBroadcastAddress 63 homeAdapters).chars) := by
  have covers := (broadcast_covers_link homeAdapters (show 15 ≤ 63 by decide)).2 ⟨0x0701a8c0,24⟩ rfl
    (by decide)
  exact ⟨by decide +kernel,covers.1⟩

end Adapters

end UsbOverNetwork
