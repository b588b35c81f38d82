import UsbOverNetwork.Common.Network

/-! USB/IP messages as the server builds, packs, sends and receives them.
A structure holds host-order values; packing swaps its words in place, and
the wire carries the packed structure's memory image. -/
namespace UsbOverNetwork
open Bytes

def htobe16 (value : UInt16) : UInt16 := swap16 value
def htobe32 (value : UInt32) : UInt32 := swap32 value
def be16toh (value : UInt16) : UInt16 := swap16 value
def be32toh (value : UInt32) : UInt32 := swap32 value

def usbipProtoVersion : UInt16 := 0x0111
def opReqDevlist : UInt16 := 0x8005
def opReqImport : UInt16 := 0x8003
def opRepDevlist : UInt16 := 0x0005
def opRepImport : UInt16 := 0x0003
def usbipCmdSubmit : UInt32 := 0x00000001
def usbipCmdUnlink : UInt32 := 0x00000002
def usbipRetSubmit : UInt32 := 0x00000003
def usbipRetUnlink : UInt32 := 0x00000004
def usbipStOk : UInt32 := 0x00000000
def usbipStNa : UInt32 := 0x00000001
def usbipStDevBusy : UInt32 := 0x00000002
def usbipDirOut : UInt32 := 0x00000000
def usbipDirIn : UInt32 := 0x00000001

structure UsbipHeaderBasic where
  version : UInt16
  command : UInt16
  status : UInt32
deriving DecidableEq, Repr

structure UsbipUsbDevice where
  path : Vector UInt8 256
  busid : Vector UInt8 32
  busnum : UInt32
  devnum : UInt32
  speed : UInt32
  idVendor : UInt16
  idProduct : UInt16
  bcdDevice : UInt16
  bDeviceClass : UInt8
  bDeviceSubClass : UInt8
  bDeviceProtocol : UInt8
  bConfigurationValue : UInt8
  bNumConfigurations : UInt8
  bNumInterfaces : UInt8
deriving DecidableEq, Repr

structure UsbipUsbInterface where
  bInterfaceClass : UInt8
  bInterfaceSubClass : UInt8
  bInterfaceProtocol : UInt8
  padding : UInt8
deriving DecidableEq, Repr

structure UsbipOpDevlistReply where
  header : UsbipHeaderBasic
  ndev : UInt32
deriving DecidableEq, Repr

structure UsbipOpImportRequest where
  header : UsbipHeaderBasic
  busid : Vector UInt8 32
deriving DecidableEq, Repr

structure UsbipHeaderCommon where
  command : UInt32
  seqnum : UInt32
  devid : UInt32
  direction : UInt32
  ep : UInt32
deriving DecidableEq, Repr

/-- The 28 bytes of the union `u`, laid out as its members `cmd_submit` and
`ret_submit` lay them out; `cmd_unlink` and `ret_unlink` name `word0` only. -/
structure UsbipHeaderUnion where
  word0 : UInt32
  word1 : UInt32
  word2 : UInt32
  word3 : UInt32
  word4 : UInt32
  setup : Vector UInt8 8
deriving DecidableEq, Repr

namespace UsbipHeaderUnion

def zero : UsbipHeaderUnion := ⟨0,0,0,0,0,Vector.replicate 8 0⟩

-- `cmd_submit`
def transferFlags (u : UsbipHeaderUnion) : UInt32 := u.word0
def transferBufferLength (u : UsbipHeaderUnion) : UInt32 := u.word1
def startFrame (u : UsbipHeaderUnion) : UInt32 := u.word2
def numberOfPackets (u : UsbipHeaderUnion) : UInt32 := u.word3
def interval (u : UsbipHeaderUnion) : UInt32 := u.word4
-- `cmd_unlink`
def seqnumToUnlink (u : UsbipHeaderUnion) : UInt32 := u.word0
-- `ret_submit` and `ret_unlink`
def status (u : UsbipHeaderUnion) : UInt32 := u.word0
def actualLength (u : UsbipHeaderUnion) : UInt32 := u.word1

def swapFive (u : UsbipHeaderUnion) : UsbipHeaderUnion :=
  ⟨swap32 u.word0,swap32 u.word1,swap32 u.word2,swap32 u.word3,swap32 u.word4,u.setup⟩

def swapFirst (u : UsbipHeaderUnion) : UsbipHeaderUnion := {u with word0 := swap32 u.word0}

/-- The `switch (command)` of packing and unpacking: which words are integers. -/
def swapFor (command : UInt32) (u : UsbipHeaderUnion) : UsbipHeaderUnion :=
  if command = usbipCmdSubmit then u.swapFive
  else if command = usbipRetSubmit then u.swapFive
  else if command = usbipCmdUnlink then u.swapFirst
  else if command = usbipRetUnlink then u.swapFirst
  else u

end UsbipHeaderUnion

structure UsbipIsoPacketDescriptor where
  offset : UInt32
  length : UInt32
  actualLength : UInt32
  status : UInt32
deriving DecidableEq, Repr

structure UsbipHeader where
  common : UsbipHeaderCommon
  u : UsbipHeaderUnion
deriving DecidableEq, Repr

def usbipPackHeaderBasic (header : UsbipHeaderBasic) : UsbipHeaderBasic :=
  ⟨htobe16 header.version,htobe16 header.command,htobe32 header.status⟩

def usbipUnpackHeaderBasic (header : UsbipHeaderBasic) : UsbipHeaderBasic :=
  ⟨be16toh header.version,be16toh header.command,be32toh header.status⟩

def usbipPackDevice (dev : UsbipUsbDevice) : UsbipUsbDevice :=
  {dev with
    busnum := htobe32 dev.busnum
    devnum := htobe32 dev.devnum
    speed := htobe32 dev.speed
    idVendor := htobe16 dev.idVendor
    idProduct := htobe16 dev.idProduct
    bcdDevice := htobe16 dev.bcdDevice}

def usbipUnpackDevice (dev : UsbipUsbDevice) : UsbipUsbDevice :=
  {dev with
    busnum := be32toh dev.busnum
    devnum := be32toh dev.devnum
    speed := be32toh dev.speed
    idVendor := be16toh dev.idVendor
    idProduct := be16toh dev.idProduct
    bcdDevice := be16toh dev.bcdDevice}

def UsbipHeaderCommon.swapped (common : UsbipHeaderCommon) : UsbipHeaderCommon :=
  ⟨swap32 common.command,swap32 common.seqnum,swap32 common.devid,
    swap32 common.direction,swap32 common.ep⟩

def usbipPackHeader (header : UsbipHeader) (command : UInt32) : UsbipHeader :=
  ⟨header.common.swapped,header.u.swapFor command⟩

def usbipUnpackHeader (header : UsbipHeader) : UsbipHeader :=
  let common := header.common.swapped
  ⟨common,header.u.swapFor common.command⟩

def usbipPackIsoPacket (iso : UsbipIsoPacketDescriptor) : UsbipIsoPacketDescriptor :=
  ⟨htobe32 iso.offset,htobe32 iso.length,htobe32 iso.actualLength,htobe32 iso.status⟩

def usbipUnpackIsoPacket (iso : UsbipIsoPacketDescriptor) : UsbipIsoPacketDescriptor :=
  ⟨be32toh iso.offset,be32toh iso.length,be32toh iso.actualLength,be32toh iso.status⟩

namespace UsbipHeaderBasic

def image (header : UsbipHeaderBasic) : List UInt8 :=
  image16 header.version ++ image16 header.command ++ image32 header.status

def ofImage (image : List UInt8) : UsbipHeaderBasic :=
  ⟨read16 image 0,read16 image 2,read32 image 4⟩

def size : Nat := 8

end UsbipHeaderBasic

def UsbipUsbDevice.image (dev : UsbipUsbDevice) : List UInt8 :=
  dev.path.toList ++ dev.busid.toList ++ image32 dev.busnum ++ image32 dev.devnum ++
    image32 dev.speed ++ image16 dev.idVendor ++ image16 dev.idProduct ++ image16 dev.bcdDevice ++
    [dev.bDeviceClass,dev.bDeviceSubClass,dev.bDeviceProtocol,dev.bConfigurationValue,
      dev.bNumConfigurations,dev.bNumInterfaces]

def UsbipUsbDevice.ofImage (image : List UInt8) : UsbipUsbDevice where
  path := Vector.ofFn fun i => octet image (0+i)
  busid := Vector.ofFn fun i => octet image (256+i)
  busnum := read32 image 288
  devnum := read32 image 292
  speed := read32 image 296
  idVendor := read16 image 300
  idProduct := read16 image 302
  bcdDevice := read16 image 304
  bDeviceClass := octet image 306
  bDeviceSubClass := octet image 307
  bDeviceProtocol := octet image 308
  bConfigurationValue := octet image 309
  bNumConfigurations := octet image 310
  bNumInterfaces := octet image 311

def UsbipUsbDevice.size : Nat := 312

def UsbipUsbInterface.image (iface : UsbipUsbInterface) : List UInt8 :=
  [iface.bInterfaceClass,iface.bInterfaceSubClass,iface.bInterfaceProtocol,iface.padding]

def UsbipUsbInterface.ofImage (image : List UInt8) : UsbipUsbInterface :=
  ⟨octet image 0,octet image 1,octet image 2,octet image 3⟩

def UsbipUsbInterface.size : Nat := 4

namespace UsbipIsoPacketDescriptor

def image (iso : UsbipIsoPacketDescriptor) : List UInt8 :=
  image32 iso.offset ++ image32 iso.length ++ image32 iso.actualLength ++ image32 iso.status

def ofImage (image : List UInt8) : UsbipIsoPacketDescriptor :=
  ⟨read32 image 0,read32 image 4,read32 image 8,read32 image 12⟩

def size : Nat := 16

end UsbipIsoPacketDescriptor

namespace UsbipHeader

def image (header : UsbipHeader) : List UInt8 :=
  image32 header.common.command ++ image32 header.common.seqnum ++ image32 header.common.devid ++
    image32 header.common.direction ++ image32 header.common.ep ++
    image32 header.u.word0 ++ image32 header.u.word1 ++ image32 header.u.word2 ++
    image32 header.u.word3 ++ image32 header.u.word4 ++ header.u.setup.toList

def ofImage (image : List UInt8) : UsbipHeader where
  common := ⟨read32 image 0,read32 image 4,read32 image 8,read32 image 12,read32 image 16⟩
  u := ⟨read32 image 20,read32 image 24,read32 image 28,read32 image 32,read32 image 36,
    Vector.ofFn fun i => octet image (40+i)⟩

def size : Nat := 48

end UsbipHeader

def decodeHeader (bytes : List UInt8) : UsbipHeader := usbipUnpackHeader (.ofImage bytes)

def usbipCreateDevlistRequest : UsbipHeaderBasic := ⟨usbipProtoVersion,opReqDevlist,0⟩

/-- The busid is copied by `strncpy` into a zeroed array, up to its last byte. -/
def usbipCreateImportRequest (busid : List UInt8) : UsbipOpImportRequest :=
  ⟨⟨usbipProtoVersion,opReqImport,0⟩,(CString.ofBuffer busid : CString 31).buffer⟩

def usbipCreateDevlistReply (ndev : UInt32) : UsbipOpDevlistReply :=
  ⟨⟨usbipProtoVersion,opRepDevlist,usbipStOk⟩,ndev⟩

def usbipCreateUrbUnlinkRet (seqnum devid status : UInt32) : UsbipHeader where
  common := ⟨usbipRetUnlink,seqnum,devid,0,0⟩
  u := {UsbipHeaderUnion.zero with word0 := status}

def UsbipHeader.read (seqnum length : UInt32) : UsbipHeader where
  common := ⟨usbipCmdSubmit,seqnum,0x00010001,usbipDirIn,1⟩
  u := {UsbipHeaderUnion.zero with word1 := length}

def UsbipHeader.write (seqnum length : UInt32) : UsbipHeader where
  common := ⟨usbipCmdSubmit,seqnum,0x00010001,usbipDirOut,2⟩
  u := {UsbipHeaderUnion.zero with word1 := length}

def UsbipHeader.unlink (seqnum target : UInt32) : UsbipHeader where
  common := ⟨usbipCmdUnlink,seqnum,0x00010001,usbipDirOut,0⟩
  u := {UsbipHeaderUnion.zero with word0 := target}

/-- The check `sent != sizeof(packed)` that every send of the protocol makes. -/
def sendExact (socket : Socket) (bytes : List UInt8) : ErrorCode × Socket :=
  let (count,next) := netSendAll socket bytes
  (if count ≠ bytes.length then .socketSend else .success,next)

/-- The check `received != sizeof(*header)` that every receive of the protocol
makes; `none` while `recv` has not returned. -/
def recvExact {α : Type} (socket : Socket) (len : Nat) (decode : List UInt8 → α) :
    Option (Except ErrorCode α × Socket) :=
  match netRecvAll socket len with
  | (.full bytes,next) => some (.ok (decode bytes),next)
  | (.blocked,_) => none
  | (_,next) => some (.error .socketRecv,next)

def usbipRecvHeaderBasic (socket : Socket) : Option (Except ErrorCode UsbipHeaderBasic × Socket) :=
  recvExact socket UsbipHeaderBasic.size fun bytes => usbipUnpackHeaderBasic (.ofImage bytes)

def usbipSendDevice (socket : Socket) (device : UsbipUsbDevice) : ErrorCode × Socket :=
  sendExact socket (usbipPackDevice device).image

def usbipRecvDevice (socket : Socket) : Option (Except ErrorCode UsbipUsbDevice × Socket) :=
  recvExact socket UsbipUsbDevice.size fun bytes => usbipUnpackDevice (.ofImage bytes)

def usbipSendInterface (socket : Socket) (iface : UsbipUsbInterface) : ErrorCode × Socket :=
  sendExact socket iface.image

def usbipRecvInterface (socket : Socket) : Option (Except ErrorCode UsbipUsbInterface × Socket) :=
  recvExact socket UsbipUsbInterface.size UsbipUsbInterface.ofImage

def usbipSendUrbHeader (socket : Socket) (header : UsbipHeader) : ErrorCode × Socket :=
  sendExact socket (usbipPackHeader header header.common.command).image

def usbipRecvUrbHeader (socket : Socket) : Option (Except ErrorCode UsbipHeader × Socket) :=
  recvExact socket UsbipHeader.size decodeHeader

def usbipSendUrbData (socket : Socket) (data : List UInt8) : ErrorCode × Socket :=
  if data.length = 0 then (.success,socket) else sendExact socket data

def usbipRecvUrbData (socket : Socket) (length : UInt32) :
    Option (Except ErrorCode (List UInt8) × Socket) :=
  if length = 0 then some (.ok [],socket) else recvExact socket length.toNat id

theorem sendExact_success (socket : Socket) (bytes : List UInt8)
    (ok : (sendExact socket bytes).1 = .success) :
    (sendExact socket bytes).2.sent = socket.sent ++ bytes := by
  apply netSendAll_all
  simp only [sendExact] at ok
  split at ok
  next different => contradiction
  next all => simpa using all

theorem sendExact_delivers (socket : Socket) (bytes : List UInt8) (delivers : socket.Delivers) :
    ∃ next, sendExact socket bytes = (.success,next) ∧ next.Delivers ∧
      next.sent = socket.sent ++ bytes ∧ next.incoming = socket.incoming := by
  obtain ⟨all,left⟩ := sendLoop_delivers bytes.length socket.outgoing bytes socket.sent delivers
  have ok : (sendExact socket bytes).1 = .success := by
    simp only [sendExact,netSendAll,all,ne_eq,not_true,if_false]
  exact ⟨(sendExact socket bytes).2,Prod.ext ok rfl,left,sendExact_success socket bytes ok,rfl⟩

theorem sendExact_part (socket : Socket) (bytes : List UInt8) :
    ∃ taken, taken <+: bytes ∧ (sendExact socket bytes).2.sent = socket.sent ++ taken :=
  sendLoop_part bytes.length socket.outgoing bytes socket.sent

theorem sendExact_refused (socket : Socket) (bytes : List UInt8) (refused : socket.refuses = true)
    (some : bytes ≠ []) : (sendExact socket bytes).2.sent = socket.sent ∧
      (sendExact socket bytes).1 = .socketSend := by
  have kept : (sendExact socket bytes).2.sent = socket.sent :=
    sendLoop_refused bytes.length socket.outgoing bytes socket.sent refused some
  refine ⟨kept,?_⟩
  by_cases ok : (sendExact socket bytes).1 = .success
  · have all := sendExact_success socket bytes ok
    rw [kept] at all
    exact absurd (List.self_eq_append_right.mp all) some
  · simp only [sendExact] at ok ⊢
    split
    · rfl
    next all => simp [all] at ok

@[simp] theorem usbipSendUrbHeader_stream (socket : Socket) (header : UsbipHeader) :
    (usbipSendUrbHeader socket header).2.stream = socket.stream := rfl

theorem recvExact_ok {α : Type} (socket next : Socket) (len : Nat) (decode : List UInt8 → α)
    (value : α) (read : recvExact socket len decode = some (.ok value,next)) :
    len ≤ socket.stream.length ∧ value = decode (socket.stream.take len) ∧
      next.stream = socket.stream.drop len ∧ next.ending = socket.ending := by
  by_cases enough : len ≤ socket.stream.length
  · obtain ⟨rest,received,left,ending,_⟩ := netRecvAll_full socket len enough
    simp only [recvExact,received,Option.some.injEq,Prod.mk.injEq,Except.ok.injEq] at read
    obtain ⟨same,rfl⟩ := read
    exact ⟨enough,same.symm,left,ending⟩
  · have received := netRecvAll_fewer socket len (by omega)
    simp only [recvExact,received] at read
    cases ending : socket.ending <;> simp [ending] at read

theorem recvExact_enough {α : Type} (socket : Socket) (len : Nat) (decode : List UInt8 → α)
    (enough : len ≤ socket.stream.length) :
    ∃ next, recvExact socket len decode = some (.ok (decode (socket.stream.take len)),next) ∧
      next.stream = socket.stream.drop len ∧ next.ending = socket.ending := by
  obtain ⟨next,received,left,ending,_⟩ := netRecvAll_full socket len enough
  exact ⟨next,by simp [recvExact,received],left,ending⟩

theorem recvExact_fewer {α : Type} (socket : Socket) (len : Nat) (decode : List UInt8 → α)
    (fewer : socket.stream.length < len) :
    recvExact socket len decode = if socket.ending = .silent then none
      else some (.error .socketRecv,{socket with incoming := []}) := by
  simp only [recvExact,netRecvAll_fewer socket len fewer]
  cases socket.ending <;> simp

structure Socket.Advances (first second : Socket) : Prop where
  length : second.stream.length ≤ first.stream.length
  ending : second.ending = first.ending

theorem Socket.Advances.refl (socket : Socket) : socket.Advances socket := ⟨le_rfl,rfl⟩

theorem recvExact_next {α : Type} (socket next : Socket) (len : Nat) (decode : List UInt8 → α)
    (result : Except ErrorCode α) (read : recvExact socket len decode = some (result,next)) :
    socket.Advances next := by
  by_cases enough : len ≤ socket.stream.length
  · obtain ⟨rest,received,left,ending⟩ := recvExact_enough socket len decode enough
    cases received.symm.trans read
    exact ⟨by simp [left],ending⟩
  · rw [recvExact_fewer socket len decode (by omega)] at read
    split at read
    next _ => cases read
    next _ =>
      cases read
      exact ⟨by simp [Socket.stream],rfl⟩

theorem recvExact_error {α : Type} (socket next : Socket) (len : Nat) (decode : List UInt8 → α)
    (err : ErrorCode) (read : recvExact socket len decode = some (.error err,next)) :
    err = .socketRecv := by
  simp only [recvExact] at read
  split at read <;> cases read
  rfl

theorem recvExact_output {α : Type} (socket next : Socket) (len : Nat) (decode : List UInt8 → α)
    (result : Except ErrorCode α) (read : recvExact socket len decode = some (result,next)) :
    next.sent = socket.sent ∧ next.outgoing = socket.outgoing := by
  have kept : (netRecvAll socket len).2.sent = socket.sent ∧
      (netRecvAll socket len).2.outgoing = socket.outgoing := ⟨rfl,rfl⟩
  simp only [recvExact] at read
  split at read
  next received =>
    cases read
    rwa [received] at kept
  next _ => cases read
  next received =>
    cases read
    rwa [received] at kept

theorem recvExact_none {α : Type} (socket : Socket) (len : Nat) (decode : List UInt8 → α)
    (blocked : recvExact socket len decode = none) :
    socket.stream.length < len ∧ socket.ending = .silent := by
  by_cases enough : len ≤ socket.stream.length
  · obtain ⟨rest,received,_⟩ := recvExact_enough socket len decode enough
    cases received.symm.trans blocked
  · rw [recvExact_fewer socket len decode (by omega)] at blocked
    split at blocked
    next silent => exact ⟨by omega,silent⟩
    next _ => cases blocked

structure Socket.SameInput (first second : Socket) : Prop where
  incoming : second.incoming = first.incoming
  ending : second.ending = first.ending

theorem Socket.SameInput.trans {first second third : Socket} (left : first.SameInput second)
    (right : second.SameInput third) : first.SameInput third :=
  ⟨right.incoming.trans left.incoming,right.ending.trans left.ending⟩

theorem Socket.SameInput.stream {first second : Socket} (same : first.SameInput second) :
    second.stream = first.stream := by
  rw [Socket.stream,same.incoming,Socket.stream]

theorem Socket.SameInput.advances {first second : Socket} (same : first.SameInput second) :
    first.Advances second := ⟨by rw [same.stream],same.ending⟩

theorem sendExact_sameInput (socket : Socket) (bytes : List UInt8) :
    socket.SameInput (sendExact socket bytes).2 := ⟨rfl,rfl⟩

end UsbOverNetwork
