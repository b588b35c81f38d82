import UsbOverNetwork.Common.Protocol

/-! USB devices as the server opens, claims, uses and closes them. The
operating system's answers (whether a path opens, what a transfer returns)
are parameters. -/
namespace UsbOverNetwork

def usbMaxInterfaces : Nat := 32

abbrev Busid := CString 31
abbrev Handle := Nat

structure UsbInterfaceInfo where
  classCode : UInt8
  subclassCode : UInt8
  protocol : UInt8
deriving DecidableEq

structure UsbDevice where
  path : CString 255
  busid : Busid
  busnum : UInt32
  devnum : UInt32
  speed : UInt32
  vendorId : UInt16
  productId : UInt16
  bcdDevice : UInt16
  deviceClass : UInt8
  deviceSubclass : UInt8
  deviceProtocol : UInt8
  numConfigurations : UInt8
  configurationValue : UInt8
  numInterfaces : UInt8
  interfaces : Vector UsbInterfaceInfo 32
  handle : Option Handle
  interfaceHandles : Vector (Option Handle) 32
  isOpen : Bool
  isClaimed : Bool
  isVirtual : Bool
  claimedInterface : Int
deriving DecidableEq

/-- What `CreateFileA` and then `WinUsb_Initialize` return. -/
structure OpenOutcome where
  file : Option Handle
  winusb : Option Handle
deriving DecidableEq

def usbOpenDevice (device : UsbDevice) (outcome : OpenOutcome) : ErrorCode × UsbDevice :=
  if device.path.chars = [] then (.invalidParam,device)
  else if device.isOpen then (.success,device)
  else
    match outcome.file,outcome.winusb with
    | some file,some winusb =>
      (.success,{device with
        handle := some file
        interfaceHandles := device.interfaceHandles.set 0 (some winusb)
        isOpen := true
        isVirtual := false})
    -- the file cannot be opened, or it is closed again because WinUSB refused it
    | _,_ => (.success,{device with handle := none, isOpen := true, isVirtual := true})

def usbReleaseInterface (device : UsbDevice) (interfaceNum : UInt8) : ErrorCode × UsbDevice :=
  if !device.isOpen then (.invalidParam,device)
  else if !device.isClaimed || device.claimedInterface != interfaceNum.toNat then (.success,device)
  else (.success,{device with isClaimed := false, claimedInterface := -1})

def usbCloseDevice (device : UsbDevice) : UsbDevice :=
  if !device.isOpen then device
  else
    let device := if device.isClaimed
      then (usbReleaseInterface device (UInt8.ofInt device.claimedInterface)).2 else device
    let device := if !device.isVirtual
      then {device with interfaceHandles := Vector.replicate 32 none, handle := none} else device
    {device with isOpen := false, isVirtual := false}

def usbClaimInterface (device : UsbDevice) (interfaceNum : UInt8) : ErrorCode × UsbDevice :=
  if !device.isOpen then (.invalidParam,device)
  else if device.isClaimed then
    (if device.claimedInterface = interfaceNum.toNat then .success else .usbBusy,device)
  else (.success,{device with isClaimed := true, claimedInterface := interfaceNum.toNat})

/-- A device nobody uses, as enumeration and `usb_close_device` leave it. -/
structure UsbDevice.Closed (device : UsbDevice) : Prop where
  isOpen : device.isOpen = false
  isClaimed : device.isClaimed = false
  isVirtual : device.isVirtual = false
  handle : device.handle = none
  interfaceHandles : device.interfaceHandles = Vector.replicate 32 none

structure UsbDevice.Held (device : UsbDevice) : Prop where
  isOpen : device.isOpen = true
  isClaimed : device.isClaimed = true
  claimedInterface : device.claimedInterface = 0
  unhandled : device.isVirtual = true →
    device.handle = none ∧ device.interfaceHandles = Vector.replicate 32 none

/-- What opening, claiming, releasing and closing do not change. -/
def UsbDevice.reset (device : UsbDevice) : UsbDevice :=
  {device with
    handle := none
    interfaceHandles := Vector.replicate 32 none
    isOpen := false
    isClaimed := false
    isVirtual := false
    claimedInterface := 0}

theorem UsbDevice.Closed.reset {device : UsbDevice} (closed : device.Closed) :
    device.reset = {device with claimedInterface := 0} := by
  obtain ⟨isOpen,isClaimed,isVirtual,handle,interfaceHandles⟩ := closed
  simp only [UsbDevice.reset,isOpen,isClaimed,isVirtual,handle,interfaceHandles]

@[simp] theorem usbOpenDevice_reset (device : UsbDevice) (outcome : OpenOutcome) :
    (usbOpenDevice device outcome).2.reset = device.reset := by
  simp only [usbOpenDevice]
  split
  · rfl
  · split
    · rfl
    · split <;> rfl

@[simp] theorem usbClaimInterface_reset (device : UsbDevice) (interfaceNum : UInt8) :
    (usbClaimInterface device interfaceNum).2.reset = device.reset := by
  simp only [usbClaimInterface]
  split
  · rfl
  · split <;> rfl

@[simp] theorem usbReleaseInterface_reset (device : UsbDevice) (interfaceNum : UInt8) :
    (usbReleaseInterface device interfaceNum).2.reset = device.reset := by
  simp only [usbReleaseInterface]
  split
  · rfl
  · split <;> rfl

@[simp] theorem usbCloseDevice_reset (device : UsbDevice) :
    (usbCloseDevice device).reset = device.reset := by
  have released := usbReleaseInterface_reset device (UInt8.ofInt device.claimedInterface)
  simp only [usbCloseDevice]
  split
  · rfl
  · cases claimed : device.isClaimed with
    | false =>
      simp only [Bool.false_eq_true,if_false]
      split <;> rfl
    | true =>
      simp only [if_true]
      rw [← released]
      split <;> rfl

@[simp] theorem busid_reset (device : UsbDevice) : device.reset.busid = device.busid := rfl

/-- A buffer from `malloc`: a byte is `none` until something is written to it. -/
abbrev Buffer := List (Option UInt8)

structure UsbUrb where
  seqnum : UInt32
  devid : UInt32
  endpoint : UInt8
  direction : UInt8
  type : UInt8
  transferFlags : UInt32
  setup : Vector UInt8 8
  buffer : Option Buffer
  bufferLength : UInt32
  actualLength : UInt32
  status : Int32
  startFrame : UInt32
  numberOfPackets : UInt32
  interval : UInt32
  completed : Bool
  cancelled : Bool
deriving DecidableEq

inductive Transfer
  | control (requestType request : UInt8) (value index length : UInt16)
  | pipe (address : UInt8) (length : UInt32)
deriving DecidableEq

def usbDirIn : UInt8 := 0x80
def usbEndpointXferControl : UInt8 := 0x00
def usbEndpointXferBulk : UInt8 := 0x02

namespace Transfer

def length : Transfer → Nat
  | .control _ _ _ _ length => length.toNat
  | .pipe _ length => length.toNat

def reads : Transfer → Bool
  | .control requestType _ _ _ _ => requestType &&& usbDirIn != 0
  | .pipe address _ => address &&& usbDirIn != 0

end Transfer

/-- What WinUSB reports for one transfer: success, else whether the error was
`ERROR_SEM_TIMEOUT`; the count; and, for a read, the bytes it stored. -/
structure TransferOutcome where
  ok : Bool
  timedOut : Bool
  transferred : UInt32
  data : List UInt8
deriving DecidableEq

/-- A read overwrites the front of the buffer, never more than it was given. -/
def fillBuffer (buffer : Option Buffer) (transfer : Transfer) (outcome : TransferOutcome) :
    Option Buffer :=
  if transfer.reads then
    buffer.map fun bytes =>
      let stored := (outcome.data.take transfer.length).map some
      stored ++ bytes.drop stored.length
  else buffer

def usbControlTransfer (outcome : TransferOutcome) : ErrorCode × UInt32 :=
  if outcome.ok then (.success,outcome.transferred)
  else if outcome.timedOut then (.timeout,0)
  else (.usbIoFailed,0)

def usbBulkTransfer (outcome : TransferOutcome) : ErrorCode × UInt32 :=
  if outcome.ok then (.success,outcome.transferred)
  else if outcome.timedOut then (.timeout,outcome.transferred)
  else (.usbIoFailed,0)

def usbInterruptTransfer (outcome : TransferOutcome) : ErrorCode × UInt32 :=
  usbBulkTransfer outcome

/-- The setup packet is read through `usb_setup_packet_t`, in memory order. -/
def usbTransferOf (urb : UsbUrb) : Transfer :=
  if urb.endpoint = 0 then
    .control urb.setup[0] urb.setup[1] (Bytes.word16 urb.setup[2] urb.setup[3])
      (Bytes.word16 urb.setup[4] urb.setup[5]) urb.bufferLength.toUInt16
  else .pipe urb.endpoint urb.bufferLength

/-- The fields of `usb_setup_packet_t`. -/
def bmRequestType (setup : Vector UInt8 8) : UInt8 := setup[0]
def bRequest (setup : Vector UInt8 8) : UInt8 := setup[1]
def wValue (setup : Vector UInt8 8) : UInt16 := Bytes.word16 setup[2] setup[3]
def wIndex (setup : Vector UInt8 8) : UInt16 := Bytes.word16 setup[4] setup[5]
def wLength (setup : Vector UInt8 8) : UInt16 := Bytes.word16 setup[6] setup[7]

def usbSubmitUrb (device : Option UsbDevice) (urb : UsbUrb) (outcome : TransferOutcome) :
    ErrorCode × UsbUrb :=
  if !device.any UsbDevice.isOpen then (.invalidParam,urb)
  else
    let (result,actualLength) :=
      if urb.endpoint = 0 then usbControlTransfer outcome
      else if urb.type = usbEndpointXferBulk then usbBulkTransfer outcome
      else usbInterruptTransfer outcome
    (result,{urb with
      buffer := fillBuffer urb.buffer (usbTransferOf urb) outcome
      actualLength
      status := if result = .success then 0 else -1
      completed := true})

def usbDeviceToUsbip (device : UsbDevice) : UsbipUsbDevice where
  path := device.path.buffer
  busid := device.busid.buffer
  busnum := device.busnum
  devnum := device.devnum
  speed := device.speed
  idVendor := device.vendorId
  idProduct := device.productId
  bcdDevice := device.bcdDevice
  bDeviceClass := device.deviceClass
  bDeviceSubClass := device.deviceSubclass
  bDeviceProtocol := device.deviceProtocol
  bConfigurationValue := device.configurationValue
  bNumConfigurations := device.numConfigurations
  bNumInterfaces := device.numInterfaces

def UsbDevice.keyboard (busid : Busid) : UsbDevice where
  path := ⟨[0x5c],by decide,by decide⟩
  busid := busid
  busnum := 1
  devnum := 1
  speed := 2
  vendorId := 0x046d
  productId := 0xc31c
  bcdDevice := 0x0100
  deviceClass := 0
  deviceSubclass := 0
  deviceProtocol := 0
  numConfigurations := 1
  configurationValue := 1
  numInterfaces := 1
  interfaces := Vector.replicate 32 ⟨3,1,1⟩
  handle := none
  interfaceHandles := Vector.replicate 32 none
  isOpen := false
  isClaimed := false
  isVirtual := false
  claimedInterface := 0

def UsbUrb.poll : UsbUrb where
  seqnum := 1
  devid := 0x10001
  endpoint := 0x81
  direction := 1
  type := 3
  transferFlags := 0
  setup := Vector.replicate 8 0
  buffer := some (List.replicate 8 none)
  bufferLength := 8
  actualLength := 0
  status := 0
  startFrame := 0
  numberOfPackets := 0
  interval := 10
  completed := false
  cancelled := false

def usbInterfaceToUsbip (iface : UsbInterfaceInfo) : UsbipUsbInterface :=
  ⟨iface.classCode,iface.subclassCode,iface.protocol,0⟩

end UsbOverNetwork
