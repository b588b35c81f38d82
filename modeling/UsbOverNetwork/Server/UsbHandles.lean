import UsbOverNetwork.Library.Ledger
import UsbOverNetwork.Server.UsbHost

/-! The operating system's handles behind a USB device: which calls obtain
and give back a handle, and with which handles WinUSB is called. -/
namespace UsbOverNetwork
open Ledger

inductive OsHandle
  | file (handle : Handle)
  | winusb (handle : Handle)
deriving DecidableEq

abbrev HandleLog := List (Entry OsHandle)

def UsbDevice.osHandles (device : UsbDevice) : List OsHandle :=
  (device.interfaceHandles.toList.filterMap fun handle => handle.map OsHandle.winusb) ++
    device.handle.toList.map OsHandle.file

def usbOpenDeviceLog (device : UsbDevice) (outcome : OpenOutcome) : HandleLog :=
  if device.path.chars = [] then []
  else if device.isOpen then []
  else
    match outcome.file,outcome.winusb with
    | none,_ => []
    -- WinUSB refused the file, which is closed again
    | some file,none => [.obtained (.file file),.released (.file file)]
    | some file,some winusb => [.obtained (.file file),.obtained (.winusb winusb)]

def usbCloseDeviceLog (device : UsbDevice) : HandleLog :=
  if !device.isOpen then []
  else if !device.isVirtual then device.osHandles.map Entry.released else []

def usbResetDevice (device : UsbDevice) (outcome : OpenOutcome) : ErrorCode × UsbDevice :=
  if !device.isOpen then (.invalidParam,device)
  else usbOpenDevice (usbCloseDevice device) outcome

def usbResetDeviceLog (device : UsbDevice) (outcome : OpenOutcome) : HandleLog :=
  if !device.isOpen then []
  else usbCloseDeviceLog device ++ usbOpenDeviceLog (usbCloseDevice device) outcome

inductive UsbCall
  | openDevice (outcome : OpenOutcome)
  | claimInterface (interfaceNum : UInt8)
  | releaseInterface (interfaceNum : UInt8)
  | resetDevice (outcome : OpenOutcome)
  | closeDevice

namespace UsbCall

def device : UsbCall → UsbDevice → UsbDevice
  | .openDevice outcome,device => (usbOpenDevice device outcome).2
  | .claimInterface interfaceNum,device => (usbClaimInterface device interfaceNum).2
  | .releaseInterface interfaceNum,device => (usbReleaseInterface device interfaceNum).2
  | .resetDevice outcome,device => (usbResetDevice device outcome).2
  | .closeDevice,device => usbCloseDevice device

def log : UsbCall → UsbDevice → HandleLog
  | .openDevice outcome,device => usbOpenDeviceLog device outcome
  | .claimInterface _,_ => []
  | .releaseInterface _,_ => []
  | .resetDevice outcome,device => usbResetDeviceLog device outcome
  | .closeDevice,device => usbCloseDeviceLog device

end UsbCall

def usbDeviceAfter (calls : List UsbCall) (device : UsbDevice) : UsbDevice :=
  calls.foldl (fun device call => call.device device) device

def usbLogAfter : List UsbCall → UsbDevice → HandleLog
  | [],_ => []
  | call::calls,device => call.log device ++ usbLogAfter calls (call.device device)

/-- A device between two calls: no handle unless it is open for real, and then
one file and its WinUSB handle in slot 0. -/
structure UsbDevice.Sound (device : UsbDevice) : Prop where
  claimed : device.isClaimed = true → device.isOpen = true
  claimedInterface : device.isClaimed = true →
    ∃ interfaceNum : UInt8, device.claimedInterface = interfaceNum.toNat
  isVirtual : device.isVirtual = true → device.isOpen = true
  unhandled : device.isOpen = false ∨ device.isVirtual = true →
    device.handle = none ∧ device.interfaceHandles = Vector.replicate 32 none
  handled : device.isOpen = true → device.isVirtual = false →
    ∃ file winusb, device.handle = some file ∧
      device.interfaceHandles = (Vector.replicate 32 none).set 0 (some winusb) (by decide)

theorem UsbDevice.Closed.sound {device : UsbDevice} (closed : device.Closed) : device.Sound where
  claimed := by simp [closed.isClaimed]
  claimedInterface := by simp [closed.isClaimed]
  isVirtual := by simp [closed.isVirtual]
  unhandled := fun _ => ⟨closed.handle,closed.interfaceHandles⟩
  handled := by simp [closed.isOpen]

namespace UsbDevice.Sound

variable {device : UsbDevice}

theorem closed (sound : device.Sound) (shut : device.isOpen = false) : device.Closed where
  isOpen := shut
  isClaimed := by
    have claimed := sound.claimed
    rw [shut] at claimed
    simpa using claimed
  isVirtual := by
    have isVirtual := sound.isVirtual
    rw [shut] at isVirtual
    simpa using isVirtual
  handle := (sound.unhandled (.inl shut)).1
  interfaceHandles := (sound.unhandled (.inl shut)).2

theorem osHandles_unhandled (sound : device.Sound)
    (unhandled : device.isOpen = false ∨ device.isVirtual = true) : device.osHandles = [] := by
  obtain ⟨handle,interfaceHandles⟩ := sound.unhandled unhandled
  rw [UsbDevice.osHandles,handle,interfaceHandles]
  rfl

theorem openDevice (sound : device.Sound) (outcome : OpenOutcome) :
    (usbOpenDevice device outcome).2.Sound := by
  rw [usbOpenDevice]
  split
  next _ => exact sound
  next _ =>
    split
    next _ => exact sound
    next shut =>
      have closed := sound.closed (by simpa using shut)
      obtain ⟨isOpen,isClaimed,isVirtual,handle,interfaceHandles⟩ := closed
      split
      next file winusb _ _ =>
        exact {
          claimed := by simp
          claimedInterface := by simp [isClaimed]
          isVirtual := by simp
          unhandled := by simp
          handled := fun _ _ => ⟨file,winusb,rfl,by rw [interfaceHandles]⟩ }
      next _ =>
        exact {
          claimed := by simp
          claimedInterface := by simp [isClaimed]
          isVirtual := by simp
          unhandled := fun _ => ⟨rfl,interfaceHandles⟩
          handled := by simp }

theorem claimInterface (sound : device.Sound) (interfaceNum : UInt8) :
    (usbClaimInterface device interfaceNum).2.Sound := by
  rw [usbClaimInterface]
  split
  next _ => exact sound
  next isOpen =>
    split
    next _ => exact sound
    next _ =>
      exact {sound with
        claimed := fun _ => by simpa using isOpen
        claimedInterface := fun _ => ⟨interfaceNum,rfl⟩ }

theorem releaseInterface (sound : device.Sound) (interfaceNum : UInt8) :
    (usbReleaseInterface device interfaceNum).2.Sound := by
  rw [usbReleaseInterface]
  split
  next _ => exact sound
  next _ =>
    split
    next _ => exact sound
    next _ => exact {sound with claimed := by simp, claimedInterface := by simp }

theorem unclaim (sound : device.Sound) (isOpen : device.isOpen = true) :
    ∃ unclaimed : UsbDevice,
      (if device.isClaimed
        then (usbReleaseInterface device (UInt8.ofInt device.claimedInterface)).2 else device) = unclaimed ∧
      unclaimed.isClaimed = false ∧ unclaimed.isVirtual = device.isVirtual ∧
      unclaimed.handle = device.handle ∧ unclaimed.interfaceHandles = device.interfaceHandles := by
  cases claimed : device.isClaimed with
  | false => exact ⟨device,rfl,claimed,rfl,rfl,rfl⟩
  | true =>
    obtain ⟨interfaceNum,number⟩ := sound.claimedInterface claimed
    have narrowed : UInt8.ofInt (interfaceNum.toNat : Int) = interfaceNum := by
      apply UInt8.toNat_inj.mp
      have small := interfaceNum.toNat_lt
      rw [UInt8.ofInt,UInt8.toNat_ofNat']
      omega
    refine ⟨{device with isClaimed := false, claimedInterface := -1},?_,rfl,rfl,rfl,rfl⟩
    rw [usbReleaseInterface,number,narrowed,isOpen,claimed]
    simp

theorem closeDevice (sound : device.Sound) : (usbCloseDevice device).Closed := by
  cases isOpen : device.isOpen with
  | false =>
    rw [usbCloseDevice,isOpen]
    exact sound.closed isOpen
  | true =>
    obtain ⟨unclaimed,same,isClaimed,isVirtual,handle,interfaceHandles⟩ := sound.unclaim isOpen
    simp only [usbCloseDevice,isOpen,Bool.not_true,Bool.false_eq_true,if_false]
    rw [same]
    cases virtual : unclaimed.isVirtual with
    | false => exact ⟨rfl,isClaimed,rfl,rfl,rfl⟩
    | true =>
      obtain ⟨noFile,noWinusb⟩ := sound.unhandled (.inr (isVirtual.symm.trans virtual))
      exact ⟨rfl,isClaimed,rfl,handle.trans noFile,interfaceHandles.trans noWinusb⟩

theorem call (sound : device.Sound) (call : UsbCall) : (call.device device).Sound := by
  cases call with
  | openDevice outcome => exact sound.openDevice outcome
  | claimInterface interfaceNum => exact sound.claimInterface interfaceNum
  | releaseInterface interfaceNum => exact sound.releaseInterface interfaceNum
  | resetDevice outcome =>
    rw [UsbCall.device,usbResetDevice]
    split
    next _ => exact sound
    next _ => exact sound.closeDevice.sound.openDevice outcome
  | closeDevice => exact sound.closeDevice.sound

theorem held_openDevice (sound : device.Sound) (outcome : OpenOutcome) :
    held (usbOpenDeviceLog device outcome) device.osHandles =
      some ((usbOpenDevice device outcome).2.osHandles : Multiset OsHandle) := by
  rw [usbOpenDeviceLog,usbOpenDevice]
  split
  next _ => rfl
  next _ =>
    split
    next _ => rfl
    next shut =>
      have closed := sound.closed (by simpa using shut)
      have empty := sound.osHandles_unhandled (.inl closed.isOpen)
      rw [empty,Multiset.coe_nil]
      cases outcome.file with
      | none =>
        rw [UsbDevice.osHandles,closed.interfaceHandles]
        rfl
      | some file =>
        cases outcome.winusb with
        | none =>
          simp only [held_obtained,held_released,held_nil]
          rw [UsbDevice.osHandles,closed.interfaceHandles]
          rfl
        | some winusb =>
          simp only [held_obtained,held_nil]
          rw [UsbDevice.osHandles,closed.interfaceHandles]
          rfl

theorem held_closeDevice (sound : device.Sound) :
    held (usbCloseDeviceLog device) device.osHandles =
      some ((usbCloseDevice device).osHandles : Multiset OsHandle) := by
  have after := sound.closeDevice
  rw [after.sound.osHandles_unhandled (.inl after.isOpen),Multiset.coe_nil,usbCloseDeviceLog]
  split
  next shut =>
    have shut : device.isOpen = false := by simpa using shut
    rw [sound.osHandles_unhandled (.inl shut),Multiset.coe_nil,held_nil]
  next _ =>
    split
    next _ =>
      have all := held_release_all device.osHandles 0
      rwa [Multiset.add_zero] at all
    next virtual =>
      have virtual : device.isVirtual = true := by simpa using virtual
      rw [sound.osHandles_unhandled (.inr virtual),Multiset.coe_nil,held_nil]

theorem held_call (sound : device.Sound) (call : UsbCall) :
    held (call.log device) device.osHandles =
      some ((call.device device).osHandles : Multiset OsHandle) := by
  cases call with
  | openDevice outcome => exact sound.held_openDevice outcome
  | claimInterface interfaceNum =>
    rw [UsbCall.log,UsbCall.device,held_nil,usbClaimInterface]
    split
    next _ => rfl
    next _ => split <;> rfl
  | releaseInterface interfaceNum =>
    rw [UsbCall.log,UsbCall.device,held_nil,usbReleaseInterface]
    split
    next _ => rfl
    next _ => split <;> rfl
  | resetDevice outcome =>
    rw [UsbCall.log,UsbCall.device,usbResetDeviceLog,usbResetDevice]
    split
    next _ => rfl
    next _ =>
      rw [held_append,sound.held_closeDevice,Option.bind_some]
      exact sound.closeDevice.sound.held_openDevice outcome
  | closeDevice => exact sound.held_closeDevice

end UsbDevice.Sound

/-- After any calls the device is sound, and the handles obtained and not yet
given back are the ones it names. -/
theorem usbCalls_sound (calls : List UsbCall) (device : UsbDevice) (sound : device.Sound) :
    (usbDeviceAfter calls device).Sound ∧
      held (usbLogAfter calls device) device.osHandles =
        some ((usbDeviceAfter calls device).osHandles : Multiset OsHandle) := by
  induction calls generalizing device with
  | nil => exact ⟨sound,rfl⟩
  | cons call calls ih =>
    obtain ⟨still,rest⟩ := ih (call.device device) (sound.call call)
    refine ⟨still,?_⟩
    rw [usbLogAfter,held_append,sound.held_call call,Option.bind_some]
    exact rest

/-- However a device is opened, claimed, released, reset and closed: its flags
agree with its handles, no handle is given back that is not held, and once the
device is closed every handle has been given back as often as it was obtained. -/
theorem usbCalls_handles (device : UsbDevice) (zeroed : device.Closed) (calls : List UsbCall) :
    ((usbDeviceAfter calls device).isClaimed = true → (usbDeviceAfter calls device).isOpen = true) ∧
    ((usbDeviceAfter calls device).isVirtual = true → (usbDeviceAfter calls device).isOpen = true ∧
      (usbDeviceAfter calls device).handle = none ∧
      (usbDeviceAfter calls device).interfaceHandles = Vector.replicate 32 none) ∧
    ((usbDeviceAfter calls device).isOpen = false →
      (usbDeviceAfter calls device).isClaimed = false ∧
      (usbDeviceAfter calls device).isVirtual = false ∧
      (usbDeviceAfter calls device).handle = none ∧
      (usbDeviceAfter calls device).interfaceHandles = Vector.replicate 32 none) ∧
    held (usbLogAfter calls device) 0 =
      some ((usbDeviceAfter calls device).osHandles : Multiset OsHandle) ∧
    ((usbDeviceAfter calls device).isOpen = false → ∀ handle,
      (usbLogAfter calls device).count (.obtained handle) =
        (usbLogAfter calls device).count (.released handle)) := by
  obtain ⟨sound,kept⟩ := usbCalls_sound calls device zeroed.sound
  rw [zeroed.sound.osHandles_unhandled (.inl zeroed.isOpen),Multiset.coe_nil] at kept
  refine ⟨sound.claimed,?_,?_,kept,?_⟩
  · intro isVirtual
    exact ⟨sound.isVirtual isVirtual,sound.unhandled (.inr isVirtual)⟩
  · intro shut
    have closed := sound.closed shut
    exact ⟨closed.isClaimed,closed.isVirtual,closed.handle,closed.interfaceHandles⟩
  · intro shut handle
    rw [sound.osHandles_unhandled (.inl shut),Multiset.coe_nil] at kept
    have balanced := held_count kept handle
    simpa using balanced

theorem usbCalls_handles_keyboard :
    held (usbLogAfter [.openDevice ⟨some 4,some 9⟩,.claimInterface 0,.resetDevice ⟨some 5,none⟩,
      .closeDevice] (.keyboard .empty)) 0 = some 0 := by
  have handles := usbCalls_handles (.keyboard .empty) ⟨rfl,rfl,rfl,rfl,rfl⟩
    [.openDevice ⟨some 4,some 9⟩,.claimInterface 0,.resetDevice ⟨some 5,none⟩,.closeDevice]
  exact handles.2.2.2.1

inductive WinusbCall
  | setPipePolicy (handle : Option Handle) (pipe : UInt8) (timeoutMs : UInt32)
  | controlTransfer (handle : Option Handle) (requestType request : UInt8)
      (value index length : UInt16)
  | readPipe (handle : Option Handle) (pipe : UInt8) (length : UInt32)
  | writePipe (handle : Option Handle) (pipe : UInt8) (length : UInt32)
deriving DecidableEq

def WinusbCall.handle : WinusbCall → Option Handle
  | .setPipePolicy handle _ _ => handle
  | .controlTransfer handle _ _ _ _ _ => handle
  | .readPipe handle _ _ => handle
  | .writePipe handle _ _ => handle

def urbTimeoutMs : UInt32 := 5000

/-- What a transfer returns, the length it reports and the WinUSB calls it made. -/
abbrev TransferRun := (ErrorCode × UInt32) × List WinusbCall

/-- `usb_control_transfer` from its guard on. -/
def usbControlTransferRun (device : UsbDevice) (requestType request : UInt8)
    (value index length : UInt16) (timeoutMs : UInt32) (outcome : TransferOutcome) : TransferRun :=
  if !device.isOpen then ((.invalidParam,0),[])
  else
    let winusb := device.interfaceHandles.get ⟨0,Nat.zero_lt_succ 31⟩
    (usbControlTransfer outcome,[.setPipePolicy winusb 0 timeoutMs,
      .controlTransfer winusb requestType request value index length])

/-- `usb_bulk_transfer` from its guard on. -/
def usbBulkTransferRun (device : UsbDevice) (endpoint : UInt8) (length timeoutMs : UInt32)
    (outcome : TransferOutcome) : TransferRun :=
  if !device.isOpen then ((.invalidParam,0),[])
  else
    let winusb := device.interfaceHandles.get ⟨0,Nat.zero_lt_succ 31⟩
    (usbBulkTransfer outcome,[.setPipePolicy winusb endpoint timeoutMs,
      if endpoint &&& usbDirIn != 0 then .readPipe winusb endpoint length
      else .writePipe winusb endpoint length])

def usbInterruptTransferRun (device : UsbDevice) (endpoint : UInt8) (length timeoutMs : UInt32)
    (outcome : TransferOutcome) : TransferRun :=
  usbBulkTransferRun device endpoint length timeoutMs outcome

/-- The transfer that `usb_submit_urb` chooses for an URB. -/
def usbUrbTransferRun (device : UsbDevice) (urb : UsbUrb) (outcome : TransferOutcome) : TransferRun :=
  if urb.endpoint = 0 then
    usbControlTransferRun device (bmRequestType urb.setup) (bRequest urb.setup) (wValue urb.setup)
      (wIndex urb.setup) urb.bufferLength.toUInt16 urbTimeoutMs outcome
  else if urb.type = usbEndpointXferBulk then
    usbBulkTransferRun device urb.endpoint urb.bufferLength urbTimeoutMs outcome
  else usbInterruptTransferRun device urb.endpoint urb.bufferLength urbTimeoutMs outcome

def usbSubmitUrbRun (device : UsbDevice) (urb : UsbUrb) (outcome : TransferOutcome) :
    (ErrorCode × UsbUrb) × List WinusbCall :=
  if !device.isOpen then ((.invalidParam,urb),[])
  else
    let ((result,actualLength),calls) := usbUrbTransferRun device urb outcome
    ((result,{urb with
      buffer := fillBuffer urb.buffer (usbTransferOf urb) outcome
      actualLength
      status := if result = .success then 0 else -1
      completed := true}),calls)

theorem usbSubmitUrbRun_eq (device : UsbDevice) (urb : UsbUrb) (outcome : TransferOutcome) :
    (usbSubmitUrbRun device urb outcome).1 = usbSubmitUrb (some device) urb outcome := by
  cases isOpen : device.isOpen with
  | false => simp [usbSubmitUrbRun,usbSubmitUrb,isOpen]
  | true =>
    simp only [usbSubmitUrbRun,usbSubmitUrb,usbUrbTransferRun,usbControlTransferRun,
      usbInterruptTransferRun,usbBulkTransferRun,usbInterruptTransfer,isOpen,Option.any_some,
      Bool.not_true,Bool.false_eq_true,if_false]
    split
    next _ => rfl
    next _ => split <;> rfl

inductive TransferRequest
  | submitUrb (urb : UsbUrb)
  | control (requestType request : UInt8) (value index length : UInt16) (timeoutMs : UInt32)
  | bulk (endpoint : UInt8) (length timeoutMs : UInt32)
  | interrupt (endpoint : UInt8) (length timeoutMs : UInt32)

structure CallsWith (handle : Option Handle) (calls : List WinusbCall) : Prop where
  called : calls ≠ []
  slot : ∀ call ∈ calls, call.handle = handle

namespace TransferRequest

def run (device : UsbDevice) (outcome : TransferOutcome) :
    TransferRequest → ErrorCode × List WinusbCall
  | .submitUrb urb =>
    let run := usbSubmitUrbRun device urb outcome
    (run.1.1,run.2)
  | .control requestType request value index length timeoutMs =>
    let run := usbControlTransferRun device requestType request value index length timeoutMs outcome
    (run.1.1,run.2)
  | .bulk endpoint length timeoutMs =>
    let run := usbBulkTransferRun device endpoint length timeoutMs outcome
    (run.1.1,run.2)
  | .interrupt endpoint length timeoutMs =>
    let run := usbInterruptTransferRun device endpoint length timeoutMs outcome
    (run.1.1,run.2)

/-- WinUSB is called with handles only that it has given and that are not freed,
and for a virtual device not at all: there the transfer fails. -/
structure Respects (request : TransferRequest) (device : UsbDevice) (log : HandleLog)
    (outcome : TransferOutcome) : Prop where
  live : ∀ call ∈ (request.run device outcome).2, ∃ handle own,
    call.handle = some handle ∧ held log 0 = some own ∧ .winusb handle ∈ own
  virtual : device.isVirtual = true →
    (request.run device outcome).1 ≠ .success ∧ (request.run device outcome).2 = []

variable (request : TransferRequest) {device : UsbDevice} (outcome : TransferOutcome)

theorem run_shut (shut : device.isOpen = false) :
    request.run device outcome = (.invalidParam,[]) := by
  cases request with
  | submitUrb urb => simp [run,usbSubmitUrbRun,shut]
  | control => simp [run,usbControlTransferRun,shut]
  | bulk => simp [run,usbBulkTransferRun,shut]
  | interrupt => simp [run,usbInterruptTransferRun,usbBulkTransferRun,shut]

theorem control_calls (isOpen : device.isOpen = true) (requestType request : UInt8)
    (value index length : UInt16) (timeoutMs : UInt32) :
    CallsWith (device.interfaceHandles.get ⟨0,Nat.zero_lt_succ 31⟩)
      (usbControlTransferRun device requestType request value index length timeoutMs outcome).2 := by
  rw [usbControlTransferRun,isOpen]
  exact ⟨by simp,by simp [WinusbCall.handle]⟩

theorem bulk_calls (isOpen : device.isOpen = true) (endpoint : UInt8) (length timeoutMs : UInt32) :
    CallsWith (device.interfaceHandles.get ⟨0,Nat.zero_lt_succ 31⟩)
      (usbBulkTransferRun device endpoint length timeoutMs outcome).2 := by
  rw [usbBulkTransferRun,isOpen]
  refine ⟨by simp,?_⟩
  intro call called
  obtain rfl | called := List.mem_cons.mp called
  · rfl
  · rw [List.mem_singleton.mp called]
    split <;> rfl

theorem run_calls (isOpen : device.isOpen = true) :
    CallsWith (device.interfaceHandles.get ⟨0,Nat.zero_lt_succ 31⟩) (request.run device outcome).2 := by
  cases request with
  | submitUrb urb =>
    have calls : (usbSubmitUrbRun device urb outcome).2 = (usbUrbTransferRun device urb outcome).2 := by
      simp [usbSubmitUrbRun,isOpen]
    rw [run,calls,usbUrbTransferRun]
    split
    next _ => exact control_calls outcome isOpen _ _ _ _ _ _
    next _ =>
      split
      next _ => exact bulk_calls outcome isOpen _ _ _
      next _ => exact bulk_calls outcome isOpen _ _ _
  | control requestType request value index length timeoutMs =>
    exact control_calls outcome isOpen requestType request value index length timeoutMs
  | bulk endpoint length timeoutMs => exact bulk_calls outcome isOpen endpoint length timeoutMs
  | interrupt endpoint length timeoutMs => exact bulk_calls outcome isOpen endpoint length timeoutMs

end TransferRequest

/-- Of the devices a program can have, only one opened in virtual mode reaches
WinUSB with a handle that is none. -/
theorem winusb_respected_iff (device : UsbDevice) (zeroed : device.Closed) (calls : List UsbCall)
    (request : TransferRequest) (outcome : TransferOutcome) :
    request.Respects (usbDeviceAfter calls device) (usbLogAfter calls device) outcome ↔
      (usbDeviceAfter calls device).isVirtual = false := by
  obtain ⟨sound,kept⟩ := usbCalls_sound calls device zeroed.sound
  rw [zeroed.sound.osHandles_unhandled (.inl zeroed.isOpen),Multiset.coe_nil] at kept
  constructor
  · intro respects
    by_contra virtual
    have virtual := eq_true_of_ne_false virtual
    exact (request.run_calls outcome (sound.isVirtual virtual)).called (respects.virtual virtual).2
  · intro real
    refine ⟨?_,fun virtual => by rw [real] at virtual; cases virtual⟩
    intro call called
    cases isOpen : (usbDeviceAfter calls device).isOpen with
    | false => rw [request.run_shut outcome isOpen] at called; cases called
    | true =>
      obtain ⟨file,winusb,_,slots⟩ := sound.handled isOpen real
      have given := (request.run_calls outcome isOpen).slot call called
      refine ⟨winusb,_,?_,kept,?_⟩
      · rw [given,slots]
        rfl
      · rw [Multiset.mem_coe,UsbDevice.osHandles,slots]
        exact List.mem_cons_self

theorem winusb_respected_iff_keyboard :
    TransferRequest.Respects (.submitUrb .poll)
      (usbDeviceAfter [.openDevice ⟨some 4,some 9⟩] (.keyboard .empty))
      (usbLogAfter [.openDevice ⟨some 4,some 9⟩] (.keyboard .empty)) ⟨true,false,8,[]⟩ := by
  have respected := winusb_respected_iff (.keyboard .empty) ⟨rfl,rfl,rfl,rfl,rfl⟩
    [.openDevice ⟨some 4,some 9⟩] (.submitUrb .poll) ⟨true,false,8,[]⟩
  exact respected.mpr rfl

/-- The file of a keyboard cannot be opened; a poll of it reaches WinUSB, which
refuses the handle that is none. -/
theorem virtual_reaches_winusb :
    ¬ TransferRequest.Respects (.submitUrb .poll)
      (usbDeviceAfter [.openDevice ⟨none,none⟩] (.keyboard .empty))
      (usbLogAfter [.openDevice ⟨none,none⟩] (.keyboard .empty)) ⟨false,false,0,[]⟩ := by
  intro respects
  have isOpen : (usbDeviceAfter [.openDevice ⟨none,none⟩] (.keyboard .empty)).isOpen = true := rfl
  have reached := TransferRequest.run_calls (.submitUrb .poll) ⟨false,false,0,[]⟩ isOpen
  exact reached.called (respects.virtual rfl).2

end UsbOverNetwork
