import UsbOverNetwork.Server.UrbHandler

/-! From the request to the transfer: `urb_handler_submit` decides on a type
and an endpoint address, and `usb_submit_urb` decides again from that address. -/
namespace UsbOverNetwork

/-- What a CMD_SUBMIT asks for: its setup packet on endpoint 0, and elsewhere a
pipe of the requested direction, both over the whole buffer. -/
def UsbipHeader.Asks (header : UsbipHeader) (transfer : Transfer) : Prop :=
  let setup := header.u.setup
  if header.common.ep = 0 then
    transfer = .control (bmRequestType setup) (bRequest setup) (wValue setup) (wIndex setup)
      (wLength setup) ∧
    transfer.length = header.u.transferBufferLength.toNat
  else
    transfer = .pipe (if header.common.direction = usbipDirIn
      then header.common.ep.toUInt8 ||| usbDirIn else header.common.ep.toUInt8)
      header.u.transferBufferLength ∧
    (transfer.reads = true ↔ header.common.direction = usbipDirIn)

theorem direction_of_small {header : UsbipHeader} (direction : header.common.direction ≤ 1) :
    header.common.direction = usbipDirOut ∨ header.common.direction = usbipDirIn := by
  rw [UInt32.le_iff_toNat_le] at direction
  have bits : header.common.direction.toNat ≤ 1 := direction
  rcases Nat.le_one_iff_eq_zero_or_eq_one.mp bits with out | into
  · exact Or.inl (UInt32.toNat_inj.mp out)
  · exact Or.inr (UInt32.toNat_inj.mp into)

theorem endpoint_in (endpoint : UInt8) : (endpoint ||| usbDirIn) &&& usbDirIn = usbDirIn := by
  apply UInt8.eq_of_toBitVec_eq
  rw [UInt8.toBitVec_and,UInt8.toBitVec_or]
  ext i bound
  rw [BitVec.getElem_and,BitVec.getElem_or]
  cases usbDirIn.toBitVec[i]
  · exact Bool.and_false _
  · rw [Bool.or_true,Bool.and_self]

theorem usbDirIn_ne_zero : usbDirIn ≠ 0 := by decide

theorem endpoint_in_ne_zero (endpoint : UInt8) : endpoint ||| usbDirIn ≠ 0 := by
  intro none
  have marked := endpoint_in endpoint
  rw [none,UInt8.zero_and] at marked
  exact usbDirIn_ne_zero marked.symm

theorem endpoint_number {ep : UInt32} (small : ep ≤ 15) :
    (ep.toUInt8 = 0 ↔ ep = 0) ∧ ep.toUInt8 &&& usbDirIn = 0 := by
  rw [UInt32.le_iff_toNat_le] at small
  have bound : ep.toNat ≤ 15 := small
  rw [← UInt32.ofNat_toNat (x := ep)]
  generalize ep.toNat = number at bound
  interval_cases number <;> decide

theorem usbTransferOf_submitUrb (header : UsbipHeader) (data : List UInt8) :
    usbTransferOf (submitUrb header data) =
      if (createUrb header).endpoint = 0 then
        .control (bmRequestType header.u.setup) (bRequest header.u.setup) (wValue header.u.setup)
          (wIndex header.u.setup) header.u.transferBufferLength.toUInt16
      else .pipe (createUrb header).endpoint header.u.transferBufferLength := rfl

theorem toUInt16_fits (length : UInt32) (wLength : UInt16) :
    length.toUInt16 = wLength ∧ length.toUInt16.toNat = length.toNat ↔
      wLength.toNat = length.toNat := by
  constructor
  · rintro ⟨rfl,whole⟩
    exact whole
  · intro same
    have cut : length.toUInt16 = wLength := by
      apply UInt16.toNat_inj.mp
      rw [UInt32.toNat_toUInt16,← same]
      exact Nat.mod_eq_of_lt wLength.toNat_lt
    exact ⟨cut,by rw [cut,same]⟩

/-- The transfer made for an accepted request is the one it asks for unless the
request is for endpoint 0: there a read goes to a pipe of address 0x80, and a
write announces the buffer's length cut to sixteen bits. -/
theorem transfer_asked_iff (handler next : UrbHandler) (header : UsbipHeader) (data : List UInt8)
    (entryAlloc bufferAlloc : Bool) (now : UInt64) (small : header.common.ep ≤ 15)
    (direction : header.common.direction ≤ 1)
    (accepted : urbHandlerSubmit handler header data entryAlloc bufferAlloc now = (.success,next)) :
    ∃ entry, next.pending = handler.pending ++ [entry] ∧
      (header.Asks (usbTransferOf entry.urb) ↔
        header.common.ep ≠ 0 ∨ (header.common.direction = usbipDirOut ∧
          (wLength header.u.setup).toNat = header.u.transferBufferLength.toNat)) := by
  rcases urbHandlerSubmit_result handler header data entryAlloc bufferAlloc now with
    ⟨error,failed,refused⟩ | ⟨entry,submitted,_,_,queued⟩
  · rw [accepted] at refused
    exact absurd (congrArg Prod.fst refused).symm failed
  rw [accepted] at queued
  refine ⟨entry,congrArg (fun result => result.2.pending) queued,?_⟩
  obtain ⟨zero,low⟩ := endpoint_number small
  rw [submitted.urb,usbTransferOf_submitUrb]
  rcases direction_of_small direction with out | into
  · have address : (createUrb header).endpoint = header.common.ep.toUInt8 := by
      simp [createUrb,out,usbipDirOut,usbipDirIn]
    rw [address]
    by_cases control : header.common.ep = 0
    · rw [if_pos (zero.mpr control)]
      simp only [UsbipHeader.Asks,control,out,Transfer.length,if_true,Transfer.control.injEq,
        true_and,ne_eq,not_true_eq_false,false_or]
      exact toUInt16_fits _ _
    · rw [if_neg (mt zero.mp control)]
      simp [UsbipHeader.Asks,control,out,Transfer.reads,low,usbipDirOut,usbipDirIn]
  · have address : (createUrb header).endpoint = header.common.ep.toUInt8 ||| usbDirIn := by
      simp [createUrb,into]
    rw [address,if_neg (endpoint_in_ne_zero _)]
    by_cases control : header.common.ep = 0
    · simp [UsbipHeader.Asks,control,into,usbipDirOut,usbipDirIn]
    · simp [UsbipHeader.Asks,control,into,Transfer.reads,endpoint_in,usbDirIn_ne_zero]

theorem transfer_asked_bulk : ∃ entry,
    (urbHandlerSubmit (urbHandlerStarted .empty) (.read 1 64) [] true true 0).2.pending = [entry] ∧
    (UsbipHeader.read 1 64).Asks (usbTransferOf entry.urb) := by
  obtain ⟨entry,queued,asked⟩ := transfer_asked_iff (urbHandlerStarted .empty) _ (.read 1 64) [] true
    true 0 (by decide) (by decide) rfl
  exact ⟨entry,queued,asked.mpr (Or.inl (by decide))⟩

def getDescriptor : UsbipHeader :=
  ⟨⟨usbipCmdSubmit,1,0x10001,usbipDirIn,0⟩,
    {UsbipHeaderUnion.zero with word1 := 18, setup := #v[0x80,6,0,1,0,0,18,0]}⟩

theorem transfer_not_asked : getDescriptor.common.ep ≤ 15 ∧ getDescriptor.common.direction ≤ 1 ∧
    ∃ entry, urbHandlerSubmit (urbHandlerStarted .empty) getDescriptor [] true true 0 =
      (.success,{urbHandlerStarted .empty with
        pending := [entry]
        history := {UrbHistory.empty with submitted := [getDescriptor]}}) ∧
    usbTransferOf entry.urb = .pipe 0x80 18 ∧ ¬getDescriptor.Asks (usbTransferOf entry.urb) := by
  refine ⟨by decide,by decide,_,rfl,rfl,?_⟩
  rintro ⟨control,_⟩
  cases control

end UsbOverNetwork
