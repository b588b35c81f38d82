import Mathlib.Logic.Function.Basic
import UsbOverNetwork.Common.StreamTransfer
import UsbOverNetwork.Server.UsbHost

/-! `usb_get_string_descriptor`: where it stores the text that it takes out of
the bytes a device has sent. -/
namespace UsbOverNetwork
open Winsock (asInt)

/-- What `WinUsb_GetDescriptor` leaves in `str_buffer` and in `transferred`. -/
structure DescriptorAnswer where
  ok : Bool
  strBuffer : Vector UInt8 256
  transferred : UInt32

abbrev GetDescriptor := Option Handle → UInt8 → UInt8 → UInt16 → DescriptorAnswer

def usbStringDescriptorType : UInt8 := 0x03

/-- One assignment to an element of `buffer`, with the code unit it copies. -/
structure Store where
  index : Int
  value : UInt8
  unit : Option Nat
deriving DecidableEq

def bLength (strBuffer : Vector UInt8 256) : UInt8 := strBuffer.head

def bString (strBuffer : Vector UInt8 256) (unit : Nat) : UInt16 :=
  Bytes.read16 strBuffer.toList (2 + 2*unit)

/-- `int` subtraction; an overflow is undefined. -/
def intSub (first second : Int32) : Option Int :=
  let difference := first.toInt - second.toInt
  if Int32.minValue.toInt ≤ difference ∧ difference ≤ Int32.maxValue.toInt then some difference
  else none

/-- `chars`, by a division that rounds toward zero. -/
def descriptorChars (length : UInt8) : Int := ((length.toNat : Int) - 2).tdiv 2

def copyChars (length : UInt8) (bufferSize : UInt64) : Option Int :=
  (intSub (asInt bufferSize) 1).map fun last =>
    if descriptorChars length < last then descriptorChars length else last

def copyLoop (strBuffer : Vector UInt8 256) : Nat → Nat → List Store
  | _,0 => []
  | unit,turns+1 =>
    ⟨unit,(bString strBuffer unit).toUInt8,some unit⟩::copyLoop strBuffer (unit+1) turns

/-- The loop makes no turn where `copy_chars` is negative. -/
def convertDescriptor (strBuffer : Vector UInt8 256) (bufferSize : UInt64) : Option (List Store) :=
  (copyChars (bLength strBuffer) bufferSize).map fun copied =>
    copyLoop strBuffer 0 copied.toNat ++ [⟨copied,0,none⟩]

/-- `usb_get_string_descriptor` up to the conversion; `buffer` tells whether the
caller's pointer is not `NULL`. -/
def requestStringDescriptor (getDescriptor : GetDescriptor) (device : Option UsbDevice)
    (index : UInt8) (langId : UInt16) (buffer : Bool) : Except ErrorCode DescriptorAnswer :=
  match device with
  | none => .error .invalidParam
  | some device =>
    if !buffer || !device.isOpen then .error .invalidParam
    else
      let winusb := device.interfaceHandles.head
      let answer := getDescriptor winusb usbStringDescriptorType index langId
      if !answer.ok then .error .usbDescriptorError else .ok answer

structure StringRun where
  result : ErrorCode
  stores : List Store
deriving DecidableEq

/-- There is no result where the arithmetic is undefined. -/
def usbGetStringDescriptor (getDescriptor : GetDescriptor) (device : Option UsbDevice)
    (index : UInt8) (langId : UInt16) (buffer : Bool) (bufferSize : UInt64) : Option StringRun :=
  match requestStringDescriptor getDescriptor device index langId buffer with
  | .error err => some ⟨err,[]⟩
  | .ok answer => (convertDescriptor answer.strBuffer bufferSize).map fun stores => ⟨.success,stores⟩

def memoryAfter : List Store → (Int → UInt8) → Int → UInt8
  | [],memory => memory
  | store::stores,memory => memoryAfter stores (Function.update memory store.index store.value)

/-- Nothing is stored outside `buffer`, a string ends in it whatever it held
before, and the code units that were copied are among the bytes transferred. -/
structure StringRun.Bounded (run : StringRun) (bufferSize : UInt64) (transferred : UInt32) : Prop where
  inside : ∀ store ∈ run.stores, 0 ≤ store.index ∧ store.index < bufferSize.toNat
  terminated : ∀ memory, ∃ index : Int, 0 ≤ index ∧ index < bufferSize.toNat ∧
    memoryAfter run.stores memory index = 0
  received : ∀ store ∈ run.stores, ∀ unit, store.unit = some unit → 2*unit + 4 ≤ transferred.toNat

/-- A length byte that counts itself and its type, a size that is positive as an
`int`, and as many bytes as the text that is copied takes, if any is. -/
structure DescriptorFits (length : UInt8) (bufferSize : UInt64) (transferred : UInt32) : Prop where
  measured : length ≠ 0
  size : 1 ≤ (asInt bufferSize).toInt
  text : length.toNat < 4 ∨ (asInt bufferSize).toInt = 1 ∨
    2*(length.toNat/2) ≤ transferred.toNat ∨ 2*(asInt bufferSize).toInt ≤ transferred.toNat

theorem descriptorChars_cases (length : UInt8) :
    length = 0 ∧ descriptorChars length = -1 ∨
    length ≠ 0 ∧ length.toNat < 4 ∧ descriptorChars length = 0 ∨
    4 ≤ length.toNat ∧ descriptorChars length = (length.toNat/2 : Nat) - 1 := by
  rcases Nat.lt_or_ge length.toNat 4 with short | long
  · have small : length = 0 ∨ length = 1 ∨ length = 2 ∨ length = 3 := by
      simp only [← UInt8.toNat_inj]
      show length.toNat = 0 ∨ length.toNat = 1 ∨ length.toNat = 2 ∨ length.toNat = 3
      omega
    rcases small with rfl | rfl | rfl | rfl
    · exact Or.inl ⟨rfl,rfl⟩
    · exact Or.inr (Or.inl ⟨by decide,by decide,rfl⟩)
    · exact Or.inr (Or.inl ⟨by decide,by decide,rfl⟩)
    · exact Or.inr (Or.inl ⟨by decide,by decide,rfl⟩)
  · refine Or.inr (Or.inr ⟨long,?_⟩)
    rw [descriptorChars,Int.tdiv_eq_ediv_of_nonneg (by omega)]
    omega

theorem asInt_le (size : UInt64) : (asInt size).toInt ≤ size.toNat := by
  have narrowed : (asInt size).toInt = size.toUInt32.toBitVec.toInt := rfl
  have value : size.toUInt32.toBitVec.toNat = size.toNat % 2^32 := UInt64.toNat_toUInt32 size
  rw [narrowed,BitVec.toInt_eq_toNat_cond,value]
  split <;> omega

theorem copyChars_eq (length : UInt8) (bufferSize : UInt64) :
    copyChars length bufferSize =
      if (asInt bufferSize).toInt = Int32.minValue.toInt then none
      else some (min (descriptorChars length) ((asInt bufferSize).toInt - 1)) := by
  have low := (asInt bufferSize).le_toInt
  have high := (asInt bufferSize).toInt_lt
  have one : (1 : Int32).toInt = 1 := rfl
  simp only [copyChars,intSub,one,Int32.toInt_minValue,Int32.toInt_maxValue]
  by_cases least : (asInt bufferSize).toInt = -2^31
  · rw [if_pos least,if_neg (by omega)]
    rfl
  · rw [if_neg least,if_pos (by omega),Option.map_some]
    congr 1
    split <;> omega

theorem mem_copyLoop {strBuffer : Vector UInt8 256} {store : Store} (first turns : Nat) :
    store ∈ copyLoop strBuffer first turns ↔ ∃ unit, first ≤ unit ∧ unit < first + turns ∧
      store = ⟨unit,(bString strBuffer unit).toUInt8,some unit⟩ := by
  induction turns generalizing first with
  | zero =>
    simp only [copyLoop,List.not_mem_nil,false_iff]
    rintro ⟨unit,low,high,_⟩
    omega
  | succ turns ih =>
    rw [copyLoop,List.mem_cons,ih]
    constructor
    · rintro (rfl | ⟨unit,low,high,rfl⟩)
      · exact ⟨first,le_rfl,by omega,rfl⟩
      · exact ⟨unit,by omega,by omega,rfl⟩
    · rintro ⟨unit,low,high,rfl⟩
      rcases Nat.eq_or_lt_of_le low with rfl | later
      · exact Or.inl rfl
      · exact Or.inr ⟨unit,later,by omega,rfl⟩

theorem memoryAfter_last (stores : List Store) (store : Store) (memory : Int → UInt8) :
    memoryAfter (stores ++ [store]) memory store.index = store.value := by
  induction stores generalizing memory with
  | nil => exact Function.update_self store.index store.value memory
  | cons first stores ih => exact ih _

theorem mem_conversion {strBuffer : Vector UInt8 256} {copied : Int} {store : Store} :
    store ∈ copyLoop strBuffer 0 copied.toNat ++ [⟨copied,0,none⟩] ↔
      (∃ unit, unit < copied.toNat ∧ store = ⟨unit,(bString strBuffer unit).toUInt8,some unit⟩) ∨
      store = ⟨copied,0,none⟩ := by
  rw [List.mem_append,mem_copyLoop,List.mem_singleton]
  simp only [Nat.zero_le,Nat.zero_add,true_and]

theorem conversion_unit {strBuffer : Vector UInt8 256} {copied : Int} {store : Store} {unit : Nat}
    (listed : store ∈ copyLoop strBuffer 0 copied.toNat ++ [⟨copied,0,none⟩])
    (copies : store.unit = some unit) : unit < copied.toNat := by
  rcases mem_conversion.mp listed with ⟨other,bound,rfl⟩ | rfl
  · cases copies
    exact bound
  · cases copies

theorem convertDescriptor_reads {strBuffer : Vector UInt8 256} {bufferSize : UInt64}
    {stores : List Store} (converted : convertDescriptor strBuffer bufferSize = some stores) :
    ∀ store ∈ stores, ∀ unit, store.unit = some unit → 2*unit + 4 ≤ 256 := by
  obtain ⟨copied,chars,rfl⟩ := Option.map_eq_some_iff.mp converted
  have most : copied ≤ descriptorChars (bLength strBuffer) := by
    rw [copyChars_eq] at chars
    split at chars
    next _ => cases chars
    next _ => cases chars; omega
  have bound := (bLength strBuffer).toNat_lt
  have value := descriptorChars_cases (bLength strBuffer)
  intro store listed unit copies
  have small := conversion_unit listed copies
  omega

theorem stores_bounded_iff (strBuffer : Vector UInt8 256) (copied : Int) (bufferSize : UInt64)
    (transferred : UInt32) :
    StringRun.Bounded ⟨.success,copyLoop strBuffer 0 copied.toNat ++ [⟨copied,0,none⟩]⟩ bufferSize
        transferred ↔
      0 ≤ copied ∧ copied < bufferSize.toNat ∧ (copied = 0 ∨ 2*copied + 2 ≤ transferred.toNat) := by
  constructor
  · rintro ⟨inside,_,received⟩
    obtain ⟨low,high⟩ : 0 ≤ copied ∧ copied < bufferSize.toNat :=
      inside ⟨copied,0,none⟩ (mem_conversion.mpr (Or.inr rfl))
    refine ⟨low,high,?_⟩
    by_cases none : copied = 0
    · exact Or.inl none
    · obtain ⟨unit,last⟩ := Nat.exists_eq_add_one_of_ne_zero (show copied.toNat ≠ 0 by omega)
      have sent := received _ (mem_conversion.mpr (Or.inl ⟨unit,by omega,rfl⟩)) unit rfl
      omega
  · rintro ⟨low,high,enough⟩
    refine ⟨?_,?_,?_⟩
    · intro store listed
      rcases mem_conversion.mp listed with ⟨unit,bound,rfl⟩ | rfl
      · dsimp only
        omega
      · exact ⟨low,high⟩
    · intro memory
      exact ⟨copied,low,high,memoryAfter_last _ ⟨copied,0,none⟩ memory⟩
    · intro store listed unit copies
      have bound := conversion_unit listed copies
      omega

theorem convertDescriptor_bounded_iff (strBuffer : Vector UInt8 256) (bufferSize : UInt64)
    (transferred : UInt32) :
    (∃ stores, convertDescriptor strBuffer bufferSize = some stores ∧
      StringRun.Bounded ⟨.success,stores⟩ bufferSize transferred) ↔
    DescriptorFits (bLength strBuffer) bufferSize transferred := by
  have chars := descriptorChars_cases (bLength strBuffer)
  have cast := asInt_le bufferSize
  simp only [convertDescriptor,copyChars_eq]
  by_cases least : (asInt bufferSize).toInt = Int32.minValue.toInt
  · rw [if_pos least]
    refine iff_of_false (by simp) fun fits => ?_
    have size := fits.size
    rw [least,Int32.toInt_minValue] at size
    omega
  · rw [if_neg least]
    simp only [Option.map_some,Option.some.injEq,exists_eq_left',stores_bounded_iff]
    rw [Int32.toInt_minValue] at least
    constructor
    · rintro ⟨low,high,enough⟩
      rcases chars with ⟨_,chars⟩ | ⟨some,few,chars⟩ | ⟨many,chars⟩
      · omega
      · exact ⟨some,by omega,Or.inl few⟩
      · refine ⟨?_,by omega,by omega⟩
        rintro zero
        rw [zero] at many
        cases many
    · rintro ⟨measured,size,text⟩
      rcases chars with ⟨zero,_⟩ | ⟨_,few,chars⟩ | ⟨many,chars⟩
      · exact absurd zero measured
      · omega
      · omega

section Calls

variable {getDescriptor : GetDescriptor} {device : Option UsbDevice} {index : UInt8}
  {langId : UInt16} {buffer : Bool} (bufferSize : UInt64)

theorem usbGetStringDescriptor_refused {err : ErrorCode}
    (refused : requestStringDescriptor getDescriptor device index langId buffer = .error err) :
    usbGetStringDescriptor getDescriptor device index langId buffer bufferSize = some ⟨err,[]⟩ := by
  rw [usbGetStringDescriptor,refused]

theorem usbGetStringDescriptor_answered {answer : DescriptorAnswer}
    (answered : requestStringDescriptor getDescriptor device index langId buffer = .ok answer) :
    usbGetStringDescriptor getDescriptor device index langId buffer bufferSize =
      (convertDescriptor answer.strBuffer bufferSize).map fun stores => ⟨.success,stores⟩ := by
  rw [usbGetStringDescriptor,answered]

end Calls

/-- The text stays inside the caller's buffer and the bytes received exactly if
the length byte is not zero, the size is positive as an `int`, and the bytes
received are as many as the copied text needs. -/
theorem usbGetStringDescriptor_bounded_iff (getDescriptor : GetDescriptor)
    (device : Option UsbDevice) (index : UInt8) (langId : UInt16) (buffer : Bool)
    (bufferSize : UInt64) (answer : DescriptorAnswer)
    (answered : requestStringDescriptor getDescriptor device index langId buffer = .ok answer) :
    (∃ run, usbGetStringDescriptor getDescriptor device index langId buffer bufferSize = some run ∧
      run.Bounded bufferSize answer.transferred) ↔
    DescriptorFits (bLength answer.strBuffer) bufferSize answer.transferred := by
  rw [usbGetStringDescriptor_answered bufferSize answered,← convertDescriptor_bounded_iff]
  constructor
  · rintro ⟨run,completed,bounded⟩
    obtain ⟨stores,converted,rfl⟩ := Option.map_eq_some_iff.mp completed
    exact ⟨stores,converted,bounded⟩
  · rintro ⟨stores,converted,bounded⟩
    exact ⟨_,Option.map_eq_some_iff.mpr ⟨stores,converted,rfl⟩,bounded⟩

def sendsString (bytes : List UInt8) : GetDescriptor := fun _ _ _ _ =>
  ⟨true,Vector.ofFn fun i => bytes.getD i 0,UInt32.ofNat bytes.length⟩

def openKeyboard : UsbDevice := (usbOpenDevice (.keyboard .empty) ⟨some 4,some 9⟩).2

theorem usbGetStringDescriptor_bounded_two : ∃ run,
    usbGetStringDescriptor (sendsString [6,3,0x4b,0,0x42,0]) (some openKeyboard) 2 0x0409 true 64 =
      some run ∧ run.Bounded 64 6 :=
  (usbGetStringDescriptor_bounded_iff (sendsString [6,3,0x4b,0,0x42,0]) (some openKeyboard) 2 0x0409
    true 64 _ rfl).mpr ⟨by decide +kernel,by decide,by decide +kernel⟩

/-- A length byte of zero puts the terminator in front of the buffer; one that
is larger than what was sent copies bytes that were not. -/
theorem descriptor_length_trusted :
    (∃ run, usbGetStringDescriptor (sendsString [0,3]) (some openKeyboard) 2 0x0409 true 64 =
        some run ∧ run.stores = [⟨-1,0,none⟩] ∧ ¬run.Bounded 64 2) ∧
    ∃ run, usbGetStringDescriptor (sendsString [8,3,0x4b,0]) (some openKeyboard) 2 0x0409 true 64 =
        some run ∧ ⟨1,0,some 1⟩ ∈ run.stores ∧ ¬run.Bounded 64 4 := by
  refine ⟨⟨⟨.success,[⟨-1,0,none⟩]⟩,by decide +kernel,rfl,fun bounded => ?_⟩,
    ⟨⟨.success,[⟨0,0x4b,some 0⟩,⟨1,0,some 1⟩,⟨2,0,some 2⟩,⟨3,0,none⟩]⟩,by decide +kernel,by simp,
      fun bounded => ?_⟩⟩
  · have inside := bounded.inside ⟨-1,0,none⟩ (by simp)
    exact absurd inside.1 (by decide)
  · have received := bounded.received ⟨1,0,some 1⟩ (by simp) 1 rfl
    exact absurd received (by decide)

end UsbOverNetwork
