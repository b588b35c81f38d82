import Mathlib.Algebra.Group.Nat.Defs
import Mathlib.Data.List.TakeWhile

/-! Words in the memory of a little-endian machine, and bounded C strings. -/
namespace Bytes

def byte (index : Nat) (value : Nat) : UInt8 := UInt8.ofNat (value / 256^index)

def image16 (value : UInt16) : List UInt8 := [byte 0 value.toNat,byte 1 value.toNat]

def image32 (value : UInt32) : List UInt8 :=
  [byte 0 value.toNat,byte 1 value.toNat,byte 2 value.toNat,byte 3 value.toNat]

def word16 (b0 b1 : UInt8) : UInt16 := UInt16.ofNat (b0.toNat + 256*b1.toNat)

def word32 (b0 b1 b2 b3 : UInt8) : UInt32 :=
  UInt32.ofNat (b0.toNat + 256*b1.toNat + 65536*b2.toNat + 16777216*b3.toNat)

/-- The byte at an offset of a memory image; an image is only read inside its length. -/
def octet (image : List UInt8) (offset : Nat) : UInt8 := image.getD offset 0

def read16 (image : List UInt8) (offset : Nat) : UInt16 :=
  word16 (octet image offset) (octet image (offset+1))

def read32 (image : List UInt8) (offset : Nat) : UInt32 :=
  word32 (octet image offset) (octet image (offset+1)) (octet image (offset+2)) (octet image (offset+3))

def swap16 (value : UInt16) : UInt16 := word16 (byte 1 value.toNat) (byte 0 value.toNat)

def swap32 (value : UInt32) : UInt32 :=
  word32 (byte 3 value.toNat) (byte 2 value.toNat) (byte 1 value.toNat) (byte 0 value.toNat)

theorem byte_toNat (index value : Nat) : (byte index value).toNat = value / 256^index % 256 := by
  simp [byte]

theorem word32_bytes (value : UInt32) :
    word32 (byte 0 value.toNat) (byte 1 value.toNat) (byte 2 value.toNat) (byte 3 value.toNat) =
      value := by
  apply UInt32.toNat_inj.mp
  have bound := value.toNat_lt
  simp only [word32,byte_toNat,UInt32.toNat_ofNat']
  omega

theorem image32_injective : Function.Injective image32 := by
  intro a b same
  simp only [image32,List.cons.injEq,and_true] at same
  obtain ⟨first,second,third,fourth⟩ := same
  rw [← word32_bytes a,← word32_bytes b,first,second,third,fourth]

theorem word32_toNat (b0 b1 b2 b3 : UInt8) : (word32 b0 b1 b2 b3).toNat =
    b0.toNat + 256*b1.toNat + 65536*b2.toNat + 16777216*b3.toNat := by
  have bound0 := b0.toNat_lt
  have bound1 := b1.toNat_lt
  have bound2 := b2.toNat_lt
  have bound3 := b3.toNat_lt
  simp only [word32,UInt32.toNat_ofNat']
  omega

theorem image32_word32 (b0 b1 b2 b3 : UInt8) : image32 (word32 b0 b1 b2 b3) = [b0,b1,b2,b3] := by
  have bound0 := b0.toNat_lt
  have bound1 := b1.toNat_lt
  have bound2 := b2.toNat_lt
  have bound3 := b3.toNat_lt
  simp only [image32,word32_toNat,List.cons.injEq,← UInt8.toNat_inj,byte_toNat,and_true]
  omega

theorem byte_swap32 {index : Nat} (inside : index < 4) (value : UInt32) :
    byte index (swap32 value).toNat = byte (3 - index) value.toNat := by
  have image := image32_word32 (byte 3 value.toNat) (byte 2 value.toNat) (byte 1 value.toNat)
    (byte 0 value.toNat)
  simp only [image32,List.cons.injEq,and_true] at image
  obtain ⟨first,second,third,fourth⟩ := image
  match index,inside with
  | 0,_ => exact first
  | 1,_ => exact second
  | 2,_ => exact third
  | 3,_ => exact fourth

theorem swap32_swap32 (value : UInt32) : swap32 (swap32 value) = value := by
  calc swap32 (swap32 value)
      = word32 (byte 0 value.toNat) (byte 1 value.toNat) (byte 2 value.toNat) (byte 3 value.toNat) := by
        rw [swap32,byte_swap32 (by decide),byte_swap32 (by decide),byte_swap32 (by decide),
          byte_swap32 (by decide)]
    _ = value := word32_bytes value

theorem getLsbD_eq_byte (value : UInt32) (index : Nat) :
    value.toBitVec.getLsbD index = (byte (index/8) value.toNat).toNat.testBit (index % 8) := by
  have split : 8*(index/8) + index % 8 = index := Nat.div_add_mod index 8
  have power : 256^(index/8) = 2^(8*(index/8)) := by rw [Nat.pow_mul]
  rw [byte_toNat,power,show 256 = 2^8 from rfl,Nat.testBit_mod_two_pow,Nat.testBit_div_two_pow,
    Nat.add_comm,split]
  simp [Nat.mod_lt index]
  rfl

theorem swap32_getLsbD (value : UInt32) {index : Nat} (inside : index < 32) :
    (swap32 value).toBitVec.getLsbD index =
      value.toBitVec.getLsbD (8*(3 - index/8) + index % 8) := by
  have place : (8*(3 - index/8) + index % 8)/8 = 3 - index/8 := by omega
  have within : (8*(3 - index/8) + index % 8) % 8 = index % 8 := by omega
  rw [getLsbD_eq_byte,getLsbD_eq_byte,byte_swap32 (by omega),place,within]

theorem swap32_and (a b : UInt32) : swap32 (a &&& b) = swap32 a &&& swap32 b := by
  apply UInt32.eq_of_toBitVec_eq
  apply BitVec.eq_of_getLsbD_eq
  intro index inside
  simp only [UInt32.toBitVec_and,BitVec.getLsbD_and,swap32_getLsbD _ inside]

theorem swap32_or (a b : UInt32) : swap32 (a ||| b) = swap32 a ||| swap32 b := by
  apply UInt32.eq_of_toBitVec_eq
  apply BitVec.eq_of_getLsbD_eq
  intro index inside
  simp only [UInt32.toBitVec_or,BitVec.getLsbD_or,swap32_getLsbD _ inside]

theorem swap32_not (value : UInt32) : swap32 (~~~value) = ~~~swap32 value := by
  apply UInt32.eq_of_toBitVec_eq
  apply BitVec.eq_of_getLsbD_eq
  intro index inside
  have other : 8*(3 - index/8) + index % 8 < 32 := by omega
  simp only [UInt32.toBitVec_not,BitVec.getLsbD_not,swap32_getLsbD _ inside,inside,other]

end Bytes

/-- A NUL-terminated string in a `char` array of `room + 1` bytes. Two arrays
that differ only behind the terminator are the same string. -/
structure CString (room : Nat) where
  chars : List UInt8
  fits : chars.length ≤ room
  noNul : (0 : UInt8) ∉ chars
deriving DecidableEq

namespace CString

variable {room : Nat}

def empty : CString room := ⟨[],by simp,by simp⟩

def ofBuffer (buffer : List UInt8) : CString room where
  chars := (buffer.takeWhile (· != 0)).take room
  fits := List.length_take_le ..
  noNul := by
    intro member
    have inside := List.mem_of_mem_take member
    exact absurd (List.mem_takeWhile_imp inside) (by simp)

def buffer (text : CString room) : Vector UInt8 (room+1) :=
  Vector.ofFn fun i => text.chars.getD i 0

theorem takeWhile_getD_range {text : List UInt8} (noNul : (0 : UInt8) ∉ text) (length : Nat)
    (longer : text.length < length) :
    ((List.range length).map fun i => text.getD i 0).takeWhile (· != 0) = text := by
  have split : (List.range length).map (fun i => text.getD i 0) =
      text ++ List.replicate (length - text.length) 0 := by
    apply List.ext_getElem
    · simp
      omega
    · intro i left right
      simp only [List.getElem_map,List.getElem_range,List.getElem_append]
      split
      next inside => simp [inside]
      next outside => simp [List.getElem?_eq_none (Nat.not_lt.mp outside)]
  have all : text.takeWhile (· != 0) = text := by
    rw [List.takeWhile_eq_self_iff]
    intro char member
    simpa using ne_of_mem_of_not_mem member noNul
  obtain ⟨more,rest⟩ : ∃ more, length - text.length = more+1 := ⟨length - text.length - 1,by omega⟩
  rw [split,rest,List.replicate_succ,List.takeWhile_append,all,if_pos rfl]
  simp

theorem ofBuffer_chars (text : CString room) : ofBuffer text.chars = text := by
  have whole : text.chars.takeWhile (· != 0) = text.chars := by
    refine List.takeWhile_eq_self_iff.mpr fun char member => ?_
    simpa using ne_of_mem_of_not_mem member text.noNul
  have fits := text.fits
  cases text
  simp only [ofBuffer,mk.injEq]
  rw [whole,List.take_of_length_le fits]

theorem takeWhile_buffer (text : CString room) :
    text.buffer.toList.takeWhile (· != 0) = text.chars := by
  have values : text.buffer.toList = (List.range (room+1)).map fun i => text.chars.getD i 0 := by
    apply List.ext_getElem <;> simp [buffer]
  have fits := text.fits
  rw [values]
  exact takeWhile_getD_range text.noNul (room+1) (by omega)

theorem ofBuffer_buffer (text : CString room) : ofBuffer text.buffer.toList = text := by
  have read := takeWhile_buffer text
  have fits := text.fits
  cases text
  simp only [ofBuffer,mk.injEq]
  rw [read,List.take_of_length_le fits]

end CString
