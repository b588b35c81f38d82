import Mathlib.Algebra.GroupWithZero.Nat
import Mathlib.Data.List.GetD
import UsbOverNetwork.Library.Bytes

/-! Structures that lie packed in memory: their fields at fixed offsets, and
the laws of a codec that swaps integers in place before the bytes travel. -/
namespace Bytes

def bigEndian16 (value : UInt16) : List UInt8 := [byte 1 value.toNat,byte 0 value.toNat]

def bigEndian32 (value : UInt32) : List UInt8 :=
  [byte 3 value.toNat,byte 2 value.toNat,byte 1 value.toNat,byte 0 value.toNat]

def slice (image : List UInt8) (offset length : Nat) : List UInt8 :=
  (image.drop offset).take length

/-- Fields that lie one behind the other, each given with its offset. -/
def Tiled : Nat → List (Nat × List UInt8) → Prop
  | _,[] => True
  | start,(offset,bytes)::rest => offset = start ∧ Tiled (start + bytes.length) rest

/-- The pieces of the given lengths that lie one behind the other from `start` on. -/
def cut (image : List UInt8) : Nat → List Nat → List (List UInt8)
  | _,[] => []
  | start,length::rest => slice image start length::cut image (start+length) rest

/-- A packed structure of `size` bytes. `image` and `ofImage` are its memory
in both directions, `pack` and `unpack` change the byte order in place, and
`fields` lists the bytes every field has on the wire. -/
structure Codec (α : Type) where
  size : Nat
  image : α → List UInt8
  ofImage : List UInt8 → α
  pack : α → α
  unpack : α → α
  fields : α → List (Nat × List UInt8)

variable {image : List UInt8} {offset length : Nat}

theorem word16_bytes (value : UInt16) : word16 (byte 0 value.toNat) (byte 1 value.toNat) = value := by
  apply UInt16.toNat_inj.mp
  have bound := value.toNat_lt
  simp only [word16,byte_toNat,UInt16.toNat_ofNat']
  omega

theorem image16_word16 (b0 b1 : UInt8) : image16 (word16 b0 b1) = [b0,b1] := by
  have bound0 := b0.toNat_lt
  have bound1 := b1.toNat_lt
  have value : (word16 b0 b1).toNat = b0.toNat + 256*b1.toNat := by
    simp only [word16,UInt16.toNat_ofNat']
    omega
  simp only [image16,value,List.cons.injEq,← UInt8.toNat_inj,byte_toNat,and_true]
  omega

theorem image16_swap16 (value : UInt16) : image16 (swap16 value) = bigEndian16 value :=
  image16_word16 _ _

theorem image32_swap32 (value : UInt32) : image32 (swap32 value) = bigEndian32 value :=
  image32_word32 _ _ _ _

theorem swap16_swap16 (value : UInt16) : swap16 (swap16 value) = value := by
  have image := image16_swap16 value
  simp only [image16,bigEndian16,List.cons.injEq,and_true] at image
  obtain ⟨first,second⟩ := image
  calc swap16 (swap16 value)
      = word16 (byte 0 value.toNat) (byte 1 value.toNat) := by rw [swap16,first,second]
    _ = value := word16_bytes value

theorem slice_octets (length : Nat) (inside : offset + length ≤ image.length) :
    slice image offset length = (List.range length).map fun i => octet image (offset+i) := by
  apply List.ext_getElem
  · simp only [slice,List.length_take,List.length_drop,List.length_map,List.length_range]
    omega
  · intro i left right
    simp only [slice,List.getElem_take,List.getElem_drop,List.getElem_map,List.getElem_range]
    rw [octet,List.getD_eq_getElem]

theorem image32_read32 (inside : offset + 4 ≤ image.length) :
    image32 (read32 image offset) = slice image offset 4 := by
  rw [slice_octets 4 inside,read32,image32_word32]
  rfl

theorem image16_read16 (inside : offset + 2 ≤ image.length) :
    image16 (read16 image offset) = slice image offset 2 := by
  rw [slice_octets 2 inside,read16,image16_word16]
  rfl

theorem slice_append (first second : Nat) :
    slice image offset first ++ slice image (offset+first) second =
      slice image offset (first+second) := by
  simp only [slice,← List.drop_drop]
  exact List.take_add.symm

theorem cut_flatten (lengths : List Nat) (start : Nat) :
    (cut image start lengths).flatten = slice image start lengths.sum := by
  induction lengths generalizing start with
  | nil => simp [cut,slice]
  | cons length rest ih => rw [cut,List.flatten_cons,ih,slice_append,List.sum_cons]

theorem slice_whole : slice image 0 image.length = image := by
  simp [slice]

theorem cut_whole (lengths : List Nat) (whole : lengths.sum = image.length) :
    (cut image 0 lengths).flatten = image := by
  rw [cut_flatten,whole,slice_whole]

theorem toList_ofFn (length : Nat) (inside : offset + length ≤ image.length) :
    (Vector.ofFn fun i : Fin length => octet image (offset+i)).toList = slice image offset length := by
  rw [slice_octets length inside]
  apply List.ext_getElem <;> simp

theorem Tiled.slice {fields : List (Nat × List UInt8)} :
    ∀ {before : List UInt8}, Tiled before.length fields → ∀ field ∈ fields,
      Bytes.slice (before ++ (fields.map Prod.snd).flatten) field.1 field.2.length = field.2 := by
  induction fields with
  | nil => intro _ _ field member; cases member
  | cons head rest ih =>
    rintro before ⟨here,tiled⟩ field member
    rw [List.map_cons,List.flatten_cons]
    rcases List.mem_cons.mp member with rfl | later
    · simp [Bytes.slice,here]
    · rw [← List.append_assoc]
      exact ih (by rwa [List.length_append]) field later

theorem Tiled.held {fields : List (Nat × List UInt8)} (tiled : Tiled 0 fields)
    (whole : (fields.map Prod.snd).flatten = image) :
    ∀ field ∈ fields, Bytes.slice image field.1 field.2.length = field.2 := by
  rw [← whole]
  exact @Tiled.slice _ [] tiled

theorem slice_inside {bytes : List UInt8} (held : slice image offset length = bytes)
    (whole : bytes.length = length) : 0 < length → offset + length ≤ image.length := by
  intro positive
  have size := congrArg List.length held
  simp only [slice,List.length_take,List.length_drop,whole] at size
  omega

theorem read32_of_slice {value : UInt32} (held : slice image offset 4 = image32 value) :
    read32 image offset = value := by
  have inside := slice_inside held rfl (by omega)
  exact image32_injective ((image32_read32 inside).trans held)

theorem read16_of_slice {value : UInt16} (held : slice image offset 2 = image16 value) :
    read16 image offset = value := by
  have inside := slice_inside held rfl (by omega)
  have same : image16 (read16 image offset) = image16 value := (image16_read16 inside).trans held
  simp only [image16,List.cons.injEq,and_true] at same
  rw [← word16_bytes (read16 image offset),← word16_bytes value,same.1,same.2]

theorem octet_of_slice {value : UInt8} (held : slice image offset 1 = [value]) :
    octet image offset = value := by
  have inside := slice_inside held rfl (by omega)
  rw [slice_octets 1 inside] at held
  simpa using held

theorem ofFn_of_slice {values : Vector UInt8 length} (held : slice image offset length = values.toList)
    (positive : 0 < length) : (Vector.ofFn fun i : Fin length => octet image (offset+i)) = values := by
  have inside := slice_inside held (by simp) positive
  apply Vector.toList_inj.mp
  rw [toList_ofFn length inside,held]

namespace Codec

variable {α : Type}

def encode (codec : Codec α) (value : α) : List UInt8 := codec.image (codec.pack value)

def decode (codec : Codec α) (bytes : List UInt8) : α := codec.unpack (codec.ofImage bytes)

/-- Nothing is lost in either direction, in memory and over the wire, and the
wire holds every field's bytes at that field's offset. -/
structure Lawful (codec : Codec α) : Prop where
  unpack_pack : ∀ value, codec.unpack (codec.pack value) = value
  encode_decode : ∀ bytes, bytes.length = codec.size → codec.encode (codec.decode bytes) = bytes
  decode_encode : ∀ value, codec.decode (codec.encode value) = value
  size_encode : ∀ value, (codec.encode value).length = codec.size
  layout : ∀ value, ∀ field ∈ codec.fields value,
    slice (codec.encode value) field.1 field.2.length = field.2

/-- What has to be said of a structure: how its memory is laid out and that
the two changes of byte order undo each other. -/
theorem lawful {codec : Codec α}
    (pack_unpack : ∀ value, codec.pack (codec.unpack value) = value)
    (unpack_pack : ∀ value, codec.unpack (codec.pack value) = value)
    (image_ofImage : ∀ bytes, bytes.length = codec.size → codec.image (codec.ofImage bytes) = bytes)
    (ofImage_image : ∀ value, codec.ofImage (codec.image value) = value)
    (size_image : ∀ value, (codec.image value).length = codec.size)
    (fields_image : ∀ value, ((codec.fields value).map Prod.snd).flatten = codec.encode value)
    (fields_tiled : ∀ value, Tiled 0 (codec.fields value)) : codec.Lawful where
  unpack_pack := unpack_pack
  encode_decode bytes whole := by rw [encode,decode,pack_unpack,image_ofImage bytes whole]
  decode_encode value := by rw [decode,encode,ofImage_image,unpack_pack]
  size_encode value := size_image _
  layout value := (fields_tiled value).held (fields_image value)

end Codec
end Bytes
