import UsbOverNetwork.Library.Layout
import UsbOverNetwork.Common.Protocol

/-! The wire formats of the protocol: packing and unpacking undo each other,
on structures and on buffers, and every integer travels big-endian at the
offset its packed structure gives it. -/
namespace UsbOverNetwork
open Bytes

def headerBasicFields (header : UsbipHeaderBasic) : List (Nat × List UInt8) :=
  [(0,bigEndian16 header.version),(2,bigEndian16 header.command),(4,bigEndian32 header.status)]

def deviceFields (dev : UsbipUsbDevice) : List (Nat × List UInt8) :=
  [(0,dev.path.toList),(256,dev.busid.toList),
    (288,bigEndian32 dev.busnum),(292,bigEndian32 dev.devnum),(296,bigEndian32 dev.speed),
    (300,bigEndian16 dev.idVendor),(302,bigEndian16 dev.idProduct),(304,bigEndian16 dev.bcdDevice),
    (306,[dev.bDeviceClass]),(307,[dev.bDeviceSubClass]),(308,[dev.bDeviceProtocol]),
    (309,[dev.bConfigurationValue]),(310,[dev.bNumConfigurations]),(311,[dev.bNumInterfaces])]

def isoPacketFields (iso : UsbipIsoPacketDescriptor) : List (Nat × List UInt8) :=
  [(0,bigEndian32 iso.offset),(4,bigEndian32 iso.length),(8,bigEndian32 iso.actualLength),
    (12,bigEndian32 iso.status)]

def commonFields (common : UsbipHeaderCommon) : List (Nat × List UInt8) :=
  [(0,bigEndian32 common.command),(4,bigEndian32 common.seqnum),(8,bigEndian32 common.devid),
    (12,bigEndian32 common.direction),(16,bigEndian32 common.ep)]

namespace UsbipHeaderUnion

/-- The memory behind `word0`: `padding` of the two unlink members. -/
def paddingImage (u : UsbipHeaderUnion) : List UInt8 :=
  image32 u.word1 ++ image32 u.word2 ++ image32 u.word3 ++ image32 u.word4 ++ u.setup.toList

def submitFields (u : UsbipHeaderUnion) : List (Nat × List UInt8) :=
  [(20,bigEndian32 u.word0),(24,bigEndian32 u.word1),(28,bigEndian32 u.word2),
    (32,bigEndian32 u.word3),(36,bigEndian32 u.word4),(40,u.setup.toList)]

def unlinkFields (u : UsbipHeaderUnion) : List (Nat × List UInt8) :=
  [(20,bigEndian32 u.word0),(24,u.paddingImage)]

/-- The member the command selects; no member is selected by an unknown command. -/
def fieldsFor (command : UInt32) (u : UsbipHeaderUnion) : List (Nat × List UInt8) :=
  if command = usbipCmdSubmit then u.submitFields
  else if command = usbipRetSubmit then u.submitFields
  else if command = usbipCmdUnlink then u.unlinkFields
  else if command = usbipRetUnlink then u.unlinkFields
  else [(20,image32 u.word0 ++ u.paddingImage)]

end UsbipHeaderUnion

def headerFields (header : UsbipHeader) : List (Nat × List UInt8) :=
  commonFields header.common ++ header.u.fieldsFor header.common.command

def headerBasicCodec : Codec UsbipHeaderBasic where
  size := UsbipHeaderBasic.size
  image := UsbipHeaderBasic.image
  ofImage := UsbipHeaderBasic.ofImage
  pack := usbipPackHeaderBasic
  unpack := usbipUnpackHeaderBasic
  fields := headerBasicFields

def deviceCodec : Codec UsbipUsbDevice where
  size := UsbipUsbDevice.size
  image := UsbipUsbDevice.image
  ofImage := UsbipUsbDevice.ofImage
  pack := usbipPackDevice
  unpack := usbipUnpackDevice
  fields := deviceFields

def isoPacketCodec : Codec UsbipIsoPacketDescriptor where
  size := UsbipIsoPacketDescriptor.size
  image := UsbipIsoPacketDescriptor.image
  ofImage := UsbipIsoPacketDescriptor.ofImage
  pack := usbipPackIsoPacket
  unpack := usbipUnpackIsoPacket
  fields := isoPacketFields

/-- A URB header is packed for its own command, as `usbip_send_urb_header` packs it. -/
def headerCodec : Codec UsbipHeader where
  size := UsbipHeader.size
  image := UsbipHeader.image
  ofImage := UsbipHeader.ofImage
  pack header := usbipPackHeader header header.common.command
  unpack := usbipUnpackHeader
  fields := headerFields

-- The structures in memory, each word in the byte order of the machine.
def basicHeaderMemory (header : UsbipHeaderBasic) : List (Nat × List UInt8) :=
  [(0,image16 header.version),(2,image16 header.command),(4,image32 header.status)]

def isoPacketMemory (iso : UsbipIsoPacketDescriptor) : List (Nat × List UInt8) :=
  [(0,image32 iso.offset),(4,image32 iso.length),(8,image32 iso.actualLength),(12,image32 iso.status)]

def deviceMemory (dev : UsbipUsbDevice) : List (Nat × List UInt8) :=
  [(0,dev.path.toList),(256,dev.busid.toList),
    (288,image32 dev.busnum),(292,image32 dev.devnum),(296,image32 dev.speed),
    (300,image16 dev.idVendor),(302,image16 dev.idProduct),(304,image16 dev.bcdDevice),
    (306,[dev.bDeviceClass]),(307,[dev.bDeviceSubClass]),(308,[dev.bDeviceProtocol]),
    (309,[dev.bConfigurationValue]),(310,[dev.bNumConfigurations]),(311,[dev.bNumInterfaces])]

def headerMemory (header : UsbipHeader) : List (Nat × List UInt8) :=
  [(0,image32 header.common.command),(4,image32 header.common.seqnum),
    (8,image32 header.common.devid),(12,image32 header.common.direction),
    (16,image32 header.common.ep),(20,image32 header.u.word0),(24,image32 header.u.word1),
    (28,image32 header.u.word2),(32,image32 header.u.word3),(36,image32 header.u.word4),
    (40,header.u.setup.toList)]

theorem device_ofImage_image (dev : UsbipUsbDevice) : UsbipUsbDevice.ofImage dev.image = dev := by
  have tiled : Tiled 0 (deviceMemory dev) := by simp [deviceMemory,Tiled,image32,image16]
  have held : ∀ field ∈ deviceMemory dev, slice dev.image field.1 field.2.length = field.2 :=
    tiled.held (by simp [deviceMemory,UsbipUsbDevice.image])
  simp only [deviceMemory,List.forall_mem_cons,List.not_mem_nil] at held
  obtain ⟨path,busid,busnum,devnum,speed,vendor,product,release,first,second,third,fourth,fifth,
    sixth,-⟩ := held
  rw [Vector.length_toList] at path busid
  rw [UsbipUsbDevice.ofImage,ofFn_of_slice path (by omega),ofFn_of_slice busid (by omega),
    read32_of_slice busnum,read32_of_slice devnum,read32_of_slice speed,read16_of_slice vendor,
    read16_of_slice product,read16_of_slice release,octet_of_slice first,octet_of_slice second,
    octet_of_slice third,octet_of_slice fourth,octet_of_slice fifth,octet_of_slice sixth]

theorem device_image_ofImage (bytes : List UInt8) (whole : bytes.length = UsbipUsbDevice.size) :
    (UsbipUsbDevice.ofImage bytes).image = bytes := by
  rw [UsbipUsbDevice.size] at whole
  have cover := cut_whole [256,32,4,4,4,2,2,2,6] whole.symm
  have last : slice bytes 306 6 = [octet bytes 306,octet bytes 307,octet bytes 308,octet bytes 309,
      octet bytes 310,octet bytes 311] := slice_octets 6 (by omega)
  simp (disch := omega) only [UsbipUsbDevice.image,UsbipUsbDevice.ofImage,toList_ofFn,image32_read32,
    image16_read16,← last]
  calc _ = (cut bytes 0 [256,32,4,4,4,2,2,2,6]).flatten := by simp [cut]
    _ = bytes := cover

theorem header_ofImage_image (header : UsbipHeader) : UsbipHeader.ofImage header.image = header := by
  have tiled : Tiled 0 (headerMemory header) := by simp [headerMemory,Tiled,image32]
  have held : ∀ field ∈ headerMemory header, slice header.image field.1 field.2.length = field.2 :=
    tiled.held (by simp [headerMemory,UsbipHeader.image])
  simp only [headerMemory,List.forall_mem_cons,List.not_mem_nil] at held
  obtain ⟨command,seqnum,devid,direction,ep,word0,word1,word2,word3,word4,setup,-⟩ := held
  rw [Vector.length_toList] at setup
  rw [UsbipHeader.ofImage,read32_of_slice command,read32_of_slice seqnum,read32_of_slice devid,
    read32_of_slice direction,read32_of_slice ep,read32_of_slice word0,read32_of_slice word1,
    read32_of_slice word2,read32_of_slice word3,read32_of_slice word4,
    ofFn_of_slice setup (by omega)]

theorem header_image_ofImage (bytes : List UInt8) (whole : bytes.length = UsbipHeader.size) :
    (UsbipHeader.ofImage bytes).image = bytes := by
  rw [UsbipHeader.size] at whole
  have cover := cut_whole [4,4,4,4,4,4,4,4,4,4,8] whole.symm
  simp (disch := omega) only [UsbipHeader.image,UsbipHeader.ofImage,toList_ofFn,image32_read32]
  calc _ = (cut bytes 0 [4,4,4,4,4,4,4,4,4,4,8]).flatten := by simp [cut]
    _ = bytes := cover

theorem basicHeader_ofImage_image (header : UsbipHeaderBasic) :
    UsbipHeaderBasic.ofImage header.image = header := by
  have tiled : Tiled 0 (basicHeaderMemory header) := by simp [basicHeaderMemory,Tiled,image16]
  have held : ∀ field ∈ basicHeaderMemory header,
      slice header.image field.1 field.2.length = field.2 :=
    tiled.held (by simp [basicHeaderMemory,UsbipHeaderBasic.image])
  simp only [basicHeaderMemory,List.forall_mem_cons,List.not_mem_nil] at held
  obtain ⟨version,command,status,-⟩ := held
  rw [UsbipHeaderBasic.ofImage,read16_of_slice version,read16_of_slice command,
    read32_of_slice status]

theorem basicHeader_image_ofImage (bytes : List UInt8) (whole : bytes.length = UsbipHeaderBasic.size) :
    (UsbipHeaderBasic.ofImage bytes).image = bytes := by
  rw [UsbipHeaderBasic.size] at whole
  simp (disch := omega) only [UsbipHeaderBasic.image,UsbipHeaderBasic.ofImage,image16_read16,
    image32_read32]
  calc _ = (cut bytes 0 [2,2,4]).flatten := by simp [cut]
    _ = bytes := cut_whole [2,2,4] whole.symm

theorem isoPacket_ofImage_image (iso : UsbipIsoPacketDescriptor) :
    UsbipIsoPacketDescriptor.ofImage iso.image = iso := by
  have tiled : Tiled 0 (isoPacketMemory iso) := by simp [isoPacketMemory,Tiled,image32]
  have held : ∀ field ∈ isoPacketMemory iso, slice iso.image field.1 field.2.length = field.2 :=
    tiled.held (by simp [isoPacketMemory,UsbipIsoPacketDescriptor.image])
  simp only [isoPacketMemory,List.forall_mem_cons,List.not_mem_nil] at held
  obtain ⟨start,length,actual,status,-⟩ := held
  rw [UsbipIsoPacketDescriptor.ofImage,read32_of_slice start,read32_of_slice length,
    read32_of_slice actual,read32_of_slice status]

theorem isoPacket_image_ofImage (bytes : List UInt8)
    (whole : bytes.length = UsbipIsoPacketDescriptor.size) :
    (UsbipIsoPacketDescriptor.ofImage bytes).image = bytes := by
  rw [UsbipIsoPacketDescriptor.size] at whole
  simp (disch := omega) only [UsbipIsoPacketDescriptor.image,UsbipIsoPacketDescriptor.ofImage,
    image32_read32]
  calc _ = (cut bytes 0 [4,4,4,4]).flatten := by simp [cut]
    _ = bytes := cut_whole [4,4,4,4] whole.symm

theorem headerBasicCodec_lawful : headerBasicCodec.Lawful := by
  refine Codec.lawful ?_ ?_ basicHeader_image_ofImage basicHeader_ofImage_image (fun _ => rfl) ?_ ?_
    <;> intro header
  · simp [headerBasicCodec,usbipPackHeaderBasic,usbipUnpackHeaderBasic,htobe16,htobe32,be16toh,be32toh,
      swap16_swap16,swap32_swap32]
  · simp [headerBasicCodec,usbipPackHeaderBasic,usbipUnpackHeaderBasic,htobe16,htobe32,be16toh,be32toh,
      swap16_swap16,swap32_swap32]
  · simp [headerBasicCodec,headerBasicFields,Codec.encode,usbipPackHeaderBasic,UsbipHeaderBasic.image,
      htobe16,htobe32,image16_swap16,image32_swap32]
  · simp [headerBasicCodec,headerBasicFields,Tiled,bigEndian16]

theorem isoPacketCodec_lawful : isoPacketCodec.Lawful := by
  refine Codec.lawful ?_ ?_ isoPacket_image_ofImage isoPacket_ofImage_image (fun _ => rfl) ?_ ?_
    <;> intro iso
  · simp [isoPacketCodec,usbipPackIsoPacket,usbipUnpackIsoPacket,htobe32,be32toh,swap32_swap32]
  · simp [isoPacketCodec,usbipPackIsoPacket,usbipUnpackIsoPacket,htobe32,be32toh,swap32_swap32]
  · simp [isoPacketCodec,isoPacketFields,Codec.encode,usbipPackIsoPacket,
      UsbipIsoPacketDescriptor.image,htobe32,image32_swap32]
  · simp [isoPacketCodec,isoPacketFields,Tiled,bigEndian32]

theorem deviceCodec_lawful : deviceCodec.Lawful := by
  refine Codec.lawful ?_ ?_ device_image_ofImage device_ofImage_image ?_ ?_ ?_ <;> intro dev
  · simp [deviceCodec,usbipPackDevice,usbipUnpackDevice,htobe16,htobe32,be16toh,be32toh,
      swap16_swap16,swap32_swap32]
  · simp [deviceCodec,usbipPackDevice,usbipUnpackDevice,htobe16,htobe32,be16toh,be32toh,
      swap16_swap16,swap32_swap32]
  · simp [deviceCodec,UsbipUsbDevice.image,UsbipUsbDevice.size,image32,image16]
  · simp [deviceCodec,deviceFields,Codec.encode,usbipPackDevice,UsbipUsbDevice.image,htobe16,htobe32,
      image16_swap16,image32_swap32]
  · simp [deviceCodec,deviceFields,Tiled,bigEndian16,bigEndian32]

namespace UsbipHeaderUnion

def image (u : UsbipHeaderUnion) : List UInt8 := image32 u.word0 ++ u.paddingImage

theorem swapFor_swapFor (command : UInt32) (u : UsbipHeaderUnion) :
    (u.swapFor command).swapFor command = u := by
  simp only [swapFor]
  split_ifs <;> simp [swapFive,swapFirst,swap32_swap32]

theorem fieldsFor_image (command : UInt32) (u : UsbipHeaderUnion) :
    ((u.fieldsFor command).map Prod.snd).flatten = (u.swapFor command).image := by
  simp only [fieldsFor,swapFor]
  split_ifs <;>
    simp [submitFields,unlinkFields,paddingImage,image,swapFive,swapFirst,image32_swap32]

theorem fieldsFor_tiled (command : UInt32) (u : UsbipHeaderUnion) : Tiled 20 (u.fieldsFor command) := by
  simp only [fieldsFor]
  split_ifs <;> simp [submitFields,unlinkFields,Tiled,bigEndian32]

end UsbipHeaderUnion

theorem UsbipHeader.image_eq (header : UsbipHeader) : header.image =
    image32 header.common.command ++ image32 header.common.seqnum ++ image32 header.common.devid ++
      image32 header.common.direction ++ image32 header.common.ep ++ header.u.image := by
  simp [UsbipHeader.image,UsbipHeaderUnion.image,UsbipHeaderUnion.paddingImage]

theorem UsbipHeaderCommon.swapped_swapped (common : UsbipHeaderCommon) :
    common.swapped.swapped = common := by
  simp [swapped,swap32_swap32]

theorem headerCodec_lawful : headerCodec.Lawful := by
  refine Codec.lawful ?_ ?_ header_image_ofImage header_ofImage_image ?_ ?_ ?_ <;> intro header
  · simp [headerCodec,usbipPackHeader,usbipUnpackHeader,UsbipHeaderCommon.swapped_swapped,
      UsbipHeaderUnion.swapFor_swapFor]
  · simp [headerCodec,usbipPackHeader,usbipUnpackHeader,UsbipHeaderCommon.swapped_swapped,
      UsbipHeaderUnion.swapFor_swapFor]
  · simp [headerCodec,UsbipHeader.image,UsbipHeader.size,image32]
  · simp only [Codec.encode,headerCodec,headerFields,List.map_append,List.flatten_append,
      UsbipHeaderUnion.fieldsFor_image,UsbipHeader.image_eq]
    simp [commonFields,usbipPackHeader,UsbipHeaderCommon.swapped,image32_swap32]
  · simp only [headerCodec,headerFields,commonFields,List.cons_append,List.nil_append,Tiled]
    simpa [bigEndian32] using header.u.fieldsFor_tiled header.common.command

theorem usbip_codecs_lawful : headerCodec.Lawful ∧ headerBasicCodec.Lawful ∧ deviceCodec.Lawful ∧
    isoPacketCodec.Lawful :=
  ⟨headerCodec_lawful,headerBasicCodec_lawful,deviceCodec_lawful,isoPacketCodec_lawful⟩

end UsbOverNetwork
