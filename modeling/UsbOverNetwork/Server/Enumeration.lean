import Mathlib.Data.List.Nodup
import UsbOverNetwork.Library.Text
import UsbOverNetwork.Server.DeviceList

/-! How the devices of the operating system get into the device list. A device
is listed under a busid derived from a hash of its instance id, so what the
list holds after a refresh depends on which hashes coincide. -/
namespace UsbOverNetwork
open Text

def maxDevices : Nat := 32
def usbSpeedHigh : UInt32 := 3

/-- What SetupAPI tells about one present device; a property that cannot be
read leaves its buffer empty. -/
structure DeviceNode where
  hardwareId : CString 511
  serviceName : CString 63
  deviceDesc : CString 255
  instanceId : CString 255
deriving DecidableEq

def fnv1a (text : List UInt8) : UInt32 :=
  text.foldl (fun hash char => (hash ^^^ char.toUInt32) * 0x01000193) 0x811c9dc5

def busLocation (path : CString 255) : UInt32 × UInt32 :=
  ((fnv1a path.chars >>> 8) % 8 + 1,fnv1a path.chars % 16 + 1)

def printBusid (bus port : UInt32) : Busid :=
  .ofBuffer (decimal bus.toNat ++ ascii "-" ++ decimal port.toNat)

def parseBusidFromPath (path : CString 255) : Busid :=
  printBusid (busLocation path).1 (busLocation path).2

def isUsbHub (hardwareId : List UInt8) : Bool :=
  ["ROOT_HUB","USB\\HUB","Class_09"].any (contains hardwareId)

def isRealUsbDevice (hardwareId serviceName : List UInt8) : Bool :=
  ["USBSTOR","usbprint","usbser","WinUSB","usbaudio","usbvideo"].any (sameWord serviceName) ||
    ["VID_096E","VID_0529","VID_064F","VID_0403","VID_10C4","VID_067B"].any (contains hardwareId)

def stristr (haystack : List UInt8) (needle : String) : Bool :=
  (search ((ascii needle).map lower) (haystack.map lower)).isSome

def shouldSkipDevice (hardwareId deviceDesc serviceName : List UInt8) : Bool :=
  ["BTHUSB","BTH\\"].any (contains hardwareId) || stristr deviceDesc "bluetooth" ||
    contains hardwareId "VID_8087" || stristr deviceDesc "Host Controller" ||
    stristr deviceDesc "Root Hub" ||
    -- a generic HID device is only shown when it is a known dongle
    (sameWord serviceName "HidUsb" &&
      !(["VID_096E","VID_0529","VID_064F"].any (contains hardwareId)))

def DeviceNode.reported (node : DeviceNode) : Bool :=
  let hardwareId := node.hardwareId.chars
  let serviceName := node.serviceName.chars
  contains hardwareId "VID_" && contains hardwareId "PID_" && !isUsbHub hardwareId &&
    !sameWord serviceName "usbccgp" &&
    !shouldSkipDevice hardwareId node.deviceDesc.chars serviceName &&
    isRealUsbDevice hardwareId serviceName

/-- `sscanf` with the format `VID_%04hX` or `PID_%04hX`, at the first place
where it applies. -/
def scanId (hardwareId : List UInt8) (label : String) : UInt16 :=
  ((search (ascii label) hardwareId).bind fun text => scanHex 4 (text.drop 4)).getD 0

/-- The second hash, over plain `char`s, which are signed here. -/
def instanceHash (text : List UInt8) : UInt32 :=
  text.foldl (fun hash char => hash*31 + char.toInt8.toInt32.toUInt32) 0

def DeviceNode.device (node : DeviceNode) : UsbDevice where
  path := node.instanceId
  busid := parseBusidFromPath node.instanceId
  busnum := instanceHash node.instanceId.chars % 8 + 1
  devnum := (instanceHash node.instanceId.chars >>> 8) % 127 + 1
  speed := usbSpeedHigh
  vendorId := scanId node.hardwareId.chars "VID_"
  productId := scanId node.hardwareId.chars "PID_"
  bcdDevice := 0
  deviceClass := 0
  deviceSubclass := 0
  deviceProtocol := 0
  numConfigurations := 1
  configurationValue := 1
  numInterfaces := 1
  interfaces := Vector.replicate 32 ⟨0,0,0⟩
  handle := none
  interfaceHandles := Vector.replicate 32 none
  isOpen := false
  isClaimed := false
  isVirtual := false
  claimedInterface := 0

/-- `nodes` is `none` when `SetupDiGetClassDevsW` fails. -/
def usbEnumerateDevices {σ : Type} (initialized : Bool) (nodes : Option (List DeviceNode))
    (callback : UsbDevice → σ → σ) (data : σ) : ErrorCode × σ :=
  if !initialized then (.notInitialized,data)
  else
    match nodes with
    | none => (.usbInit,data)
    | some nodes =>
      (.success,(nodes.filter DeviceNode.reported).foldl (fun data node => callback node.device data)
        data)

structure ExportInfo where
  busid : Busid
  clientId : UInt32
  clientIp : CString 63
deriving DecidableEq

def deviceListClear (_ : DeviceList) : DeviceList := ⟨[]⟩

def savedExports (list : DeviceList) : List ExportInfo :=
  ((list.entries.filter (·.state = .exported)).take maxDevices).map fun entry =>
    ⟨entry.busid,entry.clientId,entry.clientIp⟩

/-- `enum_callback`; the count numbers the calls of `calloc`. -/
def enumCallback (allocs : Nat → Bool) (device : UsbDevice) (data : Nat × DeviceList) :
    Nat × DeviceList :=
  (data.1+1,(deviceListAdd data.2 device (allocs data.1)).2)

def restoreExports (now : Nat → UInt64) : Nat → List ExportInfo → DeviceList → DeviceList
  | _,[],list => list
  | index,info::rest,list =>
    restoreExports now (index+1) rest
      (list.modify info.busid (·.export info.clientId info.clientIp (now index)))

/-- The result of the enumeration is not looked at. -/
def deviceListRefresh (hostInitialized : Bool) (list : DeviceList) (nodes : Option (List DeviceNode))
    (allocs : Nat → Bool) (now : Nat → UInt64) : ErrorCode × DeviceList :=
  let exports := savedExports list
  let (_,_,list) := usbEnumerateDevices hostInitialized nodes (enumCallback allocs)
    (0,deviceListClear list)
  (.success,restoreExports now 0 exports list)

def busidPlace (busid : Busid) : Nat :=
  match busid.chars with
  | bus::_::port =>
    16*(bus.toNat - 0x31) + port.foldl (fun value digit => 10*value + (digit.toNat - 0x30)) 0 - 1
  | _ => 0

theorem busidPlace_print :
    ∀ n < 128, busidPlace (printBusid (.ofNat (n/16+1)) (.ofNat (n%16+1))) = n := by
  decide +kernel

theorem busLocation_place (path : CString 255) : ∃ n < 128,
    busLocation path = (.ofNat (n/16+1),.ofNat (n%16+1)) := by
  generalize located : fnv1a path.chars = hash
  refine ⟨(hash >>> 8).toNat % 8 * 16 + hash.toNat % 16,by omega,?_⟩
  simp only [busLocation,located,Prod.mk.injEq,← UInt32.toNat_inj,UInt32.toNat_add,UInt32.toNat_mod,
    UInt32.toNat_ofNat',UInt32.toNat_ofNat,Nat.reducePow,Nat.reduceMod]
  omega

theorem parseBusidFromPath_eq_iff (first second : CString 255) :
    parseBusidFromPath first = parseBusidFromPath second ↔ busLocation first = busLocation second := by
  obtain ⟨n,small,here⟩ := busLocation_place first
  obtain ⟨m,little,there⟩ := busLocation_place second
  constructor
  · intro same
    simp only [parseBusidFromPath,here,there] at same
    have equal := congrArg busidPlace same
    rw [busidPlace_print n small,busidPlace_print m little] at equal
    rw [here,there,equal]
  · intro same
    simp only [parseBusidFromPath,same]

theorem parseBusidFromPath_named (path : CString 255) : parseBusidFromPath path ≠ .empty := by
  have printed : ∀ n < 128, printBusid (.ofNat (n/16+1)) (.ofNat (n%16+1)) ≠ .empty := by
    decide +kernel
  obtain ⟨n,small,here⟩ := busLocation_place path
  simpa only [parseBusidFromPath,here] using printed n small

theorem nodup_parseBusid_iff (paths : List (CString 255)) :
    (paths.map parseBusidFromPath).Nodup ↔ (paths.map busLocation).Nodup := by
  simp only [List.Nodup,List.pairwise_map,ne_eq,parseBusidFromPath_eq_iff]

/-- Every entry is listed under the busid of its instance id, and no busid is
listed twice. -/
structure DeviceList.Located (list : DeviceList) : Prop where
  distinct : (list.entries.map DeviceEntry.busid).Nodup
  located : ∀ entry ∈ list.entries, entry.busid = parseBusidFromPath entry.device.path

theorem busids_add (list : DeviceList) (device : UsbDevice) :
    (deviceListAdd list device true).2.entries.map DeviceEntry.busid =
      (list.entries.map DeviceEntry.busid).insert device.busid := by
  simp only [deviceListAdd]
  split
  next entry found =>
    have listed : device.busid ∈ list.entries.map DeviceEntry.busid :=
      List.mem_map.mpr ⟨entry,Keyed.find_mem _ found,find_busid found⟩
    rw [List.insert_of_mem listed]
    exact Keyed.map_modify _ _ _ _ _ fun other searched => (find_busid searched).symm
  next absent =>
    rw [List.insert_of_not_mem (find_eq_none.mp absent)]
    rfl

namespace DeviceList.Located

variable {list : DeviceList}

theorem add (located : list.Located) (node : DeviceNode) :
    (deviceListAdd list node.device true).2.Located := by
  refine ⟨by rw [busids_add]; exact located.distinct.insert,?_⟩
  intro entry member
  simp only [deviceListAdd] at member
  split at member
  next old found =>
    rcases Keyed.mem_modify _ _ _ _ member with kept | ⟨_,_,rfl⟩
    · exact located.located entry kept
    · rfl
  next absent =>
    rcases List.mem_cons.mp member with rfl | kept
    · rfl
    · exact located.located entry kept

theorem restore (located : list.Located) (busid : Busid) (clientId : UInt32) (clientIp : CString 63)
    (now : UInt64) : (list.modify busid (·.export clientId clientIp now)).Located := by
  have busids : (list.modify busid (·.export clientId clientIp now)).entries.map DeviceEntry.busid =
      list.entries.map DeviceEntry.busid := busids_modify fun _ => rfl
  refine ⟨busids ▸ located.distinct,?_⟩
  intro entry member
  rcases Keyed.mem_modify _ _ _ _ member with kept | ⟨old,found,rfl⟩
  · exact located.located entry kept
  · exact located.located old (Keyed.find_mem _ found)

end DeviceList.Located

theorem paths_restore (list : DeviceList) (busid : Busid) (clientId : UInt32) (clientIp : CString 63)
    (now : UInt64) : (list.modify busid (·.export clientId clientIp now)).entries.map
      (·.device.path) = list.entries.map (·.device.path) :=
  Keyed.map_modify _ _ _ _ _ fun _ _ => rfl

section Refresh

variable {list : DeviceList} {nodes : List DeviceNode}

def addNodes (nodes : List DeviceNode) (list : DeviceList) : DeviceList :=
  nodes.foldl (fun list node => (deviceListAdd list node.device true).2) list

theorem addNodes_located (located : list.Located) : (addNodes nodes list).Located := by
  induction nodes generalizing list with
  | nil => exact located
  | cons node nodes ih => exact ih (located.add node)

theorem addNodes_paths (fresh : ∀ node ∈ nodes, node.device.busid ∉ list.entries.map DeviceEntry.busid)
    (distinct : (nodes.map fun node => node.device.busid).Nodup) :
    (addNodes nodes list).entries.map (·.device.path) =
      (nodes.map DeviceNode.instanceId).reverse ++ list.entries.map (·.device.path) := by
  induction nodes generalizing list with
  | nil => rfl
  | cons node nodes ih =>
    rw [List.map_cons,List.nodup_cons] at distinct
    obtain ⟨unlike,rest⟩ := distinct
    have absent : deviceListFind list node.device.busid = none :=
      find_eq_none.mpr (fresh node (by simp))
    have added : (deviceListAdd list node.device true).2 =
        ⟨createEntry node.device::list.entries⟩ := by
      simp [deviceListAdd,absent]
    have later : ∀ other ∈ nodes, other.device.busid ∉
        (createEntry node.device::list.entries).map DeviceEntry.busid := by
      intro other member listed
      rcases List.mem_cons.mp listed with same | old
      · exact unlike (List.mem_map.mpr ⟨other,member,same⟩)
      · exact fresh other (by simp [member]) old
    rw [addNodes,List.foldl_cons,added]
    refine (ih later rest).trans ?_
    simp [createEntry,DeviceNode.device]

theorem restoreExports_located (now : Nat → UInt64) (index : Nat) (exports : List ExportInfo)
    (located : list.Located) : (restoreExports now index exports list).Located := by
  induction exports generalizing index list with
  | nil => exact located
  | cons info rest ih => exact ih _ (located.restore _ _ _ _)

theorem restoreExports_paths (now : Nat → UInt64) (index : Nat) (exports : List ExportInfo) :
    (restoreExports now index exports list).entries.map (·.device.path) =
      list.entries.map (·.device.path) := by
  induction exports generalizing index list with
  | nil => rfl
  | cons info rest ih => exact (ih _).trans (paths_restore ..)

theorem enumCallback_addNodes (nodes : List DeviceNode) (data : Nat × DeviceList) :
    (nodes.foldl (fun data node => enumCallback (fun _ => true) node.device data) data).2 =
      addNodes nodes data.2 := by
  induction nodes generalizing data with
  | nil => rfl
  | cons node nodes ih => exact ih _

theorem deviceListRefresh_addNodes (list : DeviceList) (nodes : List DeviceNode) (now : Nat → UInt64) :
    (deviceListRefresh true list (some nodes) (fun _ => true) now).2 =
      restoreExports now 0 (savedExports list)
        (addNodes (nodes.filter DeviceNode.reported) ⟨[]⟩) := by
  have added := enumCallback_addNodes (nodes.filter DeviceNode.reported) (0,⟨[]⟩)
  simp only [deviceListRefresh,usbEnumerateDevices,deviceListClear,Bool.not_true,Bool.false_eq_true,
    if_false]
  rw [added]

/-- After a refresh the list holds one entry for each enumerated device, with
that device's path, exactly when no two of them hash to the same bus and port. -/
theorem refresh_keeps_all_iff (list : DeviceList) (nodes : List DeviceNode) (now : Nat → UInt64) :
    ((deviceListRefresh true list (some nodes) (fun _ => true) now).2.entries.map
        (·.device.path)).Perm ((nodes.filter DeviceNode.reported).map DeviceNode.instanceId) ↔
      ((nodes.filter DeviceNode.reported).map fun node => busLocation node.instanceId).Nodup := by
  rw [deviceListRefresh_addNodes]
  generalize nodes.filter DeviceNode.reported = reported
  have split : (reported.map fun node => busLocation node.instanceId).Nodup ↔
      ((reported.map DeviceNode.instanceId).map parseBusidFromPath).Nodup := by
    rw [nodup_parseBusid_iff,List.map_map]
    rfl
  rw [split]
  constructor
  · intro kept
    have located : (restoreExports now 0 (savedExports list) (addNodes reported ⟨[]⟩)).Located :=
      restoreExports_located _ _ _ (addNodes_located ⟨by simp,by simp⟩)
    refine (kept.map parseBusidFromPath).nodup_iff.mp ?_
    rw [List.map_map]
    have busids := located.distinct
    rwa [List.map_congr_left located.located] at busids
  · intro distinct
    rw [List.map_map] at distinct
    rw [restoreExports_paths,addNodes_paths (by simp) distinct]
    simp

end Refresh

def adapter (serial : String) : DeviceNode where
  hardwareId := .ofBuffer (ascii "USB\\VID_0403&PID_6001&REV_0600")
  serviceName := .ofBuffer (ascii "FTDIBUS")
  deviceDesc := .ofBuffer (ascii "USB Serial Converter")
  instanceId := .ofBuffer (ascii "USB\\VID_0403&PID_6001\\" ++ ascii serial)

theorem refresh_loses_adapter :
    let nodes := [adapter "C8",adapter "E2"]
    let refreshed := (deviceListRefresh true ⟨[]⟩ (some nodes) (fun _ => true) fun _ => 0).2
    nodes.filter DeviceNode.reported = nodes ∧ (nodes.map DeviceNode.instanceId).Nodup ∧
      refreshed.entries.map (·.device.path) = [(adapter "E2").instanceId] ∧
      ¬(refreshed.entries.map (·.device.path)).Perm (nodes.map DeviceNode.instanceId) := by
  have computed : (deviceListRefresh true ⟨[]⟩ (some [adapter "C8",adapter "E2"]) (fun _ => true)
      fun _ => 0).2.entries.map (·.device.path) = [(adapter "E2").instanceId] := by decide +kernel
  refine ⟨by decide +kernel,by decide +kernel,computed,?_⟩
  rw [computed]
  exact fun same => absurd same.length_eq (by simp)

end UsbOverNetwork
