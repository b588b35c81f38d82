import UsbOverNetwork.Library.Keyed
import UsbOverNetwork.Server.UsbHost

/-! The shared list of USB devices. Every operation below is one critical
section of the list's mutex, except `device_list_find`, which takes none. -/
namespace UsbOverNetwork

inductive DeviceState
  | available
  | exported
  | busy
  | error
deriving DecidableEq, Repr

structure DeviceEntry where
  device : UsbDevice
  state : DeviceState
  clientId : UInt32
  clientIp : CString 63
  exportTime : UInt64
  isShared : Bool
deriving DecidableEq

def DeviceEntry.busid (entry : DeviceEntry) : Busid := entry.device.busid

structure DeviceList where
  entries : List DeviceEntry
deriving DecidableEq

def deviceListFind (list : DeviceList) (busid : Busid) : Option DeviceEntry :=
  Keyed.find DeviceEntry.busid busid list.entries

/-- A write through the pointer that `device_list_find` returned for `busid`. -/
def DeviceList.modify (list : DeviceList) (busid : Busid) (f : DeviceEntry → DeviceEntry) :
    DeviceList :=
  {list with entries := Keyed.modify DeviceEntry.busid busid f list.entries}

def DeviceList.modifyDevice (list : DeviceList) (busid : Busid) (f : UsbDevice → UsbDevice) :
    DeviceList :=
  list.modify busid fun entry => {entry with device := f entry.device}

def DeviceEntry.export (entry : DeviceEntry) (clientId : UInt32) (clientIp : CString 63)
    (now : UInt64) : DeviceEntry :=
  {entry with state := .exported, clientId, clientIp, exportTime := now}

def DeviceEntry.unexport (entry : DeviceEntry) : DeviceEntry :=
  {entry with state := .available, clientId := 0, clientIp := .empty, exportTime := 0}

def deviceListExport (list : DeviceList) (busid : Busid) (clientId : UInt32)
    (clientIp : CString 63) (now : UInt64) : ErrorCode × DeviceList :=
  match deviceListFind list busid with
  | none => (.notFound,list)
  | some entry =>
    if entry.state ≠ .available then (.deviceBusy,list)
    else (.success,list.modify busid (·.export clientId clientIp now))

def deviceListUnexport (list : DeviceList) (busid : Busid) : ErrorCode × DeviceList :=
  match deviceListFind list busid with
  | none => (.notFound,list)
  | some _ => (.success,list.modify busid DeviceEntry.unexport)

def createEntry (device : UsbDevice) : DeviceEntry := ⟨device,.available,0,.empty,0,true⟩

def deviceListAdd (list : DeviceList) (device : UsbDevice) (alloc : Bool) : ErrorCode × DeviceList :=
  match deviceListFind list device.busid with
  | some _ => (.success,list.modify device.busid fun entry => {entry with device})
  | none =>
    if !alloc then (.outOfMemory,list)
    else (.success,{list with entries := createEntry device::list.entries})

def deviceListSetShared (list : DeviceList) (busid : Busid) (shared : Bool) : ErrorCode × DeviceList :=
  match deviceListFind list busid with
  | none => (.notFound,list)
  | some _ => (.success,list.modify busid fun entry => {entry with isShared := shared})

/-- `device_list_foreach_shared`: the callback stops the walk by returning
`false`; its user data is threaded through. -/
def deviceListForeachShared {σ : Type} (callback : DeviceEntry → σ → Bool × σ) :
    List DeviceEntry → σ → σ
  | [],data => data
  | entry::rest,data =>
    if entry.isShared then
      let (go,next) := callback entry data
      if go then deviceListForeachShared callback rest next else next
    else deviceListForeachShared callback rest data

variable {list : DeviceList} {busid other : Busid} {f : DeviceEntry → DeviceEntry}
  {g : UsbDevice → UsbDevice}

theorem find_busid {entry : DeviceEntry} (found : deviceListFind list busid = some entry) :
    entry.busid = busid :=
  Keyed.find_key _ found

theorem find_modify_same (keeps : ∀ entry, (f entry).busid = entry.busid) :
    deviceListFind (list.modify busid f) busid = (deviceListFind list busid).map f :=
  Keyed.find_modify _ busid f keeps list.entries

theorem find_modify_other (different : other ≠ busid)
    (keeps : ∀ entry, (f entry).busid = entry.busid) :
    deviceListFind (list.modify busid f) other = deviceListFind list other :=
  Keyed.find_modify_other _ different f keeps list.entries

theorem find_modify (keeps : ∀ entry, (f entry).busid = entry.busid) :
    deviceListFind (list.modify busid f) other =
      if other = busid then (deviceListFind list other).map f else deviceListFind list other := by
  by_cases same : other = busid
  · subst same
    rw [if_pos rfl,find_modify_same keeps]
  · rw [if_neg same,find_modify_other same keeps]

theorem find_export (clientId : UInt32) (clientIp : CString 63) (now : UInt64) (entry : DeviceEntry)
    (found : deviceListFind list busid = some entry) (available : entry.state = .available) :
    deviceListExport list busid clientId clientIp now =
      (.success,list.modify busid (·.export clientId clientIp now)) := by
  simp [deviceListExport,found,available]

theorem unexport_modify : (deviceListUnexport list busid).2 = list.modify busid DeviceEntry.unexport := by
  simp only [deviceListUnexport]
  cases found : deviceListFind list busid with
  | none =>
    simp only [DeviceList.modify]
    rw [Keyed.modify_absent _ _ _ _ found]
  | some entry => rfl

def DeviceList.lending (list : DeviceList) (busid : Busid) : Option (DeviceState × UInt32) :=
  (deviceListFind list busid).map fun entry => (entry.state,entry.clientId)

structure DeviceList.SameLending (list next : DeviceList) : Prop where
  lending : ∀ busid, next.lending busid = list.lending busid
  busids : next.entries.map DeviceEntry.busid = list.entries.map DeviceEntry.busid

theorem DeviceList.SameLending.refl (list : DeviceList) : list.SameLending list := ⟨fun _ => rfl,rfl⟩

theorem busids_modify (keeps : ∀ entry, (f entry).busid = entry.busid) :
    (list.modify busid f).entries.map DeviceEntry.busid = list.entries.map DeviceEntry.busid :=
  Keyed.map_modify _ _ busid f list.entries fun entry _ => keeps entry

theorem sameLending_modify (keeps : ∀ entry, (f entry).busid = entry.busid)
    (hands : ∀ entry, (f entry).state = entry.state ∧ (f entry).clientId = entry.clientId) :
    list.SameLending (list.modify busid f) := by
  refine ⟨fun other => ?_,busids_modify keeps⟩
  simp only [DeviceList.lending,find_modify keeps]
  split
  · rw [Option.map_map]
    congr 1
    funext entry
    simp [hands entry]
  · rfl

theorem sameLending_setShared (shared : Bool) :
    list.SameLending (deviceListSetShared list busid shared).2 := by
  simp only [deviceListSetShared]
  split
  · exact .refl list
  · exact sameLending_modify (fun _ => rfl) fun _ => ⟨rfl,rfl⟩

theorem lending_export (clientId id : UInt32) (clientIp : CString 63) (now : UInt64)
    (available : list.lending busid = some (.available,id)) :
    (deviceListExport list busid clientId clientIp now).2.lending other =
      if other = busid then some (.exported,clientId) else list.lending other := by
  obtain ⟨entry,found,hands⟩ := Option.map_eq_some_iff.mp available
  rw [find_export clientId clientIp now entry found (Prod.mk.inj hands).1,DeviceList.lending]
  simp only [find_modify (f := (·.export clientId clientIp now)) fun _ => rfl]
  split
  next same =>
    subst same
    rw [found]
    rfl
  next _ => rfl

theorem export_refused (clientId : UInt32) (clientIp : CString 63) (now : UInt64)
    (taken : ∀ id, list.lending busid ≠ some (.available,id)) :
    (deviceListExport list busid clientId clientIp now).2 = list := by
  simp only [deviceListExport]
  split
  next _ => rfl
  next entry found =>
    split
    next _ => rfl
    next available =>
      refine absurd ?_ (taken entry.clientId)
      simpa [DeviceList.lending,found] using available

theorem lending_unexport : (deviceListUnexport list busid).2.lending other =
    if other = busid then (list.lending other).map fun _ => (.available,0)
    else list.lending other := by
  rw [unexport_modify,DeviceList.lending,find_modify (f := DeviceEntry.unexport) fun _ => rfl]
  split
  · simp only [DeviceList.lending,Option.map_map]
    rfl
  · rfl

theorem busids_export (clientId : UInt32) (clientIp : CString 63) (now : UInt64) :
    (deviceListExport list busid clientId clientIp now).2.entries.map DeviceEntry.busid =
      list.entries.map DeviceEntry.busid := by
  simp only [deviceListExport]
  split
  · rfl
  · split
    · rfl
    · exact busids_modify fun _ => rfl

theorem busids_unexport : (deviceListUnexport list busid).2.entries.map DeviceEntry.busid =
    list.entries.map DeviceEntry.busid := by
  rw [unexport_modify]
  exact busids_modify fun _ => rfl

theorem find_eq_none :
    deviceListFind list busid = none ↔ busid ∉ list.entries.map DeviceEntry.busid :=
  Keyed.find_none DeviceEntry.busid

theorem lending_eq_none : list.lending busid = none ↔ busid ∉ list.entries.map DeviceEntry.busid := by
  rw [← find_eq_none,DeviceList.lending,Option.map_eq_none_iff]

theorem lending_add (device : UsbDevice) (alloc : Bool) (other : Busid)
    (absent : deviceListFind list device.busid = none) :
    (deviceListAdd list device alloc).2 = list ∨
      ((deviceListAdd list device alloc).2.entries = createEntry device::list.entries ∧
        (deviceListAdd list device alloc).2.lending other =
          if other = device.busid then some (.available,0) else list.lending other) := by
  simp only [deviceListAdd,absent]
  cases alloc with
  | false => exact Or.inl rfl
  | true =>
    refine Or.inr ⟨rfl,?_⟩
    by_cases same : device.busid = other
    · simp [DeviceList.lending,deviceListFind,Keyed.find,createEntry,DeviceEntry.busid,same]
    · simp [DeviceList.lending,deviceListFind,Keyed.find,createEntry,DeviceEntry.busid,same,
        Ne.symm same]

structure DeviceEntry.Idle (entry : DeviceEntry) : Prop where
  closed : entry.device.Closed
  unexported : entry.state ≠ .exported
  clientId : entry.clientId = 0
  clientIp : entry.clientIp = .empty
  exportTime : entry.exportTime = 0

/-- What attaching and detaching do not change. -/
def DeviceEntry.reset (entry : DeviceEntry) : DeviceEntry :=
  {entry with
    device := entry.device.reset
    state := if entry.state = .exported then .available else entry.state
    clientId := 0
    clientIp := .empty
    exportTime := 0}

/-- An entry whose interface number, meaningless while unclaimed, is forgotten. -/
def DeviceEntry.unnumbered (entry : DeviceEntry) : DeviceEntry :=
  {entry with device := {entry.device with claimedInterface := 0}}

theorem DeviceEntry.Idle.reset {entry : DeviceEntry} (idle : entry.Idle) :
    entry.reset = entry.unnumbered := by
  obtain ⟨closed,unexported,clientId,clientIp,exportTime⟩ := idle
  simp only [DeviceEntry.reset,DeviceEntry.unnumbered,closed.reset,if_neg unexported,clientId,
    clientIp,exportTime]

def DeviceList.skeleton (list : DeviceList) : List DeviceEntry := list.entries.map DeviceEntry.reset

theorem skeleton_busids (list : DeviceList) :
    list.entries.map DeviceEntry.busid = list.skeleton.map DeviceEntry.busid := by
  rw [DeviceList.skeleton,List.map_map]
  rfl

theorem skeleton_modify {busid : Busid} {f : DeviceEntry → DeviceEntry} {list : DeviceList}
    (unseen : ∀ entry, deviceListFind list busid = some entry → (f entry).reset = entry.reset) :
    (list.modify busid f).skeleton = list.skeleton :=
  Keyed.map_modify _ _ busid f list.entries unseen

theorem unnumbered_of_skeleton {first second : DeviceList}
    (same : first.skeleton = second.skeleton) (idle : ∀ entry ∈ first.entries, entry.Idle)
    (other : ∀ entry ∈ second.entries, entry.Idle) :
    first.entries.map DeviceEntry.unnumbered = second.entries.map DeviceEntry.unnumbered := by
  rw [← List.map_congr_left fun entry member => (idle entry member).reset,
    ← List.map_congr_left fun entry member => (other entry member).reset]
  exact same

end UsbOverNetwork
