import UsbOverNetwork.Library.Runs
import UsbOverNetwork.Server.Enumeration
import UsbOverNetwork.Gui.ServerGui

/-! The device list on the screen of the GUI server: what it shows of each
device against what the server shares. The list view keeps the rows and the
check states it is given. -/
namespace UsbOverNetwork
open Runs

inductive RowStatus
  | shared
  | localOnly
deriving DecidableEq

structure DeviceRow where
  busid : Busid
  status : RowStatus
  checked : Bool
deriving DecidableEq

structure DeviceView where
  devices : DeviceList
  rows : List DeviceRow
deriving DecidableEq

inductive ViewAction
  | populate (hostInitialized : Bool) (nodes : Option (List DeviceNode)) (allocs : Nat → Bool)
  | toggle (index : Nat) (checked : Bool)

namespace DeviceView

def start : DeviceView := ⟨⟨[]⟩,[]⟩

def statusOf (shared : Bool) : RowStatus := if shared then .shared else .localOnly

/-- The new row comes last, as `ectx->index` is the number of rows; it also
numbers the calls of `calloc`. -/
def enumDeviceCallback (allocs : Nat → Bool) (device : UsbDevice) (view : DeviceView) : DeviceView :=
  let dev := deviceListFind view.devices device.busid
  let shared := dev.any DeviceEntry.isShared
  { devices := if dev = none
      then (deviceListAdd view.devices device (allocs view.rows.length)).2 else view.devices
    rows := view.rows ++ [⟨device.busid,statusOf shared,shared⟩] }

def populateDeviceList (hostInitialized : Bool) (nodes : Option (List DeviceNode))
    (allocs : Nat → Bool) (view : DeviceView) : DeviceView :=
  (usbEnumerateDevices hostInitialized nodes (enumDeviceCallback allocs) {view with rows := []}).2

def onDeviceCheckboxChanged (index : Nat) (view : DeviceView) : DeviceView :=
  match view.rows[index]? with
  | none => view
  | some row =>
    if row.busid = .empty then view
    else
      { devices := (deviceListSetShared view.devices row.busid row.checked).2
        rows := view.rows.set index {row with status := statusOf row.checked} }

/-- A click changes the box before the handler is told. -/
def step (action : ViewAction) (view : DeviceView) : Option DeviceView :=
  match action with
  | .populate hostInitialized nodes allocs =>
    some (populateDeviceList hostInitialized nodes allocs view)
  | .toggle index checked => (view.rows[index]?).map fun row =>
    onDeviceCheckboxChanged index {view with rows := view.rows.set index {row with checked}}

/-- Every shared device has a row that is checked. -/
def Shown (view : DeviceView) : Prop :=
  ∀ entry ∈ view.devices.entries, entry.isShared = true →
    ∃ row ∈ view.rows, row.busid = entry.busid ∧ row.checked = true

def sharing (devices : DeviceList) (busid : Busid) : Option Bool :=
  (deviceListFind devices busid).map DeviceEntry.isShared

def seen (rows : List DeviceRow) (busid : Busid) : Bool :=
  rows.any fun row => row.busid = busid && row.checked

structure Sound (view : DeviceView) : Prop where
  distinct : (view.devices.entries.map DeviceEntry.busid).Nodup
  named : ∀ row ∈ view.rows, row.busid ≠ .empty

theorem Sound.shown_iff {view : DeviceView} (sound : view.Sound) :
    view.Shown ↔ ∀ busid, sharing view.devices busid = some true → seen view.rows busid = true := by
  constructor
  · intro shown busid shares
    obtain ⟨entry,found,shared⟩ := Option.map_eq_some_iff.mp shares
    obtain ⟨row,member,same,checked⟩ := shown entry (Keyed.find_mem _ found) shared
    rw [find_busid found] at same
    exact List.any_eq_true.mpr ⟨row,member,by simp [same,checked]⟩
  · intro all entry member shared
    have found := Keyed.find_of_mem _ sound.distinct member
    have shares : sharing view.devices entry.busid = some true := by
      rw [sharing,deviceListFind,found,Option.map_some,shared]
    obtain ⟨row,inside,checked⟩ := List.any_eq_true.mp (all _ shares)
    simp only [Bool.and_eq_true,decide_eq_true_eq] at checked
    exact ⟨row,inside,checked⟩

variable {view : DeviceView} {allocs : Nat → Bool} {device : UsbDevice} {busid : Busid}

theorem devices_callback : (enumDeviceCallback allocs device view).devices =
    if deviceListFind view.devices device.busid = none ∧ allocs view.rows.length = true
    then ⟨createEntry device::view.devices.entries⟩ else view.devices := by
  simp only [enumDeviceCallback,deviceListAdd]
  cases found : deviceListFind view.devices device.busid with
  | some entry => simp
  | none => cases allocs view.rows.length <;> simp

theorem sharing_created (devices : DeviceList) :
    sharing ⟨createEntry device::devices.entries⟩ busid =
      if device.busid = busid then some true else sharing devices busid := by
  by_cases same : device.busid = busid <;>
    simp [sharing,deviceListFind,Keyed.find,createEntry,DeviceEntry.busid,same]

theorem sharing_callback : sharing (enumDeviceCallback allocs device view).devices busid =
    if device.busid = busid then
      (sharing view.devices busid).or (if allocs view.rows.length then some true else none)
    else sharing view.devices busid := by
  rw [devices_callback]
  by_cases same : device.busid = busid
  · subst same
    cases found : deviceListFind view.devices device.busid with
    | some entry => simp [sharing,found]
    | none =>
      cases allocs view.rows.length with
      | false => simp [sharing,found]
      | true =>
        have unlisted : sharing view.devices device.busid = none := by simp [sharing,found]
        simp [sharing_created,unlisted]
  · rw [if_neg same]
    split
    · rw [sharing_created,if_neg same]
    · rfl

theorem seen_callback : seen (enumDeviceCallback allocs device view).rows busid =
    (seen view.rows busid || (device.busid = busid && sharing view.devices busid = some true)) := by
  by_cases same : device.busid = busid
  · subst same
    cases found : deviceListFind view.devices device.busid <;>
      simp [seen,enumDeviceCallback,sharing,found]
  · simp [seen,enumDeviceCallback,same]

/-- What the allocations for the enumerated devices with this busid return, in
order. -/
def outcomes (allocs : Nat → Bool) (busid : Busid) : Nat → List UsbDevice → List Bool
  | _,[] => []
  | index,device::rest =>
    if device.busid = busid then allocs index::outcomes allocs busid (index+1) rest
    else outcomes allocs busid (index+1) rest

/-- Whether a row of one busid gets checked, by how the allocations for it went and
what was listed for it before. A callback checks the row before it adds the entry. -/
def revealed (results : List Bool) : Option Bool → Bool
  | some shared => shared && !results.isEmpty
  | none => results.dropLast.any id

theorem length_callback : (enumDeviceCallback allocs device view).rows.length =
    view.rows.length + 1 := by
  simp [enumDeviceCallback]

theorem sharing_populated (found : List UsbDevice) (view : DeviceView) :
    sharing (found.foldl (fun view device => enumDeviceCallback allocs device view) view).devices
        busid =
      (sharing view.devices busid).or
        (if (outcomes allocs busid view.rows.length found).any id then some true else none) := by
  induction found generalizing view with
  | nil => simp [outcomes]
  | cons device rest ih =>
    rw [List.foldl_cons,ih,length_callback,sharing_callback,outcomes]
    split
    next same =>
      cases allocs view.rows.length <;> cases sharing view.devices busid <;> simp
    next _ => rfl

theorem seen_populated (found : List UsbDevice) (view : DeviceView) :
    seen (found.foldl (fun view device => enumDeviceCallback allocs device view) view).rows busid =
      (seen view.rows busid ||
        revealed (outcomes allocs busid view.rows.length found) (sharing view.devices busid)) := by
  induction found generalizing view with
  | nil => cases sharing view.devices busid <;> simp [outcomes,revealed]
  | cons device rest ih =>
    rw [List.foldl_cons,ih,length_callback,sharing_callback,seen_callback,outcomes]
    by_cases same : device.busid = busid
    · generalize outcomes allocs busid (view.rows.length+1) rest = later
      cases sharing view.devices busid with
      | some shared => cases shared <;> simp [same,revealed]
      | none =>
        cases allocs view.rows.length <;> cases later <;> simp [same,revealed]
    · simp [same]

def enumerated (hostInitialized : Bool) (nodes : Option (List DeviceNode)) : List UsbDevice :=
  if hostInitialized then ((nodes.getD []).filter DeviceNode.reported).map DeviceNode.device else []

theorem populate_enumerated (hostInitialized : Bool) (nodes : Option (List DeviceNode))
    (allocs : Nat → Bool) (view : DeviceView) :
    populateDeviceList hostInitialized nodes allocs view =
      (enumerated hostInitialized nodes).foldl (fun view device => enumDeviceCallback allocs device view)
        {view with rows := []} := by
  cases hostInitialized with
  | false => rfl
  | true =>
    cases nodes with
    | none => rfl
    | some nodes => simp [populateDeviceList,usbEnumerateDevices,enumerated,List.foldl_map]

/-- After the call this device has a checked row if it is shared: a shared
device was enumerated, and a device that gets its entry during the call was
enumerated once more after that. -/
def displays (devices : DeviceList) (results : List Bool) (busid : Busid) : Bool :=
  match sharing devices busid with
  | some shared => !shared || !results.isEmpty
  | none => !results.any id || results.dropLast.any id

def displayed (view : DeviceView) : ViewAction → Bool
  | .populate hostInitialized nodes allocs =>
    let found := enumerated hostInitialized nodes
    (view.devices.entries.map DeviceEntry.busid ++ found.map UsbDevice.busid).all fun busid =>
      displays view.devices (outcomes allocs busid 0 found) busid
  | .toggle _ _ => true

theorem outcomes_absent {found : List UsbDevice} (index : Nat)
    (absent : busid ∉ found.map UsbDevice.busid) : outcomes allocs busid index found = [] := by
  induction found generalizing index with
  | nil => rfl
  | cons device rest ih =>
    rw [List.map_cons,List.mem_cons,not_or] at absent
    rw [outcomes,if_neg (Ne.symm absent.1)]
    exact ih (index+1) absent.2

theorem displayed_iff (hostInitialized : Bool) (nodes : Option (List DeviceNode)) :
    view.displayed (.populate hostInitialized nodes allocs) = true ↔
      ∀ busid, displays view.devices (outcomes allocs busid 0 (enumerated hostInitialized nodes)) busid =
        true := by
  simp only [displayed,List.all_eq_true]
  constructor
  · intro checked busid
    by_cases member : busid ∈ view.devices.entries.map DeviceEntry.busid ++
        (enumerated hostInitialized nodes).map UsbDevice.busid
    · exact checked busid member
    · rw [List.mem_append,not_or] at member
      obtain ⟨unlisted,absent⟩ := member
      have none : sharing view.devices busid = none :=
        Option.map_eq_none_iff.mpr (find_eq_none.mpr unlisted)
      simp [displays,none,outcomes_absent 0 absent]
  · intro all busid _
    exact all busid

theorem sound_callback (sound : view.Sound) (named : device.busid ≠ .empty) :
    (enumDeviceCallback allocs device view).Sound := by
  obtain ⟨distinct,nonempty⟩ := sound
  constructor
  · rw [devices_callback]
    split
    next fresh => exact List.nodup_cons.mpr ⟨find_eq_none.mp fresh.1,distinct⟩
    next _ => exact distinct
  · intro row member
    rcases List.mem_append.mp member with old | new
    · exact nonempty row old
    · cases List.mem_singleton.mp new
      exact named

theorem enumerated_named (hostInitialized : Bool) (nodes : Option (List DeviceNode)) :
    ∀ device ∈ enumerated hostInitialized nodes, device.busid ≠ .empty := by
  intro device member
  cases hostInitialized with
  | false => simp [enumerated] at member
  | true =>
    obtain ⟨node,_,rfl⟩ := List.mem_map.mp member
    exact parseBusidFromPath_named node.instanceId

theorem sound_populate (sound : view.Sound) (hostInitialized : Bool)
    (nodes : Option (List DeviceNode)) :
    (populateDeviceList hostInitialized nodes allocs view).Sound := by
  rw [populate_enumerated]
  have named := enumerated_named hostInitialized nodes
  generalize enumerated hostInitialized nodes = found at named
  have cleared : Sound {view with rows := []} := ⟨sound.distinct,by simp⟩
  revert cleared
  generalize ({view with rows := []} : DeviceView) = current
  induction found generalizing current with
  | nil => exact id
  | cons device rest ih =>
    intro before
    exact ih (fun other member => named other (by simp [member])) _
      (sound_callback before (named device (by simp)))

theorem populate_shown_iff (sound : view.Sound) (hostInitialized : Bool)
    (nodes : Option (List DeviceNode)) :
    (populateDeviceList hostInitialized nodes allocs view).Shown ↔
      view.displayed (.populate hostInitialized nodes allocs) = true := by
  rw [(sound_populate sound hostInitialized nodes).shown_iff,displayed_iff,populate_enumerated]
  refine forall_congr' fun busid => ?_
  rw [sharing_populated,seen_populated]
  simp only [seen,List.any_nil,Bool.false_or,List.length_nil,displays]
  generalize outcomes allocs busid 0 (enumerated hostInitialized nodes) = results
  cases sharing view.devices busid with
  | some shared => cases shared <;> simp [revealed]
  | none => cases results.any id <;> simp [revealed]

section Toggle

variable {index : Nat} {row : DeviceRow} {checked : Bool}

theorem toggle_eq (found : view.rows[index]? = some row) (named : row.busid ≠ .empty) :
    step (.toggle index checked) view = some
      { devices := (deviceListSetShared view.devices row.busid checked).2
        rows := view.rows.set index {row with checked, status := statusOf checked} } := by
  have inside := (List.getElem?_eq_some_iff.mp found).1
  simp only [step,found,Option.map_some,onDeviceCheckboxChanged,List.getElem?_set_self inside,
    if_neg named,List.set_set]

theorem sharing_setShared (devices : DeviceList) (target : Busid) :
    sharing (deviceListSetShared devices target checked).2 busid =
      if busid = target then (sharing devices busid).map fun _ => checked
      else sharing devices busid := by
  simp only [deviceListSetShared]
  split
  next absent =>
    split
    next same =>
      subst same
      simp [sharing,absent]
    next _ => rfl
  next entry found =>
    rw [sharing,find_modify (f := fun entry => {entry with isShared := checked}) fun _ => rfl]
    split
    · rw [sharing,Option.map_map,Option.map_map]
      rfl
    · rfl

theorem seen_set {rows : List DeviceRow} (new : DeviceRow) (found : rows[index]? = some row)
    (same : new.busid = row.busid) (different : busid ≠ row.busid) :
    seen (rows.set index new) busid = seen rows busid := by
  induction rows generalizing index with
  | nil => simp at found
  | cons head rest ih =>
    cases index with
    | zero =>
      cases found
      simp [seen,same,Ne.symm different]
    | succ index =>
      have later : rest[index]? = some row := by simpa using found
      have tail := ih later
      simp only [seen,List.set_cons_succ,List.any_cons] at tail ⊢
      rw [tail]

theorem toggle_sound (sound : view.Sound) (found : view.rows[index]? = some row) :
    Sound ⟨(deviceListSetShared view.devices row.busid checked).2,
      view.rows.set index {row with checked, status := statusOf checked}⟩ := by
  constructor
  · rw [(sameLending_setShared checked).busids]
    exact sound.distinct
  · intro other member
    rcases List.mem_or_eq_of_mem_set member with old | rfl
    · exact sound.named other old
    · exact sound.named row (List.mem_of_getElem? found)

theorem toggle_shown (sound : view.Sound) (shown : view.Shown)
    (found : view.rows[index]? = some row) :
    Shown ⟨(deviceListSetShared view.devices row.busid checked).2,
      view.rows.set index {row with checked, status := statusOf checked}⟩ := by
  rw [(toggle_sound sound found).shown_iff]
  rw [sound.shown_iff] at shown
  intro busid shares
  rw [sharing_setShared] at shares
  split at shares
  next same =>
    subst same
    obtain ⟨_,_,rfl⟩ := Option.map_eq_some_iff.mp shares
    have inside := (List.getElem?_eq_some_iff.mp found).1
    exact List.any_eq_true.mpr
      ⟨{row with checked := true, status := statusOf true},List.mem_set inside _,by simp⟩
  next different =>
    have kept := seen_set {row with checked, status := statusOf checked} found rfl different
    exact kept.trans (shown busid shares)

end Toggle

structure Inv (view : DeviceView) : Prop where
  sound : view.Sound
  shown : view.Shown

theorem step_inv (action : ViewAction) (view next : DeviceView)
    (display : view.displayed action = true) (inv : view.Inv)
    (stepped : step action view = some next) : next.Inv := by
  cases action with
  | populate hostInitialized nodes allocs =>
    cases stepped
    exact ⟨sound_populate inv.sound hostInitialized nodes,
      (populate_shown_iff inv.sound hostInitialized nodes).mpr display⟩
  | toggle index checked =>
    cases found : view.rows[index]? with
    | none => simp [step,found] at stepped
    | some row =>
      rw [toggle_eq found (inv.sound.named row (List.mem_of_getElem? found))] at stepped
      cases stepped
      exact ⟨toggle_sound inv.sound found,toggle_shown inv.sound inv.shown found⟩

theorem start_inv : start.Inv := ⟨⟨by simp [start],by simp [start]⟩,by simp [Shown,start]⟩

/-- As long as each call that fills the list displays what it leaves shared,
everything the GUI shares has a checked row. -/
theorem shared_shown {actions : List ViewAction} {final : DeviceView}
    (run : GuardedRun step (fun action view => view.displayed action = true) start actions final) :
    final.Shown :=
  (run.invariant Inv step_inv start_inv).shown

def twins : Option (List DeviceNode) := some [adapter "C8",adapter "E2"]

theorem shared_shown_twins : ∃ actions final,
    GuardedRun step (fun action view => view.displayed action = true) start actions final ∧
      final.Shown ∧ final.rows.map DeviceRow.checked = [true,true] ∧
      final.devices.entries.map DeviceEntry.isShared = [true] := by
  obtain ⟨final,run,checked⟩ := guardedRun_of_check step
    (fun action view => view.displayed action = true) (fun action view => view.displayed action)
    (fun _ _ display => display)
    [.populate true twins fun _ => true,.toggle 1 false,.toggle 0 true,.populate true twins fun _ => true]
    start (fun final => decide (final.rows.map DeviceRow.checked = [true,true] ∧
      final.devices.entries.map DeviceEntry.isShared = [true])) (by decide +kernel)
  exact ⟨_,final,run,shared_shown run,of_decide_eq_true checked⟩

/-- The first device that is ever listed is shared, and shown as not shared. -/
theorem shared_hidden : ∃ final,
    Run step start [.populate true (some [adapter "C8"]) fun _ => true] final ∧
      final.rows = [⟨parseBusidFromPath (adapter "C8").instanceId,.localOnly,false⟩] ∧ ¬final.Shown := by
  obtain ⟨final,run,checked⟩ := run_of_check step
    [.populate true (some [adapter "C8"]) fun _ => true] start (fun final => decide
      (final.rows = [⟨parseBusidFromPath (adapter "C8").instanceId,.localOnly,false⟩] ∧
        final.devices.entries.map DeviceEntry.isShared = [true])) (by decide +kernel)
  obtain ⟨rows,shares⟩ := of_decide_eq_true checked
  refine ⟨final,run,rows,fun shown => ?_⟩
  obtain ⟨entry,_,split,shared,_⟩ := List.map_eq_cons_iff.mp shares
  obtain ⟨row,member,_,checked⟩ := shown entry (by simp [split]) shared
  rw [rows,List.mem_singleton] at member
  rw [member] at checked
  cases checked

section Followed

variable {g : GuiServer}

theorem callback_followed (named : device.busid ≠ .empty)
    (same : g.calls.server.devices = view.devices) :
    ∃ actions after, Run GuiServer.step g actions after ∧
      after.calls.server.devices = (enumDeviceCallback allocs device view).devices := by
  rw [devices_callback]
  split
  next fresh =>
    have listed : GuiServer.step (.enumerate device true) g = some {g with
        calls := {g.calls with server := {g.calls.server with
          devices := ⟨createEntry device::view.devices.entries⟩}}} := by
      simp [GuiServer.step,GuiServer.perform,CallSystem.step,same,named,fresh.1,deviceListAdd]
    exact ⟨_,_,.single _ listed,rfl⟩
  next _ => exact ⟨[],g,.nil g,same⟩

theorem populate_followed (same : g.calls.server.devices = view.devices) (hostInitialized : Bool)
    (nodes : Option (List DeviceNode)) :
    ∃ actions after, Run GuiServer.step g actions after ∧
      after.calls.server.devices = (populateDeviceList hostInitialized nodes allocs view).devices := by
  rw [populate_enumerated]
  have named := enumerated_named hostInitialized nodes
  generalize enumerated hostInitialized nodes = found at named
  change g.calls.server.devices = DeviceView.devices {view with rows := []} at same
  revert same
  generalize ({view with rows := []} : DeviceView) = current
  induction found generalizing current g with
  | nil => exact fun kept => ⟨[],g,.nil g,kept⟩
  | cons device rest ih =>
    intro kept
    obtain ⟨first,middle,head,listed⟩ := callback_followed (named device (by simp)) kept
    obtain ⟨actions,after,tail,done⟩ := ih
      (fun other member => named other (by simp [member])) _ listed
    exact ⟨first ++ actions,after,head.append tail,done⟩

theorem toggle_followed (same : g.calls.server.devices = view.devices) (busid : Busid)
    (checked : Bool) :
    GuiServer.step (.setShared busid checked) g = some {g with
      calls := {g.calls with server := {g.calls.server with
        devices := (deviceListSetShared view.devices busid checked).2}}} := by
  simp [GuiServer.step,GuiServer.perform,CallSystem.step,same]

/-- Whatever the window does to the device list, the GUI server does in some run,
so its list of shared devices is the one on the screen. -/
theorem run_followed {actions : List ViewAction} {final : DeviceView}
    (run : Run step start actions final) :
    ∃ served g, Run GuiServer.step GuiServer.start served g ∧
      g.calls.server.devices = final.devices := by
  have followed (action : ViewAction) (view next : DeviceView) (g : GuiServer)
      (before : g.calls.server.devices = view.devices ∧ view.Sound)
      (stepped : step action view = some next) :
      ∃ actions after, Run GuiServer.step g actions after ∧
        after.calls.server.devices = next.devices ∧ next.Sound := by
    obtain ⟨same,sound⟩ := before
    cases action with
    | populate hostInitialized nodes allocs =>
      cases stepped
      obtain ⟨actions,after,head,done⟩ := populate_followed same hostInitialized nodes
      exact ⟨actions,after,head,done,sound_populate sound hostInitialized nodes⟩
    | toggle index checked =>
      cases found : view.rows[index]? with
      | none => simp [step,found] at stepped
      | some row =>
        rw [toggle_eq found (sound.named row (List.mem_of_getElem? found))] at stepped
        cases stepped
        exact ⟨_,_,.single _ (toggle_followed same row.busid checked),rfl,toggle_sound sound found⟩
  have initially : GuiServer.start.calls.server.devices = start.devices ∧ start.Sound :=
    ⟨rfl,start_inv.sound⟩
  obtain ⟨served,g,reached,same,_⟩ := run.simulate
    (fun view (g : GuiServer) => g.calls.server.devices = view.devices ∧ view.Sound) followed
    initially
  exact ⟨served,g,reached,same⟩

end Followed

end DeviceView

end UsbOverNetwork
