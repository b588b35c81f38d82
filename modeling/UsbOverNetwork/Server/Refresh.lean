import UsbOverNetwork.Server.DeviceListCalls

/-! What a refresh of the device list does to the devices that stay plugged in,
and what it leaves when the enumeration fails. -/
namespace UsbOverNetwork

/-- The part of an entry that is not read from the device. -/
structure DeviceEntry.SameSharing (old new : DeviceEntry) : Prop where
  isShared : new.isShared = old.isShared
  state : new.state = old.state
  clientId : new.clientId = old.clientId
  clientIp : new.clientIp = old.clientIp

/-- Whatever is in both lists is shared and lent out in the same way. -/
def DeviceList.SurvivorsKept (list next : DeviceList) : Prop :=
  ∀ old ∈ list.entries, ∀ new ∈ next.entries, new.busid = old.busid → old.SameSharing new

/-- The enumeration reports a device of this busid while there is memory for an entry. -/
def Reenumerated (nodes : List DeviceNode) (allocs : Nat → Bool) (busid : Busid) : Prop :=
  ∃ i node, (nodes.filter DeviceNode.reported)[i]? = some node ∧ node.device.busid = busid ∧
    allocs i = true

/-- One of the exported entries that the side array has room for. -/
def DeviceList.Remembers (list : DeviceList) (entry : DeviceEntry) : Prop :=
  entry ∈ (list.entries.filter (·.state = .exported)).take maxDevices

structure DeviceList.Outlasts (list : DeviceList) (entry : DeviceEntry) : Prop where
  shared : entry.isShared = true
  hands : (entry.state = .available ∧ entry.clientId = 0 ∧ entry.clientIp = .empty) ∨
    list.Remembers entry

/-- An entry as `create_entry` makes it, whatever device it has since been given. -/
structure DeviceEntry.Fresh (entry : DeviceEntry) : Prop where
  isShared : entry.isShared = true
  state : entry.state = .available
  clientId : entry.clientId = 0
  clientIp : entry.clientIp = .empty

section Enumerating

variable {allocs : Nat → Bool} {nodes : List DeviceNode} {list : DeviceList} {busid : Busid}

theorem busids_overwrite (list : DeviceList) (device : UsbDevice) :
    (list.modify device.busid fun entry => {entry with device}).entries.map DeviceEntry.busid =
      list.entries.map DeviceEntry.busid :=
  Keyed.map_modify _ _ _ _ _ fun _ searched => (find_busid searched).symm

theorem busids_add_mem (device : UsbDevice) (alloc : Bool) :
    busid ∈ (deviceListAdd list device alloc).2.entries.map DeviceEntry.busid ↔
      busid ∈ list.entries.map DeviceEntry.busid ∨ (device.busid = busid ∧ alloc = true) := by
  cases alloc with
  | true =>
    rw [busids_add,List.mem_insert_iff]
    simp [or_comm,eq_comm]
  | false =>
    simp only [Bool.false_eq_true,and_false,or_false]
    unfold deviceListAdd
    split
    next => rw [busids_overwrite]
    next absent => rfl

theorem fresh_add (device : UsbDevice) (alloc : Bool) (fresh : ∀ entry ∈ list.entries, entry.Fresh) :
    ∀ entry ∈ (deviceListAdd list device alloc).2.entries, entry.Fresh := by
  unfold deviceListAdd
  split
  next old found =>
    intro entry member
    rcases Keyed.mem_modify _ _ _ _ member with kept | ⟨other,searched,rfl⟩
    · exact fresh entry kept
    · obtain ⟨isShared,state,clientId,clientIp⟩ := fresh other (Keyed.find_mem _ searched)
      exact ⟨isShared,state,clientId,clientIp⟩
  next absent =>
    split
    next => exact fresh
    next =>
      intro entry member
      rcases List.mem_cons.mp member with rfl | old
      · exact ⟨rfl,rfl,rfl,rfl⟩
      · exact fresh entry old

theorem nodup_add (device : UsbDevice) (alloc : Bool)
    (distinct : (list.entries.map DeviceEntry.busid).Nodup) :
    ((deviceListAdd list device alloc).2.entries.map DeviceEntry.busid).Nodup := by
  cases alloc with
  | true =>
    rw [busids_add]
    exact distinct.insert
  | false =>
    unfold deviceListAdd
    split
    next =>
      rw [busids_overwrite]
      exact distinct
    next absent => exact distinct

structure DeviceList.Enumerates (list : DeviceList) : Prop where
  distinct : (list.entries.map DeviceEntry.busid).Nodup
  fresh : ∀ entry ∈ list.entries, entry.Fresh

theorem enumerates_callbacks (nodes : List DeviceNode) (data : Nat × DeviceList)
    (ok : data.2.Enumerates) :
    (nodes.foldl (fun data node => enumCallback allocs node.device data) data).2.Enumerates := by
  induction nodes generalizing data with
  | nil => exact ok
  | cons node rest ih => exact ih _ ⟨nodup_add _ _ ok.distinct,fresh_add _ _ ok.fresh⟩

theorem busids_callbacks (nodes : List DeviceNode) (data : Nat × DeviceList) :
    busid ∈ (nodes.foldl (fun data node => enumCallback allocs node.device data)
        data).2.entries.map DeviceEntry.busid ↔
      busid ∈ data.2.entries.map DeviceEntry.busid ∨
        ∃ i node, nodes[i]? = some node ∧ node.device.busid = busid ∧ allocs (data.1+i) = true := by
  induction nodes generalizing data with
  | nil => simp
  | cons node rest ih =>
    rw [List.foldl_cons,ih,enumCallback,busids_add_mem,or_assoc]
    refine or_congr_right ?_
    constructor
    · rintro (⟨same,alloc⟩ | ⟨i,other,found,same,alloc⟩)
      · exact ⟨0,node,rfl,same,alloc⟩
      · exact ⟨i+1,other,found,same,by rwa [show data.1+(i+1) = data.1+1+i by omega]⟩
    · rintro ⟨i,other,found,same,alloc⟩
      cases i with
      | zero =>
        cases found
        exact Or.inl ⟨same,alloc⟩
      | succ i => exact Or.inr ⟨i,other,found,same,by rwa [show data.1+1+i = data.1+(i+1) by omega]⟩

end Enumerating

section Restoring

variable {list : DeviceList} {busid : Busid} {exports : List ExportInfo} {now : Nat → UInt64}
  {index : Nat}

theorem restored_busids : (restoreExports now index exports list).entries.map DeviceEntry.busid =
    list.entries.map DeviceEntry.busid := by
  induction exports generalizing index list with
  | nil => rfl
  | cons info rest ih => exact ih.trans (busids_modify fun _ => rfl)

theorem restored_other (absent : busid ∉ exports.map ExportInfo.busid) :
    deviceListFind (restoreExports now index exports list) busid = deviceListFind list busid := by
  induction exports generalizing index list with
  | nil => rfl
  | cons info rest ih =>
    rw [List.map_cons,List.mem_cons,not_or] at absent
    exact (ih absent.2).trans (find_modify_other absent.1 fun _ => rfl)

theorem restored_export {info : ExportInfo} (distinct : (exports.map ExportInfo.busid).Nodup)
    (member : info ∈ exports) :
    ∃ time, deviceListFind (restoreExports now index exports list) info.busid =
      (deviceListFind list info.busid).map (·.export info.clientId info.clientIp time) := by
  induction exports generalizing index list with
  | nil => cases member
  | cons head rest ih =>
    rw [List.map_cons,List.nodup_cons] at distinct
    obtain ⟨unlike,others⟩ := distinct
    rcases List.mem_cons.mp member with rfl | inside
    · exact ⟨now index,(restored_other unlike).trans (find_modify_same fun _ => rfl)⟩
    · have different : info.busid ≠ head.busid :=
        ne_of_mem_of_not_mem (List.mem_map_of_mem inside) unlike
      have later {index : Nat} {list : DeviceList} : ∃ time,
          deviceListFind (restoreExports now index rest list) info.busid =
            (deviceListFind list info.busid).map (·.export info.clientId info.clientIp time) :=
        ih others inside
      obtain ⟨time,found⟩ := later
      exact ⟨time,found.trans (congrArg _ (find_modify_other different fun _ => rfl))⟩

end Restoring

section Refreshing

variable {list : DeviceList} {nodes : List DeviceNode} {allocs : Nat → Bool} {now : Nat → UInt64}
  {old new : DeviceEntry}

theorem find_iff_mem (distinct : (list.entries.map DeviceEntry.busid).Nodup) (busid : Busid) :
    deviceListFind list busid = some new ↔ new ∈ list.entries ∧ new.busid = busid := by
  constructor
  · exact fun found => ⟨Keyed.find_mem _ found,find_busid found⟩
  · rintro ⟨member,rfl⟩
    exact Keyed.find_of_mem _ distinct member

theorem saved_busids : (savedExports list).map ExportInfo.busid =
    ((list.entries.filter (·.state = .exported)).take maxDevices).map DeviceEntry.busid := by
  rw [savedExports,List.map_map]
  rfl

theorem saved_nodup (distinct : (list.entries.map DeviceEntry.busid).Nodup) :
    ((savedExports list).map ExportInfo.busid).Nodup := by
  rw [saved_busids]
  exact distinct.sublist (((List.take_sublist _ _).trans List.filter_sublist).map _)

theorem DeviceList.Remembers.exported (remembered : list.Remembers old) : old.state = .exported := by
  simpa using List.of_mem_filter (List.mem_of_mem_take remembered)

theorem saved_of_remembers (remembered : list.Remembers old) :
    ⟨old.busid,old.clientId,old.clientIp⟩ ∈ savedExports list :=
  List.mem_map_of_mem remembered

theorem remembers_of_saved (distinct : (list.entries.map DeviceEntry.busid).Nodup)
    (member : old ∈ list.entries) (saved : old.busid ∈ (savedExports list).map ExportInfo.busid) :
    list.Remembers old := by
  rw [saved_busids] at saved
  obtain ⟨other,remembered,same⟩ := List.mem_map.mp saved
  have listed : other ∈ list.entries := (List.mem_filter.mp (List.mem_of_mem_take remembered)).1
  rwa [List.inj_on_of_nodup_map distinct listed member same] at remembered

/-- The list before the export records are put back. -/
def rebuilt (nodes : List DeviceNode) (allocs : Nat → Bool) : DeviceList :=
  ((nodes.filter DeviceNode.reported).foldl (fun data node => enumCallback allocs node.device data)
    (0,⟨[]⟩)).2

theorem refresh_rebuilt (list : DeviceList) (now : Nat → UInt64) : (deviceListRefresh true list (some nodes) allocs now).2 =
    restoreExports now 0 (savedExports list) (rebuilt nodes allocs) := rfl

theorem rebuilt_enumerates : (rebuilt nodes allocs).Enumerates :=
  enumerates_callbacks _ _ ⟨by simp,by simp⟩

theorem rebuilt_busids (busid : Busid) :
    busid ∈ (rebuilt nodes allocs).entries.map DeviceEntry.busid ↔ Reenumerated nodes allocs busid := by
  rw [rebuilt,busids_callbacks]
  simp [Reenumerated]

/-- Entry by entry: what is found again is as it was exactly when its record
was saved or says nothing but the defaults. -/
theorem refreshed_same_iff (distinct : (list.entries.map DeviceEntry.busid).Nodup)
    (member : old ∈ list.entries)
    (found : deviceListFind (deviceListRefresh true list (some nodes) allocs now).2 old.busid =
      some new) : old.SameSharing new ↔ list.Outlasts old := by
  rw [refresh_rebuilt] at found
  by_cases remembered : list.Remembers old
  · have back : ∃ time, deviceListFind (restoreExports now 0 (savedExports list)
        (rebuilt nodes allocs)) old.busid =
          (deviceListFind (rebuilt nodes allocs) old.busid).map (·.export old.clientId old.clientIp time) :=
      restored_export (saved_nodup distinct) (saved_of_remembers remembered)
    obtain ⟨time,restored⟩ := back
    obtain ⟨entry,renewed,rfl⟩ := Option.map_eq_some_iff.mp (restored.symm.trans found)
    have fresh := rebuilt_enumerates.fresh entry (Keyed.find_mem _ renewed)
    constructor
    · intro same
      exact ⟨same.isShared.symm.trans fresh.isShared,Or.inr remembered⟩
    · intro outlasts
      exact ⟨fresh.isShared.trans outlasts.shared.symm,remembered.exported.symm,rfl,rfl⟩
  · have unsaved : old.busid ∉ (savedExports list).map ExportInfo.busid :=
      fun saved => remembered (remembers_of_saved distinct member saved)
    rw [restored_other unsaved] at found
    have fresh := rebuilt_enumerates.fresh new (Keyed.find_mem _ found)
    constructor
    · intro same
      refine ⟨same.isShared.symm.trans fresh.isShared,Or.inl ⟨?_,?_,?_⟩⟩
      · exact same.state.symm.trans fresh.state
      · exact same.clientId.symm.trans fresh.clientId
      · exact same.clientIp.symm.trans fresh.clientIp
    · intro outlasts
      obtain ⟨state,clientId,clientIp⟩ := outlasts.hands.resolve_right remembered
      exact ⟨fresh.isShared.trans outlasts.shared.symm,fresh.state.trans state.symm,
        fresh.clientId.trans clientId.symm,fresh.clientIp.trans clientIp.symm⟩

end Refreshing

namespace DeviceListRecord

/-- A refresh leaves every surviving device as it was exactly when each of them
is shared and either free or among the exported ones that were saved. -/
theorem refresh_keeps_iff {s : DeviceListRecord} (ready : s.initialized = true)
    (distinct : (s.list.entries.map DeviceEntry.busid).Nodup) (nodes : List DeviceNode)
    (allocs : Nat → Bool) (now : Nat → UInt64) :
    s.list.SurvivorsKept (s.refresh true (some nodes) allocs now).2.list ↔
      ∀ entry ∈ s.list.entries, Reenumerated nodes allocs entry.busid → s.list.Outlasts entry := by
  rw [s.refresh_list ready]
  have unique : ((deviceListRefresh true s.list (some nodes) allocs now).2.entries.map
      DeviceEntry.busid).Nodup := by
    rw [refresh_rebuilt,restored_busids]
    exact rebuilt_enumerates.distinct
  constructor
  · intro kept old member again
    rw [← rebuilt_busids,← restored_busids,← refresh_rebuilt s.list now] at again
    obtain ⟨new,listed,same⟩ := List.mem_map.mp again
    exact (refreshed_same_iff distinct member ((find_iff_mem unique _).mpr ⟨listed,same⟩)).mp
      (kept old member new listed same)
  · intro outlasts old member new listed same
    have again : Reenumerated nodes allocs old.busid := by
      rw [← rebuilt_busids,← restored_busids,← refresh_rebuilt s.list now]
      exact List.mem_map.mpr ⟨new,listed,same⟩
    exact (refreshed_same_iff distinct member ((find_iff_mem unique _).mpr ⟨listed,same⟩)).mpr
      (outlasts old member again)

def lentAdapter : DeviceListRecord :=
  ⟨⟨[(createEntry (adapter "C8").device).export 7 .empty 1000]⟩,1,true⟩

theorem refresh_keeps_adapter : lentAdapter.list.SurvivorsKept
    (lentAdapter.refresh true (some [adapter "C8"]) (fun _ => true) fun _ => 2000).2.list := by
  refine (refresh_keeps_iff (s := lentAdapter) rfl (by simp [lentAdapter]) _ _ _).mpr ?_
  intro entry member _
  cases List.mem_singleton.mp member
  refine ⟨rfl,Or.inr ?_⟩
  simp [DeviceList.Remembers,lentAdapter,DeviceEntry.export,maxDevices]

def privateAdapter : DeviceListRecord :=
  ⟨⟨[{createEntry (adapter "C8").device with isShared := false}]⟩,1,true⟩

theorem refresh_shares_adapter :
    let refreshed := (privateAdapter.refresh true (some [adapter "C8"]) (fun _ => true)
      fun _ => 0).2.list
    refreshed.entries = [createEntry (adapter "C8").device] ∧
      ¬privateAdapter.list.SurvivorsKept refreshed := by
  have computed : (privateAdapter.refresh true (some [adapter "C8"]) (fun _ => true)
      fun _ => 0).2.list.entries = [createEntry (adapter "C8").device] := by decide +kernel
  refine ⟨computed,fun kept => ?_⟩
  have same := kept _ List.mem_cons_self (createEntry (adapter "C8").device)
    (computed ▸ List.mem_cons_self) rfl
  exact absurd same.isShared (by decide)

def enumerationError (hostInitialized : Bool) (nodes : Option (List DeviceNode)) : ErrorCode :=
  (usbEnumerateDevices hostInitialized nodes (fun _ data => data) ()).1

/-- The refresh returns the enumeration's error and leaves the list alone. -/
def FailureKept (s : DeviceListRecord) (hostInitialized : Bool) (nodes : Option (List DeviceNode))
    (allocs : Nat → Bool) (now : Nat → UInt64) : Prop :=
  s.refresh hostInitialized nodes allocs now = (enumerationError hostInitialized nodes,s)

section Failing

variable {s : DeviceListRecord} {hostInitialized : Bool} {nodes : Option (List DeviceNode)}

theorem enumeration_failed {σ : Type} (failed : enumerationError hostInitialized nodes ≠ .success)
    (callback : UsbDevice → σ → σ) (data : σ) :
    usbEnumerateDevices hostInitialized nodes callback data =
      (enumerationError hostInitialized nodes,data) := by
  unfold enumerationError usbEnumerateDevices at *
  cases hostInitialized with
  | false => rfl
  | true =>
    cases nodes with
    | none => rfl
    | some nodes => exact absurd rfl failed

theorem restored_empty (now : Nat → UInt64) (index : Nat) (exports : List ExportInfo) :
    restoreExports now index exports ⟨[]⟩ = ⟨[]⟩ := by
  induction exports generalizing index with
  | nil => rfl
  | cons info rest ih => exact ih (index+1)

theorem failed_refresh (ready : s.initialized = true)
    (failed : enumerationError hostInitialized nodes ≠ .success) (allocs : Nat → Bool)
    (now : Nat → UInt64) : s.refresh hostInitialized nodes allocs now = (.success,s.clear) := by
  unfold refresh
  rw [enumeration_failed failed]
  simp only [ready,Bool.not_true,Bool.false_eq_true,if_false]
  exact congrArg (fun list => (ErrorCode.success,{s.clear with list}))
    (restored_empty now 0 (savedExports s.list))

theorem failure_never_kept (ready : s.initialized = true)
    (failed : enumerationError hostInitialized nodes ≠ .success) (allocs : Nat → Bool)
    (now : Nat → UInt64) : ¬s.FailureKept hostInitialized nodes allocs now := by
  intro kept
  rw [FailureKept,failed_refresh ready failed] at kept
  exact failed (Prod.mk.inj kept).1.symm

end Failing

theorem failure_never_kept_lent : ¬lentAdapter.FailureKept true none (fun _ => true) fun _ => 0 :=
  failure_never_kept rfl (by decide) _ _

/-- `SetupDiGetClassDevsW` fails while a device is lent out. -/
theorem failed_refresh_forgets :
    let refreshed := lentAdapter.refresh true none (fun _ => true) fun _ => 0
    enumerationError true none = .usbInit ∧ refreshed.1 = .success ∧
      refreshed.2.list.entries = [] ∧ ¬lentAdapter.FailureKept true none (fun _ => true) fun _ => 0 := by
  refine ⟨rfl,rfl,rfl,fun kept => ?_⟩
  have errors := congrArg Prod.fst kept
  exact absurd errors (by decide)

end DeviceListRecord

end UsbOverNetwork
