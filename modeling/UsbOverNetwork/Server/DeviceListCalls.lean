import UsbOverNetwork.Library.Runs
import UsbOverNetwork.Common.Auth
import UsbOverNetwork.Server.Enumeration

/-! Every call that edits the device list, with the arguments a caller can
pass and the counter kept beside the entries. -/
namespace UsbOverNetwork
open Runs

structure DeviceListRecord where
  list : DeviceList
  count : Int
  initialized : Bool
deriving DecidableEq

namespace DeviceListRecord

/-- The record is zeroed before its mutex is made. -/
def init (mutex : Bool) : ErrorCode × DeviceListRecord :=
  if !mutex then (.mutexInit,⟨⟨[]⟩,0,false⟩) else (.success,⟨⟨[]⟩,0,true⟩)

/-- A call that looks its busid up: `none` is a null pointer, and a string too
long for a busid is the busid of no entry. -/
def named (s : DeviceListRecord) (busid : Option Token)
    (call : Busid → ErrorCode × DeviceListRecord) : ErrorCode × DeviceListRecord :=
  match busid with
  | none => (.invalidParam,s)
  | some text =>
    let found : Busid := .ofBuffer text.chars
    if found.chars = text.chars then call found else (.notFound,s)

def changeEntry (s : DeviceListRecord) (f : DeviceEntry → DeviceEntry) (busid : Busid) :
    ErrorCode × DeviceListRecord :=
  match deviceListFind s.list busid with
  | none => (.notFound,s)
  | some _ => (.success,{s with list := s.list.modify busid f})

def add (s : DeviceListRecord) (device : Option UsbDevice) (alloc : Bool) :
    ErrorCode × DeviceListRecord :=
  match device with
  | none => (.invalidParam,s)
  | some device =>
    match deviceListFind s.list device.busid with
    | some _ => (.success,{s with list := s.list.modify device.busid fun entry => {entry with device}})
    | none =>
      if !alloc then (.outOfMemory,s)
      else (.success,{s with list := ⟨createEntry device::s.list.entries⟩, count := s.count+1})

def remove (s : DeviceListRecord) (busid : Option Token) : ErrorCode × DeviceListRecord :=
  s.named busid fun busid =>
    match Keyed.remove DeviceEntry.busid busid s.list.entries with
    | none => (.notFound,s)
    | some entries => (.success,{s with list := ⟨entries⟩, count := s.count-1})

def clear (s : DeviceListRecord) : DeviceListRecord :=
  {s with list := deviceListClear s.list, count := 0}

def refresh (s : DeviceListRecord) (hostInitialized : Bool) (nodes : Option (List DeviceNode))
    (allocs : Nat → Bool) (now : Nat → UInt64) : ErrorCode × DeviceListRecord :=
  if !s.initialized then (.invalidParam,s)
  else
    let exports := savedExports s.list
    let (_,_,listed) := usbEnumerateDevices hostInitialized nodes
      (fun device data => (data.1+1,(add data.2 (some device) (allocs data.1)).2)) (0,s.clear)
    (.success,{listed with list := restoreExports now 0 exports listed.list})

/-- Without an address the old one stays. -/
def exportEntry (clientId : UInt32) (clientIp : Option Token) (now : UInt64) (entry : DeviceEntry) :
    DeviceEntry :=
  entry.export clientId (clientIp.elim entry.clientIp fun text => .ofBuffer text.chars) now

def «export» (s : DeviceListRecord) (busid : Option Token) (clientId : UInt32)
    (clientIp : Option Token) (now : UInt64) : ErrorCode × DeviceListRecord :=
  s.named busid fun busid =>
    match deviceListFind s.list busid with
    | none => (.notFound,s)
    | some entry =>
      if entry.state ≠ .available then (.deviceBusy,s)
      else (.success,{s with list := s.list.modify busid (exportEntry clientId clientIp now)})

def unexport (s : DeviceListRecord) (busid : Option Token) : ErrorCode × DeviceListRecord :=
  s.named busid (s.changeEntry DeviceEntry.unexport)

def setBusyEntry (busy : Bool) (entry : DeviceEntry) : DeviceEntry :=
  if busy && entry.state = .available then {entry with state := .busy}
  else if !busy && entry.state = .busy then {entry with state := .available}
  else entry

def setBusy (s : DeviceListRecord) (busid : Option Token) (busy : Bool) :
    ErrorCode × DeviceListRecord :=
  s.named busid (s.changeEntry (setBusyEntry busy))

def setShared (s : DeviceListRecord) (busid : Option Token) (shared : Bool) :
    ErrorCode × DeviceListRecord :=
  s.named busid (s.changeEntry fun entry => {entry with isShared := shared})

def shareAll (s : DeviceListRecord) : DeviceListRecord :=
  {s with list := ⟨s.list.entries.map fun entry => {entry with isShared := true}⟩}

def unshareAll (s : DeviceListRecord) : DeviceListRecord :=
  {s with list := ⟨s.list.entries.map fun entry => {entry with isShared := false}⟩}

end DeviceListRecord

inductive DeviceListCall
  | init (mutex : Bool)
  | add (device : Option UsbDevice) (alloc : Bool)
  | remove (busid : Option Token)
  | clear
  | refresh (hostInitialized : Bool) (nodes : Option (List DeviceNode)) (allocs : Nat → Bool)
      (now : Nat → UInt64)
  | «export» (busid : Option Token) (clientId : UInt32) (clientIp : Option Token) (now : UInt64)
  | unexport (busid : Option Token)
  | setBusy (busid : Option Token) (busy : Bool)
  | setShared (busid : Option Token) (shared : Bool)
  | shareAll
  | unshareAll

namespace DeviceListRecord

def perform (s : DeviceListRecord) : DeviceListCall → DeviceListRecord
  | .init mutex => (init mutex).2
  | .add device alloc => (s.add device alloc).2
  | .remove busid => (s.remove busid).2
  | .clear => s.clear
  | .refresh hostInitialized nodes allocs now => (s.refresh hostInitialized nodes allocs now).2
  | .export busid clientId clientIp now => (s.export busid clientId clientIp now).2
  | .unexport busid => (s.unexport busid).2
  | .setBusy busid busy => (s.setBusy busid busy).2
  | .setShared busid shared => (s.setShared busid shared).2
  | .shareAll => s.shareAll
  | .unshareAll => s.unshareAll

def step (call : DeviceListCall) (s : DeviceListRecord) : Option DeviceListRecord :=
  some (s.perform call)

end DeviceListRecord

def Token.ofCString {room : Nat} (text : CString room) : Token := ⟨text.chars,text.noNul⟩

theorem ofBuffer_of_fits {text : Token} {room : Nat} {busid : CString room} (same : busid.chars = text.chars) :
    CString.ofBuffer text.chars = busid := by
  rw [← same,CString.ofBuffer_chars]

@[simp] theorem ofBuffer_ofCString {room : Nat} (text : CString room) :
    CString.ofBuffer (Token.ofCString text).chars = text := ofBuffer_of_fits rfl

namespace DeviceListRecord

section List

variable (s : DeviceListRecord)

theorem named_ofCString (busid : Busid) (call : Busid → ErrorCode × DeviceListRecord) :
    s.named (some (.ofCString busid)) call = call busid := by
  simp only [named,ofBuffer_ofCString]
  exact if_pos rfl

theorem add_list (device : UsbDevice) (alloc : Bool) :
    (s.add (some device) alloc).1 = (deviceListAdd s.list device alloc).1 ∧
      (s.add (some device) alloc).2.list = (deviceListAdd s.list device alloc).2 := by
  simp only [add,deviceListAdd]
  cases deviceListFind s.list device.busid with
  | some entry => exact ⟨rfl,rfl⟩
  | none => cases alloc <;> exact ⟨rfl,rfl⟩

theorem refresh_list (ready : s.initialized) (hostInitialized : Bool)
    (nodes : Option (List DeviceNode)) (allocs : Nat → Bool) (now : Nat → UInt64) :
    (s.refresh hostInitialized nodes allocs now).2.list =
      (deviceListRefresh hostInitialized s.list nodes allocs now).2 := by
  have callbacks (nodes : List DeviceNode) (data : Nat × DeviceListRecord) :
      (nodes.foldl (fun data node => (data.1+1,(add data.2 (some node.device) (allocs data.1)).2))
        data).2.list =
      (nodes.foldl (fun data node => enumCallback allocs node.device data) (data.1,data.2.list)).2 := by
    induction nodes generalizing data with
    | nil => rfl
    | cons node rest ih =>
      rw [List.foldl_cons,List.foldl_cons,ih,(add_list data.2 node.device (allocs data.1)).2]
      rfl
  simp only [refresh,deviceListRefresh,ready,Bool.not_true,Bool.false_eq_true,if_false]
  congr 1
  unfold usbEnumerateDevices
  split
  · rfl
  · split
    · rfl
    · exact callbacks _ _

theorem export_list (busid : Busid) (clientId : UInt32) (clientIp : CString 63) (now : UInt64) :
    s.export (some (.ofCString busid)) clientId (some (.ofCString clientIp)) now =
      ((deviceListExport s.list busid clientId clientIp now).1,
        {s with list := (deviceListExport s.list busid clientId clientIp now).2}) := by
  rw [«export»,named_ofCString]
  simp only [deviceListExport]
  cases deviceListFind s.list busid with
  | none => rfl
  | some entry =>
    by_cases taken : entry.state ≠ .available
    · simp only [if_pos taken]
    · simp only [if_neg taken]
      have written : exportEntry clientId (some (.ofCString clientIp)) now =
          (·.export clientId clientIp now) := by
        funext entry
        simp only [exportEntry,Option.elim_some,ofBuffer_ofCString]
      rw [written]

theorem unexport_list (busid : Busid) :
    s.unexport (some (.ofCString busid)) =
      ((deviceListUnexport s.list busid).1,{s with list := (deviceListUnexport s.list busid).2}) := by
  rw [unexport,named_ofCString]
  simp only [changeEntry,deviceListUnexport]
  cases deviceListFind s.list busid <;> rfl

theorem setShared_list (busid : Busid) (shared : Bool) :
    s.setShared (some (.ofCString busid)) shared =
      ((deviceListSetShared s.list busid shared).1,
        {s with list := (deviceListSetShared s.list busid shared).2}) := by
  rw [setShared,named_ofCString]
  simp only [changeEntry,deviceListSetShared]
  cases deviceListFind s.list busid <;> rfl

end List

structure Unlent (entry : DeviceEntry) : Prop where
  clientId : entry.clientId = 0
  clientIp : entry.clientIp = .empty
  exportTime : entry.exportTime = 0

structure Represented (s : DeviceListRecord) : Prop where
  counted : s.count = s.list.entries.length
  distinct : (s.list.entries.map DeviceEntry.busid).Nodup
  unlent : ∀ entry ∈ s.list.entries, entry.state ≠ .exported → Unlent entry

namespace Represented

variable {s : DeviceListRecord}

theorem empty (initialized : Bool) : Represented ⟨⟨[]⟩,0,initialized⟩ := ⟨rfl,by simp,by simp⟩

theorem modify (ok : s.Represented) {busid : Busid} {f : DeviceEntry → DeviceEntry}
    (keeps : ∀ entry, entry.busid = busid → (f entry).busid = busid)
    (hands : ∀ entry, (entry.state ≠ .exported → Unlent entry) →
      (f entry).state ≠ .exported → Unlent (f entry)) :
    Represented {s with list := s.list.modify busid f} := by
  have busids : (s.list.modify busid f).entries.map DeviceEntry.busid =
      s.list.entries.map DeviceEntry.busid := by
    refine Keyed.map_modify _ _ busid f s.list.entries fun entry found => ?_
    have here := Keyed.find_key _ found
    rw [keeps entry here,here]
  have length : (s.list.modify busid f).entries.length = s.list.entries.length :=
    Keyed.length_modify _ busid f s.list.entries
  refine ⟨?_,busids ▸ ok.distinct,?_⟩
  · rw [length]
    exact ok.counted
  · intro entry member
    rcases Keyed.mem_modify _ _ _ _ member with old | ⟨old,found,rfl⟩
    · exact ok.unlent entry old
    · exact hands old (ok.unlent old (Keyed.find_mem _ found))

theorem named (ok : s.Represented) (text : Option Token) (call : Busid → ErrorCode × DeviceListRecord)
    (kept : ∀ busid, (call busid).2.Represented) : (s.named text call).2.Represented := by
  unfold DeviceListRecord.named
  split
  next => exact ok
  next text =>
    dsimp only
    split
    next => exact kept _
    next => exact ok

theorem changeEntry (ok : s.Represented) {f : DeviceEntry → DeviceEntry} (busid : Busid)
    (keeps : ∀ entry, (f entry).busid = entry.busid)
    (hands : ∀ entry, (entry.state ≠ .exported → Unlent entry) →
      (f entry).state ≠ .exported → Unlent (f entry)) :
    (s.changeEntry f busid).2.Represented := by
  unfold DeviceListRecord.changeEntry
  split
  next => exact ok
  next => exact ok.modify (fun entry here => (keeps entry).trans here) hands

theorem add (ok : s.Represented) (device : Option UsbDevice) (alloc : Bool) :
    (s.add device alloc).2.Represented := by
  unfold DeviceListRecord.add
  split
  next => exact ok
  next device =>
    split
    next => exact ok.modify (fun entry here => rfl) fun entry old free =>
      ⟨(old free).clientId,(old free).clientIp,(old free).exportTime⟩
    next absent =>
      cases alloc with
      | false => exact ok
      | true =>
        refine ⟨?_,?_,?_⟩
        · simp [ok.counted]
        · exact List.nodup_cons.mpr ⟨find_eq_none.mp absent,ok.distinct⟩
        · intro entry member
          rcases List.mem_cons.mp member with rfl | old
          · exact fun _ => ⟨rfl,rfl,rfl⟩
          · exact ok.unlent entry old

theorem remove (ok : s.Represented) (text : Option Token) : (s.remove text).2.Represented := by
  refine ok.named text _ fun busid => ?_
  split
  next => exact ok
  next left removed =>
    obtain ⟨before,entry,after,split,here,rfl⟩ := Keyed.remove_some _ removed
    have counted := ok.counted
    have distinct := ok.distinct
    rw [split,List.length_append,List.length_cons] at counted
    rw [split] at distinct
    have fewer : (before ++ after).Sublist (before ++ entry::after) :=
      (List.sublist_cons_self entry after).append_left before
    refine ⟨?_,distinct.sublist (fewer.map _),?_⟩
    · show s.count - 1 = ((before ++ after).length : Int)
      rw [counted,List.length_append]
      push_cast
      omega
    · intro other member
      exact ok.unlent other (split ▸ fewer.subset member)

theorem restored {list : DeviceList} {count : Int} {initialized : Bool} (now : Nat → UInt64)
    (index : Nat) (exports : List ExportInfo) (ok : Represented ⟨list,count,initialized⟩) :
    Represented ⟨restoreExports now index exports list,count,initialized⟩ := by
  induction exports generalizing index list with
  | nil => exact ok
  | cons info rest ih =>
    exact ih _ (ok.modify (fun entry here => here) fun entry _ free => absurd rfl free)

theorem enumerated {σ : Type} (hostInitialized : Bool) (nodes : Option (List DeviceNode))
    (callback : UsbDevice → σ → σ) (holds : σ → Prop)
    (kept : ∀ device data, holds data → holds (callback device data)) (data : σ) (ok : holds data) :
    holds (usbEnumerateDevices hostInitialized nodes callback data).2 := by
  unfold usbEnumerateDevices
  split
  next => exact ok
  next =>
    split
    next => exact ok
    next nodes =>
      dsimp only
      induction nodes.filter DeviceNode.reported generalizing data with
      | nil => exact ok
      | cons node rest ih => exact ih _ (kept _ _ ok)

theorem refresh (ok : s.Represented) (hostInitialized : Bool) (nodes : Option (List DeviceNode))
    (allocs : Nat → Bool) (now : Nat → UInt64) :
    (s.refresh hostInitialized nodes allocs now).2.Represented := by
  unfold DeviceListRecord.refresh
  split
  next => exact ok
  next =>
    refine restored now 0 _ (enumerated hostInitialized nodes _
      (fun data : Nat × DeviceListRecord => data.2.Represented) ?_ _ ?_)
    · exact fun device data kept => kept.add _ _
    · exact empty s.initialized

theorem mapped (ok : s.Represented) {f : DeviceEntry → DeviceEntry}
    (keeps : ∀ entry, (f entry).busid = entry.busid)
    (hands : ∀ entry, (entry.state ≠ .exported → Unlent entry) →
      (f entry).state ≠ .exported → Unlent (f entry)) :
    Represented {s with list := ⟨s.list.entries.map f⟩} := by
  refine ⟨?_,?_,?_⟩
  · rw [ok.counted,List.length_map]
  · have busids : (s.list.entries.map f).map DeviceEntry.busid =
        s.list.entries.map DeviceEntry.busid := by
      rw [List.map_map]
      exact List.map_congr_left fun entry _ => keeps entry
    exact busids ▸ ok.distinct
  · intro entry member
    obtain ⟨old,inside,rfl⟩ := List.mem_map.mp member
    exact hands old (ok.unlent old inside)

theorem setShared_hands (shared : Bool) (entry : DeviceEntry)
    (old : entry.state ≠ .exported → Unlent entry) (free : entry.state ≠ .exported) :
    Unlent {entry with isShared := shared} :=
  ⟨(old free).clientId,(old free).clientIp,(old free).exportTime⟩

theorem setBusy_hands (busy : Bool) (entry : DeviceEntry)
    (old : entry.state ≠ .exported → Unlent entry) (free : (setBusyEntry busy entry).state ≠ .exported) :
    Unlent (setBusyEntry busy entry) := by
  unfold setBusyEntry at free ⊢
  split at free
  next available =>
    rw [if_pos available]
    have unlent := old (by simp_all)
    exact ⟨unlent.clientId,unlent.clientIp,unlent.exportTime⟩
  next other =>
    rw [if_neg other]
    split at free
    next busied =>
      rw [if_pos busied]
      have unlent := old (by simp_all)
      exact ⟨unlent.clientId,unlent.clientIp,unlent.exportTime⟩
    next neither =>
      rw [if_neg neither]
      exact old free

theorem setBusyEntry_busid (busy : Bool) (entry : DeviceEntry) :
    (setBusyEntry busy entry).busid = entry.busid := by
  unfold setBusyEntry
  split
  · rfl
  · split <;> rfl

theorem «export» (ok : s.Represented) (text : Option Token) (clientId : UInt32)
    (clientIp : Option Token) (now : UInt64) :
    (s.export text clientId clientIp now).2.Represented := by
  refine ok.named text _ fun busid => ?_
  split
  next => exact ok
  next entry found =>
    split
    next => exact ok
    next => exact ok.modify (fun entry here => here) fun entry _ free => absurd rfl free

theorem perform (ok : s.Represented) (call : DeviceListCall) : (s.perform call).Represented := by
  cases call with
  | init mutex => cases mutex <;> exact empty _
  | add device alloc => exact ok.add device alloc
  | remove busid => exact ok.remove busid
  | clear => exact empty _
  | refresh hostInitialized nodes allocs now => exact ok.refresh hostInitialized nodes allocs now
  | «export» busid clientId clientIp now => exact ok.export busid clientId clientIp now
  | unexport busid =>
    exact ok.named busid _ fun busid =>
      ok.changeEntry busid (fun _ => rfl) fun _ _ _ => ⟨rfl,rfl,rfl⟩
  | setBusy busid busy =>
    exact ok.named busid _ fun busid =>
      ok.changeEntry busid (setBusyEntry_busid busy) (setBusy_hands busy)
  | setShared busid shared =>
    exact ok.named busid _ fun busid =>
      ok.changeEntry busid (fun _ => rfl) (setShared_hands shared)
  | shareAll => exact ok.mapped (fun _ => rfl) (setShared_hands true)
  | unshareAll => exact ok.mapped (fun _ => rfl) (setShared_hands false)

end Represented

section Remove

variable {s : DeviceListRecord} {text : Token}

/-- A search that stops at the first match finds this one when the busids are
distinct. -/
theorem remove_listed (ok : s.Represented) {before after : List DeviceEntry} {entry : DeviceEntry}
    (split : s.list.entries = before ++ entry::after) (same : entry.busid.chars = text.chars) :
    s.remove (some text) = (.success,{s with list := ⟨before ++ after⟩, count := s.count-1}) := by
  have found : (CString.ofBuffer text.chars : Busid) = entry.busid := ofBuffer_of_fits same
  have distinct := ok.distinct
  rw [split,List.map_append,List.map_cons] at distinct
  have fresh : entry.busid ∉ before.map DeviceEntry.busid := by
    intro earlier
    exact (List.nodup_append.mp distinct).2.2 _ earlier _ List.mem_cons_self rfl
  simp only [remove,named,found,same,if_true,split,Keyed.remove_append DeviceEntry.busid fresh]

theorem remove_absent (absent : ∀ entry ∈ s.list.entries, entry.busid.chars ≠ text.chars) :
    s.remove (some text) = (.notFound,s) := by
  simp only [remove,named]
  split
  next found =>
    have missing : (CString.ofBuffer text.chars : Busid) ∉ s.list.entries.map DeviceEntry.busid := by
      intro listed
      obtain ⟨entry,member,same⟩ := List.mem_map.mp listed
      exact absent entry member (same ▸ found)
    rw [(Keyed.remove_none _).mpr missing]
  next _ => rfl

end Remove

theorem calls_represented {mutex : Bool} {calls : List DeviceListCall} {s : DeviceListRecord}
    (run : Run step (init mutex).2 calls s) : s.Represented := by
  refine run.invariant Represented ?_ (by cases mutex <;> exact .empty _)
  intro call state next ok taken
  exact Option.some.inj taken ▸ ok.perform call

/-- In every state that calls from `device_list_init` on lead to the list is
well represented, and a removal takes out the one entry of the busid. -/
theorem represented_removal {mutex : Bool} {calls : List DeviceListCall} {s : DeviceListRecord}
    (run : Run step (init mutex).2 calls s) :
    s.Represented ∧ ∀ text : Token,
      (s.remove (some text) = (.notFound,s) ↔
        ∀ entry ∈ s.list.entries, entry.busid.chars ≠ text.chars) ∧
      ∀ before entry after, s.list.entries = before ++ entry::after →
        entry.busid.chars = text.chars →
        s.remove (some text) = (.success,{s with list := ⟨before ++ after⟩, count := s.count-1}) := by
  have ok := calls_represented run
  refine ⟨ok,fun text => ⟨⟨?_,remove_absent⟩,fun before entry after => remove_listed ok⟩⟩
  intro missed entry member same
  obtain ⟨before,after,split⟩ := List.append_of_mem member
  rw [remove_listed ok split same] at missed
  cases (Prod.mk.inj missed).1

/-- One device added, lent out and removed. -/
theorem represented_removal_lent :
    let calls : List DeviceListCall := [.add (some (adapter "C8").device) true,
      .export (some (.ofCString (adapter "C8").device.busid)) 7 none 1000]
    let lent := calls.foldl perform (init true).2
    lent.Represented ∧ (lent.remove (some (.ofCString (adapter "C8").device.busid))).1 = .success := by
  intro calls lent
  have run : Run step (init true).2 calls lent := run_of_execute _ _ _ rfl
  have spec := represented_removal run
  refine ⟨spec.1,?_⟩
  have listed : lent.list.entries.map (·.busid.chars) = [(adapter "C8").device.busid.chars] := by
    decide +kernel
  obtain ⟨entry,member,same⟩ := List.map_eq_singleton_iff.mp listed
  rw [(spec.2 _).2 [] entry [] member same]

end DeviceListRecord

end UsbOverNetwork
