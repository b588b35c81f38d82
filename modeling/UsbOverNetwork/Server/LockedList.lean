import UsbOverNetwork.Library.LockCount
import UsbOverNetwork.Library.LockOrder
import UsbOverNetwork.Server.ClientManager
import UsbOverNetwork.Server.DeviceListCalls

/-! The operations on the device list with every taking and giving back of its
mutex, as one thread runs them. -/
namespace UsbOverNetwork
open Locking

/-- `thread_join` waits for the worker as for a lock that the worker has until it ends. -/
inductive ServerLock
  | manager
  | devices
  | worker (handler : HandlerPtr)
  | pending (handler : HandlerPtr)
  | completed (handler : HandlerPtr)
  | log
deriving DecidableEq

abbrev LockTrace := List (LockOrder.Event ServerLock)

/-- `trace` is what the thread has taken and given back so far. -/
structure LockedList where
  record : DeviceListRecord
  mutex : Mutex
  trace : LockTrace

namespace LockedList

def hold (s : LockedList) : Guarded := ⟨s.record.initialized,s.mutex⟩

def lock : StateM LockedList Unit :=
  modify fun s =>
    if s.record.initialized then {s with mutex := s.mutex.lock, trace := s.trace ++ [.take .devices]}
    else s

def unlock : StateM LockedList Unit :=
  modify fun s =>
    if s.record.initialized then {s with mutex := s.mutex.unlock, trace := s.trace ++ [.give .devices]}
    else s

def setEntries (entries : List DeviceEntry) : StateM LockedList Unit :=
  modify fun s => {s with record := {s.record with list := ⟨entries⟩}}

/-- A write through a pointer to the first entry with this busid. -/
def write (busid : Token) (f : DeviceEntry → DeviceEntry) : StateM LockedList Unit := do
  let s ← get
  setEntries (Keyed.modify (fun entry => entry.busid.chars) busid.chars f s.record.list.entries)

def clear : StateM LockedList Unit :=
  modify fun s => {s with record := {s.record with list := ⟨[]⟩, count := 0}}

/-- The list is not initialized any more when it is unlocked. -/
def cleanup : StateM LockedList Unit := do
  let s ← get
  if !s.record.initialized then pure ()
  else
    lock
    clear
    modify fun s => {s with record := {s.record with initialized := false}}
    unlock
    modify fun s => {s with mutex := s.mutex.destroy}

/-- The searches take no lock. -/
def findWhere (test : DeviceEntry → Bool) : StateM LockedList (Option DeviceEntry) := do
  let s ← get
  pure (s.record.list.entries.find? test)

def find : Option Token → StateM LockedList (Option DeviceEntry)
  | none => pure none
  | some busid => findWhere fun entry => entry.busid.chars = busid.chars

def findByVidpid (vid pid : UInt16) : StateM LockedList (Option DeviceEntry) :=
  findWhere fun entry => entry.device.vendorId = vid ∧ entry.device.productId = pid

def findByPath : Option Token → StateM LockedList (Option DeviceEntry)
  | none => pure none
  | some path => findWhere fun entry => entry.device.path.chars = path.chars

def count : StateM LockedList Int := do
  let s ← get
  pure s.record.count

def availableCount : StateM LockedList Int := do
  let s ← get
  pure (s.record.list.entries.countP fun entry => entry.state = .available ∧ entry.isShared)

def add (device : Option UsbDevice) (alloc : Bool) : StateM LockedList ErrorCode :=
  match device with
  | none => pure .invalidParam
  | some device => do
    match ← find (some (.ofCString device.busid)) with
    | some _ =>
      write (.ofCString device.busid) fun entry => {entry with device}
      pure .success
    | none =>
      if !alloc then pure .outOfMemory
      else
        modify fun s => {s with record := {s.record with
          list := ⟨createEntry device::s.record.list.entries⟩
          count := s.record.count+1}}
        pure .success

/-- `usb_enumerate_devices` with `enum_callback`. -/
def enumerate (hostInitialized : Bool) (nodes : Option (List DeviceNode)) (allocs : Nat → Bool) :
    StateM LockedList Unit :=
  modify fun s => (usbEnumerateDevices hostInitialized nodes
    (fun device data => (data.1+1,after (add (some device) (allocs data.1)) data.2)) (0,s)).2.2

def restoreLoop (now : Nat → UInt64) : Nat → List ExportInfo → StateM LockedList Unit
  | _,[] => pure ()
  | index,info::rest => do
    match ← find (some (.ofCString info.busid)) with
    | none => restoreLoop now (index+1) rest
    | some _ =>
      write (.ofCString info.busid) (·.export info.clientId info.clientIp (now index))
      restoreLoop now (index+1) rest

def refresh (hostInitialized : Bool) (nodes : Option (List DeviceNode)) (allocs : Nat → Bool)
    (now : Nat → UInt64) : StateM LockedList ErrorCode := do
  let s ← get
  if !s.record.initialized then pure .invalidParam
  else
    lock
    let s ← get
    clear
    enumerate hostInitialized nodes allocs
    restoreLoop now 0 (savedExports s.record.list)
    unlock
    pure .success

/-- The loop of `device_list_remove`; `before` are the entries passed. -/
def removeLoop (busid : Token) : List DeviceEntry → List DeviceEntry → StateM LockedList ErrorCode
  | _,[] => do
    unlock
    pure .notFound
  | before,entry::rest =>
    if entry.busid.chars = busid.chars then do
      modify fun s => {s with record := {s.record with
        list := ⟨before ++ rest⟩
        count := s.record.count-1}}
      unlock
      pure .success
    else removeLoop busid (before ++ [entry]) rest

def remove : Option Token → StateM LockedList ErrorCode
  | none => pure .invalidParam
  | some busid => do
    lock
    let s ← get
    removeLoop busid [] s.record.list.entries

def removeEntry : Option DeviceEntry → StateM LockedList ErrorCode
  | none => pure .invalidParam
  | some target => remove (some (.ofCString target.busid))

def «export» (busid : Option Token) (clientId : UInt32) (clientIp : Option Token) (now : UInt64) :
    StateM LockedList ErrorCode :=
  match busid with
  | none => pure .invalidParam
  | some busid => do
    lock
    match ← find (some busid) with
    | none =>
      unlock
      pure .notFound
    | some entry =>
      if entry.state ≠ .available then
        unlock
        pure .deviceBusy
      else
        write busid (DeviceListRecord.exportEntry clientId clientIp now)
        unlock
        pure .success

def change (f : DeviceEntry → DeviceEntry) : Option Token → StateM LockedList ErrorCode
  | none => pure .invalidParam
  | some busid => do
    lock
    match ← find (some busid) with
    | none =>
      unlock
      pure .notFound
    | some _ =>
      write busid f
      unlock
      pure .success

def unexport : Option Token → StateM LockedList ErrorCode := change DeviceEntry.unexport

def setBusy (busid : Option Token) (busy : Bool) : StateM LockedList ErrorCode :=
  change (DeviceListRecord.setBusyEntry busy) busid

def setShared (busid : Option Token) (shared : Bool) : StateM LockedList ErrorCode :=
  change (fun entry => {entry with isShared := shared}) busid

def ask {α : Type} (absent : α) (question : DeviceEntry → α) : Option Token → StateM LockedList α
  | none => pure absent
  | some busid => do
    lock
    let entry ← find (some busid)
    unlock
    pure (entry.elim absent question)

def isAvailable : Option Token → StateM LockedList Bool :=
  ask false fun entry => entry.state = .available ∧ entry.isShared

def isExported : Option Token → StateM LockedList Bool := ask false fun entry => entry.state = .exported

def getState : Option Token → StateM LockedList DeviceState := ask .error DeviceEntry.state

def share (shared : Bool) : StateM LockedList Unit := do
  lock
  let s ← get
  setEntries (s.record.list.entries.map fun entry => {entry with isShared := shared})
  unlock

def shareAll : StateM LockedList Unit := share true

def unshareAll : StateM LockedList Unit := share false

/-- A callback may write the entry and its own data, and ends the walk by
returning `false`. What it takes of the lock it gives back itself. -/
def foreachLoop {σ : Type} (selects : DeviceEntry → Bool)
    (callback : DeviceEntry → σ → Bool × DeviceEntry × σ) :
    List DeviceEntry → σ → List DeviceEntry × σ
  | [],data => ([],data)
  | entry::rest,data =>
    if selects entry then
      let (go,entry,data) := callback entry data
      if go then
        let (rest,data) := foreachLoop selects callback rest data
        (entry::rest,data)
      else (entry::rest,data)
    else
      let (rest,data) := foreachLoop selects callback rest data
      (entry::rest,data)

def foreachWhere {σ : Type} (selects : DeviceEntry → Bool)
    (callback : Option (DeviceEntry → σ → Bool × DeviceEntry × σ)) (data : σ) : StateM LockedList σ :=
  match callback with
  | none => pure data
  | some callback => do
    lock
    let s ← get
    let (entries,data) := foreachLoop selects callback s.record.list.entries data
    setEntries entries
    unlock
    pure data

section Foreach

variable {σ : Type} (callback : Option (DeviceEntry → σ → Bool × DeviceEntry × σ)) (data : σ)

def foreach : StateM LockedList σ := foreachWhere (fun _ => true) callback data

def foreachAvailable : StateM LockedList σ :=
  foreachWhere (fun entry => entry.state = .available) callback data

def foreachShared : StateM LockedList σ := foreachWhere DeviceEntry.isShared callback data

end Foreach

/-- In between it only writes to the log. -/
def print : StateM LockedList Unit := do
  lock
  unlock

section Holds

def seen (s : LockedList) : Guarded × LockTrace := (s.hold,s.trace)

def taking (held : Guarded × LockTrace) : Guarded × LockTrace :=
  (held.1.lock,if held.1.ready then held.2 ++ [.take .devices] else held.2)

def giving (held : Guarded × LockTrace) : Guarded × LockTrace :=
  (held.1.unlock,if held.1.ready then held.2 ++ [.give .devices] else held.2)

def visiting (held : Guarded × LockTrace) : Guarded × LockTrace :=
  (held.1,if held.1.ready then held.2 ++ LockOrder.locked .devices [] else held.2)

theorem giving_taking (held : Guarded × LockTrace) : (giving ∘ taking) held = visiting held := by
  obtain ⟨⟨ready,mutex⟩,trace⟩ := held
  cases ready with
  | false => rfl
  | true =>
    refine Prod.ext (Guarded.unlock_lock ⟨true,mutex⟩) ?_
    exact List.append_assoc trace [.take .devices] [.give .devices]

/-- The program visits the list under its mutex, or leaves the mutex alone. -/
abbrev Visits {α : Type} (program : StateM LockedList α) : Prop := MayAct seen visiting program

theorem Visits.hold {α : Type} {program : StateM LockedList α} (visits : Visits program) :
    Acts LockedList.hold id program :=
  fun s => (visits s).elim (congrArg Prod.fst) (congrArg Prod.fst)

theorem visited_trace {s next : LockedList} (visited : next.seen = s.seen ∨ next.seen = visiting s.seen) :
    ∃ added, (added = [] ∨ added = LockOrder.locked .devices []) ∧ next.trace = s.trace ++ added := by
  rcases visited with same | visited
  · exact ⟨[],Or.inl rfl,(congrArg Prod.snd same).trans (List.append_nil _).symm⟩
  · have trace : next.trace = (visiting s.seen).2 := congrArg Prod.snd visited
    rw [trace]
    cases ready : s.record.initialized with
    | false => exact ⟨[],Or.inl rfl,by simp [visiting,seen,LockedList.hold,ready]⟩
    | true => exact ⟨_,Or.inr rfl,by simp [visiting,seen,LockedList.hold,ready]⟩

theorem lock_acts : Acts seen taking lock := by
  rintro ⟨⟨list,count,initialized⟩,mutex,trace⟩
  cases initialized <;> rfl

theorem unlock_acts : Acts seen giving unlock := by
  rintro ⟨⟨list,count,initialized⟩,mutex,trace⟩
  cases initialized <;> rfl

theorem setEntries_acts (entries : List DeviceEntry) : Acts seen id (setEntries entries) := fun _ => rfl

theorem write_acts (busid : Token) (f : DeviceEntry → DeviceEntry) : Acts seen id (write busid f) :=
  .reads fun _ => setEntries_acts _

theorem clear_acts : Acts seen id clear := fun _ => rfl

theorem find_acts (busid : Option Token) : Acts seen id (find busid) := by
  cases busid <;> exact fun _ => rfl

theorem add_acts (device : Option UsbDevice) (alloc : Bool) : Acts seen id (add device alloc) := by
  cases device with
  | none => exact .pure _
  | some device =>
    refine .unseen (find_acts _) fun found => ?_
    cases found with
    | none => exact .ite (.pure _) (.unseen (fun _ => rfl) fun _ => .pure _)
    | some entry => exact .unseen (write_acts _ _) fun _ => .pure _

theorem enumerate_acts (hostInitialized : Bool) (nodes : Option (List DeviceNode))
    (allocs : Nat → Bool) : Acts seen id (enumerate hostInitialized nodes allocs) := by
  intro s
  refine DeviceListRecord.Represented.enumerated hostInitialized nodes _
    (fun data : Nat × LockedList => seen data.2 = seen s) ?_ (0,s) rfl
  intro device data same
  exact (add_acts (some device) (allocs data.1) data.2).trans same

theorem restoreLoop_acts (now : Nat → UInt64) (index : Nat) (exports : List ExportInfo) :
    Acts seen id (restoreLoop now index exports) := by
  induction exports generalizing index with
  | nil => exact .pure _
  | cons info rest ih =>
    refine .unseen (find_acts _) fun found => ?_
    cases found with
    | none => exact ih (index+1)
    | some entry => exact .unseen (write_acts _ _) fun _ => ih (index+1)

theorem locked {α : Type} {body : Unit → StateM LockedList α}
    (releases : ∀ u, Acts seen giving (body u)) : Visits (lock >>= body) :=
  .acts fun s => (lock_acts.comp releases s).trans (giving_taking _)

theorem unlock_return {α : Type} (a : α) :
    Acts seen giving (do unlock; pure a : StateM LockedList α) :=
  .last unlock_acts fun _ => .pure a

theorem refresh_visits (hostInitialized : Bool) (nodes : Option (List DeviceNode))
    (allocs : Nat → Bool) (now : Nat → UInt64) :
    Visits (refresh hostInitialized nodes allocs now) := by
  refine .reads fun s => .ite (.pure _) (locked fun _ => .reads fun s => ?_)
  refine .unseen clear_acts fun _ => .unseen (enumerate_acts _ _ _) fun _ => ?_
  exact .unseen (restoreLoop_acts now 0 _) fun _ => unlock_return _

theorem removeLoop_acts (busid : Token) (before rest : List DeviceEntry) :
    Acts seen giving (removeLoop busid before rest) := by
  induction rest generalizing before with
  | nil => exact unlock_return _
  | cons entry rest ih => exact .ite (.unseen (fun _ => rfl) fun _ => unlock_return _) (ih _)

theorem remove_visits (busid : Option Token) : Visits (remove busid) := by
  cases busid with
  | none => exact .pure _
  | some busid => exact locked fun _ => .reads fun s => removeLoop_acts busid [] _

theorem removeEntry_visits (target : Option DeviceEntry) : Visits (removeEntry target) := by
  cases target with
  | none => exact .pure _
  | some target => exact remove_visits _

theorem export_visits (busid : Option Token) (clientId : UInt32) (clientIp : Option Token)
    (now : UInt64) : Visits (LockedList.export busid clientId clientIp now) := by
  cases busid with
  | none => exact .pure _
  | some busid =>
    refine locked fun _ => .unseen (find_acts _) fun found => ?_
    cases found with
    | none => exact unlock_return _
    | some entry =>
      exact .ite (unlock_return _) (.unseen (write_acts _ _) fun _ => unlock_return _)

theorem change_visits (f : DeviceEntry → DeviceEntry) (busid : Option Token) :
    Visits (change f busid) := by
  cases busid with
  | none => exact .pure _
  | some busid =>
    refine locked fun _ => .unseen (find_acts _) fun found => ?_
    cases found with
    | none => exact unlock_return _
    | some entry => exact .unseen (write_acts _ _) fun _ => unlock_return _

theorem ask_visits {α : Type} (absent : α) (question : DeviceEntry → α) (busid : Option Token) :
    Visits (ask absent question busid) := by
  cases busid with
  | none => exact .pure _
  | some busid => exact locked fun _ => .unseen (find_acts _) fun _ => unlock_return _

theorem share_visits (shared : Bool) : Visits (share shared) :=
  locked fun _ => .reads fun _ => .unseen (setEntries_acts _) fun _ => unlock_acts

theorem foreachWhere_visits {σ : Type} (selects : DeviceEntry → Bool)
    (callback : Option (DeviceEntry → σ → Bool × DeviceEntry × σ)) (data : σ) :
    Visits (foreachWhere selects callback data) := by
  cases callback with
  | none => exact .pure _
  | some callback =>
    exact locked fun _ => .reads fun _ => .unseen (setEntries_acts _) fun _ => unlock_return _

theorem print_visits : Visits print := locked fun _ => unlock_acts

/-- The flag that is read by the second half of the pair is cleared between the
two, so that the mutex is destroyed with the lock taken. -/
theorem cleanup_mutex (s : LockedList) (initialized : s.record.initialized = true) :
    (after cleanup s).mutex = s.mutex.lock.destroy := by
  obtain ⟨⟨list,count,flag⟩,mutex,trace⟩ := s
  cases initialized
  rfl

theorem cleanup_trace (s : LockedList) (initialized : s.record.initialized = true) :
    (after cleanup s).trace = s.trace ++ [.take .devices] := by
  obtain ⟨⟨list,count,flag⟩,mutex,trace⟩ := s
  cases initialized
  rfl

end Holds

section Records

theorem lock_record (s : LockedList) : (after lock s).record = s.record := by
  obtain ⟨⟨list,count,initialized⟩,mutex,trace⟩ := s
  cases initialized <;> rfl

theorem unlock_record (s : LockedList) : (after unlock s).record = s.record := by
  obtain ⟨⟨list,count,initialized⟩,mutex,trace⟩ := s
  cases initialized <;> rfl

theorem chars_iff {text : Token} (fits : (CString.ofBuffer text.chars : Busid).chars = text.chars)
    (entry : DeviceEntry) : entry.busid.chars = text.chars ↔ entry.busid = .ofBuffer text.chars :=
  ⟨fun same => (ofBuffer_of_fits same).symm,fun same => by rw [same,fits]⟩

theorem after_find (busid : Option Token) (s : LockedList) : after (find busid) s = s := by
  cases busid <;> rfl

theorem find_fits {text : Token} (fits : (CString.ofBuffer text.chars : Busid).chars = text.chars)
    (s : LockedList) :
    result (find (some text)) s = deviceListFind s.record.list (.ofBuffer text.chars) :=
  Keyed.find_congr (chars_iff fits) s.record.list.entries

theorem find_long {text : Token} (long : (CString.ofBuffer text.chars : Busid).chars ≠ text.chars)
    (s : LockedList) : result (find (some text)) s = none := by
  refine List.find?_eq_none.mpr fun entry _ same => long ?_
  rw [ofBuffer_of_fits (of_decide_eq_true same)]
  exact of_decide_eq_true same

theorem write_fits {text : Token} (fits : (CString.ofBuffer text.chars : Busid).chars = text.chars)
    (f : DeviceEntry → DeviceEntry) (s : LockedList) :
    (after (write text f) s).record =
      {s.record with list := s.record.list.modify (.ofBuffer text.chars) f} :=
  congrArg (fun entries => {s.record with list := ⟨entries⟩})
    (Keyed.modify_congr (chars_iff fits) f s.record.list.entries)

theorem return_record {α : Type} (a : α) (s : LockedList) :
    (result (do unlock; pure a) s,(after (do unlock; pure a) s).record) = (a,s.record) :=
  Prod.ext rfl (unlock_record s)

theorem unchanged_record {α : Type} (a : α) (busid : Option Token) (s : LockedList) :
    (result (do unlock; pure a) (after (find busid) (after lock s)),
      (after (do unlock; pure a) (after (find busid) (after lock s))).record) = (a,s.record) := by
  rw [return_record,after_find,lock_record]

theorem written_record {text : Token} (fits : (CString.ofBuffer text.chars : Busid).chars = text.chars)
    (f : DeviceEntry → DeviceEntry) (busid : Option Token) (s : LockedList) :
    (result (do write text f; unlock; pure ErrorCode.success) (after (find busid) (after lock s)),
      (after (do write text f; unlock; pure ErrorCode.success)
        (after (find busid) (after lock s))).record) =
      (.success,{s.record with list := s.record.list.modify (.ofBuffer text.chars) f}) := by
  refine (return_record _ _).trans (Prod.ext rfl ?_)
  refine (write_fits fits f _).trans ?_
  rw [after_find,lock_record]

theorem change_record (f : DeviceEntry → DeviceEntry) (busid : Option Token) (s : LockedList) :
    (result (change f busid) s,(after (change f busid) s).record) =
      s.record.named busid (s.record.changeEntry f) := by
  cases busid with
  | none => rfl
  | some text =>
    simp only [change,DeviceListRecord.named,result_bind,after_bind]
    by_cases fits : (CString.ofBuffer text.chars : Busid).chars = text.chars
    · rw [if_pos fits,find_fits fits,lock_record]
      simp only [DeviceListRecord.changeEntry]
      cases deviceListFind s.record.list (.ofBuffer text.chars) with
      | none => exact unchanged_record _ _ s
      | some entry => exact written_record fits f _ s
    · rw [if_neg fits,find_long fits]
      exact unchanged_record _ _ s

theorem export_record (busid : Option Token) (clientId : UInt32) (clientIp : Option Token)
    (now : UInt64) (s : LockedList) :
    (result (LockedList.export busid clientId clientIp now) s,
      (after (LockedList.export busid clientId clientIp now) s).record) =
      s.record.export busid clientId clientIp now := by
  cases busid with
  | none => rfl
  | some text =>
    simp only [LockedList.export,DeviceListRecord.export,DeviceListRecord.named,result_bind,after_bind]
    by_cases fits : (CString.ofBuffer text.chars : Busid).chars = text.chars
    · rw [if_pos fits,find_fits fits,lock_record]
      cases deviceListFind s.record.list (.ofBuffer text.chars) with
      | none => exact unchanged_record _ _ s
      | some entry =>
        by_cases taken : entry.state ≠ .available
        · simp only [if_pos taken]
          exact unchanged_record _ _ s
        · simp only [if_neg taken]
          exact written_record fits _ _ s
    · rw [if_neg fits,find_long fits]
      exact unchanged_record _ _ s

theorem removeLoop_record (text : Token) (before rest : List DeviceEntry) (s : LockedList) :
    (result (removeLoop text before rest) s,(after (removeLoop text before rest) s).record) =
      match Keyed.remove (fun entry => entry.busid.chars) text.chars rest with
      | none => (.notFound,s.record)
      | some left => (.success,{s.record with list := ⟨before ++ left⟩, count := s.record.count-1}) := by
  induction rest generalizing before with
  | nil => exact return_record _ s
  | cons entry rest ih =>
    by_cases here : entry.busid.chars = text.chars
    · rw [removeLoop,if_pos here]
      simp only [Keyed.remove,if_pos here]
      exact return_record _ _
    · rw [removeLoop,if_neg here,ih]
      simp only [Keyed.remove,if_neg here]
      cases Keyed.remove (fun entry => entry.busid.chars) text.chars rest with
      | none => rfl
      | some left => simp

theorem remove_record (busid : Option Token) (s : LockedList) :
    (result (remove busid) s,(after (remove busid) s).record) = s.record.remove busid := by
  cases busid with
  | none => rfl
  | some text =>
    have walked := removeLoop_record text [] (after lock s).record.list.entries (after lock s)
    refine walked.trans ?_
    rw [lock_record]
    simp only [DeviceListRecord.remove,DeviceListRecord.named,List.nil_append]
    by_cases fits : (CString.ofBuffer text.chars : Busid).chars = text.chars
    · have same := Keyed.remove_congr (chars_iff fits) s.record.list.entries
      cases removed : Keyed.remove DeviceEntry.busid (.ofBuffer text.chars) s.record.list.entries with
      | none => simp [fits,same,removed]
      | some left => simp [fits,same,removed]
    · rw [if_neg fits]
      have absent : Keyed.remove (fun entry => entry.busid.chars) text.chars s.record.list.entries =
          none := by
        refine (Keyed.remove_none _).mpr fun member => fits ?_
        obtain ⟨entry,_,same⟩ := List.mem_map.mp member
        rw [ofBuffer_of_fits same,same]
      rw [absent]

theorem add_record (device : Option UsbDevice) (alloc : Bool) (s : LockedList) :
    (result (add device alloc) s,(after (add device alloc) s).record) = s.record.add device alloc := by
  cases device with
  | none => rfl
  | some device =>
    have fits : (CString.ofBuffer (Token.ofCString device.busid).chars : Busid).chars =
        (Token.ofCString device.busid).chars := by rw [ofBuffer_ofCString]; rfl
    simp only [add,DeviceListRecord.add,result_bind,after_bind]
    rw [find_fits fits,ofBuffer_ofCString]
    cases deviceListFind s.record.list device.busid with
    | none => cases alloc <;> rfl
    | some entry =>
      refine Prod.ext rfl ((write_fits fits _ _).trans ?_)
      rw [after_find,ofBuffer_ofCString]

theorem enumerate_record (hostInitialized : Bool) (nodes : Option (List DeviceNode))
    (allocs : Nat → Bool) (s : LockedList) :
    (after (enumerate hostInitialized nodes allocs) s).record =
      (usbEnumerateDevices hostInitialized nodes
        (fun device data => (data.1+1,(data.2.add (some device) (allocs data.1)).2))
        (0,s.record)).2.2 := by
  have callbacks (nodes : List DeviceNode) (data : Nat × LockedList) :
      (nodes.foldl (fun data node =>
        (data.1+1,after (add (some node.device) (allocs data.1)) data.2)) data).2.record =
      (nodes.foldl (fun data node => (data.1+1,(data.2.add (some node.device) (allocs data.1)).2))
        (data.1,data.2.record)).2 := by
    induction nodes generalizing data with
    | nil => rfl
    | cons node rest ih =>
      have added := congrArg Prod.snd (add_record (some node.device) (allocs data.1) data.2)
      dsimp only at added
      rw [List.foldl_cons,List.foldl_cons,ih]
      dsimp only
      rw [added]
  simp only [enumerate,after_modify]
  unfold usbEnumerateDevices
  split
  · rfl
  · split
    · rfl
    · exact callbacks _ _

theorem restoreLoop_record (now : Nat → UInt64) (index : Nat) (exports : List ExportInfo)
    (s : LockedList) :
    (after (restoreLoop now index exports) s).record =
      {s.record with list := restoreExports now index exports s.record.list} := by
  induction exports generalizing index s with
  | nil => rfl
  | cons info rest ih =>
    have fits : (CString.ofBuffer (Token.ofCString info.busid).chars : Busid).chars =
        (Token.ofCString info.busid).chars := by rw [ofBuffer_ofCString]; rfl
    simp only [restoreLoop,after_bind,restoreExports]
    rw [find_fits fits,after_find,ofBuffer_ofCString]
    cases found : deviceListFind s.record.list info.busid with
    | none =>
      have absent : s.record.list.modify info.busid
          (·.export info.clientId info.clientIp (now index)) = s.record.list :=
        congrArg DeviceList.mk (Keyed.modify_absent _ _ _ _ found)
      rw [absent]
      exact ih _ _
    | some entry =>
      have written := write_fits fits (·.export info.clientId info.clientIp (now index)) s
      rw [ofBuffer_ofCString] at written
      refine (ih (index+1) (after (write (.ofCString info.busid)
        (·.export info.clientId info.clientIp (now index))) s)).trans ?_
      rw [written]

theorem refresh_after (hostInitialized : Bool) (nodes : Option (List DeviceNode))
    (allocs : Nat → Bool) (now : Nat → UInt64) (s : LockedList) (ready : s.record.initialized = true) :
    after (refresh hostInitialized nodes allocs now) s =
      after unlock (after (restoreLoop now 0 (savedExports (after lock s).record.list))
        (after (enumerate hostInitialized nodes allocs) (after clear (after lock s)))) := by
  obtain ⟨⟨list,count,flag⟩,mutex,trace⟩ := s
  cases ready
  rfl

theorem refresh_record (hostInitialized : Bool) (nodes : Option (List DeviceNode))
    (allocs : Nat → Bool) (now : Nat → UInt64) (s : LockedList) :
    (after (refresh hostInitialized nodes allocs now) s).record =
      (s.record.refresh hostInitialized nodes allocs now).2 := by
  cases ready : s.record.initialized with
  | false =>
    obtain ⟨⟨list,count,flag⟩,mutex,trace⟩ := s
    cases ready
    rfl
  | true =>
    have cleared : (after clear (after lock s)).record = s.record.clear := by
      simp only [clear,after_modify,lock_record]
      rfl
    rw [refresh_after hostInitialized nodes allocs now s ready,unlock_record,restoreLoop_record,
      enumerate_record,cleared,lock_record]
    simp only [DeviceListRecord.refresh,ready,Bool.not_true,Bool.false_eq_true,if_false]

theorem share_record (shared : Bool) (s : LockedList) :
    (after (share shared) s).record =
      {s.record with list := ⟨s.record.list.entries.map fun entry => {entry with isShared := shared}⟩} := by
  simp only [share,after_bind]
  rw [unlock_record]
  simp only [setEntries,after_modify,result_get,after_get,lock_record]

end Records

end LockedList

/-- The functions of the list but those that make it, lock it and unlock it. -/
inductive ListOperation (σ : Type)
  | cleanup
  | refresh (hostInitialized : Bool) (nodes : Option (List DeviceNode)) (allocs : Nat → Bool)
      (now : Nat → UInt64)
  | add (device : Option UsbDevice) (alloc : Bool)
  | remove (busid : Option Token)
  | removeEntry (target : Option DeviceEntry)
  | clear
  | find (busid : Option Token)
  | findByVidpid (vid pid : UInt16)
  | findByPath (path : Option Token)
  | count
  | availableCount
  | «export» (busid : Option Token) (clientId : UInt32) (clientIp : Option Token) (now : UInt64)
  | unexport (busid : Option Token)
  | setBusy (busid : Option Token) (busy : Bool)
  | isAvailable (busid : Option Token)
  | isExported (busid : Option Token)
  | getState (busid : Option Token)
  | setShared (busid : Option Token) (shared : Bool)
  | shareAll
  | unshareAll
  | foreach (callback : Option (DeviceEntry → σ → Bool × DeviceEntry × σ)) (data : σ)
  | foreachAvailable (callback : Option (DeviceEntry → σ → Bool × DeviceEntry × σ)) (data : σ)
  | foreachShared (callback : Option (DeviceEntry → σ → Bool × DeviceEntry × σ)) (data : σ)
  | print

namespace ListOperation

variable {σ : Type}

def perform : ListOperation σ → LockedList → LockedList
  | .cleanup => after LockedList.cleanup
  | .refresh hostInitialized nodes allocs now =>
    after (LockedList.refresh hostInitialized nodes allocs now)
  | .add device alloc => after (LockedList.add device alloc)
  | .remove busid => after (LockedList.remove busid)
  | .removeEntry target => after (LockedList.removeEntry target)
  | .clear => after LockedList.clear
  | .find busid => after (LockedList.find busid)
  | .findByVidpid vid pid => after (LockedList.findByVidpid vid pid)
  | .findByPath path => after (LockedList.findByPath path)
  | .count => after LockedList.count
  | .availableCount => after LockedList.availableCount
  | .export busid clientId clientIp now => after (LockedList.export busid clientId clientIp now)
  | .unexport busid => after (LockedList.unexport busid)
  | .setBusy busid busy => after (LockedList.setBusy busid busy)
  | .isAvailable busid => after (LockedList.isAvailable busid)
  | .isExported busid => after (LockedList.isExported busid)
  | .getState busid => after (LockedList.getState busid)
  | .setShared busid shared => after (LockedList.setShared busid shared)
  | .shareAll => after LockedList.shareAll
  | .unshareAll => after LockedList.unshareAll
  | .foreach callback data => after (LockedList.foreach callback data)
  | .foreachAvailable callback data => after (LockedList.foreachAvailable callback data)
  | .foreachShared callback data => after (LockedList.foreachShared callback data)
  | .print => after LockedList.print

/-- The same call without the mutex, if it is one that edits the list. -/
def call : ListOperation σ → Option DeviceListCall
  | .refresh hostInitialized nodes allocs now => some (.refresh hostInitialized nodes allocs now)
  | .add device alloc => some (.add device alloc)
  | .remove busid => some (.remove busid)
  | .clear => some .clear
  | .export busid clientId clientIp now => some (.export busid clientId clientIp now)
  | .unexport busid => some (.unexport busid)
  | .setBusy busid busy => some (.setBusy busid busy)
  | .setShared busid shared => some (.setShared busid shared)
  | .shareAll => some .shareAll
  | .unshareAll => some .unshareAll
  | _ => none

theorem perform_record {operation : ListOperation σ} {call : DeviceListCall}
    (edits : operation.call = some call) (s : LockedList) :
    (operation.perform s).record = s.record.perform call := by
  cases operation with
  | refresh hostInitialized nodes allocs now =>
    cases edits
    exact LockedList.refresh_record hostInitialized nodes allocs now s
  | add device alloc => cases edits; exact congrArg Prod.snd (LockedList.add_record device alloc s)
  | remove busid => cases edits; exact congrArg Prod.snd (LockedList.remove_record busid s)
  | clear => cases edits; rfl
  | «export» busid clientId clientIp now =>
    cases edits
    exact congrArg Prod.snd (LockedList.export_record busid clientId clientIp now s)
  | unexport busid => cases edits; exact congrArg Prod.snd (LockedList.change_record _ busid s)
  | setBusy busid busy => cases edits; exact congrArg Prod.snd (LockedList.change_record _ busid s)
  | setShared busid shared => cases edits; exact congrArg Prod.snd (LockedList.change_record _ busid s)
  | shareAll => cases edits; exact LockedList.share_record true s
  | unshareAll => cases edits; exact LockedList.share_record false s
  | _ => cases edits

theorem perform_seen (operation : ListOperation σ) (stays : operation ≠ .cleanup) (s : LockedList) :
    (operation.perform s).seen = s.seen ∨ (operation.perform s).seen = LockedList.visiting s.seen := by
  cases operation with
  | cleanup => exact absurd rfl stays
  | refresh hostInitialized nodes allocs now => exact LockedList.refresh_visits _ _ _ _ s
  | add device alloc => exact Or.inl (LockedList.add_acts device alloc s)
  | remove busid => exact LockedList.remove_visits busid s
  | removeEntry target => exact LockedList.removeEntry_visits target s
  | clear => exact Or.inl (LockedList.clear_acts s)
  | find busid => exact Or.inl (LockedList.find_acts busid s)
  | findByVidpid vid pid => exact Or.inl rfl
  | findByPath path => cases path <;> exact Or.inl rfl
  | count => exact Or.inl rfl
  | availableCount => exact Or.inl rfl
  | «export» busid clientId clientIp now => exact LockedList.export_visits busid clientId clientIp now s
  | unexport busid => exact LockedList.change_visits _ busid s
  | setBusy busid busy => exact LockedList.change_visits _ busid s
  | isAvailable busid => exact LockedList.ask_visits _ _ busid s
  | isExported busid => exact LockedList.ask_visits _ _ busid s
  | getState busid => exact LockedList.ask_visits _ _ busid s
  | setShared busid shared => exact LockedList.change_visits _ busid s
  | shareAll => exact LockedList.share_visits true s
  | unshareAll => exact LockedList.share_visits false s
  | foreach callback data => exact LockedList.foreachWhere_visits _ callback data s
  | foreachAvailable callback data => exact LockedList.foreachWhere_visits _ callback data s
  | foreachShared callback data => exact LockedList.foreachWhere_visits _ callback data s
  | print => exact LockedList.print_visits s

end ListOperation

end UsbOverNetwork
