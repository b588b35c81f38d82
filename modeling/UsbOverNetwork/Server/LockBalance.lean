import UsbOverNetwork.Server.LockedList
import UsbOverNetwork.Server.ClientManager

/-! The operations on the client manager with every taking and giving back of
its mutex and, inside, of the device list's. -/
namespace UsbOverNetwork
open Locking

section UrbLocks

def queuePushLocks (queue : ServerLock) : LockTrace := LockOrder.locked queue []
def queuePopLocks (queue : ServerLock) : LockTrace := LockOrder.locked queue []
def queueFindRemoveLocks (queue : ServerLock) : LockTrace := LockOrder.locked queue []
def queueCleanupLocks (queue : ServerLock) : LockTrace := LockOrder.locked queue []

variable (handler : HandlerPtr)

/-- One turn of the loop of `urb_worker_thread`. -/
def workerTurnLocks (popped : Bool) : LockTrace :=
  queuePopLocks (.pending handler) ++ if popped then queuePushLocks (.completed handler) else []

def urbHandlerSubmitLocks (accepted : Bool) : LockTrace :=
  if accepted then queuePushLocks (.pending handler) else []

def urbHandlerUnlinkLocks (found : Bool) : LockTrace :=
  queueFindRemoveLocks (.pending handler) ++ if found then queuePushLocks (.completed handler) else []

def urbHandlerGetCompletedLocks : LockTrace := queuePopLocks (.completed handler)

def urbHandlerFindPendingLocks : LockTrace := LockOrder.locked (.pending handler) []

def cancelLocks : LockTrace := queuePopLocks (.pending handler) ++ queuePushLocks (.completed handler)

/-- The last pop finds nothing. -/
def urbHandlerCancelAllLocks (entries : Nat) : LockTrace :=
  (List.range entries).flatMap (fun _ => cancelLocks handler) ++ queuePopLocks (.pending handler)

def urbHandlerStopLocks (running : Bool) (entries : Nat) : LockTrace :=
  if running then LockOrder.locked (.worker handler) [] ++ urbHandlerCancelAllLocks handler entries else []

/-- `queue_init` takes no lock; the first queue is cleaned up if the second fails. -/
def urbHandlerInitLocks (pendingMade completedMade : Bool) : LockTrace :=
  if pendingMade && !completedMade then queueCleanupLocks (.pending handler) else []

def urbHandlerCleanupLocks (initialized running : Bool) (entries : Nat) : LockTrace :=
  if initialized then
    urbHandlerStopLocks handler running entries ++ queueCleanupLocks (.pending handler) ++
      queueCleanupLocks (.completed handler)
  else []

end UrbLocks

def freeClientLocks (server : Server) (client : ClientConnection) (joins : Fin 4 → WorkerOutcome) :
    LockTrace :=
  match client.urbHandler with
  | none => []
  | some pointer =>
    match server.handlers[pointer]? with
    | none => []
    | some handler =>
      let ended := workerJoin (server.device handler.device) joins {handler with running := false}
      urbHandlerCleanupLocks pointer handler.initialized handler.running ended.pending.length

/-- `sockets` has the handles of the clients' sockets, `devices` is the list
that the manager refers to. -/
structure LockedManager where
  manager : ClientManager
  connections : ClientPtr → ClientConnection
  sockets : ClientPtr → Nat
  handlers : List UrbHandler
  initialized : Bool
  mutex : Mutex
  devices : LockedList
  trace : LockTrace

namespace LockedManager

/-- How the thread holds the two mutexes, with the flags beside them. -/
def hold (s : LockedManager) : Guarded × Guarded := (⟨s.initialized,s.mutex⟩,s.devices.hold)

def server (s : LockedManager) : Server := ⟨s.manager,s.devices.record.list,s.handlers⟩

def setServer (s : LockedManager) (server : Server) : LockedManager :=
  {s with
    manager := server.manager
    handlers := server.handlers
    devices := {s.devices with record := {s.devices.record with list := server.devices}}}

def lock : StateM LockedManager Unit :=
  modify fun s => {s with mutex := s.mutex.lock, trace := s.trace ++ [.take .manager]}

def unlock : StateM LockedManager Unit :=
  modify fun s => {s with mutex := s.mutex.unlock, trace := s.trace ++ [.give .manager]}

/-- The thread is the same, so that its trace goes on. -/
def onDevices {α : Type} (program : StateM LockedList α) : StateM LockedManager α :=
  zoom (fun s => {s.devices with trace := s.trace})
    (fun s devices => {s with devices, trace := devices.trace}) program

def add (handle : Nat) (socket : Socket) (ipAddress : CString 63) (port : UInt16)
    (alloc : Option ClientPtr) : StateM LockedManager (Except ErrorCode ClientPtr) := do
  let s ← get
  if !s.initialized then pure (.error .invalidParam)
  else if s.manager.clientCount ≥ maxClients then pure (.error .busy)
  else
    lock
    let s ← get
    let id := s.manager.nextClientId
    modify fun s => {s with manager := {s.manager with nextClientId := id+1}}
    match alloc with
    | none =>
      unlock
      pure (.error .outOfMemory)
    | some client =>
      modify fun s => {s with
        manager := {s.manager with
          clients := client::s.manager.clients
          clientCount := s.manager.clientCount+1}
        connections := Function.update s.connections client (createClient id socket ipAddress port)
        sockets := Function.update s.sockets client handle}
      unlock
      pure (.ok client)

/-- What is unexported here is not looked at again. -/
def releaseDevice (busid : Busid) : StateM LockedManager Unit :=
  if busid ≠ .empty then do
    let _ ← onDevices (LockedList.unexport (some (.ofCString busid)))
    pure ()
  else pure ()

def free (client : ClientPtr) (joins : Fin 4 → WorkerOutcome) : StateM LockedManager Unit :=
  modify fun s =>
    {s.setServer (freeClient s.server (s.connections client) joins) with
      trace := s.trace ++ freeClientLocks s.server (s.connections client) joins}

/-- The loop of `client_manager_remove`; `before` are the clients passed. -/
def removeLoop (client : ClientPtr) (joins : Fin 4 → WorkerOutcome) :
    List ClientPtr → List ClientPtr → StateM LockedManager ErrorCode
  | _,[] => do
    unlock
    pure .notFound
  | before,current::rest =>
    if current = client then do
      modify fun s => {s with manager := {s.manager with
        clients := before ++ rest
        clientCount := s.manager.clientCount - 1}}
      let s ← get
      releaseDevice (s.connections client).attachedBusid
      unlock
      free client joins
      pure .success
    else removeLoop client joins (before ++ [current]) rest

def remove (client : Option ClientPtr) (joins : Fin 4 → WorkerOutcome) :
    StateM LockedManager ErrorCode :=
  match client with
  | none => pure .invalidParam
  | some client => do
    let s ← get
    if !s.initialized then pure .invalidParam
    else
      lock
      let s ← get
      removeLoop client joins [] s.manager.clients

/-- The loop of the searches, which unlocks where it finds something. -/
def findLoop (test : ClientPtr → Bool) : List ClientPtr → StateM LockedManager (Option ClientPtr)
  | [] => do
    unlock
    pure none
  | client::rest =>
    if test client then do
      unlock
      pure (some client)
    else findLoop test rest

def findWhere (test : LockedManager → ClientPtr → Bool) : StateM LockedManager (Option ClientPtr) := do
  let s ← get
  if !s.initialized then pure none
  else
    lock
    let s ← get
    findLoop (test s) s.manager.clients

def find (id : UInt32) : StateM LockedManager (Option ClientPtr) :=
  findWhere fun s client => (s.connections client).id = id

def findBySocket (handle : Nat) : StateM LockedManager (Option ClientPtr) :=
  findWhere fun s client => s.sockets client = handle

def findByDevice : Option Token → StateM LockedManager (Option ClientPtr)
  | none => pure none
  | some busid => findWhere fun s client => (s.connections client).attachedBusid.chars = busid.chars

def removeById (id : UInt32) (joins : Fin 4 → WorkerOutcome) : StateM LockedManager ErrorCode := do
  match ← find id with
  | none => pure .notFound
  | some client => remove (some client) joins

def count : StateM LockedManager Nat := do
  let s ← get
  pure s.manager.clientCount

/-- As in the list, a callback may write the client and its own data. -/
def foreachLoop {σ : Type} (callback : ClientConnection → σ → Bool × ClientConnection × σ) :
    List ClientPtr → (ClientPtr → ClientConnection) → σ → (ClientPtr → ClientConnection) × σ
  | [],connections,data => (connections,data)
  | client::rest,connections,data =>
    let (go,connection,data) := callback (connections client) data
    let connections := Function.update connections client connection
    if go then foreachLoop callback rest connections data else (connections,data)

def foreach {σ : Type} (callback : Option (ClientConnection → σ → Bool × ClientConnection × σ))
    (data : σ) : StateM LockedManager σ :=
  match callback with
  | none => pure data
  | some callback => do
    let s ← get
    if !s.initialized then pure data
    else
      lock
      let s ← get
      let (connections,data) := foreachLoop callback s.manager.clients s.connections data
      modify fun s => {s with connections}
      unlock
      pure data

def print : StateM LockedManager Unit := do
  let s ← get
  if !s.initialized then pure ()
  else
    lock
    unlock

def disconnectLoop (joins : Nat → Fin 4 → WorkerOutcome) : Nat → StateM LockedManager Unit
  | 0 => pure ()
  | turns+1 => do
    let s ← get
    match s.manager.clients with
    | [] => pure ()
    | client::_ =>
      let _ ← remove (some client) (joins turns)
      disconnectLoop joins turns

/-- Every turn removes a client, so that there are no more turns than clients. -/
def disconnectAll (joins : Nat → Fin 4 → WorkerOutcome) : StateM LockedManager Unit := do
  let s ← get
  if !s.initialized then pure ()
  else disconnectLoop joins s.manager.clients.length

def disconnectDeviceUsers (busid : Option Token) (joins : Fin 4 → WorkerOutcome) :
    StateM LockedManager Unit := do
  match ← findByDevice busid with
  | none => pure ()
  | some client =>
    let _ ← remove (some client) joins
    pure ()

def cleanup (joins : Nat → Fin 4 → WorkerOutcome) : StateM LockedManager Unit := do
  let s ← get
  if !s.initialized then pure ()
  else
    disconnectAll joins
    modify fun s => {s with mutex := s.mutex.destroy, initialized := false}

section Holds

/-- The manager's mutex is taken without a look at its flag. -/
def taking (held : Guarded × Guarded) : Guarded × Guarded :=
  ({held.1 with mutex := held.1.mutex.lock},held.2)

def giving (held : Guarded × Guarded) : Guarded × Guarded :=
  ({held.1 with mutex := held.1.mutex.unlock},held.2)

theorem giving_taking (held : Guarded × Guarded) : giving (taking held) = held :=
  Prod.ext (congrArg (Guarded.mk held.1.ready) held.1.mutex.unlock_lock) rfl

theorem lock_acts : Acts hold taking lock := fun _ => rfl

theorem unlock_acts : Acts hold giving unlock := fun _ => rfl

theorem locked {α : Type} {body : Unit → StateM LockedManager α}
    (releases : ∀ u, Acts hold giving (body u)) : Acts hold id (lock >>= body) :=
  .undone giving_taking lock_acts releases

theorem unlock_return {α : Type} (a : α) :
    Acts hold giving (do unlock; pure a : StateM LockedManager α) :=
  .last unlock_acts fun _ => .pure a

theorem onDevices_acts {α : Type} {program : StateM LockedList α}
    (keeps : Acts LockedList.hold id program) : Acts hold id (onDevices program) :=
  fun s => Prod.ext rfl (keeps {s.devices with trace := s.trace})

theorem add_acts (handle : Nat) (socket : Socket) (ipAddress : CString 63) (port : UInt16)
    (alloc : Option ClientPtr) : Acts hold id (add handle socket ipAddress port alloc) := by
  refine .reads fun s => .ite (.pure _) (.ite (.pure _) (locked fun _ => .reads fun s => ?_))
  refine .unseen (fun _ => rfl) fun _ => ?_
  cases alloc with
  | none => exact unlock_return _
  | some client => exact .unseen (fun _ => rfl) fun _ => unlock_return _

theorem releaseDevice_acts (busid : Busid) : Acts hold id (releaseDevice busid) :=
  .ite (.unseen (onDevices_acts (LockedList.change_visits _ _).hold) fun _ => .pure _) (.pure _)

theorem removeLoop_acts (client : ClientPtr) (joins : Fin 4 → WorkerOutcome)
    (before rest : List ClientPtr) :
    Acts hold giving (removeLoop client joins before rest) := by
  induction rest generalizing before with
  | nil => exact unlock_return _
  | cons current rest ih =>
    refine .ite (.unseen (fun _ => rfl) fun _ => .reads fun s => ?_) (ih _)
    exact .unseen (releaseDevice_acts _) fun _ =>
      .last unlock_acts fun _ => .unseen (fun _ => rfl) fun _ => .pure _

theorem remove_acts (client : Option ClientPtr) (joins : Fin 4 → WorkerOutcome) :
    Acts hold id (remove client joins) := by
  cases client with
  | none => exact .pure _
  | some client =>
    exact .reads fun s => .ite (.pure _) (locked fun _ => .reads fun s => removeLoop_acts client joins [] _)

theorem findLoop_acts (test : ClientPtr → Bool) (clients : List ClientPtr) :
    Acts hold giving (findLoop test clients) := by
  induction clients with
  | nil => exact unlock_return _
  | cons client rest ih => exact .ite (unlock_return _) ih

theorem findWhere_acts (test : LockedManager → ClientPtr → Bool) : Acts hold id (findWhere test) :=
  .reads fun _ => .ite (.pure _) (locked fun _ => .reads fun _ => findLoop_acts _ _)

theorem findByDevice_acts (busid : Option Token) : Acts hold id (findByDevice busid) := by
  cases busid with
  | none => exact .pure _
  | some busid => exact findWhere_acts _

theorem removeById_acts (id : UInt32) (joins : Fin 4 → WorkerOutcome) :
    Acts hold (fun held => held) (removeById id joins) := by
  refine .unseen (findWhere_acts _) fun found => ?_
  cases found with
  | none => exact .pure _
  | some client => exact remove_acts _ joins

theorem foreach_acts {σ : Type} (callback : Option (ClientConnection → σ → Bool × ClientConnection × σ))
    (data : σ) : Acts hold id (foreach callback data) := by
  cases callback with
  | none => exact .pure _
  | some callback =>
    refine .reads fun _ => .ite (.pure _) (locked fun _ => .reads fun _ => ?_)
    exact .unseen (fun _ => rfl) fun _ => unlock_return _

theorem print_acts : Acts hold id print :=
  .reads fun _ => .ite (.pure _) (locked fun _ => unlock_acts)

theorem disconnectLoop_acts (joins : Nat → Fin 4 → WorkerOutcome) (turns : Nat) :
    Acts hold id (disconnectLoop joins turns) := by
  induction turns with
  | zero => exact .pure _
  | succ turns ih =>
    refine .reads fun s => ?_
    cases s.manager.clients with
    | nil => exact .pure _
    | cons client rest => exact .unseen (remove_acts _ _) fun _ => ih

theorem disconnectAll_acts (joins : Nat → Fin 4 → WorkerOutcome) : Acts hold id (disconnectAll joins) :=
  .reads fun _ => .ite (.pure _) (disconnectLoop_acts joins _)

theorem disconnectDeviceUsers_acts (busid : Option Token) (joins : Fin 4 → WorkerOutcome) :
    Acts hold id (disconnectDeviceUsers busid joins) := by
  refine .unseen (findByDevice_acts busid) fun found => ?_
  cases found with
  | none => exact .pure _
  | some client => exact .unseen (remove_acts _ _) fun _ => .pure _

end Holds

section Records

variable (joins : Fin 4 → WorkerOutcome)

theorem releaseDevice_server (s : LockedManager) (client : ClientConnection) :
    (after (releaseDevice client.attachedBusid) s).server =
      if client.attachedBusid ≠ .empty then detachUnexport s.server client else s.server := by
  by_cases attached : client.attachedBusid ≠ .empty
  · have unexported := congrArg Prod.snd
      (LockedList.change_record DeviceEntry.unexport (some (.ofCString client.attachedBusid))
        {s.devices with trace := s.trace})
    have listed := congrArg Prod.snd (s.devices.record.unexport_list client.attachedBusid)
    rw [releaseDevice,if_pos attached,if_pos attached]
    exact congrArg (fun record : DeviceListRecord => (⟨s.manager,record.list,s.handlers⟩ : Server))
      (unexported.trans listed)
  · rw [releaseDevice,if_neg attached,if_neg attached]
    rfl

theorem releaseDevice_connections (busid : Busid) (s : LockedManager) :
    (after (releaseDevice busid) s).connections = s.connections := by
  by_cases attached : busid ≠ .empty
  · rw [releaseDevice,if_pos attached]
    rfl
  · rw [releaseDevice,if_neg attached]
    rfl

theorem removeLoop_server (client : ClientPtr) (before rest : List ClientPtr) (s : LockedManager) :
    (result (removeLoop client joins before rest) s,
      (after (removeLoop client joins before rest) s).server) =
      if client ∈ rest then
        let left : Server := {s.server with manager := {s.manager with
          clients := before ++ rest.erase client
          clientCount := s.manager.clientCount - 1}}
        (.success,freeClient (if (s.connections client).attachedBusid ≠ .empty
          then detachUnexport left (s.connections client) else left) (s.connections client) joins)
      else (.notFound,s.server) := by
  induction rest generalizing before with
  | nil => rfl
  | cons current rest ih =>
    by_cases here : current = client
    · subst here
      rw [removeLoop,if_pos rfl,if_pos List.mem_cons_self,List.erase_cons_head]
      refine Prod.ext rfl ?_
      simp only [after_bind,after_modify,after_get,result_get,after_pure,free,unlock]
      dsimp only [server,setServer]
      have released := releaseDevice_server {s with manager := {s.manager with
        clients := before ++ rest
        clientCount := s.manager.clientCount - 1}} (s.connections current)
      have kept := releaseDevice_connections (s.connections current).attachedBusid
        {s with manager := {s.manager with
          clients := before ++ rest
          clientCount := s.manager.clientCount - 1}}
      dsimp only [server] at released
      rw [released,kept]
    · rw [removeLoop,if_neg here,ih]
      simp [Ne.symm here,here]

theorem remove_server (client : ClientPtr) (s : LockedManager) (ready : s.initialized = true) :
    (result (remove (some client) joins) s,(after (remove (some client) joins) s).server) =
      clientManagerRemove s.server client (s.connections client) joins := by
  obtain ⟨manager,connections,sockets,handlers,initialized,mutex,devices,trace⟩ := s
  cases ready
  refine (removeLoop_server joins client [] manager.clients _).trans ?_
  by_cases listed : client ∈ manager.clients
  · have unlinked : manager.unlink client = some {manager with
        clients := manager.clients.erase client
        clientCount := manager.clientCount - 1} := if_pos listed
    rw [if_pos listed]
    simp only [clientManagerRemove,server,unlinked]
    rfl
  · have unlinked : manager.unlink client = none := if_neg listed
    rw [if_neg listed]
    simp only [clientManagerRemove,server,unlinked]

theorem add_manager (handle : Nat) (socket : Socket) (ipAddress : CString 63) (port : UInt16)
    (alloc : Option ClientPtr) (s : LockedManager) (ready : s.initialized = true) :
    (after (add handle socket ipAddress port alloc) s).manager =
      (clientManagerAdd s.manager socket ipAddress port alloc).2 := by
  obtain ⟨manager,connections,sockets,handlers,initialized,mutex,devices,trace⟩ := s
  cases ready
  simp only [add,after_bind,result_get,after_get,clientManagerAdd]
  by_cases full : manager.clientCount ≥ maxClients
  · simp [full]
  · cases alloc <;> simp [full,lock,unlock]

theorem freeClient_manager (server : Server) (client : ClientConnection) :
    (freeClient server client joins).manager = server.manager := by
  simp only [freeClient]
  cases client.urbHandler <;> cases client.device <;> rfl

theorem remove_head (client : ClientPtr) (rest : List ClientPtr) (s : LockedManager)
    (ready : s.initialized = true) (listed : s.manager.clients = client::rest) :
    (after (remove (some client) joins) s).manager.clients = rest := by
  have removed := congrArg Prod.snd (remove_server joins client s ready)
  have clients := congrArg (fun server => server.manager.clients) removed
  refine clients.trans ?_
  have member : client ∈ s.server.manager.clients := by
    show client ∈ s.manager.clients
    simp [listed]
  simp only [clientManagerRemove,ClientManager.unlink,if_pos member,freeClient_manager]
  have erased : s.server.manager.clients.erase client = rest := by
    show s.manager.clients.erase client = rest
    rw [listed,List.erase_cons_head]
  split <;> exact erased

theorem disconnectLoop_clients (joins : Nat → Fin 4 → WorkerOutcome) (turns : Nat) (s : LockedManager)
    (ready : s.initialized = true) (enough : s.manager.clients.length = turns) :
    (after (disconnectLoop joins turns) s).manager.clients = [] := by
  induction turns generalizing s with
  | zero => exact List.eq_nil_of_length_eq_zero enough
  | succ turns ih =>
    cases listed : s.manager.clients with
    | nil =>
      rw [listed] at enough
      cases enough
    | cons client rest =>
      have looped : after (disconnectLoop joins (turns+1)) s =
          after (disconnectLoop joins turns) (after (remove (some client) (joins turns)) s) := by
        simp only [disconnectLoop,after_bind,result_get,after_get,listed]
      have still := congrArg (fun held => held.1.ready) (remove_acts (some client) (joins turns) s)
      have left := remove_head (joins turns) client rest s ready listed
      rw [looped]
      refine ih _ (still.trans ready) ?_
      rw [left]
      rw [listed] at enough
      exact Nat.succ.inj enough

theorem disconnectAll_clients (joins : Nat → Fin 4 → WorkerOutcome) (s : LockedManager)
    (ready : s.initialized = true) : (after (disconnectAll joins) s).manager.clients = [] := by
  refine Eq.trans ?_ (disconnectLoop_clients joins s.manager.clients.length s ready rfl)
  obtain ⟨manager,connections,sockets,handlers,initialized,mutex,devices,trace⟩ := s
  cases ready
  rfl

theorem cleanup_mutex (joins : Nat → Fin 4 → WorkerOutcome) (s : LockedManager)
    (ready : s.initialized = true) :
    (after (cleanup joins) s).mutex = s.mutex.destroy ∧
      (after (cleanup joins) s).devices.mutex = s.devices.mutex := by
  have kept := disconnectAll_acts joins s
  have mine := congrArg (fun held => held.1.mutex) kept
  have devices := congrArg (fun held => held.2.mutex) kept
  have unfolded : (after (cleanup joins) s).mutex = (after (disconnectAll joins) s).mutex.destroy ∧
      (after (cleanup joins) s).devices.mutex = (after (disconnectAll joins) s).devices.mutex := by
    obtain ⟨manager,connections,sockets,handlers,initialized,mutex,devices,trace⟩ := s
    cases ready
    exact ⟨rfl,rfl⟩
  exact ⟨unfolded.1.trans (congrArg Mutex.destroy mine),unfolded.2.trans devices⟩

end Records

end LockedManager

inductive ManagerOperation (σ : Type)
  | cleanup (joins : Nat → Fin 4 → WorkerOutcome)
  | add (handle : Nat) (socket : Socket) (ipAddress : CString 63) (port : UInt16)
      (alloc : Option ClientPtr)
  | remove (client : Option ClientPtr) (joins : Fin 4 → WorkerOutcome)
  | removeById (id : UInt32) (joins : Fin 4 → WorkerOutcome)
  | find (id : UInt32)
  | findBySocket (handle : Nat)
  | findByDevice (busid : Option Token)
  | count
  | foreach (callback : Option (ClientConnection → σ → Bool × ClientConnection × σ)) (data : σ)
  | print
  | disconnectAll (joins : Nat → Fin 4 → WorkerOutcome)
  | disconnectDeviceUsers (busid : Option Token) (joins : Fin 4 → WorkerOutcome)

namespace ManagerOperation

variable {σ : Type}

def perform : ManagerOperation σ → LockedManager → LockedManager
  | .cleanup joins => after (LockedManager.cleanup joins)
  | .add handle socket ipAddress port alloc =>
    after (LockedManager.add handle socket ipAddress port alloc)
  | .remove client joins => after (LockedManager.remove client joins)
  | .removeById id joins => after (LockedManager.removeById id joins)
  | .find id => after (LockedManager.find id)
  | .findBySocket handle => after (LockedManager.findBySocket handle)
  | .findByDevice busid => after (LockedManager.findByDevice busid)
  | .count => after LockedManager.count
  | .foreach callback data => after (LockedManager.foreach callback data)
  | .print => after LockedManager.print
  | .disconnectAll joins => after (LockedManager.disconnectAll joins)
  | .disconnectDeviceUsers busid joins => after (LockedManager.disconnectDeviceUsers busid joins)

/-- The thread holds both mutexes as often as before. -/
structure Balanced (operation : ManagerOperation σ) (s : LockedManager) : Prop where
  manager : (operation.perform s).mutex.held = s.mutex.held
  devices : (operation.perform s).devices.mutex.held = s.devices.mutex.held

theorem balanced_of_hold {operation : ManagerOperation σ} {s : LockedManager}
    (same : (operation.perform s).hold = s.hold) : operation.Balanced s :=
  ⟨congrArg (fun held => held.1.mutex.held) same,congrArg (fun held => held.2.mutex.held) same⟩

theorem balanced (operation : ManagerOperation σ) (s : LockedManager) (ready : s.initialized = true) :
    operation.Balanced s := by
  cases operation with
  | cleanup joins =>
    obtain ⟨mine,devices⟩ := LockedManager.cleanup_mutex joins s ready
    exact ⟨(congrArg Mutex.held mine).trans rfl,congrArg Mutex.held devices⟩
  | add handle socket ipAddress port alloc =>
    exact balanced_of_hold (LockedManager.add_acts handle socket ipAddress port alloc s)
  | remove client joins => exact balanced_of_hold (LockedManager.remove_acts client joins s)
  | removeById id joins => exact balanced_of_hold (LockedManager.removeById_acts id joins s)
  | find id => exact balanced_of_hold (LockedManager.findWhere_acts _ s)
  | findBySocket handle => exact balanced_of_hold (LockedManager.findWhere_acts _ s)
  | findByDevice busid => exact balanced_of_hold (LockedManager.findByDevice_acts busid s)
  | count => exact ⟨rfl,rfl⟩
  | foreach callback data => exact balanced_of_hold (LockedManager.foreach_acts callback data s)
  | print => exact balanced_of_hold (LockedManager.print_acts s)
  | disconnectAll joins => exact balanced_of_hold (LockedManager.disconnectAll_acts joins s)
  | disconnectDeviceUsers busid joins =>
    exact balanced_of_hold (LockedManager.disconnectDeviceUsers_acts busid joins s)

end ManagerOperation

/-- After `device_list_init`, and before the end of `device_list_cleanup`. -/
structure LockedList.Ready (s : LockedList) : Prop where
  initialized : s.record.initialized = true
  opened : s.mutex.closed = false

def ListOperation.Balanced {σ : Type} (operation : ListOperation σ) (s : LockedList) : Prop :=
  (operation.perform s).mutex.held = s.mutex.held

/-- Every operation gives its mutex back as often as it takes it, but for the
cleanup of the list, which destroys it with the lock taken once too often. -/
theorem lock_balance {σ : Type} :
    (∀ (operation : ListOperation σ) (s : LockedList), s.Ready →
      (operation.Balanced s ↔ operation ≠ .cleanup)) ∧
    ∀ (operation : ManagerOperation σ) (s : LockedManager), s.initialized = true →
      operation.Balanced s := by
  refine ⟨fun operation s ready => ⟨?_,?_⟩,ManagerOperation.balanced⟩
  · rintro balanced rfl
    have mutex := LockedList.cleanup_mutex s ready.initialized
    have held : (ListOperation.perform (.cleanup : ListOperation σ) s).mutex.held = s.mutex.held + 1 := by
      refine (congrArg Mutex.held mutex).trans ?_
      simp [Mutex.lock,Mutex.destroy,ready.opened]
    exact absurd (held.symm.trans balanced) (Nat.succ_ne_self _)
  · intro stays
    have hold : (operation.perform s).hold = s.hold :=
      (operation.perform_seen stays s).elim (congrArg Prod.fst) (congrArg Prod.fst)
    exact congrArg (fun held => held.mutex.held) hold

def newList : LockedList := ⟨(DeviceListRecord.init true).2,⟨0,false⟩,[]⟩

def quiet : Socket := ⟨[],.silent,[],[]⟩

def newManager : LockedManager :=
  ⟨⟨[],0,1⟩,fun _ => createClient 0 quiet .empty 0,fun _ => 0,[],true,⟨0,false⟩,newList,[]⟩

def joined : Fin 4 → WorkerOutcome := fun _ => ⟨⟨true,false,0,[]⟩,false⟩

/-- Sharing all devices on a new list, and removing the one client there is. -/
theorem lock_balance_new :
    (.shareAll : ListOperation Unit).Balanced newList ∧
    (.remove (some 0) joined : ManagerOperation Unit).Balanced
      (after (LockedManager.add 7 quiet .empty 0 (some 0)) newManager) :=
  ⟨(lock_balance.1 (.shareAll : ListOperation Unit) newList ⟨rfl,rfl⟩).mpr (by simp),
    lock_balance.2 (.remove (some 0) joined : ManagerOperation Unit) _ rfl⟩

/-- The mutex of an empty list is destroyed by a thread that still holds it. -/
theorem cleanup_destroys_held :
    newList.Ready ∧ newList.mutex = ⟨0,false⟩ ∧
    ((.cleanup : ListOperation Unit).perform newList).mutex = ⟨1,true⟩ ∧
    ¬(.cleanup : ListOperation Unit).Balanced newList := by
  have destroyed : ((.cleanup : ListOperation Unit).perform newList).mutex = ⟨1,true⟩ := rfl
  refine ⟨⟨rfl,rfl⟩,rfl,destroyed,fun balanced => ?_⟩
  rw [ListOperation.Balanced,destroyed] at balanced
  cases balanced

end UsbOverNetwork
