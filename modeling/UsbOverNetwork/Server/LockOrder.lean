import UsbOverNetwork.Server.LockBalance

/-! The mutexes of the server, taken by any number of threads at once. What the
functions of the device list and of the client manager take is read off their
programs. -/
namespace UsbOverNetwork
open LockOrder Locking Runs

def ServerLock.rank : ServerLock → Nat
  | .manager => 0
  | .devices => 1
  | .worker _ => 2
  | .pending _ => 3
  | .completed _ => 4
  | .log => 5

/-- In the order of the locks from this one on, and without the log's. -/
abbrev Ordered (low : Nat) (trace : LockTrace) : Prop := Between ServerLock.rank low 5 trace

theorem section_ordered (lock : ServerLock) (unlogged : lock ≠ .log) : Ordered lock.rank (locked lock []) := by
  apply Between.locked (Nat.le_refl _)
  · cases lock <;> simp [ServerLock.rank] at unlogged ⊢
  · exact .nil

theorem pending_ordered (handler : HandlerPtr) : Ordered 2 (locked (.pending handler) []) :=
  (section_ordered (.pending handler) (by simp)).weaken (by simp [ServerLock.rank])

theorem completed_ordered (handler : HandlerPtr) : Ordered 2 (locked (.completed handler) []) :=
  (section_ordered (.completed handler) (by simp)).weaken (by simp [ServerLock.rank])

section UrbLocks

variable (handler : HandlerPtr)

theorem workerTurn_ordered (popped : Bool) : Ordered 3 (workerTurnLocks handler popped) := by
  apply Between.append
  · exact section_ordered (.pending handler) (by simp)
  · apply Between.ite
    · exact (section_ordered (.completed handler) (by simp)).weaken (by simp [ServerLock.rank])
    · exact .nil

theorem unlink_ordered (found : Bool) : Ordered 2 (urbHandlerUnlinkLocks handler found) :=
  (pending_ordered handler).append (.ite (completed_ordered handler) .nil)

theorem cancelAll_ordered (entries : Nat) : Ordered 2 (urbHandlerCancelAllLocks handler entries) := by
  apply Between.append
  · apply Between.flatMap
    intro entry _
    exact (pending_ordered handler).append (completed_ordered handler)
  · exact pending_ordered handler

theorem stop_ordered (running : Bool) (entries : Nat) :
    Ordered 2 (urbHandlerStopLocks handler running entries) := by
  apply Between.ite
  · exact (section_ordered (.worker handler) (by simp)).append (cancelAll_ordered handler entries)
  · exact .nil

theorem handlerInit_ordered (pendingMade completedMade : Bool) :
    Ordered 2 (urbHandlerInitLocks handler pendingMade completedMade) :=
  .ite (pending_ordered handler) .nil

theorem handlerCleanup_ordered (initialized running : Bool) (entries : Nat) :
    Ordered 2 (urbHandlerCleanupLocks handler initialized running entries) := by
  apply Between.ite
  · exact ((stop_ordered handler running entries).append (pending_ordered handler)).append
      (completed_ordered handler)
  · exact .nil

end UrbLocks

theorem devices_ordered : Ordered 1 (locked .devices []) := section_ordered .devices (by simp)

theorem freeClient_ordered (server : Server) (client : ClientConnection) (joins : Fin 4 → WorkerOutcome) :
    Ordered 0 (freeClientLocks server client joins) := by
  unfold freeClientLocks
  split
  next => exact .nil
  next handler _ =>
    split
    next => exact .nil
    next => exact (handlerCleanup_ordered handler _ _ _).weaken (Nat.zero_le _)

/-- What a program of the list takes and gives back, from this state on. -/
def listLocks (program : LockedList → LockedList) (s : LockedList) : LockTrace :=
  (program {s with trace := []}).trace

theorem list_ordered {program : LockedList → LockedList} {s : LockedList}
    (visits : (program {s with trace := []}).seen = LockedList.seen {s with trace := []} ∨
      (program {s with trace := []}).seen = LockedList.visiting (LockedList.seen {s with trace := []})) :
    Ordered 1 (listLocks program s) := by
  obtain ⟨added,either,trace⟩ := LockedList.visited_trace visits
  have same : listLocks program s = added := trace
  rw [same]
  rcases either with rfl | rfl
  · exact .nil
  · exact devices_ordered

namespace LockedManager

variable {α β : Type}

def Leaves (added : LockTrace) : Prop :=
  ∃ inside outside, added = inside ++ .give .manager::outside ∧ Ordered 1 inside ∧ Ordered 0 outside

/-- The device list's mutex is the only one that is taken with the manager's held. -/
theorem section_emits {body : Unit → StateM LockedManager α}
    (leaves : ∀ u, Emits trace Leaves (body u)) : Emits trace (Ordered 0) (lock >>= body) := by
  have takes : Emits trace (· = [.take .manager]) lock := fun s => ⟨_,rfl,rfl⟩
  refine takes.bind leaves ?_
  rintro _ _ rfl ⟨inside,outside,rfl,inner,outer⟩
  have entered : Ordered 0 (LockOrder.locked .manager inside) :=
    Between.locked (Nat.zero_le _) (by decide) inner
  have both := entered.append outer
  rwa [LockOrder.locked,List.append_assoc] at both

theorem leave_emits {rest : Unit → StateM LockedManager α}
    (onward : ∀ u, Emits trace (Ordered 0) (rest u)) : Emits trace Leaves (unlock >>= rest) := by
  have gives : Emits trace (· = [.give .manager]) unlock := fun s => ⟨_,rfl,rfl⟩
  refine gives.bind onward ?_
  rintro _ outside rfl outer
  exact ⟨[],outside,rfl,.nil,outer⟩

theorem inside_emits {first : StateM LockedManager α} {rest : α → StateM LockedManager β}
    (emits : Emits trace (Ordered 1) first) (onward : ∀ a, Emits trace Leaves (rest a)) :
    Emits trace Leaves (first >>= rest) := by
  refine emits.bind onward ?_
  rintro before _ early ⟨inside,outside,rfl,inner,outer⟩
  exact ⟨before ++ inside,outside,(List.append_assoc ..).symm,early.append inner,outer⟩

theorem then_emits {first : StateM LockedManager α} {rest : α → StateM LockedManager β}
    (emits : Emits trace (Ordered 0) first) (onward : ∀ a, Emits trace (Ordered 0) (rest a)) :
    Emits trace (Ordered 0) (first >>= rest) :=
  emits.bind onward fun _ _ early late => early.append late

theorem unlock_return_emits (a : α) : Emits trace Leaves (do unlock; pure a : StateM LockedManager α) :=
  leave_emits fun _ => .pure .nil a

theorem add_emits (handle : Nat) (socket : Socket) (ipAddress : CString 63) (port : UInt16)
    (alloc : Option ClientPtr) : Emits trace (Ordered 0) (add handle socket ipAddress port alloc) := by
  refine .reads fun _ => .ite (.pure .nil _) (.ite (.pure .nil _) (section_emits fun _ => .reads fun _ => ?_))
  refine .unseen (fun _ => rfl) fun _ => ?_
  cases alloc with
  | none => exact unlock_return_emits _
  | some client => exact .unseen (fun _ => rfl) fun _ => unlock_return_emits _

theorem releaseDevice_emits (busid : Busid) : Emits trace (Ordered 1) (releaseDevice busid) := by
  refine .ite ?_ (.pure .nil _)
  have unexports : Emits trace (Ordered 1)
      (onDevices (LockedList.unexport (some (.ofCString busid)))) := by
    intro s
    obtain ⟨added,either,same⟩ := LockedList.visited_trace
      (LockedList.change_visits DeviceEntry.unexport (some (.ofCString busid))
        {s.devices with trace := s.trace})
    refine ⟨added,?_,same⟩
    rcases either with rfl | rfl
    · exact .nil
    · exact devices_ordered
  exact unexports.bind (fun _ => .pure .nil _) fun _ _ early late => early.append late

theorem free_emits (client : ClientPtr) (joins : Fin 4 → WorkerOutcome) :
    Emits trace (Ordered 0) (free client joins) :=
  fun s => ⟨_,freeClient_ordered s.server (s.connections client) joins,rfl⟩

theorem removeLoop_emits (client : ClientPtr) (joins : Fin 4 → WorkerOutcome)
    (before rest : List ClientPtr) : Emits trace Leaves (removeLoop client joins before rest) := by
  induction rest generalizing before with
  | nil => exact unlock_return_emits _
  | cons current rest ih =>
    refine .ite (.unseen (fun _ => rfl) fun _ => .reads fun _ => ?_) (ih _)
    exact inside_emits (releaseDevice_emits _) fun _ => leave_emits fun _ =>
      then_emits (free_emits client joins) fun _ => .pure .nil _

theorem remove_emits (client : Option ClientPtr) (joins : Fin 4 → WorkerOutcome) :
    Emits trace (Ordered 0) (remove client joins) := by
  cases client with
  | none => exact .pure .nil _
  | some client =>
    exact .reads fun _ => .ite (.pure .nil _) (section_emits fun _ => .reads fun _ =>
      removeLoop_emits client joins [] _)

theorem findLoop_emits (test : ClientPtr → Bool) (clients : List ClientPtr) :
    Emits trace Leaves (findLoop test clients) := by
  induction clients with
  | nil => exact unlock_return_emits _
  | cons client rest ih => exact .ite (unlock_return_emits _) ih

theorem findWhere_emits (test : LockedManager → ClientPtr → Bool) :
    Emits trace (Ordered 0) (findWhere test) :=
  .reads fun _ => .ite (.pure .nil _) (section_emits fun _ => .reads fun _ => findLoop_emits _ _)

theorem findByDevice_emits (busid : Option Token) : Emits trace (Ordered 0) (findByDevice busid) := by
  cases busid with
  | none => exact .pure .nil _
  | some busid => exact findWhere_emits _

theorem removeById_emits (id : UInt32) (joins : Fin 4 → WorkerOutcome) :
    Emits trace (Ordered 0) (removeById id joins) := by
  refine then_emits (findWhere_emits _) fun found => ?_
  cases found with
  | none => exact .pure .nil _
  | some client => exact remove_emits _ joins

theorem foreach_emits {σ : Type} (callback : Option (ClientConnection → σ → Bool × ClientConnection × σ))
    (data : σ) : Emits trace (Ordered 0) (foreach callback data) := by
  cases callback with
  | none => exact .pure .nil _
  | some callback =>
    refine .reads fun _ => .ite (.pure .nil _) (section_emits fun _ => .reads fun _ => ?_)
    exact .unseen (fun _ => rfl) fun _ => unlock_return_emits _

theorem disconnectLoop_emits (joins : Nat → Fin 4 → WorkerOutcome) (turns : Nat) :
    Emits trace (Ordered 0) (disconnectLoop joins turns) := by
  induction turns with
  | zero => exact .pure .nil _
  | succ turns ih =>
    refine .reads fun s => ?_
    cases s.manager.clients with
    | nil => exact .pure .nil _
    | cons client rest => exact then_emits (remove_emits _ _) fun _ => ih

theorem disconnectDeviceUsers_emits (busid : Option Token) (joins : Fin 4 → WorkerOutcome) :
    Emits trace (Ordered 0) (disconnectDeviceUsers busid joins) := by
  refine then_emits (findByDevice_emits busid) fun found => ?_
  cases found with
  | none => exact .pure .nil _
  | some client => exact then_emits (remove_emits _ _) fun _ => .pure .nil _

end LockedManager

section Calls

variable {σ : Type}

def ManagerOperation.locks (operation : ManagerOperation σ) (s : LockedManager) : LockTrace :=
  (operation.perform {s with trace := []}).trace

open LockedManager in
theorem manager_ordered (operation : ManagerOperation σ) (stays : ∀ joins, operation ≠ .cleanup joins)
    (s : LockedManager) : Ordered 0 (operation.locks s) := by
  have ordered {α : Type} {program : StateM LockedManager α} (emits : Emits trace (Ordered 0) program) :
      Ordered 0 (after program {s with trace := []}).trace := by
    obtain ⟨added,fits,same⟩ := emits {s with trace := []}
    rw [same]
    exact fits
  cases operation with
  | cleanup joins => exact absurd rfl (stays joins)
  | add handle socket ipAddress port alloc => exact ordered (add_emits handle socket ipAddress port alloc)
  | remove client joins => exact ordered (remove_emits client joins)
  | removeById id joins => exact ordered (removeById_emits id joins)
  | find id => exact ordered (findWhere_emits _)
  | findBySocket handle => exact ordered (findWhere_emits _)
  | findByDevice busid => exact ordered (findByDevice_emits busid)
  | count => exact .nil
  | foreach callback data => exact ordered (foreach_emits callback data)
  | print =>
    have leaves : Emits trace Leaves unlock := fun s => ⟨_,⟨[],[],rfl,.nil,.nil⟩,rfl⟩
    exact ordered (.reads fun _ => .ite (.pure .nil _) (section_emits fun _ => leaves))
  | disconnectAll joins =>
    exact ordered (.reads fun _ => .ite (.pure .nil _) (disconnectLoop_emits joins _))
  | disconnectDeviceUsers busid joins => exact ordered (disconnectDeviceUsers_emits busid joins)

structure Departure where
  attachedBusid : Busid
  handler : Option HandlerPtr
  initialized : Bool
  running : Bool
  entries : Nat
deriving DecidableEq

def clientDetachDeviceLocks (departure : Departure) (s : LockedList) : LockTrace :=
  if departure.attachedBusid ≠ .empty then
    (match departure.handler with
      | none => []
      | some handler =>
        urbHandlerStopLocks handler departure.running departure.entries ++
          urbHandlerCleanupLocks handler departure.initialized false 0) ++
      listLocks (after (LockedList.unexport (some (.ofCString departure.attachedBusid)))) s
  else []

inductive AttachStage
  | refused
  | notMade (handler : HandlerPtr) (pendingMade completedMade : Bool)
  | notStarted (handler : HandlerPtr)
  | attached (busid : Token) (clientId : UInt32) (clientIp : Option Token) (now : UInt64)

def clientAttachDeviceLocks (s : LockedList) : AttachStage → LockTrace
  | .refused => []
  | .notMade handler pendingMade completedMade => urbHandlerInitLocks handler pendingMade completedMade
  | .notStarted handler => urbHandlerCleanupLocks handler true false 0
  | .attached busid clientId clientIp now =>
    listLocks (after (LockedList.export (some busid) clientId clientIp now)) s

/-- `device_list_lock` and `device_list_unlock` around a walk over the list. -/
def walkLocks (s : LockedList) : LockTrace :=
  listLocks (after (do LockedList.lock; LockedList.unlock)) s

/-- The list is counted first and sent then, if the header could be sent. -/
def clientSendDeviceListLocks (callback : DeviceEntry → σ → Bool × DeviceEntry × σ) (data : σ)
    (counted : LockedList) (walked : Option LockedList) : LockTrace :=
  walkLocks counted ++ (walked.map (listLocks (after (LockedList.foreachShared (some callback) data)))).getD []

/-- What the threads of the server call, each with the state that it finds. The
two cleanups are left out, which destroy the mutexes. -/
inductive LockingCall (σ : Type)
  | deviceList (operation : ListOperation σ) (stays : operation ≠ .cleanup) (s : LockedList)
  | manager (operation : ManagerOperation σ) (stays : ∀ joins, operation ≠ .cleanup joins)
      (s : LockedManager)
  | discoveryReply (s : LockedList)
  | attachDevice (attach : AttachStage) (s : LockedList)
  | detachDevice (departure : Departure) (s : LockedList)
  | sendDeviceList (callback : DeviceEntry → σ → Bool × DeviceEntry × σ) (data : σ)
      (counted : LockedList) (walked : Option LockedList)
  | forwardUrb (handler : HandlerPtr) (accepted : Bool)
  | getCompleted (handler : HandlerPtr)
  | unlink (handler : HandlerPtr) (found : Bool)
  | findPending (handler : HandlerPtr)
  | cancelAll (handler : HandlerPtr) (entries : Nat)

def LockingCall.locks : LockingCall σ → LockTrace
  | .deviceList operation _ s => listLocks operation.perform s
  | .manager operation _ s => operation.locks s
  | .discoveryReply s => walkLocks s
  | .attachDevice attach s => clientAttachDeviceLocks s attach
  | .detachDevice departure s => clientDetachDeviceLocks departure s
  | .sendDeviceList callback data counted walked => clientSendDeviceListLocks callback data counted walked
  | .forwardUrb handler accepted => urbHandlerSubmitLocks handler accepted
  | .getCompleted handler => urbHandlerGetCompletedLocks handler
  | .unlink handler found => urbHandlerUnlinkLocks handler found
  | .findPending handler => urbHandlerFindPendingLocks handler
  | .cancelAll handler entries => urbHandlerCancelAllLocks handler entries

theorem walk_ordered (s : LockedList) : Ordered 1 (walkLocks s) :=
  list_ordered (LockedList.locked (fun _ => LockedList.unlock_acts) _)

theorem detach_ordered (departure : Departure) (s : LockedList) :
    Ordered 0 (clientDetachDeviceLocks departure s) := by
  apply Between.ite
  · apply Between.append
    · split
      next => exact .nil
      next handler _ =>
        exact ((stop_ordered handler _ _).append (handlerCleanup_ordered handler _ _ _)).weaken (Nat.zero_le _)
    · exact (list_ordered (LockedList.change_visits _ _ _)).weaken (Nat.zero_le _)
  · exact .nil

theorem attach_ordered (attach : AttachStage) (s : LockedList) :
    Ordered 0 (clientAttachDeviceLocks s attach) := by
  cases attach with
  | refused => exact .nil
  | notMade handler pendingMade completedMade =>
    exact (handlerInit_ordered handler pendingMade completedMade).weaken (Nat.zero_le _)
  | notStarted handler => exact (handlerCleanup_ordered handler true false 0).weaken (Nat.zero_le _)
  | attached busid clientId clientIp now =>
    exact (list_ordered (LockedList.export_visits _ _ _ _ _)).weaken (Nat.zero_le _)

theorem sendDeviceList_ordered (callback : DeviceEntry → σ → Bool × DeviceEntry × σ) (data : σ)
    (counted : LockedList) (walked : Option LockedList) :
    Ordered 0 (clientSendDeviceListLocks callback data counted walked) := by
  refine ((walk_ordered counted).weaken (Nat.zero_le _)).append ?_
  cases walked with
  | none => exact .nil
  | some s =>
    exact (list_ordered (LockedList.foreachWhere_visits _ (some callback) data _)).weaken (Nat.zero_le _)

theorem call_ordered (call : LockingCall σ) : Ordered 0 call.locks := by
  cases call with
  | deviceList operation stays s =>
    exact (list_ordered (operation.perform_seen stays _)).weaken (Nat.zero_le _)
  | manager operation stays s => exact manager_ordered operation stays s
  | discoveryReply s => exact (walk_ordered s).weaken (Nat.zero_le _)
  | attachDevice attach s => exact attach_ordered attach s
  | detachDevice departure s => exact detach_ordered departure s
  | sendDeviceList callback data counted walked => exact sendDeviceList_ordered callback data counted walked
  | forwardUrb handler accepted =>
    exact .ite ((pending_ordered handler).weaken (Nat.zero_le _)) .nil
  | getCompleted handler => exact (completed_ordered handler).weaken (Nat.zero_le _)
  | unlink handler found => exact (unlink_ordered handler found).weaken (Nat.zero_le _)
  | findPending handler => exact (pending_ordered handler).weaken (Nat.zero_le _)
  | cancelAll handler entries => exact (cancelAll_ordered handler entries).weaken (Nat.zero_le _)

inductive ServerThread (σ : Type)
  | caller (calls : List (LockingCall σ))
  | worker (handler : HandlerPtr) (turns : List Bool)

namespace ServerThread

def held : ServerThread σ → List ServerLock
  | .caller _ => []
  | .worker handler _ => [.worker handler]

def locks : ServerThread σ → LockTrace
  | .caller calls => calls.flatMap LockingCall.locks
  | .worker handler turns => turns.flatMap (workerTurnLocks handler) ++ [.give (.worker handler)]

theorem takes (thread : ServerThread σ) : Takes ServerLock.rank thread.held thread.locks [] := by
  cases thread with
  | caller calls =>
    have calls_ordered : Ordered 0 (calls.flatMap LockingCall.locks) :=
      .flatMap fun call _ => call_ordered call
    exact calls_ordered.takes [] (by simp)
  | worker handler turns =>
    have turns_ordered : Ordered 3 (turns.flatMap (workerTurnLocks handler)) :=
      .flatMap fun popped _ => workerTurn_ordered handler popped
    apply Takes.append (turns_ordered.takes [.worker handler] (by simp [ServerLock.rank]))
    apply Takes.give _ _ _ _ List.mem_cons_self
    rw [List.erase_cons_head]
    exact .nil []

theorem unlogged (thread : ServerThread σ) (lock : ServerLock) (listed : .take lock ∈ thread.locks) :
    lock.rank < 5 := by
  cases thread with
  | caller calls =>
    have calls_ordered : Ordered 0 (calls.flatMap LockingCall.locks) :=
      .flatMap fun call _ => call_ordered call
    exact calls_ordered.bounded lock listed
  | worker handler turns =>
    have turns_ordered : Ordered 3 (turns.flatMap (workerTurnLocks handler)) :=
      .flatMap fun popped _ => workerTurn_ordered handler popped
    rcases List.mem_append.mp listed with inside | last
    · exact turns_ordered.bounded lock inside
    · simp at last

end ServerThread

end Calls

variable {σ ι : Type} [Fintype ι] [DecidableEq ι]

/-- Any number of threads that call and of workers, which write to the log wherever
they like, never come to stand still before all of them are at their ends. -/
theorem server_never_deadlocks (threads : ι → ServerThread σ)
    (sole : ∀ one other handler turns more, threads one = .worker handler turns →
      threads other = .worker handler more → one = other)
    (programs : ι → LockTrace) (logs : ∀ thread, Padded .log (threads thread).locks (programs thread))
    {steps : List ι} {reached : Threads ι ServerLock}
    (run : Run step ⟨programs,fun thread => (threads thread).held⟩ steps reached) :
    ((∀ thread, reached.program thread = []) ∨ ∃ thread next, step thread reached = some next) ∧
    ∃ more final, Run step reached more final ∧
      ∀ thread, final.program thread = [] ∧ final.held thread = [] := by
  have initially : Orderly ServerLock.rank ⟨programs,fun thread => (threads thread).held⟩ := by
    constructor
    · intro one other lock mine theirs
      cases first : threads one with
      | caller calls => simp [first,ServerThread.held] at mine
      | worker handler turns =>
        cases second : threads other with
        | caller calls => simp [second,ServerThread.held] at theirs
        | worker taken more =>
          simp only [first,ServerThread.held,List.mem_singleton] at mine
          simp only [second,ServerThread.held,List.mem_singleton] at theirs
          cases mine.symm.trans theirs
          exact sole one other handler turns more first second
    · intro thread
      apply Takes.padded (logs thread) (threads thread).takes
      · intro lock listed
        cases kind : threads thread with
        | caller calls => simp [kind,ServerThread.held] at listed
        | worker handler turns =>
          simp only [kind,ServerThread.held,List.mem_singleton] at listed
          subst listed
          exact (by decide : 2 < 5)
      · exact (threads thread).unlogged
  have orderly := run.invariant (Orderly ServerLock.rank)
    (fun _ _ _ orderly stepped => orderly.step stepped) initially
  exact ⟨orderly.progress,orderly.completes⟩

def goingManager : LockedManager :=
  {newManager with
    manager := ⟨[0],1,2⟩
    connections := fun _ => {createClient 1 quiet .empty 0 with
      attachedBusid := printBusid 1 1, urbHandler := some 0}
    handlers := [urbHandlerStarted (printBusid 1 1)]}

def goingClient : Fin 3 → ServerThread Unit
  | 0 => .caller [.manager (.remove (some 0) joined) (by simp) goingManager]
  | 1 => .worker 0 [true,false]
  | 2 => .caller [.sendDeviceList (fun entry data => (true,entry,data)) () newList (some newList),
      .manager (.find 1) (by simp) goingManager]

/-- The second client's thread has the device list when the first one's wants it. -/
theorem server_never_deadlocks_leaving : ∃ reached,
    Run step ⟨fun thread => (goingClient thread).locks,fun thread => (goingClient thread).held⟩
      [2,0,1] reached ∧ step 0 reached = none ∧
    ∃ more final, Run step reached more final ∧
      ∀ thread, final.program thread = [] ∧ final.held thread = [] := by
  have kept (trace : LockTrace) : Padded .log trace trace := by
    induction trace with
    | nil => exact .nil
    | cons event rest ih => exact .keep event rest rest ih
  obtain ⟨reached,run,waits⟩ := run_of_check step [2,0,1]
    ⟨fun thread => (goingClient thread).locks,fun thread => (goingClient thread).held⟩
    (fun reached => (step 0 reached).isNone) (by decide +kernel)
  refine ⟨reached,run,Option.isNone_iff_eq_none.mp waits,?_⟩
  have only : ∀ thread handler turns, goingClient thread = .worker handler turns → thread = 1 := by
    intro thread handler turns same
    match thread with
    | 0 => cases same
    | 1 => rfl
    | 2 => cases same
  apply And.right
  apply server_never_deadlocks goingClient _ _ (fun _ => kept _) run
  intro one other handler turns more first second
  rw [only one handler turns first,only other handler more second]

end UsbOverNetwork
