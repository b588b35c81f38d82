import UsbOverNetwork.Library.Runs
import UsbOverNetwork.Server.Attachment

/-! Any number of clients, each calling `client_attach_device`,
`client_detach_device` and `client_manager_remove` from a thread of its own.
The calls are cut where other threads, the workers of the URB handlers and the
user of the device list can come in between. -/
namespace UsbOverNetwork
open Runs

inductive Release
  | detach
  | free
deriving DecidableEq

/-- Where a client is in its calls. `idle` keeps the result of the last one;
`unlinked` is inside `client_manager_remove`, and `gone` is past it. -/
inductive CallPc
  | idle (result : ErrorCode)
  | checking (busid : Busid)
  | opening (busid : Busid)
  | starting (busid : Busid)
  | updating (busid : Busid)
  | exporting (busid : Busid)
  | stopping (release : Release)
  | joining (release : Release)
  | cleaning (release : Release)
  | closing (release : Release)
  | unexporting
  | clearing
  | unlinked
  | gone
deriving DecidableEq

structure CallThread where
  client : ClientConnection
  pc : CallPc
deriving DecidableEq

/-- A thread stands at its client's pointer. `owners` records for whom each
handler was started; no modelled code reads it. -/
structure CallSystem where
  server : Server
  threads : List CallThread
  owners : List ClientPtr
deriving DecidableEq

structure ConnectOutcome where
  alloc : Bool
  handlerData : Bool
  thread : Bool
deriving DecidableEq

/-- What a client may begin when it is in no call. Between its calls it also
sends and receives, which `transfer` stands for. -/
inductive Call
  | transfer (socket : Socket)
  | attach (busid : Busid)
  | detach
  | remove
deriving DecidableEq

inductive CallAction
  | connect (socket : Socket) (ipAddress : CString 63) (port : UInt16) (outcome : ConnectOutcome)
  | call (client : ClientPtr) (call : Call)
  | advance (client : ClientPtr) (outcome : AttachOutcome)
  | worker (handler : HandlerPtr) (outcome : WorkerOutcome)
  | enumerate (device : UsbDevice) (alloc : Bool)
  | setShared (busid : Busid) (shared : Bool)
deriving DecidableEq

def CallAction.client : CallAction → Option ClientPtr
  | .call client _ => some client
  | .advance client _ => some client
  | _ => none

namespace CallPc

def calling : CallPc → Bool
  | .idle _ => false
  | .stopping .free => false
  | .joining .free => false
  | .cleaning .free => false
  | .closing .free => false
  | .unlinked => false
  | .gone => false
  | _ => true

def linked : CallPc → Bool
  | .idle _ => true
  | pc => pc.calling

/-- Neither before an export that is due nor past an unexport. -/
def lends : CallPc → Bool
  | .exporting _ => false
  | .clearing => false
  | .unlinked => true
  | pc => pc.linked

def detaching : CallPc → Bool
  | .stopping .detach => true
  | .joining .detach => true
  | .cleaning .detach => true
  | .closing .detach => true
  | .unexporting => true
  | _ => false

end CallPc

structure CallThread.Exports (thread : CallThread) (busid : Busid) : Prop where
  busid : thread.client.attachedBusid = busid
  state : thread.client.state = .attached
  lends : thread.pc.lends = true

structure CallThread.Sound (thread : CallThread) : Prop where
  attached : thread.client.attachedBusid = .empty ∨ thread.client.state = .attached
  exporting : ∀ busid, thread.pc = .exporting busid → thread.client.attachedBusid = busid
  detaching : thread.pc.detaching = true → thread.client.attachedBusid ≠ .empty

/-- `urb_handler_stop` does nothing to a handler that is not running, and
`urb_handler_cleanup` calls it for an initialized handler only. -/
def Release.stops (release : Release) (handler : UrbHandler) : Bool :=
  handler.running && (release = .detach || handler.initialized)

def Server.setHandler (server : Server) (pointer : HandlerPtr) (handler : UrbHandler) : Server :=
  {server with handlers := server.handlers.set pointer handler}

def UrbHandler.cleaned (handler : UrbHandler) : UrbHandler :=
  if handler.initialized then {queuesCleanup handler with initialized := false} else handler

namespace CallSystem

def start : CallSystem := ⟨⟨⟨[],0,1⟩,⟨[]⟩,[]⟩,[],[]⟩

def advance (server : Server) (client : ClientConnection) (outcome : AttachOutcome) :
    CallPc → Option (Server × ClientConnection × CallPc)
  | .idle _ => none
  | .checking busid =>
    match attachCheck server.devices busid with
    | .success => some (server,client,.opening busid)
    | err => some (server,client,.idle err)
  | .opening busid =>
    match attachOpen server.devices busid outcome.opened with
    | (.success,devices) => some ({server with devices},client,.starting busid)
    | (err,devices) => some ({server with devices},client,.idle err)
  | .starting busid =>
    match attachHandler server client busid outcome with
    | (.success,server,client) => some (server,client,.updating busid)
    | (err,server,client) => some (server,client,.idle err)
  | .updating busid => some (server,attachUpdate client busid,.exporting busid)
  | .exporting busid =>
    some ({server with devices := attachExport server.devices client busid outcome.now},client,
      .idle .success)
  | .stopping release =>
    match client.urbHandler with
    | none => some (server,client,.closing release)
    | some pointer => (server.handlers[pointer]?).map fun handler =>
      if release.stops handler then
        (server.setHandler pointer {handler with running := false},client,.joining release)
      else (server,client,.cleaning release)
  | .joining release => do
    let pointer ← client.urbHandler
    let handler ← server.handlers[pointer]?
    -- `thread_join` returns once the worker has ended
    if handler.worker = .stopped then
      some (server.setHandler pointer (urbHandlerCancelAll handler),client,.cleaning release)
    else none
  | .cleaning release => do
    let pointer ← client.urbHandler
    let handler ← server.handlers[pointer]?
    some (server.setHandler pointer handler.cleaned,{client with urbHandler := none},
      .closing release)
  | .closing .detach =>
    let (server,client) := detachDevice server client
    some (server,client,.unexporting)
  | .closing .free =>
    match client.device with
    | none => some (server,client,.gone)
    | some busid => some ({server with devices := server.devices.modifyDevice busid usbCloseDevice},
        {client with device := none},.gone)
  | .unexporting => some (detachUnexport server client,client,.clearing)
  | .clearing => some (server,detachUpdate client,.idle .success)
  | .unlinked =>
    some (if client.attachedBusid ≠ .empty then detachUnexport server client else server,
      {client with running := false},.stopping .free)
  | .gone => none

def begin (server : Server) (pointer : ClientPtr) (client : ClientConnection) :
    Call → CallPc → Option (Server × ClientConnection × CallPc)
  | .transfer socket,.idle result => some (server,{client with socket},.idle result)
  | .attach busid,.idle _ => some (server,client,.checking busid)
  | .detach,.idle _ =>
    if client.attachedBusid = .empty then some (server,client,.idle .success)
    else some (server,client,.stopping .detach)
  | .remove,.idle _ =>
    match server.manager.unlink pointer with
    | none => some (server,client,.idle .notFound)
    | some manager => some ({server with manager},client,.unlinked)
  | _,_ => none

def moveThread (s : CallSystem) (pointer : ClientPtr)
    (move : ClientConnection → CallPc → Option (Server × ClientConnection × CallPc)) :
    Option CallSystem := do
  let thread ← s.threads[pointer]?
  let (server,client,pc) ← move thread.client thread.pc
  some
    { server
      threads := s.threads.set pointer ⟨client,pc⟩
      owners := s.owners ++
        List.replicate (server.handlers.length - s.server.handlers.length) pointer }

def step (action : CallAction) (s : CallSystem) : Option CallSystem :=
  match action with
  | .connect socket ipAddress port outcome =>
    match clientManagerAdd s.server.manager socket ipAddress port
      (if outcome.alloc then some s.threads.length else none) with
    | (.error _,manager) => some {s with server := {s.server with manager}}
    | (.ok (_,client),manager) => some {s with
        server := {s.server with manager}
        threads := s.threads ++ [⟨{client with running := outcome.handlerData},.idle .success⟩]}
  | .call pointer call => s.moveThread pointer fun client => begin s.server pointer client call
  | .advance pointer outcome => s.moveThread pointer fun client => advance s.server client outcome
  | .worker pointer outcome =>
    (s.server.handlers[pointer]?).map fun handler => {s with
      server := s.server.setHandler pointer
        (urbWorkerStep (s.server.device handler.device) outcome handler)}
  | .enumerate device alloc =>
    -- enumerated devices have a busid, and those already listed are left alone
    if device.busid ≠ .empty ∧ deviceListFind s.server.devices device.busid = none then
      some {s with server := {s.server with
        devices := (deviceListAdd s.server.devices device alloc).2}}
    else none
  | .setShared busid shared =>
    some {s with server := {s.server with
      devices := (deviceListSetShared s.server.devices busid shared).2}}

inductive ThreadMoved (pointer : ClientPtr) (server : Server) (client : ClientConnection) :
    CallPc → Server → ClientConnection → CallPc → Prop
  | transferred (result socket) :
      ThreadMoved pointer server client (.idle result) server {client with socket} (.idle result)
  | attaching (result busid) :
      ThreadMoved pointer server client (.idle result) server client (.checking busid)
  | unattached (result) (empty : client.attachedBusid = .empty) :
      ThreadMoved pointer server client (.idle result) server client (.idle .success)
  | detaching (result) (attached : client.attachedBusid ≠ .empty) :
      ThreadMoved pointer server client (.idle result) server client (.stopping .detach)
  | unlisted (result) :
      ThreadMoved pointer server client (.idle result) server client (.idle .notFound)
  | unlinked (result) :
      ThreadMoved pointer server client (.idle result)
        {server with manager := {server.manager with
          clients := server.manager.clients.erase pointer
          clientCount := server.manager.clientCount - 1}} client .unlinked
  | refused (busid err) :
      ThreadMoved pointer server client (.checking busid) server client (.idle err)
  | checked (busid) (listed : server.devices.lending busid ≠ none) :
      ThreadMoved pointer server client (.checking busid) server client (.opening busid)
  | unopened (busid err devices) (same : server.devices.SameLending devices) :
      ThreadMoved pointer server client (.opening busid) {server with devices} client (.idle err)
  | opened (busid devices) (same : server.devices.SameLending devices) :
      ThreadMoved pointer server client (.opening busid) {server with devices} client
        (.starting busid)
  | unstarted (busid err devices) (same : server.devices.SameLending devices) :
      ThreadMoved pointer server client (.starting busid) {server with devices}
        {client with urbHandler := none} (.idle err)
  | started (busid) :
      ThreadMoved pointer server client (.starting busid)
        {server with handlers := server.handlers ++ [urbHandlerStarted busid]}
        {client with urbHandler := some server.handlers.length} (.updating busid)
  | updated (busid) :
      ThreadMoved pointer server client (.updating busid) server (attachUpdate client busid)
        (.exporting busid)
  | exported (busid now) :
      ThreadMoved pointer server client (.exporting busid)
        {server with devices := attachExport server.devices client busid now} client
        (.idle .success)
  | unhandled (release) (none : client.urbHandler = none) :
      ThreadMoved pointer server client (.stopping release) server client (.closing release)
  | unstopped (release handlerPointer handler) (held : client.urbHandler = some handlerPointer)
      (found : server.handlers[handlerPointer]? = some handler)
      (idle : release.stops handler = false) :
      ThreadMoved pointer server client (.stopping release) server client (.cleaning release)
  | stopped (release handlerPointer handler) (held : client.urbHandler = some handlerPointer)
      (found : server.handlers[handlerPointer]? = some handler) :
      ThreadMoved pointer server client (.stopping release)
        (server.setHandler handlerPointer {handler with running := false}) client (.joining release)
  | joined (release handlerPointer handler) (held : client.urbHandler = some handlerPointer)
      (found : server.handlers[handlerPointer]? = some handler)
      (ended : handler.worker = .stopped) :
      ThreadMoved pointer server client (.joining release)
        (server.setHandler handlerPointer (urbHandlerCancelAll handler)) client (.cleaning release)
  | cleaned (release handlerPointer handler) (held : client.urbHandler = some handlerPointer)
      (found : server.handlers[handlerPointer]? = some handler) :
      ThreadMoved pointer server client (.cleaning release)
        (server.setHandler handlerPointer handler.cleaned) {client with urbHandler := none}
        (.closing release)
  | closed (devices device) (same : server.devices.SameLending devices) :
      ThreadMoved pointer server client (.closing .detach) {server with devices} {client with device}
        .unexporting
  | freed (devices device) (same : server.devices.SameLending devices) :
      ThreadMoved pointer server client (.closing .free) {server with devices} {client with device}
        .gone
  | unexported :
      ThreadMoved pointer server client .unexporting (detachUnexport server client) client .clearing
  | cleared : ThreadMoved pointer server client .clearing server (detachUpdate client)
      (.idle .success)
  | released (attached : client.attachedBusid ≠ .empty) :
      ThreadMoved pointer server client .unlinked (detachUnexport server client)
        {client with running := false} (.stopping .free)
  | unreleased (empty : client.attachedBusid = .empty) :
      ThreadMoved pointer server client .unlinked server {client with running := false}
        (.stopping .free)

variable {server next : Server} {client after : ClientConnection} {pc onward : CallPc}
  {pointer : ClientPtr}

theorem sameLending_modifyDevice {list : DeviceList} {busid : Busid} {g : UsbDevice → UsbDevice}
    (keeps : ∀ device, (g device).reset = device.reset) :
    list.SameLending (list.modifyDevice busid g) :=
  sameLending_modify (modifyDevice_busid keeps) fun _ => ⟨rfl,rfl⟩

theorem attachOpen_sameLending (devices : DeviceList) (busid : Busid) (outcome : OpenOutcome) :
    devices.SameLending (attachOpen devices busid outcome).2 := by
  simp only [attachOpen]
  split
  · exact .refl devices
  · exact sameLending_modifyDevice (openAndClaim_reset outcome)

theorem attachCheck_listed {devices : DeviceList} {busid : Busid}
    (checked : attachCheck devices busid = .success) : devices.lending busid ≠ none := by
  obtain ⟨entry,found,_⟩ := attachCheck_success checked
  simp [DeviceList.lending,found]

theorem begin_moved {call : Call} (begun : begin server pointer client call pc = some (next,after,onward)) :
    ThreadMoved pointer server client pc next after onward := by
  cases pc with
  | idle result =>
    cases call with
    | transfer socket => cases begun; exact .transferred result socket
    | attach busid => cases begun; exact .attaching result busid
    | detach =>
      simp only [begin] at begun
      split at begun
      next empty => cases begun; exact .unattached result empty
      next attached => cases begun; exact .detaching result attached
    | remove =>
      simp only [begin,ClientManager.unlink] at begun
      split at begun
      next _ => cases begun; exact .unlisted result
      next manager unlinked =>
        split at unlinked
        next _ => cases unlinked; cases begun; exact .unlinked result
        next _ => cases unlinked
  | _ => cases call <;> cases begun

theorem advance_moved {outcome : AttachOutcome}
    (advanced : advance server client outcome pc = some (next,after,onward)) :
    ThreadMoved pointer server client pc next after onward := by
  cases pc with
  | idle result => cases advanced
  | checking busid =>
    simp only [advance] at advanced
    split at advanced
    next checked => cases advanced; exact .checked busid (attachCheck_listed checked)
    next err _ => cases advanced; exact .refused busid _
  | opening busid =>
    have same := attachOpen_sameLending server.devices busid outcome.opened
    simp only [advance] at advanced
    split at advanced
    next devices opened =>
      cases advanced
      rw [opened] at same
      exact .opened busid devices same
    next err devices _ failed =>
      cases advanced
      rw [failed] at same
      exact .unopened busid err devices same
  | starting busid =>
    have same : server.devices.SameLending (server.devices.modifyDevice busid releaseAndClose) :=
      sameLending_modifyDevice releaseAndClose_reset
    simp only [advance] at advanced
    rcases attachHandler_cases server client busid outcome with started | ⟨err,failure,failed⟩
    · rw [started] at advanced
      cases advanced
      exact .started busid
    · rw [failed] at advanced
      split at advanced
      next succeeded => cases succeeded; exact absurd rfl failure
      next split => cases split; cases advanced; exact .unstarted busid err _ same
  | updating busid => cases advanced; exact .updated busid
  | exporting busid => cases advanced; exact .exported busid outcome.now
  | stopping release =>
    simp only [advance] at advanced
    split at advanced
    next none => cases advanced; exact .unhandled release none
    next handlerPointer held =>
      obtain ⟨handler,found,moved⟩ := Option.map_eq_some_iff.mp advanced
      split at moved
      next _ => cases moved; exact .stopped release handlerPointer handler held found
      next running =>
        cases moved
        exact .unstopped release handlerPointer handler held found (by simpa using running)
  | joining release =>
    simp only [advance,Option.bind_eq_bind,Option.bind_eq_some_iff] at advanced
    obtain ⟨handlerPointer,held,handler,found,moved⟩ := advanced
    split at moved
    next ended => cases moved; exact .joined release handlerPointer handler held found ended
    next _ => cases moved
  | cleaning release =>
    simp only [advance,Option.bind_eq_bind,Option.bind_eq_some_iff] at advanced
    obtain ⟨handlerPointer,held,handler,found,moved⟩ := advanced
    cases moved
    exact .cleaned release handlerPointer handler held found
  | closing release =>
    cases release with
    | detach =>
      simp only [advance,detachDevice] at advanced
      split at advanced
      next none =>
        cases advanced
        exact .closed server.devices client.device (.refl _)
      next busid held =>
        cases advanced
        exact .closed _ none (sameLending_modifyDevice releaseAndClose_reset)
    | free =>
      simp only [advance] at advanced
      split at advanced
      next none =>
        cases advanced
        exact .freed server.devices client.device (.refl _)
      next busid held =>
        cases advanced
        exact .freed _ none (sameLending_modifyDevice usbCloseDevice_reset)
  | unexporting => cases advanced; exact .unexported
  | clearing => cases advanced; exact .cleared
  | unlinked =>
    simp only [advance] at advanced
    split at advanced
    next attached => cases advanced; exact .released attached
    next empty => cases advanced; exact .unreleased (not_not.mp empty)
  | gone => cases advanced

inductive Moved (s : CallSystem) : CallAction → CallSystem → Prop
  | thread (action pointer client pc server after onward) (acts : action.client = some pointer)
      (here : s.threads[pointer]? = some ⟨client,pc⟩)
      (moved : ThreadMoved pointer s.server client pc server after onward) :
      Moved s action
        { server
          threads := s.threads.set pointer ⟨after,onward⟩
          owners := s.owners ++
            List.replicate (server.handlers.length - s.server.handlers.length) pointer }
  | refused (action nextClientId) :
      Moved s action
        {s with server := {s.server with manager := {s.server.manager with nextClientId}}}
  | connected (socket ipAddress port outcome) :
      Moved s (.connect socket ipAddress port outcome) {s with
        server := {s.server with manager := ⟨s.threads.length::s.server.manager.clients,
          s.server.manager.clientCount+1,s.server.manager.nextClientId+1⟩}
        threads := s.threads ++ [⟨{createClient s.server.manager.nextClientId socket ipAddress port
          with running := outcome.handlerData},.idle .success⟩]}
  | worked (action pointer handler device outcome)
      (found : s.server.handlers[pointer]? = some handler) :
      Moved s action
        {s with server := s.server.setHandler pointer (urbWorkerStep device outcome handler)}
  | listed (action device devices) (named : device.busid ≠ .empty)
      (absent : s.server.devices.lending device.busid = none)
      (entries : devices.entries = createEntry device::s.server.devices.entries)
      (lending : ∀ other, devices.lending other =
        if other = device.busid then some (.available,0) else s.server.devices.lending other) :
      Moved s action {s with server := {s.server with devices}}
  | relisted (action devices) (same : s.server.devices.SameLending devices) :
      Moved s action {s with server := {s.server with devices}}

theorem moveThread_moved {s next : CallSystem} {action : CallAction} {pointer : ClientPtr}
    {move : ClientConnection → CallPc → Option (Server × ClientConnection × CallPc)}
    (acts : action.client = some pointer)
    (moves : ∀ {client pc server after onward}, move client pc = some (server,after,onward) →
      ThreadMoved pointer s.server client pc server after onward)
    (moved : s.moveThread pointer move = some next) : Moved s action next := by
  simp only [moveThread,Option.bind_eq_bind,Option.bind_eq_some_iff] at moved
  obtain ⟨⟨client,pc⟩,here,⟨server,after,onward⟩,taken,made⟩ := moved
  cases made
  exact .thread action pointer client pc server after onward acts here (moves taken)

theorem step_moved {s next : CallSystem} {action : CallAction}
    (stepped : step action s = some next) : Moved s action next := by
  cases action with
  | connect socket ipAddress port outcome =>
    simp only [step] at stepped
    rcases clientManagerAdd_cases s.server.manager socket ipAddress port
      (if outcome.alloc then some s.threads.length else none) with ⟨err,id,refused⟩ | ⟨pointer,alloc,added⟩
    · rw [refused] at stepped
      exact Option.some.inj stepped ▸ .refused _ id
    · rw [added] at stepped
      split at alloc
      next _ =>
        cases alloc
        exact Option.some.inj stepped ▸ .connected socket ipAddress port outcome
      next _ => cases alloc
  | call pointer call => exact moveThread_moved rfl begin_moved stepped
  | advance pointer outcome => exact moveThread_moved rfl advance_moved stepped
  | worker pointer outcome =>
    obtain ⟨handler,found,rfl⟩ := Option.map_eq_some_iff.mp stepped
    exact .worked _ pointer handler _ outcome found
  | enumerate device alloc =>
    simp only [step] at stepped
    split at stepped
    next fresh =>
      obtain ⟨named,absent⟩ := fresh
      rw [← Option.some.inj stepped]
      have added := fun other => lending_add device alloc other absent
      rcases added .empty with same | ⟨entries,_⟩
      · rw [same]
        exact .relisted _ _ (.refl _)
      · refine .listed _ device _ named (by simp [DeviceList.lending,absent]) entries fun other => ?_
        rcases added other with same | ⟨_,lending⟩
        · rw [same] at entries
          simp at entries
        · exact lending
    next _ => cases stepped
  | setShared busid shared =>
    rw [← Option.some.inj stepped]
    exact .relisted _ _ (sameLending_setShared shared)

theorem thread_set {threads : List CallThread} {pointer other : ClientPtr} {moved thread : CallThread}
    (found : (threads.set pointer moved)[other]? = some thread) :
    other = pointer ∧ thread = moved ∨ other ≠ pointer ∧ threads[other]? = some thread := by
  by_cases same : pointer = other
  · subst same
    rw [List.getElem?_set_self'] at found
    obtain ⟨_,_,rfl⟩ := Option.map_eq_some_iff.mp found
    exact Or.inl ⟨rfl,rfl⟩
  · rw [List.getElem?_set_ne same] at found
    exact Or.inr ⟨Ne.symm same,found⟩

theorem thread_mine {threads : List CallThread} {thread : CallThread}
    (here : threads[pointer]? = some thread) (moved : CallThread) :
    (threads.set pointer moved)[pointer]? = some moved := by
  rw [List.getElem?_set_self']
  simp [here]

theorem thread_append {threads : List CallThread} {pointer : ClientPtr} {new thread : CallThread}
    (found : (threads ++ [new])[pointer]? = some thread) :
    threads[pointer]? = some thread ∨ pointer = threads.length ∧ thread = new := by
  rcases Nat.lt_or_ge pointer threads.length with old | fresh
  · rw [List.getElem?_append_left old] at found
    exact Or.inl found
  · rw [List.getElem?_append_right fresh] at found
    obtain ⟨bound,same⟩ := List.getElem?_eq_some_iff.mp found
    have last : pointer - threads.length = 0 := Nat.lt_one_iff.mp bound
    simp only [last,List.getElem_cons_zero] at same
    exact Or.inr ⟨Nat.le_antisymm (Nat.sub_eq_zero_iff_le.mp last) fresh,same.symm⟩

theorem ThreadMoved.linked (moved : ThreadMoved pointer server client pc next after onward) :
    next.manager = server.manager ∧ onward.linked = pc.linked ∨
      next.manager.clients = server.manager.clients.erase pointer ∧ pc.linked = true ∧
        onward = .unlinked := by
  cases moved with
  | unlinked result => exact Or.inr ⟨rfl,rfl,rfl⟩
  | unhandled release => cases release <;> exact Or.inl ⟨rfl,rfl⟩
  | unstopped release => cases release <;> exact Or.inl ⟨rfl,rfl⟩
  | stopped release => cases release <;> exact Or.inl ⟨rfl,rfl⟩
  | joined release => cases release <;> exact Or.inl ⟨rfl,rfl⟩
  | cleaned release => cases release <;> exact Or.inl ⟨rfl,rfl⟩
  | _ => exact Or.inl ⟨rfl,rfl⟩

/-- The manager's list holds the clients that were not yet unlinked. -/
structure Registered (s : CallSystem) : Prop where
  distinct : s.server.manager.clients.Nodup
  known : ∀ pointer ∈ s.server.manager.clients, pointer < s.threads.length
  listed : ∀ pointer thread, s.threads[pointer]? = some thread →
    (pointer ∈ s.server.manager.clients ↔ thread.pc.linked = true)

theorem step_registered (action : CallAction) (s next : CallSystem) (registered : s.Registered)
    (stepped : step action s = some next) : next.Registered := by
  obtain ⟨distinct,known,listed⟩ := registered
  cases step_moved stepped with
  | thread _ pointer client pc server after onward acts here moved =>
    have mine := listed pointer _ here
    rcases moved.linked with ⟨manager,linked⟩ | ⟨clients,linked,out⟩
    · refine ⟨by rw [manager]; exact distinct,?_,?_⟩
      · rw [manager,List.length_set]
        exact known
      · intro other thread found
        rw [manager]
        rcases thread_set found with ⟨rfl,rfl⟩ | ⟨_,old⟩
        · rw [linked]
          exact mine
        · exact listed other thread old
    · refine ⟨by rw [clients]; exact distinct.erase pointer,?_,?_⟩
      · rw [clients,List.length_set]
        exact fun other member => known other (List.mem_of_mem_erase member)
      · intro other thread found
        rw [clients]
        rcases thread_set found with ⟨rfl,rfl⟩ | ⟨different,old⟩
        · rw [out]
          simp [distinct.not_mem_erase,CallPc.linked,CallPc.calling]
        · rw [List.mem_erase_of_ne different]
          exact listed other thread old
  | connected socket ipAddress port outcome =>
    have fresh : s.threads.length ∉ s.server.manager.clients := fun member =>
      Nat.lt_irrefl _ (known _ member)
    refine ⟨List.nodup_cons.mpr ⟨fresh,distinct⟩,?_,?_⟩
    · simp only [List.length_append,List.length_singleton]
      intro pointer member
      rcases List.mem_cons.mp member with rfl | old
      · exact Nat.lt_succ_self _
      · exact Nat.lt_succ_of_lt (known pointer old)
    · intro pointer thread found
      rcases thread_append found with old | ⟨rfl,rfl⟩
      · have different : pointer ≠ s.threads.length := by
          rintro rfl
          simp at old
        rw [List.mem_cons,or_iff_right different]
        exact listed pointer thread old
      · simp [CallPc.linked]
  | refused => exact ⟨distinct,known,listed⟩
  | worked => exact ⟨distinct,known,listed⟩
  | listed => exact ⟨distinct,known,listed⟩
  | relisted => exact ⟨distinct,known,listed⟩

theorem start_registered : start.Registered := ⟨by decide,by simp [start],by simp [start]⟩

theorem ThreadMoved.id (moved : ThreadMoved pointer server client pc next after onward) :
    after.id = client.id := by
  cases moved <;> rfl

theorem ThreadMoved.sound (moved : ThreadMoved pointer server client pc next after onward)
    (sound : CallThread.Sound ⟨client,pc⟩) : CallThread.Sound ⟨after,onward⟩ := by
  obtain ⟨attached,_,detaching⟩ := sound
  cases moved with
  | updated busid => exact ⟨Or.inr rfl,by rintro _ ⟨⟩; rfl,by simp [CallPc.detaching]⟩
  | cleared => exact ⟨Or.inl rfl,by simp,by simp [CallPc.detaching]⟩
  | detaching result held => exact ⟨attached,by simp,fun _ => held⟩
  | unhandled release => cases release <;> exact ⟨attached,by simp,detaching⟩
  | unstopped release => cases release <;> exact ⟨attached,by simp,detaching⟩
  | stopped release => cases release <;> exact ⟨attached,by simp,detaching⟩
  | joined release => cases release <;> exact ⟨attached,by simp,detaching⟩
  | cleaned release => cases release <;> exact ⟨attached,by simp,detaching⟩
  | closed => exact ⟨attached,by simp,detaching⟩
  | _ => exact ⟨attached,by simp,by simp [CallPc.detaching]⟩

/-- Only an export gives a client a device, and only an unexport takes it from
whom it was lent to. -/
theorem ThreadMoved.exports (moved : ThreadMoved pointer server client pc next after onward) :
    server.devices.SameLending next.devices ∧
        (∀ busid, CallThread.Exports ⟨after,onward⟩ busid → CallThread.Exports ⟨client,pc⟩ busid) ∨
      (∃ busid now, pc = .exporting busid ∧ onward = .idle .success ∧ after = client ∧
        next.devices = attachExport server.devices client busid now) ∨
      pc.lends = true ∧ onward.lends = false ∧
        (client.attachedBusid ≠ .empty ∨ pc.detaching = true) ∧
        next.devices = (deviceListUnexport server.devices client.attachedBusid).2 := by
  cases moved with
  | exported busid now => exact Or.inr (Or.inl ⟨busid,now,rfl,rfl,rfl,rfl⟩)
  | unexported => exact Or.inr (Or.inr ⟨rfl,rfl,Or.inr rfl,rfl⟩)
  | released attached => exact Or.inr (Or.inr ⟨rfl,rfl,Or.inl attached,rfl⟩)
  | unopened _ _ _ same => exact Or.inl ⟨same,fun _ e => ⟨e.busid,e.state,rfl⟩⟩
  | opened _ _ same => exact Or.inl ⟨same,fun _ e => ⟨e.busid,e.state,rfl⟩⟩
  | unstarted _ _ _ same => exact Or.inl ⟨same,fun _ e => ⟨e.busid,e.state,rfl⟩⟩
  | closed _ _ same => exact Or.inl ⟨same,fun _ e => ⟨e.busid,e.state,rfl⟩⟩
  | freed _ _ same => exact Or.inl ⟨same,fun _ e => ⟨e.busid,e.state,e.lends⟩⟩
  | updated => exact Or.inl ⟨.refl _,fun _ e => absurd e.lends (by simp [CallPc.lends])⟩
  | cleared => exact Or.inl ⟨.refl _,fun _ e => absurd e.state (by simp [detachUpdate])⟩
  | unreleased => exact Or.inl ⟨.refl _,fun _ e => ⟨e.busid,e.state,rfl⟩⟩
  | unhandled release => exact Or.inl ⟨.refl _,fun _ e => ⟨e.busid,e.state,by
      cases release <;> exact e.lends⟩⟩
  | unstopped release => exact Or.inl ⟨.refl _,fun _ e => ⟨e.busid,e.state,by
      cases release <;> exact e.lends⟩⟩
  | stopped release => exact Or.inl ⟨.refl _,fun _ e => ⟨e.busid,e.state,by
      cases release <;> exact e.lends⟩⟩
  | joined release => exact Or.inl ⟨.refl _,fun _ e => ⟨e.busid,e.state,by
      cases release <;> exact e.lends⟩⟩
  | cleaned release => exact Or.inl ⟨.refl _,fun _ e => ⟨e.busid,e.state,by
      cases release <;> exact e.lends⟩⟩
  | _ => exact Or.inl ⟨.refl _,fun _ e => ⟨e.busid,e.state,rfl⟩⟩

/-- The export that this action carries out, if it does, finds its device available. -/
def exportAccepted (s : CallSystem) : CallAction → Bool
  | .advance pointer _ =>
    match s.threads[pointer]? with
    | some ⟨_,.exporting busid⟩ =>
      match deviceListFind s.server.devices busid with
      | none => false
      | some entry => entry.state = .available
    | _ => true
  | _ => true

theorem busy_advances {s next : CallSystem} {action : CallAction} (acts : action.client = some pointer)
    (stepped : step action s = some next) (here : s.threads[pointer]? = some ⟨client,pc⟩)
    (busy : ∀ result, pc ≠ .idle result) : ∃ outcome, action = .advance pointer outcome := by
  cases action with
  | call other call =>
    cases acts
    simp only [step,moveThread,here,Option.bind_eq_bind,Option.bind_some,Option.bind_eq_some_iff] at stepped
    obtain ⟨_,begun,_⟩ := stepped
    cases pc with
    | idle result => exact absurd rfl (busy result)
    | _ => cases call <;> cases begun
  | advance other outcome =>
    cases acts
    exact ⟨outcome,rfl⟩
  | _ => cases acts

theorem exportAccepted_available {s next : CallSystem} {action : CallAction} {busid : Busid}
    (accepted : exportAccepted s action = true) (acts : action.client = some pointer)
    (stepped : step action s = some next)
    (here : s.threads[pointer]? = some ⟨client,.exporting busid⟩) :
    ∃ id, s.server.devices.lending busid = some (.available,id) := by
  obtain ⟨outcome,rfl⟩ := busy_advances acts stepped here (by simp)
  simp only [exportAccepted,here] at accepted
  split at accepted
  next _ => cases accepted
  next entry found => exact ⟨entry.clientId,by simpa [DeviceList.lending,found] using accepted⟩

/-- Whoever should have a device exported to it has, and nobody else should. -/
structure Exclusive (s : CallSystem) : Prop where
  sound : ∀ (pointer : ClientPtr) (thread : CallThread), s.threads[pointer]? = some thread → thread.Sound
  recorded : ∀ (pointer : ClientPtr) (thread : CallThread) (busid : Busid),
    s.threads[pointer]? = some thread → thread.Exports busid →
    s.server.devices.lending busid = some (.exported,thread.client.id)
  single : ∀ (first second : ClientPtr) (thread other : CallThread) (busid : Busid),
    s.threads[first]? = some thread → s.threads[second]? = some other → thread.Exports busid → other.Exports busid → first = second

theorem Exclusive.move {s : CallSystem} {owners : List ClientPtr} (exclusive : s.Exclusive)
    (sound : CallThread.Sound ⟨after,onward⟩)
    (theirs : ∀ (other : ClientPtr) (thread : CallThread) (busid : Busid), other ≠ pointer → s.threads[other]? = some thread →
      thread.Exports busid → next.devices.lending busid = s.server.devices.lending busid)
    (mine : ∀ busid, CallThread.Exports ⟨after,onward⟩ busid →
      next.devices.lending busid = some (.exported,after.id) ∧
        ∀ (other : ClientPtr) (thread : CallThread), other ≠ pointer →
          s.threads[other]? = some thread → ¬thread.Exports busid) :
    Exclusive ⟨next,s.threads.set pointer ⟨after,onward⟩,owners⟩ where
  sound := by
    intro other thread found
    rcases thread_set found with ⟨_,rfl⟩ | ⟨_,old⟩
    · exact sound
    · exact exclusive.sound other thread old
  recorded := by
    intro other thread busid found exports
    rcases thread_set found with ⟨_,rfl⟩ | ⟨different,old⟩
    · exact (mine busid exports).1
    · exact (theirs other thread busid different old exports).trans
        (exclusive.recorded other thread busid old exports)
  single := by
    intro first second thread other busid left right exports again
    rcases thread_set left with ⟨rfl,rfl⟩ | ⟨notFirst,oldLeft⟩
    · rcases thread_set right with ⟨rfl,_⟩ | ⟨different,old⟩
      · rfl
      · exact absurd again ((mine busid exports).2 second other different old)
    · rcases thread_set right with ⟨rfl,rfl⟩ | ⟨_,old⟩
      · exact absurd exports ((mine busid again).2 first thread notFirst oldLeft)
      · exact exclusive.single first second thread other busid oldLeft old exports again

theorem step_exclusive (action : CallAction) (s next : CallSystem)
    (accepted : exportAccepted s action = true) (exclusive : s.Exclusive)
    (stepped : step action s = some next) : next.Exclusive := by
  cases step_moved stepped with
  | thread _ pointer client pc server after onward acts here moved =>
    have sound := exclusive.sound pointer _ here
    have alone (busid : Busid) (exports : CallThread.Exports ⟨client,pc⟩ busid) (other : ClientPtr)
        (thread : CallThread) (different : other ≠ pointer)
        (found : s.threads[other]? = some thread) : ¬thread.Exports busid :=
      fun again => different (exclusive.single other pointer _ _ busid found here again exports)
    apply exclusive.move (moved.sound sound)
    all_goals rcases moved.exports with
      ⟨same,kept⟩ | ⟨target,now,rfl,rfl,rfl,devices⟩ | ⟨lends,unlent,holding,devices⟩
    · exact fun _ _ busid _ _ _ => same.lending busid
    · intro other thread busid different found exports
      obtain ⟨id,available⟩ := exportAccepted_available accepted acts stepped here
      rw [devices,attachExport,lending_export _ id _ _ available,if_neg]
      rintro rfl
      rw [exclusive.recorded other thread busid found exports] at available
      cases available
    · intro other thread busid different found exports
      rw [devices,lending_unexport,if_neg]
      rintro rfl
      have attached := holding.elim id sound.detaching
      exact alone _ ⟨rfl,sound.attached.resolve_left attached,lends⟩ other thread different found
        exports
    · intro busid exports
      exact ⟨by rw [same.lending busid,moved.id]; exact exclusive.recorded pointer _ busid here (kept busid exports),
        alone busid (kept busid exports)⟩
    · intro busid exports
      obtain ⟨id,available⟩ := exportAccepted_available accepted acts stepped here
      have target : busid = target := exports.busid.symm.trans (sound.exporting target rfl)
      subst target
      refine ⟨by rw [devices,attachExport,lending_export _ id _ _ available,if_pos rfl],?_⟩
      intro other thread different found again
      rw [exclusive.recorded other thread busid found again] at available
      cases available
    · intro busid exports
      exact absurd exports.lends (by simp [unlent])
  | connected socket ipAddress port outcome =>
    have unattached {thread : CallThread} {busid : Busid} (new : thread = ⟨{createClient
        s.server.manager.nextClientId socket ipAddress port with
          running := outcome.handlerData},.idle .success⟩) : ¬thread.Exports busid := by
      rintro ⟨_,state,_⟩
      rw [new] at state
      cases state
    refine ⟨?_,?_,?_⟩
    · intro pointer thread found
      rcases thread_append found with old | ⟨_,rfl⟩
      · exact exclusive.sound pointer thread old
      · exact ⟨Or.inl rfl,by simp,by simp [CallPc.detaching]⟩
    · intro pointer thread busid found exports
      rcases thread_append found with old | ⟨_,new⟩
      · exact exclusive.recorded pointer thread busid old exports
      · exact absurd exports (unattached new)
    · intro first second thread other busid left right exports again
      rcases thread_append left with oldLeft | ⟨_,new⟩
      · rcases thread_append right with old | ⟨_,new⟩
        · exact exclusive.single first second thread other busid oldLeft old exports again
        · exact absurd again (unattached new)
      · exact absurd exports (unattached new)
  | refused => exact ⟨exclusive.sound,exclusive.recorded,exclusive.single⟩
  | worked => exact ⟨exclusive.sound,exclusive.recorded,exclusive.single⟩
  | listed _ device devices named absent entries lending =>
    refine ⟨exclusive.sound,?_,exclusive.single⟩
    intro pointer thread busid found exports
    have recorded := exclusive.recorded pointer thread busid found exports
    rw [lending,if_neg]
    · exact recorded
    · rintro rfl
      rw [absent] at recorded
      cases recorded
  | relisted _ devices same =>
    refine ⟨exclusive.sound,?_,exclusive.single⟩
    intro pointer thread busid found exports
    rw [same.lending]
    exact exclusive.recorded pointer thread busid found exports

theorem start_exclusive : start.Exclusive := by
  refine ⟨?_,?_,?_⟩ <;> simp [start]

/-- No `client_attach_device` or `client_detach_device` is in progress. -/
def Quiet (s : CallSystem) : Prop := ∀ thread ∈ s.threads, thread.pc.calling = false

instance (s : CallSystem) : Decidable s.Quiet := inferInstanceAs (Decidable (∀ thread ∈ _,_ = _))

/-- Every attached client of the manager is the one its device is exported to,
and no other client is attached to that device. -/
structure ExclusiveAttachment (s : CallSystem) : Prop where
  exported : ∀ pointer ∈ s.server.manager.clients, ∀ thread : CallThread,
    s.threads[pointer]? = some thread → thread.client.state = .attached →
    ∃ entry, deviceListFind s.server.devices thread.client.attachedBusid = some entry ∧
      entry.state = .exported ∧ entry.clientId = thread.client.id
  single : ∀ first ∈ s.server.manager.clients, ∀ second ∈ s.server.manager.clients,
    ∀ thread other : CallThread, s.threads[first]? = some thread →
      s.threads[second]? = some other → thread.client.state = .attached →
      other.client.state = .attached →
      thread.client.attachedBusid = other.client.attachedBusid → first = second

theorem Exclusive.attachment {s : CallSystem} (exclusive : s.Exclusive) (registered : s.Registered)
    (quiet : s.Quiet) : s.ExclusiveAttachment := by
  have exports (pointer : ClientPtr) (member : pointer ∈ s.server.manager.clients)
      (thread : CallThread) (found : s.threads[pointer]? = some thread)
      (state : thread.client.state = .attached) : thread.Exports thread.client.attachedBusid := by
    refine ⟨rfl,state,?_⟩
    have linked := (registered.listed pointer thread found).mp member
    have outside := quiet thread (List.mem_of_getElem? found)
    cases pc : thread.pc <;> simp_all [CallPc.linked,CallPc.lends]
  refine ⟨?_,?_⟩
  · intro pointer member thread found state
    have recorded := exclusive.recorded pointer thread _ found (exports pointer member thread found state)
    obtain ⟨entry,here,hands⟩ := Option.map_eq_some_iff.mp recorded
    exact ⟨entry,here,(Prod.mk.inj hands).1,(Prod.mk.inj hands).2⟩
  · intro first member second again thread other left right state alike same
    refine exclusive.single first second thread other _ left right
      (exports first member thread left state) ?_
    rw [same]
    exact exports second again other right alike

/-- As long as every export finds its device available, a device is attached to
at most one client, in every state outside the calls. -/
theorem attachment_exclusive {actions : List CallAction} {final : CallSystem}
    (run : GuardedRun step (fun action s => exportAccepted s action = true) start actions final)
    (quiet : final.Quiet) : final.ExclusiveAttachment :=
  (run.invariant Exclusive step_exclusive start_exclusive).attachment
    (run.run.invariant Registered step_registered start_registered) quiet

def granted : AttachOutcome := ⟨⟨some 1,some 2⟩,true,⟨true,true,true,true⟩,true,0⟩

def twoClients : List CallAction :=
  [.enumerate sharedKeyboard.device true,.connect ⟨[],.closed,[],[]⟩ .empty 0 ⟨true,true,true⟩,
    .connect ⟨[],.closed,[],[]⟩ .empty 0 ⟨true,true,true⟩]

def inTurn : List CallAction :=
  twoClients ++ [.call 0 (.attach sharedKeyboard.busid)] ++ List.replicate 5 (.advance 0 granted) ++
    [.call 1 (.attach sharedKeyboard.busid),.advance 1 granted]

theorem attachment_exclusive_inTurn : ∃ final,
    GuardedRun step (fun action s => exportAccepted s action = true) start inTurn final ∧
      final.ExclusiveAttachment ∧
      final.threads.map (·.client.state) = [.attached,.connected] := by
  obtain ⟨final,run,checked⟩ := guardedRun_of_check step
    (fun action s => exportAccepted s action = true) (fun action s => exportAccepted s action)
    (fun _ _ accepted => accepted) inTurn start (fun final => decide (final.Quiet ∧
      final.threads.map (·.client.state) = [.attached,.connected])) (by decide +kernel)
  obtain ⟨quiet,states⟩ := of_decide_eq_true checked
  exact ⟨final,run,attachment_exclusive run quiet,states⟩

/-- Both pass the check before either exports. -/
def atOnce : List CallAction :=
  twoClients ++ [.call 0 (.attach sharedKeyboard.busid),.call 1 (.attach sharedKeyboard.busid)] ++
    (List.replicate 5 [.advance 0 granted,.advance 1 granted]).flatten

theorem attachment_not_exclusive : ∃ final, Run step start atOnce final ∧ final.Quiet ∧
    ¬final.ExclusiveAttachment := by
  obtain ⟨final,run,checked⟩ := run_of_check step atOnce start (fun final => decide (final.Quiet ∧
      final.server.manager.clients = [1,0] ∧
      final.threads.map (fun thread => (thread.client.state,thread.client.attachedBusid)) =
        [(.attached,sharedKeyboard.busid),(.attached,sharedKeyboard.busid)])) (by decide +kernel)
  obtain ⟨quiet,clients,threads⟩ := of_decide_eq_true checked
  refine ⟨final,run,quiet,fun exclusive => ?_⟩
  obtain ⟨first,rest,split,hands,others⟩ := List.map_eq_cons_iff.mp threads
  obtain ⟨second,none,last,alike,_⟩ := List.map_eq_cons_iff.mp others
  have same := exclusive.single 0 (by simp [clients]) 1 (by simp [clients]) first second
    (by simp [split]) (by simp [split,last]) (Prod.mk.inj hands).1 (Prod.mk.inj alike).1
    ((Prod.mk.inj hands).2.trans (Prod.mk.inj alike).2.symm)
  cases same

end CallSystem

end UsbOverNetwork
