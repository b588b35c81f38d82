import UsbOverNetwork.Server.Bookkeeping

/-! The GUI server: one `client_handler_thread` for each connection, beside the
accept loop, the device list on screen and the workers of the URB handlers. -/
namespace UsbOverNetwork
open Runs

/-- Where a handler thread is. `unserved` stands for a connection whose thread
could not be started; `unsent` follows a device record that could not be sent. -/
inductive GuiPc
  | unserved
  | testing
  | receiving
  | handling (request : Request)
  | sending (deviceCount : UInt32)
  | importing
  | unsent
  | detaching
  | leaving
  | removing
deriving DecidableEq

structure GuiServer where
  calls : CallSystem
  pcs : List GuiPc
  serverRunning : Bool
deriving DecidableEq

inductive GuiAction
  | connect (socket : Socket) (ipAddress : CString 63) (port : UInt16) (outcome : ConnectOutcome)
  | advance (client : ClientPtr) (outcome : AttachOutcome)
  | worker (handler : HandlerPtr) (outcome : WorkerOutcome)
  | enumerate (device : UsbDevice) (alloc : Bool)
  | setShared (busid : Busid) (shared : Bool)
  | stopServer
deriving DecidableEq

namespace GuiServer

def start : GuiServer := ⟨.start,[],true⟩

def importReply (server : Server) (client : ClientConnection) (err : ErrorCode) : GuiPc × Socket :=
  match sendExact client.socket (usbipPackHeaderBasic (importReplyHeader err)).image with
  | (.success,socket) =>
    if err = .success then
      match sendExact socket (importReplyDevice server client) with
      | (.success,socket) => (.testing,socket)
      | (_,socket) => (.unsent,socket)
    else (.leaving,socket)
  | (_,socket) => (.leaving,socket)

/-- What a handler thread does next: a part of a call, if it is one, and where
the thread is after it. -/
def handlerThread (g : GuiServer) (pointer : ClientPtr) (outcome : AttachOutcome)
    (thread : CallThread) : GuiPc → Option (Option CallAction × GuiPc)
  | .unserved => none
  | .testing =>
    if thread.client.running && g.serverRunning then some (none,.receiving) else some (none,.leaving)
  | .receiving =>
    match recvRequest thread.client.socket with
    | none => none
    | some (.error _,socket) => some (some (.call pointer (.transfer socket)),.leaving)
    | some (.ok request,socket) => some (some (.call pointer (.transfer socket)),.handling request)
  | .handling .devlist => some (none,.sending (countDevices g.calls.server.devices))
  | .handling (.import busid) => some (some (.call pointer (.attach busid)),.importing)
  | .handling .unknown => some (none,.leaving)
  | .sending deviceCount =>
    let (err,socket) := sendDeviceList g.calls.server.devices thread.client.socket deviceCount
    some (some (.call pointer (.transfer socket)),if err = .success then .testing else .leaving)
  | .importing =>
    match thread.pc with
    | .idle err =>
      let (pc,socket) := importReply g.calls.server thread.client err
      some (some (.call pointer (.transfer socket)),pc)
    | _ => some (some (.advance pointer outcome),.importing)
  | .unsent => some (some (.call pointer .detach),.detaching)
  | .detaching =>
    match thread.pc with
    | .idle _ => some (none,.leaving)
    | _ => some (some (.advance pointer outcome),.detaching)
  | .leaving => some (some (.call pointer .remove),.removing)
  | .removing => some (some (.advance pointer outcome),.removing)

def perform (g : GuiServer) : Option CallAction → Option GuiServer
  | none => some g
  | some call => (CallSystem.step call g.calls).map fun calls => {g with calls}

def step (action : GuiAction) (g : GuiServer) : Option GuiServer :=
  match action with
  | .connect socket ipAddress port outcome =>
    (g.perform (some (.connect socket ipAddress port outcome))).map fun next => {next with
      pcs := g.pcs ++ List.replicate (next.calls.threads.length - g.calls.threads.length)
        (if outcome.handlerData && outcome.thread then .testing else .unserved)}
  | .advance pointer outcome => do
    let thread ← g.calls.threads[pointer]?
    let pc ← g.pcs[pointer]?
    let (call,onward) ← g.handlerThread pointer outcome thread pc
    let next ← g.perform call
    some {next with pcs := g.pcs.set pointer onward}
  | .worker pointer outcome => g.perform (some (.worker pointer outcome))
  | .enumerate device alloc => g.perform (some (.enumerate device alloc))
  | .setShared busid shared => g.perform (some (.setShared busid shared))
  | .stopServer => some {g with serverRunning := false}

/-- A new client gets an id of its own, and no import starts a URB handler for a
client that has one. -/
def bookkept (g : GuiServer) : GuiAction → Bool
  | .connect socket ipAddress port outcome =>
    g.calls.bookkept (.connect socket ipAddress port outcome)
  | .advance pointer outcome => g.calls.bookkept (.advance pointer outcome)
  | _ => true

theorem handlerThread_bookkept {g : GuiServer} {pointer : ClientPtr} {outcome : AttachOutcome}
    {thread : CallThread} {pc onward : GuiPc} {call : CallAction}
    (bookkept : g.bookkept (.advance pointer outcome) = true)
    (handled : g.handlerThread pointer outcome thread pc = some (some call,onward)) :
    g.calls.bookkept call = true := by
  cases pc with
  | unserved => cases handled
  | testing =>
    simp only [handlerThread] at handled
    split at handled <;> cases handled
  | receiving =>
    simp only [handlerThread] at handled
    split at handled <;> cases handled <;> rfl
  | handling request => cases request <;> (cases handled; try rfl)
  | sending count => cases handled; rfl
  | importing =>
    simp only [handlerThread] at handled
    split at handled
    next _ => cases handled; rfl
    next _ => cases handled; exact bookkept
  | unsent => cases handled; rfl
  | detaching =>
    simp only [handlerThread] at handled
    split at handled
    next _ => cases handled
    next _ => cases handled; exact bookkept
  | leaving => cases handled; rfl
  | removing => cases handled; exact bookkept

theorem perform_calls {g : GuiServer} {allows : Prop} (call : Option CallAction) (after : GuiServer)
    (taken : g.perform call = some after)
    (allowed : ∀ part, call = some part → allows → g.calls.bookkept part = true) :
    after.calls = g.calls ∨
      ∃ part, (allows → g.calls.bookkept part = true) ∧
        CallSystem.step part g.calls = some after.calls := by
  cases call with
  | none => cases taken; exact Or.inl rfl
  | some part =>
    obtain ⟨calls,moved,rfl⟩ := Option.map_eq_some_iff.mp taken
    exact Or.inr ⟨part,allowed part rfl,moved⟩

theorem step_calls {g next : GuiServer} {action : GuiAction} (stepped : step action g = some next) :
    next.calls = g.calls ∨
      ∃ part, (g.bookkept action = true → g.calls.bookkept part = true) ∧
        CallSystem.step part g.calls = some next.calls := by
  cases action with
  | connect socket ipAddress port outcome =>
    obtain ⟨after,taken,rfl⟩ := Option.map_eq_some_iff.mp stepped
    exact perform_calls (some (.connect socket ipAddress port outcome)) after taken
      fun _ same bookkept => Option.some.inj same ▸ bookkept
  | advance pointer outcome =>
    simp only [step,Option.bind_eq_bind,Option.bind_eq_some_iff] at stepped
    obtain ⟨thread,_,pc,_,⟨call,onward⟩,handled,after,taken,made⟩ := stepped
    cases made
    refine perform_calls call after taken fun part same bookkept => ?_
    exact handlerThread_bookkept bookkept (handled.trans (by rw [same]))
  | worker pointer outcome =>
    exact perform_calls (some (.worker pointer outcome)) next stepped
      fun _ same _ => Option.some.inj same ▸ rfl
  | enumerate device alloc =>
    exact perform_calls (some (.enumerate device alloc)) next stepped
      fun _ same _ => Option.some.inj same ▸ rfl
  | setShared busid shared =>
    exact perform_calls (some (.setShared busid shared)) next stepped
      fun _ same _ => Option.some.inj same ▸ rfl
  | stopServer => cases stepped; exact Or.inl rfl

theorem GuardedRun.calls_invariant {holds : CallSystem → Prop}
    (kept : ∀ action s next, s.bookkept action = true → holds s →
      CallSystem.step action s = some next → holds next) (initially : holds .start)
    {actions : List GuiAction} {final : GuiServer}
    (run : GuardedRun step (fun action g => g.bookkept action = true) start actions final) :
    holds final.calls := by
  refine run.invariant (fun g => holds g.calls) ?_ initially
  intro action g next bookkept before stepped
  rcases step_calls stepped with same | ⟨call,allowed,moved⟩
  · exact same ▸ before
  · exact kept call g.calls next.calls (allowed bookkept) before moved

/-- No client is in `client_attach_device`, in `client_detach_device` or between
being unlinked and having its device unexported. Between requests this is so. -/
def Settled (g : GuiServer) : Prop :=
  ∀ thread ∈ g.calls.threads, thread.pc.calling = false ∧ thread.pc ≠ .unlinked

instance (g : GuiServer) : Decidable g.Settled :=
  inferInstanceAs (Decidable (∀ thread ∈ _,_ ∧ _))

structure ExportsRecorded (g : GuiServer) : Prop where
  between : g.Settled → ∀ entry ∈ g.calls.server.devices.entries, entry.state = .exported →
    ∃ pointer ∈ g.calls.server.manager.clients, ∃ thread, g.calls.threads[pointer]? = some thread ∧
      thread.client.id = entry.clientId ∧ thread.client.attachedBusid = entry.busid
  removed : ∀ (pointer : ClientPtr) (thread : CallThread), g.calls.threads[pointer]? = some thread →
    thread.pc = .gone →
    (∀ entry ∈ g.calls.server.devices.entries, entry.state = .exported →
      entry.clientId ≠ thread.client.id) ∧
    ∀ (handlerPointer : HandlerPtr) (handler : UrbHandler),
      g.calls.owners[handlerPointer]? = some pointer →
      g.calls.server.handlers[handlerPointer]? = some handler → handler.worker = .stopped

theorem lending_of_mem {list : DeviceList} {entry : DeviceEntry}
    (distinct : (list.entries.map DeviceEntry.busid).Nodup) (member : entry ∈ list.entries)
    (exported : entry.state = .exported) :
    list.lending entry.busid = some (.exported,entry.clientId) := by
  rw [DeviceList.lending,deviceListFind,Keyed.find_of_mem DeviceEntry.busid distinct member,
    Option.map_some,exported]

/-- While every client has an id of its own and imports a device only when it
holds none, the device list names the holder of each exported device, and a
removed client leaves neither an export nor a worker behind. -/
theorem exports_recorded {actions : List GuiAction} {final : GuiServer}
    (run : GuardedRun step (fun action g => g.bookkept action = true) start actions final) :
    final.ExportsRecorded := by
  have registered : final.calls.Registered := GuardedRun.calls_invariant
    (fun action s next _ before stepped => CallSystem.step_registered action s next before stepped)
    CallSystem.start_registered run
  have recorded := GuardedRun.calls_invariant CallSystem.step_recorded CallSystem.start_recorded run
  have served := GuardedRun.calls_invariant CallSystem.step_served CallSystem.start_served run
  refine ⟨?_,?_⟩
  · intro settled entry member exported
    obtain ⟨pointer,thread,found,id,exports⟩ :=
      recorded.lent _ _ (lending_of_mem recorded.distinct member exported)
    obtain ⟨outside,linked⟩ := settled thread (List.mem_of_getElem? found)
    refine ⟨pointer,(registered.listed pointer thread found).mpr ?_,thread,found,id,exports.busid⟩
    have lends := exports.lends
    cases pc : thread.pc <;> simp_all [CallPc.lends]
  · intro pointer thread found gone
    refine ⟨?_,?_⟩
    · intro entry member exported same
      obtain ⟨holder,other,here,id,exports⟩ :=
        recorded.lent _ _ (lending_of_mem recorded.distinct member exported)
      have again := recorded.ids holder pointer other thread here found (id.trans same)
      subst again
      cases here.symm.trans found
      have lends := exports.lends
      rw [gone] at lends
      cases lends
    · intro handlerPointer handler owner stored
      rcases served.ended handlerPointer handler pointer stored owner with stopped | ⟨other,here,held⟩
      · exact stopped
      · cases here.symm.trans found
        obtain ⟨_,_,_,state⟩ := served.held pointer thread handlerPointer found held
        rw [gone] at state
        exact state.elim

def secondKeyboard : UsbDevice := .keyboard ⟨[0x31,0x2d,0x32],by decide,by decide⟩

def importer (busids : List Busid) : Socket :=
  ⟨RecvEvent.unread (busids.flatMap importRequest) [],.closed,[],[]⟩

/-- Its whole session: nine turns for each import, then those until the worker
of its last handler has to be waited for, and those after that. -/
def session (busids : List Busid) : List GuiAction :=
  [.enumerate sharedKeyboard.device true,.enumerate secondKeyboard true,
    .connect (importer busids) .empty 0 ⟨true,true,true⟩] ++
    List.replicate (9*busids.length + 5) (.advance 0 CallSystem.granted) ++
    [.worker (busids.length - 1) ⟨⟨true,false,0,[]⟩,false⟩] ++
    List.replicate 3 (.advance 0 CallSystem.granted)

theorem exports_recorded_one : ∃ final,
    GuardedRun step (fun action g => g.bookkept action = true) start
      (session [sharedKeyboard.busid]) final ∧
    final.calls.threads.map CallThread.pc = [.gone] ∧ final.calls.owners = [0] ∧
    final.ExportsRecorded := by
  obtain ⟨final,run,checked⟩ := guardedRun_of_check step (fun action g => g.bookkept action = true)
    (fun action g => g.bookkept action) (fun _ _ allowed => allowed)
    (session [sharedKeyboard.busid]) start
    (fun final => decide (final.calls.threads.map CallThread.pc = [.gone] ∧
      final.calls.owners = [0])) (by decide +kernel)
  obtain ⟨pcs,owners⟩ := of_decide_eq_true checked
  exact ⟨final,run,pcs,owners,exports_recorded run⟩

/-- After two imports on one connection, its removal gives back the second
device only and stops the second worker only. -/
theorem exports_not_recorded : ∃ final,
    Run step start (session [sharedKeyboard.busid,secondKeyboard.busid]) final ∧
    final.calls.threads.map CallThread.pc = [.gone] ∧ final.calls.server.manager.clients = [] ∧
    final.calls.server.devices.lending sharedKeyboard.busid = some (.exported,1) ∧
    (final.calls.server.handlers[0]?).map UrbHandler.worker = some .test ∧
    ¬final.ExportsRecorded := by
  obtain ⟨final,run,checked⟩ := run_of_check step
    (session [sharedKeyboard.busid,secondKeyboard.busid]) start
    (fun final => decide (final.calls.threads.map CallThread.pc = [.gone] ∧
      final.calls.server.manager.clients = [] ∧ final.calls.owners = [0,0] ∧
      final.calls.server.devices.lending sharedKeyboard.busid = some (.exported,1) ∧
      (final.calls.server.handlers[0]?).map UrbHandler.worker = some .test)) (by decide +kernel)
  obtain ⟨pcs,clients,owners,lending,worker⟩ := of_decide_eq_true checked
  refine ⟨final,run,pcs,clients,lending,worker,fun recorded => ?_⟩
  obtain ⟨thread,_,threads,gone,_⟩ := List.map_eq_cons_iff.mp pcs
  obtain ⟨handler,stored,running⟩ := Option.map_eq_some_iff.mp worker
  have stopped := (recorded.removed 0 thread (by simp [threads]) gone).2 0 handler
    (by simp [owners]) stored
  cases running.symm.trans stopped

end GuiServer

end UsbOverNetwork
