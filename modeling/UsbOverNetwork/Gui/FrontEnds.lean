import UsbOverNetwork.Server.Main
import UsbOverNetwork.Gui.ServerGui

/-! The session loops of the two front ends, each with one client and the same
answers of the operating system, and what they hand to the URB handler. -/
namespace UsbOverNetwork
open Runs

structure Handed where
  urbs : List (UsbipHeader × List UInt8)
  unlinks : List UInt32
deriving DecidableEq

def UrbCall.urb : UrbCall → Option (UsbipHeader × List UInt8)
  | .forward header data => some (header,data)
  | .unlink _ => none

def UrbCall.target : UrbCall → Option UInt32
  | .forward _ _ => none
  | .unlink seqnum => some seqnum

def Server.calls (server : Server) : List UrbCall :=
  server.handlers.flatMap fun handler => handler.history.calls

def Server.handed (server : Server) : Handed :=
  ⟨server.calls.filterMap UrbCall.urb,server.calls.filterMap UrbCall.target⟩

theorem handed_none {server : Server} : server.handed = ⟨[],[]⟩ ↔ server.calls = [] := by
  constructor
  · intro none
    obtain ⟨urbs,targets⟩ := Handed.mk.inj none
    rw [List.filterMap_eq_nil_iff] at urbs targets
    apply List.eq_nil_iff_forall_not_mem.mpr
    intro call member
    cases call with
    | forward header data => cases urbs _ member
    | unlink seqnum => cases targets _ member
  · intro none
    rw [Server.handed,none]
    rfl

/-- `client_handler_thread` with its client; `removing` once its loop is left. -/
structure GuiSession where
  server : Server
  client : ClientConnection
  pointer : ClientPtr
  serverRunning : Bool
  removing : Bool
  requests : Nat
deriving DecidableEq

inductive Gui
  | accepted (server : Server) (socket : Socket) (ipAddress : CString 63) (port : UInt16)
  | serving (session : GuiSession)
  | finished (server : Server)
deriving DecidableEq

/-- Who moves next. A client of the GUI server may have left several workers behind. -/
inductive GuiTurn
  | session
  | worker (handler : HandlerPtr) (outcome : WorkerOutcome)
  | stopServer
deriving DecidableEq

namespace Gui

def sessionTurn (outcomes : CliOutcomes) (s : GuiSession) : Option Gui :=
  if s.removing then
    some (.finished (clientManagerRemove s.server s.pointer s.client outcomes.removing).2)
  else if s.client.running && s.serverRunning then
    match clientHandleRequest s.server s.client (outcomes.requests s.requests) with
    | none => none
    | some (err,server,client) => some (.serving {s with
        server
        client
        removing := err ≠ .success
        requests := s.requests+1})
  else some (.serving {s with removing := true})

def step (outcomes : CliOutcomes) : GuiTurn → Gui → Option Gui
  | .session,.accepted server socket ipAddress port =>
    match clientManagerAdd server.manager socket ipAddress port outcomes.alloc with
    | (.error _,manager) => some (.finished {server with manager})
    | (.ok (pointer,client),manager) =>
      some (.serving ⟨{server with manager},{client with running := true},pointer,true,false,0⟩)
  | .session,.serving s => sessionTurn outcomes s
  | .worker pointer outcome,.serving s =>
    (s.server.handlers[pointer]?).map fun handler => .serving {s with
      server := s.server.setHandler pointer
        (urbWorkerStep (s.server.device handler.device) outcome handler)}
  | .stopServer,.serving s => some (.serving {s with serverRunning := false})
  | _,_ => none

def server : Gui → Server
  | .accepted server _ _ _ => server
  | .serving s => s.server
  | .finished server => server

end Gui

def Cli.server : Cli → Server
  | .accepted server _ _ _ => server
  | .serving s => s.server
  | .finished server => server

section Calls

variable {server : Server} {client : ClientConnection}

theorem calls_modify (pointer : HandlerPtr) (f : UrbHandler → UrbHandler)
    (keeps : ∀ handler, (f handler).history.calls = handler.history.calls) :
    Server.calls {server with handlers := server.handlers.modify pointer f} = server.calls := by
  simp only [Server.calls]
  generalize server.handlers = handlers
  induction handlers generalizing pointer with
  | nil => rw [List.modify_nil]
  | cons handler rest ih =>
    cases pointer with
    | zero => simp [List.modify_zero_cons,keeps]
    | succ pointer => simp [List.modify_succ_cons,ih pointer]

theorem calls_set {pointer : HandlerPtr} {handler changed : UrbHandler}
    (found : server.handlers[pointer]? = some handler)
    (kept : changed.history.calls = handler.history.calls) :
    (server.setHandler pointer changed).calls = server.calls := by
  simp only [Server.setHandler,Server.calls]
  obtain ⟨bound,here⟩ := List.getElem?_eq_some_iff.mp found
  rw [List.set_eq_take_append_cons_drop,if_pos bound]
  conv_rhs => rw [← List.take_append_drop pointer server.handlers,List.drop_eq_getElem_cons bound,here]
  simp [kept]

theorem urbWorkerStep_calls (device : Option UsbDevice) (outcome : WorkerOutcome)
    (handler : UrbHandler) :
    (urbWorkerStep device outcome handler).history.calls = handler.history.calls := by
  obtain ⟨busid,pending,completed,running,initialized,worker,history⟩ := handler
  cases worker with
  | pop => cases pending <;> rfl
  | _ => rfl

theorem urbHandlerStop_calls (device : Option UsbDevice) (joins : Fin 4 → WorkerOutcome)
    (handler : UrbHandler) :
    (urbHandlerStop device joins handler).history.calls = handler.history.calls := by
  simp only [urbHandlerStop]
  split
  · rfl
  · exact workerJoin_keeps (·.history.calls = handler.history.calls) device joins
      {handler with running := false}
      (fun handler outcome => (urbWorkerStep_calls device outcome handler).trans) rfl

theorem urbHandlerCleanup_calls (device : Option UsbDevice) (joins : Fin 4 → WorkerOutcome)
    (handler : UrbHandler) :
    (urbHandlerCleanup device joins handler).history.calls = handler.history.calls := by
  simp only [urbHandlerCleanup]
  split
  · rfl
  · exact urbHandlerStop_calls device joins handler

theorem cleanupHandler_calls (joins : Fin 4 → WorkerOutcome) (pointer : HandlerPtr) :
    (cleanupHandler server joins pointer).calls = server.calls :=
  calls_modify pointer _ fun _ => urbHandlerCleanup_calls _ joins _

theorem stopHandler_calls (joins : Fin 4 → WorkerOutcome) (pointer : HandlerPtr) :
    (stopHandler server joins pointer).calls = server.calls :=
  calls_modify pointer _ fun _ => urbHandlerStop_calls _ joins _

theorem clientDetachDevice_calls (joins : Fin 4 → WorkerOutcome) :
    (clientDetachDevice server client joins).1.calls = server.calls := by
  have handlers : (detachHandler server client joins).1.calls = server.calls := by
    simp only [detachHandler]
    split
    · rfl
    · rw [cleanupHandler_calls,stopHandler_calls]
  have devices (server : Server) (client : ClientConnection) :
      (detachDevice server client).1.calls = server.calls := by
    simp only [detachDevice]
    split <;> rfl
  simp only [clientDetachDevice]
  split
  · rfl
  · exact (devices _ _).trans handlers

theorem clientManagerRemove_calls (pointer : ClientPtr) (joins : Fin 4 → WorkerOutcome) :
    (clientManagerRemove server pointer client joins).2.calls = server.calls := by
  have freed (server : Server) : (freeClient server client joins).calls = server.calls := by
    simp only [freeClient]
    split <;> split <;> first | rfl | exact cleanupHandler_calls joins _
  simp only [clientManagerRemove]
  split
  · rfl
  · refine (freed _).trans ?_
    split <;> rfl

theorem clientAttachDevice_calls (busid : Busid) (outcome : AttachOutcome) :
    (clientAttachDevice server client busid outcome).2.1.calls = server.calls := by
  simp only [clientAttachDevice]
  split
  next _ =>
    split
    next devices _ =>
      rcases attachHandler_cases {server with devices} client busid outcome with
        started | ⟨err,failed,undone⟩
      · rw [started]
        simp [Server.calls,urbHandlerStarted,UrbHistory.empty]
      · rw [undone]
        cases err <;> first | exact absurd rfl failed | rfl
    next _ => rfl
  next _ => rfl

theorem clientHandleImport_calls (busid : Busid) (outcome : RequestOutcome) :
    (clientHandleImport server client busid outcome).2.1.calls = server.calls := by
  have attached := @clientAttachDevice_calls server client busid outcome.attach
  simp only [clientHandleImport]
  split
  · split
    · split
      · exact attached
      · exact (clientDetachDevice_calls outcome.joins).trans attached
    · exact attached
  · exact attached

theorem clientHandleRequest_calls {outcome : RequestOutcome} {err : ErrorCode} {next : Server}
    {after : ClientConnection}
    (handled : clientHandleRequest server client outcome = some (err,next,after)) :
    next.calls = server.calls := by
  simp only [clientHandleRequest] at handled
  split at handled
  next _ => cases handled
  next _ => cases handled; rfl
  next request socket _ =>
    cases request with
    | devlist => cases handled; rfl
    | «import» busid =>
      have same := @clientHandleImport_calls server {client with socket} busid outcome
      rw [Option.some.inj handled] at same
      exact same
    | unknown => cases handled; rfl

theorem clientAttachDevice_handler {busid : Busid} {outcome : AttachOutcome} {next : Server}
    {after : ClientConnection}
    (attached : clientAttachDevice server client busid outcome = (.success,next,after)) :
    after.state = .attached ∧ ∃ pointer handler, after.urbHandler = some pointer ∧
      next.handlers[pointer]? = some handler := by
  simp only [clientAttachDevice] at attached
  split at attached
  next _ =>
    split at attached
    next devices _ =>
      rcases attachHandler_cases {server with devices} client busid outcome with
        started | ⟨err,failed,undone⟩
      · rw [started] at attached
        cases attached
        exact ⟨rfl,_,urbHandlerStarted busid,rfl,by simp⟩
      · rw [undone] at attached
        cases err <;> first | exact absurd rfl failed | cases attached
    next err devices failing _ =>
      cases attached
      exact absurd rfl failing
  next failing => exact absurd (congrArg Prod.fst attached) failing

theorem clientHandleRequest_served {outcome : RequestOutcome} {next : Server}
    {after : ClientConnection}
    (handled : clientHandleRequest server client outcome = some (.success,next,after)) :
    after.state = client.state ∧ after.urbHandler = client.urbHandler ∧ next = server ∨
      after.state = .attached ∧ ∃ pointer handler, after.urbHandler = some pointer ∧
        next.handlers[pointer]? = some handler := by
  simp only [clientHandleRequest] at handled
  split at handled
  next _ => cases handled
  next err socket read =>
    cases recvRequest_error read
    cases handled
  next request socket _ =>
    cases request with
    | devlist =>
      simp only [Option.some.injEq,Prod.mk.injEq] at handled
      obtain ⟨_,rfl,rfl⟩ := handled
      exact Or.inl ⟨rfl,rfl,rfl⟩
    | «import» busid =>
      right
      simp only [clientHandleImport,Option.some.injEq] at handled
      generalize attach : clientAttachDevice server {client with socket} busid outcome.attach =
        result at handled
      obtain ⟨err,middle,holder⟩ := result
      simp only at handled
      split at handled
      next first _ =>
        split at handled
        next ok =>
          subst ok
          obtain ⟨state,held⟩ := clientAttachDevice_handler attach
          split at handled
          next second _ =>
            cases handled
            exact ⟨state,held⟩
          next _ => cases handled
        next failed =>
          cases handled
          exact absurd rfl failed
      next _ => cases handled
    | unknown => cases handled

end Calls

theorem Gui.step_calls {outcomes : CliOutcomes} (turn : GuiTurn) (gui next : Gui)
    (none : gui.server.calls = []) (stepped : Gui.step outcomes turn gui = some next) :
    next.server.calls = [] := by
  cases gui with
  | accepted server socket ipAddress port =>
    cases turn with
    | session =>
      rcases clientManagerAdd_cases server.manager socket ipAddress port outcomes.alloc with
        ⟨err,id,refused⟩ | ⟨pointer,_,added⟩
      · simp only [step,refused,Option.some.injEq] at stepped
        exact stepped ▸ none
      · simp only [step,added,Option.some.injEq] at stepped
        exact stepped ▸ none
    | worker => cases stepped
    | stopServer => cases stepped
  | serving s =>
    cases turn with
    | session =>
      simp only [step,sessionTurn] at stepped
      split at stepped
      · rw [← Option.some.inj stepped]
        exact (clientManagerRemove_calls _ _).trans none
      · split at stepped
        · split at stepped
          next _ => cases stepped
          next err server client handled =>
            rw [← Option.some.inj stepped]
            exact (clientHandleRequest_calls handled).trans none
        · exact Option.some.inj stepped ▸ none
    | worker pointer outcome =>
      obtain ⟨handler,found,rfl⟩ := Option.map_eq_some_iff.mp stepped
      exact (calls_set found (urbWorkerStep_calls _ outcome handler)).trans none
    | stopServer => exact Option.some.inj stepped ▸ none
  | finished server => cases turn <;> cases stepped

def PayloadArrives (outcome : MessageOutcome) (header : UsbipHeader) (socket : Socket) : Prop :=
  header.hasPayload = true → outcome.payloadAlloc = true ∧
    ∃ data next, usbipRecvUrbData socket header.u.transferBufferLength = some (.ok data,next)

/-- The unread stream goes on with a whole CMD_SUBMIT or a CMD_UNLINK, after
headers of other commands at most. `pass` numbers the pass of the loop. -/
inductive MessageAhead (messages : Nat → MessageOutcome) : Nat → Socket → Prop
  | submit (pass socket header next)
      (read : usbipRecvUrbHeader socket = some (.ok header,next))
      (command : header.common.command = usbipCmdSubmit)
      (payload : PayloadArrives (messages pass) header next) : MessageAhead messages pass socket
  | unlink (pass socket header next)
      (read : usbipRecvUrbHeader socket = some (.ok header,next))
      (command : header.common.command = usbipCmdUnlink) : MessageAhead messages pass socket
  | other (pass socket header next)
      (read : usbipRecvUrbHeader socket = some (.ok header,next))
      (notSubmit : header.common.command ≠ usbipCmdSubmit)
      (notUnlink : header.common.command ≠ usbipCmdUnlink)
      (rest : MessageAhead messages (pass+1) next) : MessageAhead messages pass socket

/-- The requests of the client, each served, lead to an attachment behind which
a URB message follows. -/
inductive CommandAhead (outcomes : CliOutcomes) (passes : Nat) :
    Nat → Server → ClientConnection → Prop
  | request (requests server client next after) (connected : client.state = .connected)
      (handled : clientHandleRequest server client (outcomes.requests requests) =
        some (.success,next,after))
      (rest : CommandAhead outcomes passes (requests+1) next after) :
      CommandAhead outcomes passes requests server client
  | attached (requests server client) (state : client.state = .attached)
      (message : MessageAhead outcomes.messages (passes+1) client.socket) :
      CommandAhead outcomes passes requests server client

def UrbFollowsImport (outcomes : CliOutcomes) (server : Server) (socket : Socket)
    (ipAddress : CString 63) (port : UInt16) : Prop :=
  ∃ pointer client manager,
    clientManagerAdd server.manager socket ipAddress port outcomes.alloc =
      (.ok (pointer,client),manager) ∧
    CommandAhead outcomes 0 0 {server with manager} client

namespace Cli

def Ahead (outcomes : CliOutcomes) : Cli → Prop
  | .accepted server socket ipAddress port => UrbFollowsImport outcomes server socket ipAddress port
  | .serving s =>
    match s.pc with
    | .loop => CommandAhead outcomes s.passes s.requests s.server s.client
    | .urb .recv => MessageAhead outcomes.messages s.passes s.client.socket
    | .urb (.submit header) => PayloadArrives (outcomes.messages s.passes) header s.client.socket
    | .urb _ => True
    | .detach => False
    | .remove => False
  | .finished _ => False

structure Silent (outcomes : CliOutcomes) (cli : Cli) : Prop where
  calls : cli.server.calls = []
  ahead : ¬cli.Ahead outcomes
  attached : ∀ s pc, cli = .serving s → s.pc = .urb pc → s.client.state = .attached
  unattached : ∀ s, cli = .serving s → s.pc = .loop → s.client.state = .connected →
    s.client.urbHandler = none

variable {outcomes : CliOutcomes} {s : CliSession} {urb after : UrbSession}

theorem urbSession_eq (view : s.urbSession = some urb) :
    ∃ pointer handler, s.client.urbHandler = some pointer ∧
      s.server.handlers[pointer]? = some handler ∧
      urb = ⟨s.client,handler,s.serverRunning,CliSession.urbPc s.pc,s.passes,s.unlinks⟩ := by
  simp only [CliSession.urbSession] at view
  split at view
  next _ => cases view
  next pointer held =>
    obtain ⟨handler,found,rfl⟩ := Option.map_eq_some_iff.mp view
    exact ⟨pointer,handler,held,found,rfl⟩

theorem putUrbSession_calls (view : s.urbSession = some urb)
    (kept : after.handler.history.calls = urb.handler.history.calls) :
    (s.putUrbSession after).server.calls = s.server.calls := by
  obtain ⟨pointer,handler,held,found,rfl⟩ := urbSession_eq view
  simp only [CliSession.putUrbSession,held]
  exact calls_set found kept

theorem sessionStep_silent (view : s.urbSession = some urb) (state : s.client.state = .attached)
    (silent : ¬Ahead outcomes (.serving s)) (inside : s.pc = .loop ∨ ∃ pc, s.pc = .urb pc)
    (stepped : UrbSession.sessionStep outcomes.messages urb = some after) :
    after.handler = urb.handler ∧ ¬Ahead outcomes (.serving (s.putUrbSession after)) := by
  obtain ⟨pointer,handler,held,found,rfl⟩ := urbSession_eq view
  cases pc : s.pc with
  | loop =>
    simp only [Ahead,pc] at silent
    simp only [UrbSession.sessionStep,pc,CliSession.urbPc] at stepped
    split at stepped
    next _ =>
      cases stepped
      refine ⟨rfl,fun ahead => silent ?_⟩
      exact .attached _ _ _ state ahead
    next _ =>
      cases stepped
      exact ⟨rfl,id⟩
  | urb inner =>
    cases inner with
    | recv =>
      simp only [Ahead,pc] at silent
      simp only [UrbSession.sessionStep,pc,CliSession.urbPc] at stepped
      split at stepped
      next _ => cases stepped
      next socket failed =>
        cases stepped
        exact ⟨rfl,id⟩
      next header socket read =>
        cases stepped
        refine ⟨rfl,fun ahead => silent ?_⟩
        simp only [UrbSession.dispatch,CliSession.putUrbSession] at ahead
        by_cases submit : header.common.command = usbipCmdSubmit
        · simp only [submit,if_true] at ahead
          exact .submit _ _ header socket read submit ahead
        · by_cases unlink : header.common.command = usbipCmdUnlink
          · exact .unlink _ _ header socket read unlink
          · simp only [submit,unlink,if_false] at ahead
            refine .other _ _ header socket read submit unlink ?_
            cases (ahead : CommandAhead outcomes s.passes s.requests _ {s.client with socket}) with
            | request _ _ _ _ _ connected => cases state.symm.trans connected
            | attached _ _ _ _ message => exact message
    | submit header =>
      simp only [Ahead,pc] at silent
      simp only [UrbSession.sessionStep,pc,CliSession.urbPc] at stepped
      split at stepped
      next payload =>
        split at stepped
        next _ =>
          cases stepped
          exact ⟨rfl,id⟩
        next alloc =>
          split at stepped
          next _ => cases stepped
          next _ =>
            cases stepped
            exact ⟨rfl,id⟩
          next data socket read =>
            exact absurd (fun _ => ⟨by simpa using alloc,data,socket,read⟩) silent
      next none => exact absurd (fun payload => absurd payload none) silent
    | _ => exact absurd (by simp only [Ahead,pc]) silent
  | detach => rcases inside with loop | ⟨_,urb⟩ <;> simp_all
  | remove => rcases inside with loop | ⟨_,urb⟩ <;> simp_all

theorem detach_silent (calls : s.server.calls = []) (pc : s.pc = .detach) :
    Silent outcomes (.serving s) := by
  refine ⟨calls,by simp [Ahead,pc],?_,?_⟩
  · rintro _ _ ⟨⟩ inside
    cases pc.symm.trans inside
  · rintro _ ⟨⟩ inside
    cases pc.symm.trans inside

theorem urbTurn_taken {next : Cli} {messages : Nat → MessageOutcome} {turn : Turn}
    (stepped : (s.urbTurn messages turn).map .serving = some next) :
    ∃ urb after, s.urbSession = some urb ∧
      UrbSession.step (s.server.device urb.handler.device) messages turn urb = some after ∧
      next = .serving (s.putUrbSession after) := by
  obtain ⟨turned,taken,rfl⟩ := Option.map_eq_some_iff.mp stepped
  simp only [CliSession.urbTurn] at taken
  split at taken
  next _ => cases taken
  next urb view =>
    obtain ⟨after,moved,rfl⟩ := Option.map_eq_some_iff.mp taken
    exact ⟨urb,after,view,moved,rfl⟩

theorem urbTurn_silent {next : Cli} (silent : Silent outcomes (.serving s))
    (state : s.client.state = .attached) (inside : s.pc = .loop ∨ ∃ pc, s.pc = .urb pc)
    (stepped : (s.urbTurn outcomes.messages .session).map .serving = some next) :
    next.Silent outcomes := by
  obtain ⟨urb,after,view,moved,rfl⟩ := urbTurn_taken stepped
  obtain ⟨handler,ahead⟩ := sessionStep_silent view state silent.ahead inside moved
  have same := @UrbSession.step_attachment none outcomes.messages .session urb after moved
  obtain ⟨_,_,_,_,rfl⟩ := urbSession_eq view
  refine ⟨(putUrbSession_calls view (by rw [handler])).trans silent.calls,ahead,?_,?_⟩
  · rintro _ _ ⟨⟩ _
    exact same.state.trans state
  · rintro _ ⟨⟩ _ connected
    cases (same.state.trans state).symm.trans connected

theorem sessionTurn_silent {next : Cli} (silent : Silent outcomes (.serving s))
    (stepped : sessionTurn outcomes s = some next) : next.Silent outcomes := by
  cases pc : s.pc with
  | loop =>
    simp only [sessionTurn,pc] at stepped
    split at stepped
    next state => exact urbTurn_silent silent state (Or.inl pc) stepped
    next state =>
      split at stepped
      next _ =>
        split at stepped
        next _ => cases stepped
        next err server client handled =>
          rw [← Option.some.inj stepped]
          have calls := (clientHandleRequest_calls handled).trans silent.calls
          by_cases ok : err = .success
          · subst ok
            refine ⟨calls,fun ahead => silent.ahead ?_,by rintro _ _ ⟨⟩ ⟨⟩,?_⟩
            · simp only [Ahead,pc]
              exact .request _ _ _ _ _ state handled ahead
            · rintro _ ⟨⟩ _ connected
              rcases clientHandleRequest_served handled with ⟨_,same,_⟩ | ⟨attached,_⟩
              · exact same.trans (silent.unattached s rfl pc state)
              · cases attached.symm.trans connected
          · simp only [if_neg ok]
            exact detach_silent calls rfl
      next _ =>
        cases stepped
        exact detach_silent silent.calls rfl
    next _ =>
      split at stepped
      next _ =>
        cases stepped
        exact silent
      next _ =>
        cases stepped
        exact detach_silent silent.calls rfl
    next _ =>
      cases stepped
      exact detach_silent silent.calls rfl
  | urb inner =>
    simp only [sessionTurn,pc] at stepped
    exact urbTurn_silent silent (silent.attached s inner rfl pc) (Or.inr ⟨inner,pc⟩) stepped
  | detach =>
    simp only [sessionTurn,pc,Option.some.injEq] at stepped
    rw [← stepped]
    exact ⟨(clientDetachDevice_calls _).trans silent.calls,id,by rintro _ _ ⟨⟩ ⟨⟩,by
      rintro _ ⟨⟩ ⟨⟩⟩
  | remove =>
    simp only [sessionTurn,pc,Option.some.injEq] at stepped
    rw [← stepped]
    exact ⟨(clientManagerRemove_calls _ _).trans silent.calls,id,by rintro _ _ ⟨⟩,by
      rintro _ ⟨⟩⟩

theorem workerTurn_silent {next : Cli} {outcome : WorkerOutcome}
    (silent : Silent outcomes (.serving s))
    (stepped : (s.urbTurn outcomes.messages (.worker outcome)).map .serving = some next) :
    next.Silent outcomes := by
  obtain ⟨urb,after,view,moved,rfl⟩ := urbTurn_taken stepped
  have calls : (s.putUrbSession after).server.calls = s.server.calls :=
    putUrbSession_calls view (by rw [← Option.some.inj moved]; exact urbWorkerStep_calls _ outcome _)
  obtain ⟨pointer,handler,held,found,rfl⟩ := urbSession_eq view
  cases moved
  have ahead := silent.ahead
  cases pc : s.pc with
  | loop =>
    refine ⟨calls.trans silent.calls,?_,?_,?_⟩
    · simp only [Ahead,pc] at ahead
      intro again
      simp only [Ahead,CliSession.putUrbSession,CliSession.urbPc,CliSession.ofUrbPc] at again
      cases again with
      | request _ _ _ _ _ connected =>
        cases held.symm.trans (silent.unattached s rfl pc connected)
      | attached _ _ _ state message => exact ahead (.attached _ _ _ state message)
    · rintro _ _ ⟨⟩ other
      simp [CliSession.putUrbSession,CliSession.urbPc,CliSession.ofUrbPc] at other
    · rintro _ ⟨⟩ _ connected
      exact silent.unattached s rfl pc connected
  | urb inner =>
    have state := silent.attached s inner rfl pc
    refine ⟨calls.trans silent.calls,?_,fun _ _ here _ => by cases here; exact state,?_⟩
    · cases inner <;> simp only [Ahead,pc,not_true_eq_false] at ahead <;>
        simpa only [Ahead,CliSession.putUrbSession,pc,CliSession.urbPc,CliSession.ofUrbPc] using ahead
    · rintro _ ⟨⟩ _ connected
      cases state.symm.trans connected
  | detach =>
    exact detach_silent (calls.trans silent.calls) (by simp [CliSession.putUrbSession,
      CliSession.urbPc,CliSession.ofUrbPc])
  | remove =>
    exact detach_silent (calls.trans silent.calls) (by simp [CliSession.putUrbSession,
      CliSession.urbPc,CliSession.ofUrbPc])

theorem step_silent (turn : Turn) (cli next : Cli) (silent : cli.Silent outcomes)
    (stepped : step outcomes turn cli = some next) : next.Silent outcomes := by
  cases cli with
  | accepted server socket ipAddress port =>
    cases turn with
    | session =>
      have calls := silent.calls
      have ahead := silent.ahead
      rcases clientManagerAdd_cases server.manager socket ipAddress port outcomes.alloc with
        ⟨err,id,refused⟩ | ⟨pointer,_,added⟩
      · simp only [step,refused,Option.some.injEq] at stepped
        rw [← stepped]
        exact ⟨calls,fun none => none,by rintro _ _ ⟨⟩,by rintro _ ⟨⟩⟩
      · simp only [step,added,Option.some.injEq] at stepped
        rw [← stepped]
        exact ⟨calls,fun command => ahead ⟨pointer,_,_,added,command⟩,by rintro _ _ ⟨⟩ ⟨⟩,by
          rintro _ ⟨⟩ _ _; rfl⟩
    | worker outcome => cases stepped
    | signal => cases stepped
  | serving s =>
    cases turn with
    | session => exact sessionTurn_silent silent stepped
    | worker outcome => exact workerTurn_silent silent stepped
    | signal =>
      rw [← Option.some.inj stepped]
      exact ⟨silent.calls,silent.ahead,by rintro _ pc ⟨⟩ here; exact silent.attached s pc rfl here,by
        rintro _ ⟨⟩ here connected; exact silent.unattached s rfl here connected⟩
  | finished server => cases turn <;> cases stepped

theorem forward_handed (messages : Nat → MessageOutcome) (urb : UrbSession) {header : UsbipHeader}
    {data : List UInt8} (pc : urb.pc = .forward header data) :
    ∃ after, UrbSession.step none messages .session urb = some after ∧
      after.handler.history.calls ≠ [] := by
  refine ⟨_,by simp only [UrbSession.step,UrbSession.sessionStep,pc]; rfl,?_⟩
  simp only [clientForwardUrb]
  rcases urbHandlerSubmit_cases (urb.handler.recordCall (.forward header data)) header data
    (messages urb.passes).entryAlloc (messages urb.passes).bufferAlloc (messages urb.passes).now with
    same | ⟨_,_,_,_,accepted⟩
  · rw [same]
    simp [UrbHandler.recordCall]
  · rw [accepted]
    simp [UrbHandler.recordCall]

theorem message_handed {messages : Nat → MessageOutcome} {pass : Nat} {socket : Socket}
    (ahead : MessageAhead messages pass socket) : ∀ urb : UrbSession, urb.pc = .recv →
      urb.passes = pass → urb.client.socket = socket → urb.serverRunning = true →
      urb.client.state = .attached →
      ∃ count after, Run (UrbSession.step none messages) urb (List.replicate count .session) after ∧
        after.handler.history.calls ≠ [] := by
  induction ahead with
  | submit pass socket header next read command payload =>
    rintro urb pc rfl rfl _ _
    have received : UrbSession.step none messages .session urb =
        some {urb with client := {urb.client with socket := next}, pc := .submit header} := by
      simp [UrbSession.step,UrbSession.sessionStep,pc,read,UrbSession.dispatch,command]
    have taken : ∃ data client, UrbSession.step none messages .session
        {urb with client := {urb.client with socket := next}, pc := .submit header} =
          some {urb with client, pc := .forward header data} := by
      by_cases has : header.hasPayload = true
      · obtain ⟨alloc,data,last,arrived⟩ := payload has
        exact ⟨data,_,by simp only [UrbSession.step,UrbSession.sessionStep,has,alloc,arrived]; rfl⟩
      · exact ⟨[],{urb.client with socket := next},by
          simp only [UrbSession.step,UrbSession.sessionStep,if_neg has]⟩
    obtain ⟨data,client,submitted⟩ := taken
    obtain ⟨after,forwarded,handed⟩ := forward_handed messages
      {urb with client, pc := .forward header data} rfl
    exact ⟨3,after,.cons _ _ _ _ _ received (.cons _ _ _ _ _ submitted (.single _ forwarded)),handed⟩
  | unlink pass socket header next read command =>
    rintro urb pc rfl rfl _ _
    have received : UrbSession.step none messages .session urb =
        some {urb with client := {urb.client with socket := next}, pc := .unlink header} := by
      have different : usbipCmdUnlink ≠ usbipCmdSubmit := by decide
      simp [UrbSession.step,UrbSession.sessionStep,pc,read,UrbSession.dispatch,command,different]
    rcases urbHandlerUnlinkRemove_cases (urb.handler.recordCall (.unlink header.u.seqnumToUnlink))
      header.u.seqnumToUnlink with absent | ⟨_,entry,_,_,removed⟩
    · refine ⟨2,_,.cons _ _ _ _ _ received (.single _ (by
        simp only [UrbSession.step,UrbSession.sessionStep,absent]; rfl)),?_⟩
      simp [UrbHandler.recordCall]
    · refine ⟨2,_,.cons _ _ _ _ _ received (.single _ (by
        simp only [UrbSession.step,UrbSession.sessionStep,removed]; rfl)),?_⟩
      simp [UrbHandler.recordCall]
  | other pass socket header next read notSubmit notUnlink rest ih =>
    rintro urb pc rfl rfl running state
    have received : UrbSession.step none messages .session urb =
        some {urb with client := {urb.client with socket := next}, pc := .loop} := by
      simp [UrbSession.step,UrbSession.sessionStep,pc,read,UrbSession.dispatch,notSubmit,notUnlink]
    have entered : UrbSession.step none messages .session
        {urb with client := {urb.client with socket := next}, pc := .loop} =
          some {urb with
            client := {urb.client with socket := next}
            pc := .recv
            passes := urb.passes+1} := by
      simp [UrbSession.step,UrbSession.sessionStep,running,state]
    obtain ⟨count,after,run,handed⟩ := ih {urb with
      client := {urb.client with socket := next}
      pc := .recv
      passes := urb.passes+1} rfl rfl rfl running state
    exact ⟨count+2,after,.cons _ _ _ _ _ received (.cons _ _ _ _ _ entered run),handed⟩

theorem lift_turn (view : s.urbSession = some urb) (state : s.client.state = .attached)
    (pc : s.pc = CliSession.ofUrbPc urb.pc)
    (stepped : UrbSession.step none outcomes.messages .session urb = some after) :
    ∃ next, step outcomes .session (.serving s) = some (.serving next) ∧
      next.urbSession = some after ∧ next.client.state = .attached ∧
      next.pc = CliSession.ofUrbPc after.pc := by
  have same := UrbSession.step_attachment .session urb after stepped
  obtain ⟨pointer,handler,held,found,made⟩ := urbSession_eq view
  have turned : s.urbTurn outcomes.messages .session = some (s.putUrbSession after) := by
    simp only [CliSession.urbTurn,view]
    exact congrArg (Option.map s.putUrbSession) stepped
  refine ⟨s.putUrbSession after,?_,?_,?_,rfl⟩
  · have inside : s.pc = .loop ∨ ∃ inner, s.pc = .urb inner := by
      cases here : urb.pc with
      | ended => simp [UrbSession.step,UrbSession.sessionStep,here] at stepped
      | loop => exact Or.inl (by rw [pc,here]; rfl)
      | _ => exact Or.inr ⟨_,by rw [pc,here]; rfl⟩
    rcases inside with loop | ⟨inner,urb⟩
    · simp only [step,sessionTurn,loop,state,turned,Option.map_some]
    · simp only [step,sessionTurn,urb,turned,Option.map_some]
  · have pointed : after.client.urbHandler = some pointer := by
      rw [same.urbHandler,made]
      exact held
    simp only [CliSession.urbSession,CliSession.putUrbSession,pointed,held,
      List.getElem?_set_self',found,CliSession.urbPc_ofUrbPc]
    rfl
  · rw [made] at same
    exact same.state.trans state

theorem lift_turns (count : Nat) : ∀ {s : CliSession} {urb : UrbSession},
    s.urbSession = some urb → s.client.state = .attached → s.pc = CliSession.ofUrbPc urb.pc →
    Run (UrbSession.step none outcomes.messages) urb (List.replicate count .session) after →
    ∃ next, Run (step outcomes) (.serving s) (List.replicate count .session) (.serving next) ∧
      next.urbSession = some after := by
  induction count with
  | zero =>
    intro s urb view _ _ run
    cases run
    exact ⟨s,.nil _,view⟩
  | succ count ih =>
    intro s urb view state pc run
    cases run with
    | cons _ _ middle _ _ taken rest =>
      obtain ⟨next,stepped,again,still,onward⟩ := lift_turn view state pc taken
      obtain ⟨last,onwards,final⟩ := ih again still onward rest
      exact ⟨last,.cons _ _ _ _ _ stepped onwards,final⟩

theorem urbSession_calls (view : s.urbSession = some urb) (handed : urb.handler.history.calls ≠ []) :
    s.server.calls ≠ [] := by
  obtain ⟨pointer,handler,_,found,rfl⟩ := urbSession_eq view
  intro none
  rw [Server.calls,List.flatMap_eq_nil_iff] at none
  exact handed (none handler (List.mem_of_getElem? found))

theorem command_handed {passes requests : Nat} {server : Server} {client : ClientConnection}
    (ahead : CommandAhead outcomes passes requests server client) : ∀ s : CliSession, s.pc = .loop →
      s.serverRunning = true → s.passes = passes → s.requests = requests → s.server = server →
      s.client = client →
      (s.client.state = .attached → ∃ pointer handler, s.client.urbHandler = some pointer ∧
        s.server.handlers[pointer]? = some handler) →
      ∃ turns final, Run (step outcomes) (.serving s) turns final ∧ final.server.calls ≠ [] := by
  induction ahead with
  | request requests server client next after connected handled rest ih =>
    rintro s pc running rfl rfl rfl rfl _
    have stepped : step outcomes .session (.serving s) = some (.serving {s with
        server := next
        client := after
        pc := .loop
        requests := s.requests+1}) := by
      simp only [step,sessionTurn,pc,connected,running,if_true,handled]
    have ready : after.state = .attached → ∃ pointer handler, after.urbHandler = some pointer ∧
        next.handlers[pointer]? = some handler := by
      rcases clientHandleRequest_served handled with ⟨same,_⟩ | ⟨_,held⟩
      · intro attached
        cases (same.trans connected).symm.trans attached
      · exact fun _ => held
    obtain ⟨turns,final,run,handed⟩ := ih {s with
      server := next
      client := after
      pc := .loop
      requests := s.requests+1} rfl running rfl rfl rfl rfl ready
    exact ⟨_,final,.cons _ _ _ _ _ stepped run,handed⟩
  | attached requests server client state message =>
    rintro s pc running rfl rfl rfl rfl ready
    obtain ⟨pointer,handler,held,found⟩ := ready state
    have view : s.urbSession = some ⟨s.client,handler,s.serverRunning,.loop,s.passes,s.unlinks⟩ := by
      simp only [CliSession.urbSession,held,found,Option.map_some,pc,CliSession.urbPc]
    have entered : UrbSession.step none outcomes.messages .session
        ⟨s.client,handler,s.serverRunning,.loop,s.passes,s.unlinks⟩ =
          some ⟨s.client,handler,s.serverRunning,.recv,s.passes+1,s.unlinks⟩ := by
      simp [UrbSession.step,UrbSession.sessionStep,running,state]
    obtain ⟨count,after,run,handed⟩ := message_handed message
      ⟨s.client,handler,s.serverRunning,.recv,s.passes+1,s.unlinks⟩ rfl rfl rfl running state
    obtain ⟨next,turns,final⟩ := lift_turns (count+1) view state pc (.cons _ _ _ _ _ entered run)
    exact ⟨_,_,turns,urbSession_calls final handed⟩

end Cli

/-- The two front ends hand over the same URBs and unlinks, on the same device
list, byte stream and answers of the operating system, exactly when no URB
message follows a successful import. -/
theorem front_ends_agree_iff (outcomes : CliOutcomes) (manager : ClientManager)
    (devices : DeviceList) (socket : Socket) (ipAddress : CString 63) (port : UInt16) :
    (∀ handed : Handed,
      (∃ turns final, Run (Cli.step outcomes) (.accepted ⟨manager,devices,[]⟩ socket ipAddress port)
        turns final ∧ final.server.handed = handed) ↔
      ∃ turns final, Run (Gui.step outcomes) (.accepted ⟨manager,devices,[]⟩ socket ipAddress port)
        turns final ∧ final.server.handed = handed) ↔
    ¬UrbFollowsImport outcomes ⟨manager,devices,[]⟩ socket ipAddress port := by
  have gui {turns : List GuiTurn} {final : Gui} (run : Run (Gui.step outcomes)
      (.accepted ⟨manager,devices,[]⟩ socket ipAddress port) turns final) :
      final.server.handed = ⟨[],[]⟩ :=
    handed_none.mpr (run.invariant (·.server.calls = []) Gui.step_calls rfl)
  constructor
  · rintro agree ⟨pointer,client,grown,added,ahead⟩
    have state : client.state = .connected := by
      rcases clientManagerAdd_cases manager socket ipAddress port outcomes.alloc with
        ⟨err,id,refused⟩ | ⟨_,_,made⟩
      · cases refused.symm.trans added
      · cases made.symm.trans added
        rfl
    obtain ⟨turns,final,run,handed⟩ := Cli.command_handed ahead
      ⟨⟨grown,devices,[]⟩,client,pointer,true,.loop,0,0,[]⟩ rfl rfl rfl rfl rfl rfl
      (fun attached => by cases state.symm.trans attached)
    have accepted : Cli.step outcomes .session
        (.accepted ⟨manager,devices,[]⟩ socket ipAddress port) =
        some (.serving ⟨⟨grown,devices,[]⟩,client,pointer,true,.loop,0,0,[]⟩) := by
      simp only [Cli.step,added]
    obtain ⟨_,_,other,same⟩ := (agree final.server.handed).mp
      ⟨_,final,.cons _ _ _ _ _ accepted run,rfl⟩
    exact handed (handed_none.mp (same.symm.trans (gui other)))
  · intro silent handed
    have cli {turns : List Turn} {final : Cli} (run : Run (Cli.step outcomes)
        (.accepted ⟨manager,devices,[]⟩ socket ipAddress port) turns final) :
        final.server.handed = ⟨[],[]⟩ :=
      handed_none.mpr (run.invariant (Cli.Silent outcomes) Cli.step_silent
        ⟨rfl,silent,by rintro _ _ ⟨⟩,by rintro _ ⟨⟩⟩).calls
    constructor
    · rintro ⟨_,_,run,rfl⟩
      exact ⟨[],_,.nil _,(cli run).symm⟩
    · rintro ⟨_,_,run,rfl⟩
      exact ⟨[],_,.nil _,(gui run).symm⟩

/-- After importing the keyboard the visitor submits a URB, which the command
line server hands to its handler and the GUI server takes for a bad request. -/
theorem front_ends_disagree : ¬∀ handed : Handed,
    (∃ turns final, Run (Cli.step Cli.willing) (.accepted Cli.keyboardServer Cli.visitor .empty 0)
      turns final ∧ final.server.handed = handed) ↔
    ∃ turns final, Run (Gui.step Cli.willing) (.accepted Cli.keyboardServer Cli.visitor .empty 0)
      turns final ∧ final.server.handed = handed := by
  intro agree
  obtain ⟨final,run,checked⟩ := run_of_check (Cli.step Cli.willing) (List.replicate 6 .session)
    (.accepted Cli.keyboardServer Cli.visitor .empty 0)
    (fun cli => decide (cli.server.handed = ⟨[(.read 1 4,[])],[]⟩)) (by decide +kernel)
  obtain ⟨turns,other,same,handed⟩ := (agree _).mp ⟨_,final,run,of_decide_eq_true checked⟩
  have none := same.invariant (·.server.calls = []) Gui.step_calls rfl
  cases (handed_none.mpr none).symm.trans handed

end UsbOverNetwork
