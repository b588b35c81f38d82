import UsbOverNetwork.Server.Attachment
import UsbOverNetwork.Server.UrbSession

/-! One iteration of the command line server's main loop: a client is added,
served by `handle_client_session`, detached and removed. The workers of its
handlers and the signal that stops the server run beside it. -/
namespace UsbOverNetwork
open Runs

inductive CliPc
  | loop
  | urb (pc : UrbPc)
  | detach
  | remove
deriving DecidableEq

/-- `requests` and `passes` count what the operating system has answered. -/
structure CliSession where
  server : Server
  client : ClientConnection
  pointer : ClientPtr
  serverRunning : Bool
  pc : CliPc
  requests : Nat
  passes : Nat
  unlinks : List UnlinkRecord
deriving DecidableEq

inductive Cli
  | accepted (server : Server) (socket : Socket) (ipAddress : CString 63) (port : UInt16)
  | serving (session : CliSession)
  | finished (server : Server)
deriving DecidableEq

structure CliOutcomes where
  alloc : Option ClientPtr
  requests : Nat → RequestOutcome
  messages : Nat → MessageOutcome
  detaching : Fin 4 → WorkerOutcome
  removing : Fin 4 → WorkerOutcome

namespace CliSession

def urbPc : CliPc → UrbPc
  | .loop => .loop
  | .urb pc => pc
  | .detach => .ended
  | .remove => .ended

def ofUrbPc : UrbPc → CliPc
  | .loop => .loop
  | .ended => .detach
  | pc => .urb pc

/-- The session's URB branch, with the handler read through the client's pointer. -/
def urbSession (s : CliSession) : Option UrbSession :=
  match s.client.urbHandler with
  | none => none
  | some pointer => (s.server.handlers[pointer]?).map fun handler =>
    ⟨s.client,handler,s.serverRunning,urbPc s.pc,s.passes,s.unlinks⟩

def putUrbSession (s : CliSession) (urb : UrbSession) : CliSession :=
  {s with
    server := match s.client.urbHandler with
      | none => s.server
      | some pointer => {s.server with handlers := s.server.handlers.set pointer urb.handler}
    client := urb.client
    serverRunning := urb.serverRunning
    pc := ofUrbPc urb.pc
    passes := urb.passes
    unlinks := urb.unlinks}

def urbTurn (messages : Nat → MessageOutcome) (turn : Turn) (s : CliSession) : Option CliSession :=
  match s.urbSession with
  | none => none
  | some urb =>
    (UrbSession.step (s.server.device urb.handler.device) messages turn urb).map s.putUrbSession

end CliSession

namespace Cli

def sessionTurn (outcomes : CliOutcomes) (s : CliSession) : Option Cli :=
  match s.pc with
  | .loop =>
    match s.client.state with
    | .attached => (s.urbTurn outcomes.messages .session).map .serving
    | .connected =>
      if s.serverRunning then
        match clientHandleRequest s.server s.client (outcomes.requests s.requests) with
        | none => none
        | some (err,server,client) => some (.serving {s with
            server
            client
            pc := if err = .success then .loop else .detach
            requests := s.requests+1})
      else some (.serving {s with pc := .detach})
    | .disconnecting => if s.serverRunning then some (.serving s) else some (.serving {s with pc := .detach})
    | .disconnected => some (.serving {s with pc := .detach})
  | .urb _ => (s.urbTurn outcomes.messages .session).map .serving
  | .detach =>
    let (server,client) := clientDetachDevice s.server s.client outcomes.detaching
    some (.serving {s with server, client, pc := .remove})
  | .remove => some (.finished (clientManagerRemove s.server s.pointer s.client outcomes.removing).2)

def step (outcomes : CliOutcomes) : Turn → Cli → Option Cli
  | .session,.accepted server socket ipAddress port =>
    match clientManagerAdd server.manager socket ipAddress port outcomes.alloc with
    | (.error _,manager) => some (.finished {server with manager})
    | (.ok (pointer,client),manager) =>
      some (.serving ⟨{server with manager},client,pointer,true,.loop,0,0,[]⟩)
  | .session,.serving s => sessionTurn outcomes s
  | .worker outcome,.serving s => (s.urbTurn outcomes.messages (.worker outcome)).map .serving
  | .signal,.serving s => some (.serving {s with serverRunning := false})
  | _,_ => none

end Cli

/-- The client is attached exactly when it holds a handler, a device and a
busid, and exactly when the entry of that busid is the one that is exported,
and to this client. -/
structure Consistent (server : Server) (client : ClientConnection) : Prop where
  holds : client.state = .attached ↔
    client.urbHandler ≠ none ∧ client.device ≠ none ∧ client.attachedBusid ≠ .empty
  exported : client.state = .attached ↔
    ∃ entry ∈ server.devices.entries, entry.busid = client.attachedBusid ∧
      entry.state = .exported ∧ entry.clientId = client.id ∧
      ∀ other ∈ server.devices.entries, other.state = .exported → other = entry

theorem Free.consistent {base server : Server} {client : ClientConnection}
    (free : Free base server client) : Consistent server client := by
  have idle := free.devices.idle
  refine ⟨by simp [free.state,free.handler],?_⟩
  simp only [free.state,reduceCtorEq,false_iff]
  rintro ⟨entry,member,_,exported,_⟩
  exact (idle entry member).unexported exported

theorem Attached.consistent {base server : Server} {client : ClientConnection} {hold : SessionHold}
    (enumerated : base.devices.Enumerated) (attached : Attached base server client hold) :
    Consistent server client := by
  obtain ⟨busid,retired,handler,holding⟩ := attached
  obtain ⟨entry,found,exported,clientId,_⟩ := holding.devices.lent
  refine ⟨by simp [holding.state,holding.pointer,holding.device,holding.attached,holding.named],?_⟩
  simp only [holding.state,true_iff]
  refine ⟨entry,Keyed.find_mem _ found,by rw [holding.attached,find_busid found],exported,
    clientId,?_⟩
  intro other member alsoExported
  by_cases same : other.busid = busid
  · have again := Keyed.find_of_mem DeviceEntry.busid
      (distinct_of_skeleton enumerated holding.devices.skeleton) member
    rw [same] at again
    exact Option.some.inj (again.symm.trans found)
  · exact absurd alsoExported (holding.devices.others other member same).unexported

namespace CliSession

theorem urbPc_ofUrbPc (pc : UrbPc) : urbPc (ofUrbPc pc) = pc := by
  cases pc <;> rfl

structure Serves (base : Server) (ending : StreamEnd) (s : CliSession) : Prop where
  clients : s.server.manager.clients = s.pointer::base.manager.clients
  count : s.server.manager.clientCount = base.manager.clientCount + 1
  ending : s.client.socket.ending = ending
  going : s.pc ≠ .urb .ended
  attachment : Free base s.server s.client ∧ (∀ pc, s.pc ≠ .urb pc) ∨
    Attached base s.server s.client (UrbSession.hold (urbPc s.pc)) ∧ s.pc ≠ .remove

variable {base : Server} {ending : StreamEnd} {s next : CliSession}

theorem urbTurn_attached {messages : Nat → MessageOutcome} {turn : Turn}
    (serves : s.Serves base ending)
    (attached : Attached base s.server s.client (UrbSession.hold (urbPc s.pc)))
    (stepped : s.urbTurn messages turn = some next) :
    ∃ urb device after, s.urbSession = some urb ∧ urb.system.Inv ∧
      UrbSession.step device messages turn urb = some after ∧ next.urbSession = some after ∧
      next.pc = ofUrbPc after.pc ∧ next.Serves base ending := by
  obtain ⟨busid,retired,handler,holding⟩ := attached
  have handlers : s.server.handlers[(base.handlers ++ retired).length]? = some handler := by
    rw [holding.handlers]
    simp
  have view : s.urbSession =
      some ⟨s.client,handler,s.serverRunning,urbPc s.pc,s.passes,s.unlinks⟩ := by
    simp only [urbSession,holding.pointer,handlers]
    rfl
  simp only [urbTurn,view,Option.map_eq_some_iff] at stepped
  obtain ⟨after,taken,rfl⟩ := stepped
  have same := UrbSession.step_attachment turn _ after taken
  have flags := UrbSession.step_flags turn _ after taken
  have advances := UrbSession.step_advances turn _ after taken
  have inv : (UrbSession.system
      ⟨s.client,handler,s.serverRunning,urbPc s.pc,s.passes,s.unlinks⟩).Inv :=
    ⟨holding.serving.inv.pipeline,holding.serving.inv.waiting,holding.serving.inv.taken,
      holding.serving.inv.done,holding.serving.inv.replied,holding.serving.inv.sent⟩
  obtain ⟨actions,run⟩ := UrbSession.step_matched turn _ after taken
  have kept := run.invariant UrbSystem.Inv UrbSystem.step_inv inv
  have put : (s.putUrbSession after).server =
      {s.server with handlers := base.handlers ++ retired ++ [after.handler]} := by
    simp only [putUrbSession,holding.pointer,holding.handlers]
    rw [List.set_append_right _ _ le_rfl]
    simp
  have pointer : after.client.urbHandler = some (base.handlers ++ retired).length :=
    same.urbHandler.trans holding.pointer
  refine ⟨_,_,after,view,inv,taken,?_,rfl,?_⟩
  · simp only [urbSession,put]
    simp [putUrbSession,pointer,urbPc_ofUrbPc]
  · refine ⟨by rw [put]; exact serves.clients,by rw [put]; exact serves.count,
      advances.ending.trans serves.ending,?_,Or.inr ⟨?_,?_⟩⟩
    · cases pc : after.pc <;> simp [putUrbSession,ofUrbPc,pc]
    · refine ⟨busid,retired,after.handler,same.state.trans holding.state,
        same.attachedBusid.trans holding.attached,holding.named,same.device.trans holding.device,
        pointer,?_,by rw [put],holding.retirees,flags.initialized.trans holding.serving.initialized,
        flags.running.trans holding.serving.running,?_⟩
      · rw [put]
        exact same.id ▸ holding.devices
      · rw [show urbPc (s.putUrbSession after).pc = after.pc from urbPc_ofUrbPc after.pc]
        exact ⟨kept.pipeline,kept.waiting,kept.taken,kept.done,kept.replied,kept.sent⟩
    · cases pc : after.pc <;> simp [putUrbSession,ofUrbPc,pc]

theorem urbSession_pc {urb : UrbSession} (view : s.urbSession = some urb) :
    urb.pc = urbPc s.pc := by
  simp only [urbSession] at view
  split at view
  next _ => cases view
  next _ =>
    obtain ⟨handler,_,rfl⟩ := Option.map_eq_some_iff.mp view
    rfl

def weight (s : CliSession) : Nat :=
  match s.pc with
  | .remove => 1
  | .detach => 2
  | _ => match s.urbSession with
    | none => 4*s.client.socket.stream.length + 4
    | some urb => urb.weight + 2

theorem weight_ofUrbPc {urb : UrbSession} (view : s.urbSession = some urb)
    (pc : s.pc = ofUrbPc urb.pc) : s.weight ≤ urb.weight + 2 := by
  simp only [weight,view]
  cases here : s.pc with
  | remove =>
    rw [here] at pc
    cases inner : urb.pc <;> simp [ofUrbPc,inner] at pc
  | detach => simp
  | loop => simp
  | urb inner => simp

theorem free_weight (free : Free base s.server s.client) (pc : s.pc = .loop) :
    s.weight = 4*s.client.socket.stream.length + 4 := by
  simp [weight,pc,urbSession,free.handler]

theorem justAttached_weight (just : JustAttached base s.server s.client) (pc : s.pc = .loop) :
    s.weight = 4*s.client.socket.stream.length + 4 := by
  obtain ⟨busid,retired,holding⟩ := just
  simp only [weight,pc,urbSession,holding.pointer,holding.handlers,
    List.getElem?_append_right le_rfl,Nat.sub_self,List.getElem?_cons_zero,Option.map_some]
  simp [UrbSession.weight,UrbSession.rank,urbPc,urbHandlerStarted,UrbHistory.empty]

theorem signal_weight (s : CliSession) : weight {s with serverRunning := false} = s.weight := by
  simp only [weight,urbSession]
  cases s.pc with
  | remove => rfl
  | detach => rfl
  | _ =>
    cases s.client.urbHandler with
    | none => rfl
    | some pointer => cases found : s.server.handlers[pointer]? <;> simp [found,UrbSession.weight]

end CliSession

structure Leaves (base server : Server) : Prop where
  clients : server.manager.clients = base.manager.clients
  count : server.manager.clientCount = base.manager.clientCount
  devices : base.devices.Restored server.devices
  handlers : ∃ retired, server.handlers = base.handlers ++ retired ∧
    ∀ handler ∈ retired, handler.Retired

namespace Cli

def Inv (base : Server) (ending : StreamEnd) : Cli → Prop
  | .accepted server socket _ _ => server = base ∧ socket.ending = ending
  | .serving s => s.Serves base ending
  | .finished server => Leaves base server

def weight : Cli → Nat
  | .accepted _ socket _ _ => 4*socket.stream.length + 5
  | .serving s => s.weight
  | .finished _ => 0

variable {base : Server} {ending : StreamEnd} {outcomes : CliOutcomes}

theorem remove_leaves {s : CliSession} (serves : s.Serves base ending)
    (free : Free base s.server s.client) (joins : Fin 4 → WorkerOutcome) :
    Leaves base (clientManagerRemove s.server s.pointer s.client joins).2 := by
  have unlinked : s.server.manager.unlink s.pointer = some {s.server.manager with
      clients := base.manager.clients
      clientCount := base.manager.clientCount} := by
    simp [ClientManager.unlink,serves.clients,serves.count]
  simp only [clientManagerRemove,unlinked,free.unattached,ne_eq,not_true_eq_false,if_false,
    freeClient,free.handler,free.device]
  exact ⟨rfl,rfl,free.devices,free.handlers⟩

theorem urbTurn_inv {s : CliSession} {next : Cli} (serves : s.Serves base ending)
    (attached : Attached base s.server s.client (UrbSession.hold (CliSession.urbPc s.pc)))
    (inside : s.weight = match s.urbSession with
      | none => 4*s.client.socket.stream.length + 4
      | some urb => urb.weight + 2)
    (stepped : (s.urbTurn outcomes.messages .session).map .serving = some next) :
    next.Inv base ending ∧ next.weight + 1 ≤ s.weight := by
  obtain ⟨after,turned,rfl⟩ := Option.map_eq_some_iff.mp stepped
  obtain ⟨urb,device,moved,view,inv,taken,again,pc,kept⟩ :=
    CliSession.urbTurn_attached serves attached turned
  have lighter := UrbSession.sessionStep_weight inv taken
  have bound := CliSession.weight_ofUrbPc again pc
  refine ⟨kept,?_⟩
  simp only [weight,inside,view]
  omega

theorem request_inv {s : CliSession} (enumerated : base.devices.Enumerated)
    (serves : s.Serves base ending) (free : Free base s.server s.client) (pc : s.pc = .loop)
    {err : ErrorCode} {server : Server} {client : ClientConnection}
    (handled : clientHandleRequest s.server s.client (outcomes.requests s.requests) =
      some (err,server,client)) :
    Inv base ending (.serving {s with
      server
      client
      pc := if err = .success then .loop else .detach
      requests := s.requests+1}) ∧
    CliSession.weight {s with
      server
      client
      pc := if err = .success then .loop else .detach
      requests := s.requests+1} + 1 ≤ s.weight := by
  obtain ⟨attachment,manager,ended,shorter,served⟩ := request_spec enumerated free _ handled
  simp only at attachment manager ended shorter served
  have before := CliSession.free_weight free pc
  by_cases ok : err = .success
  · subst ok
    have eaten := served rfl
    have after : CliSession.weight ⟨server,client,s.pointer,s.serverRunning,.loop,s.requests+1,
        s.passes,s.unlinks⟩ = 4*client.socket.stream.length + 4 :=
      attachment.elim (fun free => CliSession.free_weight free rfl)
        (fun just => CliSession.justAttached_weight just rfl)
    simp only [if_true,UsbipHeaderBasic.size] at after eaten ⊢
    refine ⟨⟨by rw [manager]; exact serves.clients,by rw [manager]; exact serves.count,
      ended.trans serves.ending,by simp,?_⟩,by omega⟩
    exact attachment.imp (fun free => ⟨free,by simp⟩) (fun just => ⟨just.attached,by simp⟩)
  · simp only [if_neg ok]
    refine ⟨⟨by rw [manager]; exact serves.clients,by rw [manager]; exact serves.count,
      ended.trans serves.ending,by simp,?_⟩,?_⟩
    · exact attachment.imp (fun free => ⟨free,by simp⟩) (fun just => ⟨just.attached,by simp⟩)
    · rw [before]
      simp only [CliSession.weight]
      omega

theorem sessionTurn_inv {s : CliSession} {next : Cli} (enumerated : base.devices.Enumerated)
    (serves : s.Serves base ending) (stepped : sessionTurn outcomes s = some next) :
    next.Inv base ending ∧ next.weight + 1 ≤ s.weight := by
  have quit (free : Free base s.server s.client) (pc : s.pc = .loop) :
      Inv base ending (.serving {s with pc := .detach}) ∧
        CliSession.weight {s with pc := .detach} + 1 ≤ s.weight := by
    refine ⟨⟨serves.clients,serves.count,serves.ending,by simp,Or.inl ⟨free,by simp⟩⟩,?_⟩
    rw [CliSession.free_weight free pc]
    simp only [CliSession.weight]
    omega
  cases pc : s.pc with
  | loop =>
    simp only [sessionTurn,pc] at stepped
    rcases serves.attachment with ⟨free,_⟩ | ⟨attached,_⟩
    · simp only [free.state] at stepped
      split at stepped
      next _ =>
        split at stepped
        next _ => cases stepped
        next err server client handled =>
          cases stepped
          exact request_inv enumerated serves free pc handled
      next _ =>
        cases stepped
        exact quit free pc
    · have state : s.client.state = .attached := by
        obtain ⟨_,_,_,holding⟩ := attached
        exact holding.state
      simp only [state] at stepped
      exact urbTurn_inv serves attached (by simp [CliSession.weight,pc]) stepped
  | urb inner =>
    simp only [sessionTurn,pc] at stepped
    rcases serves.attachment with ⟨_,outside⟩ | ⟨attached,_⟩
    · exact absurd pc (outside inner)
    · exact urbTurn_inv serves attached (by simp [CliSession.weight,pc]) stepped
  | detach =>
    simp only [sessionTurn,pc,Option.some.injEq] at stepped
    have detached : Free base (clientDetachDevice s.server s.client outcomes.detaching).1
        (clientDetachDevice s.server s.client outcomes.detaching).2 ∧
        (clientDetachDevice s.server s.client outcomes.detaching).1.manager = s.server.manager ∧
        (clientDetachDevice s.server s.client outcomes.detaching).2.socket = s.client.socket := by
      rcases serves.attachment with ⟨free,_⟩ | ⟨attached,_⟩
      · rw [show clientDetachDevice s.server s.client outcomes.detaching = (s.server,s.client) from
          if_pos free.unattached]
        exact ⟨free,rfl,rfl⟩
      · rw [pc] at attached
        exact detach_spec enumerated attached outcomes.detaching
    obtain ⟨free,manager,socket⟩ := detached
    rw [← stepped]
    refine ⟨⟨by rw [manager]; exact serves.clients,by rw [manager]; exact serves.count,
      by rw [socket]; exact serves.ending,by simp,Or.inl ⟨free,by simp⟩⟩,?_⟩
    simp [weight,CliSession.weight,pc]
  | remove =>
    simp only [sessionTurn,pc,Option.some.injEq] at stepped
    rcases serves.attachment with ⟨free,_⟩ | ⟨_,staying⟩
    · rw [← stepped]
      exact ⟨remove_leaves serves free outcomes.removing,by simp [weight,CliSession.weight,pc]⟩
    · exact absurd pc staying

theorem accept_inv {server : Server} {socket : Socket} {ipAddress : CString 63} {port : UInt16}
    {next : Cli} (enumerated : base.devices.Enumerated)
    (inv : Inv base ending (.accepted server socket ipAddress port))
    (stepped : step outcomes .session (.accepted server socket ipAddress port) = some next) :
    next.Inv base ending ∧ next.weight + 1 ≤ weight (.accepted server socket ipAddress port) := by
  obtain ⟨rfl,ends⟩ := inv
  have restored : server.devices.Restored server.devices := ⟨rfl,enumerated.idle⟩
  have handlers : ∃ retired, server.handlers = server.handlers ++ retired ∧
      ∀ handler ∈ retired, handler.Retired := ⟨[],by simp,by simp⟩
  rcases clientManagerAdd_cases server.manager socket ipAddress port outcomes.alloc with
    ⟨err,id,refused⟩ | ⟨pointer,_,added⟩
  · simp only [step,refused,Option.some.injEq] at stepped
    rw [← stepped]
    exact ⟨⟨rfl,rfl,restored,handlers⟩,by simp [weight]⟩
  · simp only [step,added,Option.some.injEq] at stepped
    rw [← stepped]
    have free : Free server {server with manager := ⟨pointer::server.manager.clients,
        server.manager.clientCount+1,server.manager.nextClientId+1⟩}
        (createClient server.manager.nextClientId socket ipAddress port) :=
      ⟨rfl,rfl,rfl,rfl,restored,handlers⟩
    refine ⟨⟨rfl,rfl,ends,by simp,Or.inl ⟨free,by simp⟩⟩,?_⟩
    simp only [weight]
    rw [CliSession.free_weight free rfl]
    simp [createClient]

theorem worker_inv {s : CliSession} {next : Cli} {outcome : WorkerOutcome}
    (serves : s.Serves base ending)
    (stepped : (s.urbTurn outcomes.messages (.worker outcome)).map .serving = some next) :
    next.Inv base ending ∧ next.weight ≤ s.weight := by
  obtain ⟨after,turned,rfl⟩ := Option.map_eq_some_iff.mp stepped
  rcases serves.attachment with ⟨free,_⟩ | ⟨attached,staying⟩
  · simp [CliSession.urbTurn,CliSession.urbSession,free.handler] at turned
  · obtain ⟨urb,device,moved,view,inv,taken,again,pc,kept⟩ :=
      CliSession.urbTurn_attached serves attached turned
    obtain ⟨same,stays⟩ := UrbSession.worker_weight taken
    refine ⟨kept,?_⟩
    have start : urb.pc = CliSession.urbPc s.pc := CliSession.urbSession_pc view
    have bound := CliSession.weight_ofUrbPc again pc
    rw [stays,start] at pc
    cases here : s.pc with
    | remove => exact absurd here staying
    | detach =>
      rw [here] at pc
      simp [weight,CliSession.weight,pc,here,CliSession.urbPc,CliSession.ofUrbPc]
    | loop =>
      simp only [weight,CliSession.weight,here,view] at bound ⊢
      omega
    | urb inner =>
      simp only [weight,CliSession.weight,here,view] at bound ⊢
      omega

theorem step_inv (enumerated : base.devices.Enumerated) (turn : Turn) (cli next : Cli)
    (inv : cli.Inv base ending) (stepped : step outcomes turn cli = some next) :
    next.Inv base ending ∧ next.weight + (if turn == .session then 1 else 0) ≤ cli.weight := by
  cases cli with
  | accepted server socket ipAddress port =>
    cases turn with
    | session => exact accept_inv enumerated inv stepped
    | worker outcome => cases stepped
    | signal => cases stepped
  | serving s =>
    cases turn with
    | session => exact sessionTurn_inv enumerated inv stepped
    | worker outcome =>
      exact worker_inv inv stepped
    | signal =>
      rw [← Option.some.inj stepped]
      have serves : s.Serves base ending := inv
      exact ⟨⟨serves.clients,serves.count,serves.ending,serves.going,serves.attachment⟩,
        (CliSession.signal_weight s).le⟩
  | finished server => cases turn <;> cases stepped

theorem session_enabled {cli : Cli} (inv : cli.Inv base ending) (ends : ending ≠ .silent)
    (going : ∀ server, cli ≠ .finished server) : ∃ next, step outcomes .session cli = some next := by
  cases cli with
  | accepted server socket ipAddress port =>
    rcases clientManagerAdd_cases server.manager socket ipAddress port outcomes.alloc with
      ⟨err,id,refused⟩ | ⟨pointer,_,added⟩
    · exact ⟨_,by simp only [step,refused]; rfl⟩
    · exact ⟨_,by simp only [step,added]; rfl⟩
  | finished server => exact absurd rfl (going server)
  | serving s =>
    have serves : s.Serves base ending := inv
    have lasting : s.client.socket.ending ≠ .silent := serves.ending ▸ ends
    have branch (attached : Attached base s.server s.client (UrbSession.hold (CliSession.urbPc s.pc)))
        (inside : CliSession.urbPc s.pc ≠ .ended) :
        ∃ next, (s.urbTurn outcomes.messages .session).map Cli.serving = some next := by
      obtain ⟨busid,retired,handler,holding⟩ := attached
      have handlers : s.server.handlers[(base.handlers ++ retired).length]? = some handler := by
        rw [holding.handlers]
        simp
      simp only [CliSession.urbTurn,CliSession.urbSession,holding.pointer,handlers,Option.map_some]
      obtain ⟨next,taken⟩ := UrbSession.sessionStep_enabled outcomes.messages
        ⟨s.client,handler,s.serverRunning,CliSession.urbPc s.pc,s.passes,s.unlinks⟩ lasting inside
      exact ⟨_,by simp only [UrbSession.step,taken]; rfl⟩
    simp only [step]
    cases pc : s.pc with
    | loop =>
      simp only [sessionTurn,pc]
      rcases serves.attachment with ⟨free,_⟩ | ⟨attached,_⟩
      · simp only [free.state]
        split
        next _ =>
          split
          next blocked =>
            have silent : recvRequest s.client.socket = none := by
              simp only [clientHandleRequest] at blocked
              split at blocked
              next none => exact none
              next _ => cases blocked
              next request _ _ => cases request <;> cases blocked
            exact absurd (recvRequest_none silent) lasting
          next _ => exact ⟨_,rfl⟩
        next _ => exact ⟨_,rfl⟩
      · have state : s.client.state = .attached := by
          obtain ⟨_,_,_,holding⟩ := attached
          exact holding.state
        simp only [state]
        exact branch attached (by simp [pc,CliSession.urbPc])
    | urb inner =>
      simp only [sessionTurn,pc]
      rcases serves.attachment with ⟨_,outside⟩ | ⟨attached,_⟩
      · exact absurd pc (outside inner)
      · refine branch attached ?_
        rw [pc]
        rintro rfl
        exact serves.going pc
    | detach => exact ⟨_,by simp only [sessionTurn,pc]; rfl⟩
    | remove => exact ⟨_,by simp only [sessionTurn,pc]; rfl⟩

/-- Serving one client leaves no trace. At every point of its session the
client's fields and the device list agree on what it holds; when the iteration
ends, clients and devices are as before, every device is closed, and every
handler made for it has lost its worker and freed its entries. On a stream that
ends it does end: its turns are bounded and the next one is always possible. -/
theorem cli_iteration_leaves_no_trace (outcomes : CliOutcomes) (server : Server)
    (enumerated : server.devices.Enumerated) (socket : Socket) (ipAddress : CString 63)
    (port : UInt16) {turns : List Turn} {final : Cli}
    (run : Run (step outcomes) (.accepted server socket ipAddress port) turns final) :
    (∀ s, final = .serving s → Consistent s.server s.client) ∧
    (∀ after, final = .finished after →
      after.manager.clients = server.manager.clients ∧
      after.manager.clientCount = server.manager.clientCount ∧
      after.devices.entries.map DeviceEntry.unnumbered =
        server.devices.entries.map DeviceEntry.unnumbered ∧
      (∀ entry ∈ after.devices.entries, entry.device.Closed) ∧
      ∃ retired, after.handlers = server.handlers ++ retired ∧
        ∀ handler ∈ retired, handler.Retired) ∧
    (socket.ending ≠ .silent →
      turns.countP (· == .session) ≤ 4*socket.stream.length + 5 ∧
      ((∀ after, final ≠ .finished after) → ∃ next, step outcomes .session final = some next)) := by
  have kept (turn : Turn) (cli next : Cli) (inv : cli.Inv server socket.ending)
      (stepped : step outcomes turn cli = some next) : next.Inv server socket.ending :=
    (step_inv enumerated turn cli next inv stepped).1
  have inv := run.invariant (Inv server socket.ending) kept ⟨rfl,rfl⟩
  have bound := run.bounded weight (· == .session) (Inv server socket.ending) kept
    (fun turn cli next inv stepped => (step_inv enumerated turn cli next inv stepped).2) ⟨rfl,rfl⟩
  refine ⟨?_,?_,fun ends => ⟨?_,session_enabled inv ends⟩⟩
  · rintro s rfl
    rcases CliSession.Serves.attachment inv with ⟨free,_⟩ | ⟨attached,_⟩
    · exact free.consistent
    · exact attached.consistent enumerated
  · rintro after rfl
    have leaves : Leaves server after := inv
    exact ⟨leaves.clients,leaves.count,
      unnumbered_of_skeleton leaves.devices.skeleton leaves.devices.idle enumerated.idle,
      fun entry member => (leaves.devices.idle entry member).closed,leaves.handlers⟩
  · simp only [weight] at bound
    omega

def keyboardServer : Server := ⟨⟨[],0,1⟩,⟨[sharedKeyboard]⟩,[]⟩

theorem keyboardServer_enumerated : keyboardServer.devices.Enumerated where
  distinct := by decide
  named := by decide
  idle := by
    intro entry member
    rw [List.mem_singleton.mp member]
    exact ⟨⟨rfl,rfl,rfl,rfl,rfl⟩,by decide,rfl,rfl,rfl⟩

def visitor : Socket :=
  ⟨RecvEvent.unread (importRequest sharedKeyboard.busid ++
    (usbipPackHeader (.read 1 4) usbipCmdSubmit).image) [],.closed,[],[]⟩

def willing : CliOutcomes where
  alloc := some 0
  requests := fun _ => ⟨⟨⟨some 1,some 2⟩,true,⟨true,true,true,true⟩,true,0⟩,
    fun _ => ⟨⟨true,false,1,[7]⟩,false⟩⟩
  messages := fun _ => ⟨true,true,true,0,fun _ => 0⟩
  detaching := fun _ => ⟨⟨true,false,1,[7]⟩,false⟩
  removing := fun _ => ⟨⟨true,false,1,[7]⟩,false⟩

theorem cli_iteration_visitor : ∃ after,
    Run (step willing) (.accepted keyboardServer visitor .empty 0) (List.replicate 11 .session)
      (.finished after) ∧
    after.handlers.length = 1 ∧
    after.devices.entries.map DeviceEntry.unnumbered =
      keyboardServer.devices.entries.map DeviceEntry.unnumbered ∧
    ∀ entry ∈ after.devices.entries, entry.device.Closed := by
  obtain ⟨final,run,checked⟩ := run_of_check (step willing) (List.replicate 11 .session)
    (.accepted keyboardServer visitor .empty 0)
    (fun cli => match cli with
      | .finished after => after.handlers.length = 1
      | _ => false) (by decide +kernel)
  cases final with
  | accepted => cases checked
  | serving => cases checked
  | finished after =>
    obtain ⟨_,ends,_⟩ := cli_iteration_leaves_no_trace willing keyboardServer
      keyboardServer_enumerated visitor .empty 0 run
    obtain ⟨_,_,devices,closed,_⟩ := ends after rfl
    exact ⟨after,run,of_decide_eq_true checked,devices,closed⟩

end Cli

end UsbOverNetwork
