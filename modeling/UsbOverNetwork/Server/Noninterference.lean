import UsbOverNetwork.Server.Main

/-! What a client of the command line server can learn about devices that are
not shared. Two servers that offer the same devices answer every client alike,
byte for byte, whatever else is on their lists. -/
namespace UsbOverNetwork
open Runs

namespace DeviceList

structure Alike (first second : DeviceList) : Prop where
  shared : second.entries.filter DeviceEntry.isShared = first.entries.filter DeviceEntry.isShared
  distinct : (first.entries.map DeviceEntry.busid).Nodup
  distinctOther : (second.entries.map DeviceEntry.busid).Nodup

def Offers (list : DeviceList) (busid : Busid) : Prop :=
  ∃ entry, deviceListFind list busid = some entry ∧ entry.isShared = true

variable {first second : DeviceList} {busid : Busid}

theorem find_offered (distinct : (first.entries.map DeviceEntry.busid).Nodup) (busid : Busid) :
    (deviceListFind first busid).filter DeviceEntry.isShared =
      Keyed.find DeviceEntry.busid busid (first.entries.filter DeviceEntry.isShared) :=
  (Keyed.find_filter DeviceEntry.busid distinct DeviceEntry.isShared busid).symm

theorem Alike.find_filter (alike : first.Alike second) (busid : Busid) :
    (deviceListFind second busid).filter DeviceEntry.isShared =
      (deviceListFind first busid).filter DeviceEntry.isShared := by
  rw [find_offered alike.distinctOther,find_offered alike.distinct,alike.shared]

theorem Alike.find (alike : first.Alike second) {entry : DeviceEntry}
    (found : deviceListFind first busid = some entry) (shared : entry.isShared = true) :
    deviceListFind second busid = some entry := by
  have same := alike.find_filter busid
  rw [found,Option.filter,if_pos shared] at same
  exact (Option.filter_eq_some_iff.mp same).1

theorem Alike.modify (alike : first.Alike second) {f : DeviceEntry → DeviceEntry}
    (keeps : ∀ entry, (f entry).busid = entry.busid)
    (shared : ∀ entry, (f entry).isShared = entry.isShared) (busid : Busid) :
    (first.modify busid f).Alike (second.modify busid f) where
  shared := by
    simp only [DeviceList.modify]
    rw [Keyed.filter_modify _ alike.distinct _ _ _ shared,
      Keyed.filter_modify _ alike.distinctOther _ _ _ shared,alike.shared]
  distinct := by rw [busids_modify keeps]; exact alike.distinct
  distinctOther := by rw [busids_modify keeps]; exact alike.distinctOther

theorem Alike.modifyDevice (alike : first.Alike second) {g : UsbDevice → UsbDevice}
    (keeps : ∀ device, (g device).reset = device.reset) (busid : Busid) :
    (first.modifyDevice busid g).Alike (second.modifyDevice busid g) :=
  alike.modify (modifyDevice_busid keeps) (fun _ => rfl) busid

theorem Alike.unexport (alike : first.Alike second) (busid : Busid) :
    (deviceListUnexport first busid).2.Alike (deviceListUnexport second busid).2 := by
  rw [unexport_modify,unexport_modify]
  exact alike.modify (f := DeviceEntry.unexport) (fun _ => rfl) (fun _ => rfl) busid

theorem Offers.modify (offers : first.Offers busid) {f : DeviceEntry → DeviceEntry}
    (keeps : ∀ entry, (f entry).busid = entry.busid)
    (shared : ∀ entry, (f entry).isShared = entry.isShared) (other : Busid) :
    (first.modify other f).Offers busid := by
  obtain ⟨entry,found,offered⟩ := offers
  by_cases same : busid = other
  · exact ⟨f entry,by rw [find_modify keeps,if_pos same,found]; rfl,by rw [shared,offered]⟩
  · exact ⟨entry,by rw [find_modify keeps,if_neg same,found],offered⟩

theorem Alike.attachCheck (alike : first.Alike second) (busid : Busid) :
    attachCheck second busid = attachCheck first busid := by
  have view (list : DeviceList) : UsbOverNetwork.attachCheck list busid =
      ((deviceListFind list busid).filter DeviceEntry.isShared).elim .usbNotFound fun entry =>
        if entry.state ≠ .available then .deviceBusy else .success := by
    simp only [UsbOverNetwork.attachCheck]
    cases deviceListFind list busid with
    | none => rfl
    | some entry => cases shared : entry.isShared <;> simp [Option.filter,shared]
  rw [view,view,alike.find_filter]

theorem Alike.countDevices (alike : first.Alike second) : countDevices second = countDevices first := by
  have view (list : DeviceList) : list.entries.countP DeviceEntry.listed =
      (list.entries.filter DeviceEntry.isShared).countP (·.state = .available) := by
    rw [List.countP_filter]
    congr 1
    funext entry
    rw [DeviceEntry.listed,Bool.and_comm]
  rw [UsbOverNetwork.countDevices,UsbOverNetwork.countDevices,view,view,alike.shared]

end DeviceList

theorem foreachShared_filter {σ : Type} (callback : DeviceEntry → σ → Bool × σ)
    (entries : List DeviceEntry) (data : σ) :
    deviceListForeachShared callback (entries.filter DeviceEntry.isShared) data =
      deviceListForeachShared callback entries data := by
  induction entries generalizing data with
  | nil => rfl
  | cons entry rest ih =>
    cases shared : entry.isShared with
    | false =>
      rw [List.filter_cons_of_neg (by simp [shared]),ih]
      simp [deviceListForeachShared,shared]
    | true =>
      rw [List.filter_cons_of_pos shared]
      simp only [deviceListForeachShared,shared,if_true,ih]

theorem DeviceList.Alike.sendDeviceList {first second : DeviceList} (alike : first.Alike second)
    (client : ClientConnection) :
    clientSendDeviceList second second client = clientSendDeviceList first first client := by
  have walk (data : SendDevlistData) :
      deviceListForeachShared sendDeviceCallback second.entries data =
        deviceListForeachShared sendDeviceCallback first.entries data := by
    rw [← foreachShared_filter,alike.shared,foreachShared_filter]
  simp only [clientSendDeviceList,UsbOverNetwork.sendDeviceList,alike.countDevices,walk]

namespace Server

/-- Two servers that differ only in what they do not share. -/
structure Alike (first second : Server) : Prop where
  manager : second.manager = first.manager
  handlers : second.handlers = first.handlers
  devices : first.devices.Alike second.devices

/-- The handler at a pointer works for a device that is offered. -/
def Offering (server : Server) (pointer : HandlerPtr) : Prop :=
  ∀ handler, server.handlers[pointer]? = some handler → server.devices.Offers handler.device

variable {first second : Server}

theorem Alike.device (alike : first.Alike second) {busid : Busid}
    (offers : first.devices.Offers busid) : second.device busid = first.device busid := by
  obtain ⟨entry,found,shared⟩ := offers
  rw [Server.device,Server.device,found,alike.devices.find found shared]

theorem modify_handlers {handlers : List UrbHandler} {pointer : HandlerPtr}
    {f g : UrbHandler → UrbHandler}
    (same : ∀ handler, handlers[pointer]? = some handler → f handler = g handler) :
    handlers.modify pointer f = handlers.modify pointer g := by
  apply List.ext_getElem?
  intro i
  rw [List.getElem?_modify,List.getElem?_modify]
  by_cases here : pointer = i
  · subst here
    simp only [if_true]
    cases found : handlers[pointer]? with
    | none => rfl
    | some handler => exact congrArg some (same handler found)
  · simp [here]

theorem Alike.modify_handler (alike : first.Alike second) {pointer : HandlerPtr}
    (offering : first.Offering pointer) (f : Option UsbDevice → UrbHandler → UrbHandler) :
    Alike
      {first with
        handlers := first.handlers.modify pointer (fun handler => f (first.device handler.device) handler)}
      {second with
        handlers := second.handlers.modify pointer (fun handler => f (second.device handler.device) handler)} where
  manager := alike.manager
  devices := alike.devices
  handlers := by
    rw [alike.handlers]
    apply modify_handlers
    intro handler found
    rw [alike.device (offering handler found)]

theorem Alike.cleanup (alike : first.Alike second) {pointer : HandlerPtr}
    (offering : first.Offering pointer) (joins : Fin 4 → WorkerOutcome) :
    (cleanupHandler first joins pointer).Alike (cleanupHandler second joins pointer) :=
  alike.modify_handler offering fun device handler => urbHandlerCleanup device joins handler

theorem Alike.stop (alike : first.Alike second) {pointer : HandlerPtr}
    (offering : first.Offering pointer) (joins : Fin 4 → WorkerOutcome) :
    (stopHandler first joins pointer).Alike (stopHandler second joins pointer) :=
  alike.modify_handler offering fun device handler => urbHandlerStop device joins handler

theorem Offering.stop {pointer : HandlerPtr} (offering : first.Offering pointer)
    (joins : Fin 4 → WorkerOutcome) : (stopHandler first joins pointer).Offering pointer := by
  intro handler found
  simp only [stopHandler,List.getElem?_modify_eq,Option.map_eq_map,Option.map_eq_some_iff] at found
  obtain ⟨before,held,rfl⟩ := found
  rw [(urbHandlerStop_keeps joins _ before).1]
  exact offering before held

end Server

variable {first second : Server} {client : ClientConnection}

theorem Server.Alike.modifyDevice (alike : first.Alike second) {g : UsbDevice → UsbDevice}
    (keeps : ∀ device, (g device).reset = device.reset) (busid : Busid) :
    Server.Alike {first with devices := first.devices.modifyDevice busid g}
      {second with devices := second.devices.modifyDevice busid g} :=
  ⟨alike.manager,alike.handlers,alike.devices.modifyDevice keeps busid⟩

structure AlikeAnswer (answer other : ErrorCode × Server × ClientConnection) : Prop where
  err : other.1 = answer.1
  server : answer.2.1.Alike other.2.1
  client : other.2.2 = answer.2.2

/-- The handler of a client, if it has one, works for a device that is offered. -/
def Offered (server : Server) (client : ClientConnection) : Prop :=
  ∀ pointer, client.urbHandler = some pointer → server.Offering pointer

theorem attachHandler_alike (alike : first.Alike second) (busid : Busid) (outcome : AttachOutcome) :
    AlikeAnswer (attachHandler first client busid outcome)
      (attachHandler second client busid outcome) := by
  have failed := alike.modifyDevice releaseAndClose_reset busid
  simp only [attachHandler]
  cases outcome.handlerAlloc with
  | false => exact ⟨rfl,failed,rfl⟩
  | true =>
    cases urbHandlerInit busid outcome.init with
    | error err => exact ⟨rfl,failed,rfl⟩
    | ok handler =>
      simp only [Bool.not_true,Bool.false_eq_true,if_false]
      rcases urbHandlerStart handler outcome.thread with ⟨err,started⟩
      cases err with
      | success =>
        refine ⟨rfl,⟨alike.manager,?_,alike.devices⟩,?_⟩ <;> simp only [alike.handlers]
      | _ => exact ⟨rfl,failed,rfl⟩

theorem attachExport_alike {devices others : DeviceList} (alike : devices.Alike others) {busid : Busid}
    (offers : devices.Offers busid) (client : ClientConnection) (now : UInt64) :
    (attachExport devices client busid now).Alike (attachExport others client busid now) := by
  obtain ⟨entry,found,shared⟩ := offers
  simp only [attachExport,deviceListExport,found,alike.find found shared]
  split
  · exact alike
  · exact alike.modify (f := (·.export client.id client.ipAddress now)) (fun _ => rfl) (fun _ => rfl) busid

theorem attachExport_offers {devices : DeviceList} {busid : Busid} (offers : devices.Offers busid)
    (client : ClientConnection) (now : UInt64) :
    (attachExport devices client busid now).Offers busid := by
  obtain ⟨entry,found,shared⟩ := offers
  simp only [attachExport,deviceListExport,found]
  split
  · exact ⟨entry,found,shared⟩
  · exact DeviceList.Offers.modify (f := (·.export client.id client.ipAddress now))
      ⟨entry,found,shared⟩ (fun _ => rfl) (fun _ => rfl) busid

def attachRest (server : Server) (client : ClientConnection) (busid : Busid)
    (outcome : AttachOutcome) : ErrorCode × Server × ClientConnection :=
  match attachHandler server client busid outcome with
  | (.success,server,client) =>
    let client := attachUpdate client busid
    (.success,{server with devices := attachExport server.devices client busid outcome.now},client)
  | (err,server,client) => (err,server,client)

theorem attachRest_alike (alike : first.Alike second) {busid : Busid}
    (offers : first.devices.Offers busid) (outcome : AttachOutcome) :
    AlikeAnswer (attachRest first client busid outcome) (attachRest second client busid outcome) ∧
    Offered (attachRest first client busid outcome).2.1 (attachRest first client busid outcome).2.2 ∧
    ((attachRest first client busid outcome).1 = .success →
      (attachRest first client busid outcome).2.2.device = some busid ∧
      (attachRest first client busid outcome).2.1.devices.Offers busid) := by
  obtain ⟨err,servers,clients⟩ := @attachHandler_alike _ _ client alike busid outcome
  simp only [attachRest]
  rcases answered : attachHandler second client busid outcome with ⟨result,after,attached⟩
  rw [answered] at err servers clients
  rcases attachHandler_cases first client busid outcome with started | ⟨wrong,failed,stopped⟩
  · simp only [started] at err servers clients ⊢
    subst err clients
    have exported := attachExport_offers offers
      (attachUpdate {client with urbHandler := some first.handlers.length} busid) outcome.now
    refine ⟨⟨rfl,⟨servers.manager,servers.handlers,
      attachExport_alike servers.devices offers _ _⟩,rfl⟩,?_,fun _ => ⟨rfl,exported⟩⟩
    intro pointer held handler found
    cases held
    simp only [List.getElem?_append_right le_rfl,Nat.sub_self,List.getElem?_cons_zero,
      Option.some.injEq] at found
    exact found ▸ exported
  · simp only [stopped] at err servers clients ⊢
    subst err clients
    cases result with
    | success => exact absurd rfl failed
    | _ => exact ⟨⟨rfl,servers,rfl⟩,by simp [Offered],by simp⟩

theorem Offered.modifyDevice (offered : Offered first client) {g : UsbDevice → UsbDevice}
    (keeps : ∀ device, (g device).reset = device.reset) (busid : Busid) :
    Offered {first with devices := first.devices.modifyDevice busid g} client :=
  fun pointer held handler found => (offered pointer held handler found).modify
    (modifyDevice_busid keeps) (fun _ => rfl) busid

/-- An import goes the same way on both servers, and if it goes well its
device is one they offer. -/
theorem attach_alike (alike : first.Alike second) (offered : Offered first client) (busid : Busid)
    (outcome : AttachOutcome) :
    AlikeAnswer (clientAttachDevice first client busid outcome)
      (clientAttachDevice second client busid outcome) ∧
    Offered (clientAttachDevice first client busid outcome).2.1
      (clientAttachDevice first client busid outcome).2.2 ∧
    ((clientAttachDevice first client busid outcome).1 = .success →
      (clientAttachDevice first client busid outcome).2.2.device = some busid ∧
      (clientAttachDevice first client busid outcome).2.1.devices.Offers busid) := by
  simp only [clientAttachDevice,alike.devices.attachCheck busid]
  cases checked : attachCheck first.devices busid with
  | success =>
    obtain ⟨entry,found,shared,_⟩ := attachCheck_success checked
    have keeps := openAndClaim_reset outcome.opened
    have opened := alike.modifyDevice keeps busid
    simp only [attachOpen,found,alike.devices.find found shared]
    cases (openAndClaim outcome.opened entry.device).1 with
    | success =>
      exact attachRest_alike opened (DeviceList.Offers.modify ⟨entry,found,shared⟩
        (modifyDevice_busid keeps) (fun _ => rfl) busid) outcome
    | _ => exact ⟨⟨rfl,opened,rfl⟩,offered.modifyDevice keeps busid,by simp⟩
  | _ => exact ⟨⟨rfl,alike,rfl⟩,offered,by simp⟩

theorem detachHandler_alike (alike : first.Alike second) (offered : Offered first client)
    (joins : Fin 4 → WorkerOutcome) :
    (detachHandler first client joins).1.Alike (detachHandler second client joins).1 ∧
    (detachHandler second client joins).2 = (detachHandler first client joins).2 ∧
    (detachHandler first client joins).2.urbHandler = none := by
  simp only [detachHandler]
  cases held : client.urbHandler with
  | none => exact ⟨alike,rfl,held⟩
  | some pointer =>
    have offering := offered pointer held
    exact ⟨(alike.stop offering joins).cleanup (offering.stop joins) joins,rfl,rfl⟩

theorem detachDevice_alike (alike : first.Alike second) (idle : client.urbHandler = none) :
    (detachDevice first client).1.Alike (detachDevice second client).1 ∧
    (detachDevice second client).2 = (detachDevice first client).2 ∧
    (detachDevice first client).2.urbHandler = none := by
  simp only [detachDevice]
  cases client.device with
  | none => exact ⟨alike,rfl,idle⟩
  | some busid => exact ⟨alike.modifyDevice releaseAndClose_reset busid,rfl,idle⟩

theorem detach_alike (alike : first.Alike second) (offered : Offered first client)
    (joins : Fin 4 → WorkerOutcome) :
    (clientDetachDevice first client joins).1.Alike (clientDetachDevice second client joins).1 ∧
    (clientDetachDevice second client joins).2 = (clientDetachDevice first client joins).2 ∧
    Offered (clientDetachDevice first client joins).1 (clientDetachDevice first client joins).2 := by
  simp only [clientDetachDevice]
  split
  · exact ⟨alike,rfl,offered⟩
  · obtain ⟨handlers,freed,idle⟩ := detachHandler_alike alike offered joins
    obtain ⟨devices,closed,still⟩ := detachDevice_alike handlers idle
    simp only [freed,closed]
    refine ⟨⟨devices.manager,devices.handlers,devices.devices.unexport _⟩,trivial,?_⟩
    intro pointer held
    simp [detachUpdate,still] at held

theorem handleImport_alike (alike : first.Alike second) (offered : Offered first client)
    (busid : Busid) (outcome : RequestOutcome) :
    AlikeAnswer (clientHandleImport first client busid outcome)
      (clientHandleImport second client busid outcome) ∧
    Offered (clientHandleImport first client busid outcome).2.1
      (clientHandleImport first client busid outcome).2.2 := by
  obtain ⟨answers,kept,attached⟩ := attach_alike alike offered busid outcome.attach
  rcases one : clientAttachDevice first client busid outcome.attach with ⟨result,server,mine⟩
  rcases two : clientAttachDevice second client busid outcome.attach with ⟨err,other,served⟩
  rw [one,two] at answers
  rw [one] at kept attached
  obtain ⟨same,servers,clients⟩ := answers
  simp only at same servers clients kept attached
  subst same clients
  simp only [clientHandleImport,one,two]
  split
  next socket _ =>
    by_cases ok : err = .success
    · obtain ⟨device,offers⟩ := attached ok
      have record : importReplyDevice other {served with socket} =
          importReplyDevice server {served with socket} := by
        simp only [importReplyDevice,device,Option.bind_some,servers.device offers]
      simp only [ok,if_true,record]
      split
      next _ => exact ⟨⟨rfl,servers,rfl⟩,kept⟩
      next last _ _ =>
        obtain ⟨after,left,still⟩ := @detach_alike _ _ {served with socket := last} servers kept
          outcome.joins
        exact ⟨⟨rfl,after,left⟩,still⟩
    · simp only [ok,if_false]
      exact ⟨⟨rfl,servers,rfl⟩,kept⟩
  next _ => exact ⟨⟨rfl,servers,rfl⟩,kept⟩

theorem handleRequest_alike (alike : first.Alike second) (offered : Offered first client)
    (outcome : RequestOutcome) {answer : ErrorCode × Server × ClientConnection}
    (handled : clientHandleRequest first client outcome = some answer) :
    ∃ other, clientHandleRequest second client outcome = some other ∧ AlikeAnswer answer other ∧
      Offered answer.2.1 answer.2.2 := by
  simp only [clientHandleRequest] at handled ⊢
  split at handled
  next _ => cases handled
  next err socket _ =>
    cases handled
    exact ⟨_,rfl,⟨rfl,alike,rfl⟩,offered⟩
  next request socket _ =>
    cases request with
    | devlist =>
      cases handled
      simp only [alike.devices.sendDeviceList]
      exact ⟨_,rfl,⟨rfl,alike,rfl⟩,offered⟩
    | «import» busid =>
      cases handled
      exact ⟨_,rfl,@handleImport_alike _ _ {client with socket} alike offered busid outcome⟩
    | unknown =>
      cases handled
      exact ⟨_,rfl,⟨rfl,alike,rfl⟩,offered⟩

theorem urbTurn_alike {messages : Nat → MessageOutcome} {turn : Turn} {s next : CliSession}
    {other : Server} (alike : s.server.Alike other) (offered : Offered s.server s.client)
    (stepped : s.urbTurn messages turn = some next) :
    ∃ after, CliSession.urbTurn messages turn {s with server := other} =
        some {next with server := after} ∧ next.server.Alike after ∧
      Offered next.server next.client := by
  cases held : s.client.urbHandler with
  | none => simp [CliSession.urbTurn,CliSession.urbSession,held] at stepped
  | some pointer =>
    cases found : s.server.handlers[pointer]? with
    | none => simp [CliSession.urbTurn,CliSession.urbSession,held,found] at stepped
    | some handler =>
      have offers := offered pointer held handler found
      simp only [CliSession.urbTurn,CliSession.urbSession,held,found,Option.map_some,
        Option.map_eq_some_iff] at stepped
      obtain ⟨urb,taken,rfl⟩ := stepped
      have flags := UrbSession.step_flags turn _ urb taken
      have same := UrbSession.step_attachment turn _ urb taken
      refine ⟨{other with handlers := other.handlers.set pointer urb.handler},?_,?_,?_⟩
      · simp only [CliSession.urbTurn,CliSession.urbSession,held,alike.handlers,found,
          Option.map_some,alike.device offers,taken]
        simp only [CliSession.putUrbSession,held,alike.handlers]
      · simp only [CliSession.putUrbSession,held]
        exact ⟨alike.manager,congrArg (·.set pointer urb.handler) alike.handlers,alike.devices⟩
      · intro other' kept after read
        have pointers : other' = pointer := Option.some.inj (kept.symm.trans (same.urbHandler.trans held))
        subst pointers
        obtain ⟨bound,_⟩ := List.getElem?_eq_some_iff.mp found
        simp only [CliSession.putUrbSession,held,List.getElem?_set_self bound,Option.some.injEq] at read
        rw [← read,flags.device]
        simpa only [CliSession.putUrbSession,held] using offers

/-- What the client has been sent so far; nothing is sent any more once it is gone. -/
def Cli.sent : Cli → Option (List UInt8)
  | .accepted _ socket _ _ => some socket.sent
  | .serving s => some s.client.socket.sent
  | .finished _ => none

inductive Cli.Alike : Cli → Cli → Prop
  | accepted (server other : Server) (socket ipAddress port) (alike : server.Alike other) :
      Alike (.accepted server socket ipAddress port) (.accepted other socket ipAddress port)
  | serving (s : CliSession) (other : Server) (alike : s.server.Alike other)
      (offered : Offered s.server s.client) :
      Alike (.serving s) (.serving {s with server := other})
  | finished (server other : Server) : Alike (.finished server) (.finished other)

theorem Cli.Alike.sent {cli other : Cli} (alike : cli.Alike other) : other.sent = cli.sent := by
  cases alike <;> rfl

namespace Cli

theorem sessionTurn_alike {outcomes : CliOutcomes} {s : CliSession} {next : Cli} {other : Server}
    (alike : s.server.Alike other) (offered : Offered s.server s.client)
    (stepped : sessionTurn outcomes s = some next) :
    ∃ after, sessionTurn outcomes {s with server := other} = some after ∧ next.Alike after := by
  have urb (turned : (s.urbTurn outcomes.messages .session).map .serving = some next) :
      ∃ after, (CliSession.urbTurn outcomes.messages .session {s with server := other}).map .serving =
        some after ∧ next.Alike after := by
    obtain ⟨session,taken,rfl⟩ := Option.map_eq_some_iff.mp turned
    obtain ⟨server,same,servers,kept⟩ := urbTurn_alike alike offered taken
    exact ⟨_,by rw [same]; rfl,.serving session server servers kept⟩
  cases pc : s.pc with
  | urb inner =>
    simp only [sessionTurn,pc] at stepped ⊢
    exact pc ▸ urb stepped
  | detach =>
    simp only [sessionTurn,pc,Option.some.injEq] at stepped ⊢
    obtain ⟨servers,clients,kept⟩ := detach_alike alike offered outcomes.detaching
    subst stepped
    refine ⟨_,rfl,?_⟩
    rw [clients]
    exact .serving _ _ servers kept
  | remove =>
    simp only [sessionTurn,pc,Option.some.injEq] at stepped ⊢
    subst stepped
    exact ⟨_,rfl,.finished _ _⟩
  | loop =>
    cases state : s.client.state with
    | attached =>
      simp only [sessionTurn,pc,state] at stepped ⊢
      exact pc ▸ urb stepped
    | connected =>
      simp only [sessionTurn,pc,state] at stepped ⊢
      split at stepped
      next running =>
        rw [if_pos running]
        split at stepped
        next _ => cases stepped
        next err server client handled =>
          obtain ⟨⟨_,after,_⟩,same,⟨rfl,servers,rfl⟩,kept⟩ := handleRequest_alike alike offered _ handled
          simp only [same]
          cases stepped
          exact ⟨_,rfl,.serving _ _ servers kept⟩
      next stopped =>
        rw [if_neg stopped]
        cases stepped
        exact ⟨_,rfl,.serving {s with pc := .detach} other alike offered⟩
    | disconnecting =>
      simp only [sessionTurn,pc,state] at stepped ⊢
      split at stepped
      next running =>
        rw [if_pos running]
        cases stepped
        exact ⟨_,rfl,pc ▸ .serving s other alike offered⟩
      next stopped =>
        rw [if_neg stopped]
        cases stepped
        exact ⟨_,rfl,.serving {s with pc := .detach} other alike offered⟩
    | disconnected =>
      simp only [sessionTurn,pc,state] at stepped ⊢
      cases stepped
      exact ⟨_,rfl,.serving {s with pc := .detach} other alike offered⟩

theorem step_alike {outcomes : CliOutcomes} (turn : Turn) (cli next other : Cli)
    (alike : cli.Alike other) (stepped : step outcomes turn cli = some next) :
    ∃ after, step outcomes turn other = some after ∧ next.Alike after := by
  cases alike with
  | finished server other => cases turn <;> cases stepped
  | accepted server other socket ipAddress port alike =>
    cases turn with
    | session =>
      simp only [step,alike.manager] at stepped ⊢
      rcases clientManagerAdd_cases server.manager socket ipAddress port outcomes.alloc with
        ⟨err,id,refused⟩ | ⟨pointer,_,added⟩
      · rw [refused] at stepped
        rw [refused]
        cases stepped
        exact ⟨_,rfl,.finished _ _⟩
      · rw [added] at stepped
        rw [added]
        cases stepped
        refine ⟨_,rfl,.serving _ _ ⟨rfl,alike.handlers,alike.devices⟩ ?_⟩
        intro pointer held
        cases held
    | worker outcome => cases stepped
    | signal => cases stepped
  | serving s other alike offered =>
    cases turn with
    | session => exact sessionTurn_alike alike offered stepped
    | worker outcome =>
      simp only [step] at stepped ⊢
      obtain ⟨session,taken,rfl⟩ := Option.map_eq_some_iff.mp stepped
      obtain ⟨server,same,servers,kept⟩ := urbTurn_alike alike offered taken
      exact ⟨_,by rw [same]; rfl,.serving session server servers kept⟩
    | signal =>
      cases stepped
      exact ⟨_,rfl,.serving {s with serverRunning := false} other alike offered⟩

/-- Whatever the client sends, two servers that differ only in devices they do
not share send it the same bytes; to import such a device is to import one
that does not exist. -/
theorem unshared_invisible (outcomes : CliOutcomes) {first second : Server}
    (alike : first.Alike second) (socket : Socket) (ipAddress : CString 63) (port : UInt16) :
    (∀ turns final, Run (step outcomes) (.accepted first socket ipAddress port) turns final →
      ∃ other, Run (step outcomes) (.accepted second socket ipAddress port) turns other ∧
        other.sent = final.sent) ∧
    ∀ (client : ClientConnection) (outcome : RequestOutcome) (hidden unknown : Busid),
      ¬first.devices.Offers hidden → deviceListFind first.devices unknown = none →
      clientHandleImport first client hidden outcome = clientHandleImport first client unknown outcome := by
  constructor
  · intro turns final run
    obtain ⟨other,matched,same⟩ := run.lockstep Alike step_alike
      (.accepted first second socket ipAddress port alike)
    exact ⟨other,matched,same.sent⟩
  · intro client outcome hidden unknown unshared absent
    have missing : attachCheck first.devices unknown = .usbNotFound := by
      simp only [attachCheck,absent]
    have concealed : attachCheck first.devices hidden = .usbNotFound := by
      simp only [attachCheck]
      cases found : deviceListFind first.devices hidden with
      | none => rfl
      | some entry =>
        cases shared : entry.isShared with
        | false => simp [shared]
        | true => exact absurd ⟨entry,found,shared⟩ unshared
    have same : clientAttachDevice first client hidden outcome.attach =
        clientAttachDevice first client unknown outcome.attach := by
      simp only [clientAttachDevice,missing,concealed]
    simp only [clientHandleImport,same]

/-- The keyboard's server with a second device that it keeps to itself. -/
def secretiveServer : Server :=
  {keyboardServer with devices := ⟨[{sharedKeyboard with
    device := .keyboard ⟨[0x33,0x2d,0x31],by decide,by decide⟩
    isShared := false},sharedKeyboard]⟩}

theorem secretiveServer_alike : keyboardServer.Alike secretiveServer :=
  ⟨rfl,rfl,by decide,by decide,by decide⟩

theorem unshared_invisible_keyboard : ∃ final other,
    Run (step willing) (.accepted keyboardServer visitor .empty 0) (List.replicate 5 .session) final ∧
    Run (step willing) (.accepted secretiveServer visitor .empty 0) (List.replicate 5 .session) other ∧
    final.sent.map List.length = some 320 ∧ other.sent = final.sent := by
  obtain ⟨final,run,checked⟩ := run_of_check (step willing) (List.replicate 5 .session)
    (.accepted keyboardServer visitor .empty 0)
    (fun cli => cli.sent.map List.length = some 320) (by decide +kernel)
  obtain ⟨other,matched,same⟩ := (unshared_invisible willing secretiveServer_alike visitor .empty
    0).1 _ _ run
  exact ⟨final,other,run,matched,of_decide_eq_true checked,same⟩

end Cli

end UsbOverNetwork
