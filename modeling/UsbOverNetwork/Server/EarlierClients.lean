import UsbOverNetwork.Server.ImportUndo
import UsbOverNetwork.Server.LoopSimulation

/-! What a client of the command line server can learn about the clients before
it. Earlier sessions leave used up ids, dead handlers and interface numbers
behind; no reply and no transfer depends on them, so that a server between two
clients answers all who come as it would have answered them at its start. -/
namespace UsbOverNetwork
open Runs

namespace UsbDevice

variable {device other : UsbDevice}

theorem settled_cases (same : other.settled = device.settled) :
    other = device ∨ device.isClaimed = false ∧ ∃ number, other = {device with claimedInterface := number} := by
  have kept (device : UsbDevice) : device.settled.isClaimed = device.isClaimed := by
    rw [settled]
    split <;> rfl
  have claims := congrArg isClaimed same
  rw [kept,kept] at claims
  by_cases claimed : device.isClaimed = true
  · left
    rwa [settled,if_pos (claims.trans claimed),settled,if_pos claimed] at same
  · right
    rw [settled,if_neg (claims ▸ claimed),settled,if_neg claimed] at same
    refine ⟨by simpa using claimed,other.claimedInterface,?_⟩
    cases device
    cases other
    cases same
    rfl

/-- A device's interface number while it is unclaimed does not show in the
result of `g`. -/
def Settling (g : UsbDevice → UsbDevice) : Prop :=
  ∀ device other, other.settled = device.settled → (g other).settled = (g device).settled

theorem settling_of {g : UsbDevice → UsbDevice} (unclaimed : ∀ (device : UsbDevice) (number : Int),
    device.isClaimed = false → (g {device with claimedInterface := number}).settled = (g device).settled) :
    Settling g := by
  intro device other same
  rcases settled_cases same with rfl | ⟨free,number,rfl⟩
  · rfl
  · exact unclaimed device number free

theorem Settling.comp {f g : UsbDevice → UsbDevice} (outer : Settling f) (inner : Settling g) :
    Settling (f ∘ g) :=
  fun device other same => outer _ _ (inner device other same)

end UsbDevice

theorem usbCloseDevice_settling : UsbDevice.Settling usbCloseDevice := by
  apply UsbDevice.settling_of
  intro device number free
  simp only [usbCloseDevice,free]
  split
  · simp [UsbDevice.settled,free]
  · simp only [Bool.false_eq_true,if_false]
    split <;> simp [UsbDevice.settled,free]

theorem releaseAndClose_settling : UsbDevice.Settling releaseAndClose := by
  refine usbCloseDevice_settling.comp (UsbDevice.settling_of ?_)
  intro device number free
  simp only [usbReleaseInterface,free]
  split <;> simp [UsbDevice.settled,free]

theorem openAndClaim_unclaimed (outcome : OpenOutcome) (device : UsbDevice) (number : Int)
    (free : device.isClaimed = false) :
    (openAndClaim outcome {device with claimedInterface := number}).1 = (openAndClaim outcome device).1 ∧
      (openAndClaim outcome {device with claimedInterface := number}).2.settled =
        (openAndClaim outcome device).2.settled := by
  simp only [openAndClaim,usbOpenDevice]
  by_cases blank : device.path.chars = []
  · simp [blank,UsbDevice.settled,free]
  · cases isOpen : device.isOpen with
    | true => simp [blank,usbClaimInterface,free,isOpen]
    | false =>
      cases outcome.file with
      | none => simp [blank,usbClaimInterface,free]
      | some file => cases outcome.winusb <;> simp [blank,usbClaimInterface,free]

theorem openAndClaim_same (outcome : OpenOutcome) {device other : UsbDevice}
    (same : other.settled = device.settled) :
    (openAndClaim outcome other).1 = (openAndClaim outcome device).1 ∧
      (openAndClaim outcome other).2.settled = (openAndClaim outcome device).2.settled := by
  rcases UsbDevice.settled_cases same with rfl | ⟨free,number,rfl⟩
  · exact ⟨rfl,rfl⟩
  · exact openAndClaim_unclaimed outcome device number free

/-- What a client may be shown of an entry: neither whom it is lent to nor the
number of an interface nobody has claimed. -/
def DeviceEntry.shown (entry : DeviceEntry) : DeviceEntry := {entry.settled with clientId := 0}

namespace DeviceEntry

variable {entry other : DeviceEntry}

theorem shown_eq (device : other.device.settled = entry.device.settled) (state : other.state = entry.state)
    (clientIp : other.clientIp = entry.clientIp) (exportTime : other.exportTime = entry.exportTime)
    (isShared : other.isShared = entry.isShared) : other.shown = entry.shown := by
  simp only [shown,settled,device,state,clientIp,exportTime,isShared]

theorem busid_shown (entry : DeviceEntry) : entry.shown.busid = entry.busid := by
  simp only [shown,settled,busid,UsbDevice.settled]
  split <;> rfl

structure Alike (entry other : DeviceEntry) : Prop where
  device : other.device.settled = entry.device.settled
  state : other.state = entry.state
  clientIp : other.clientIp = entry.clientIp
  exportTime : other.exportTime = entry.exportTime
  isShared : other.isShared = entry.isShared

theorem alike_of_shown (same : other.shown = entry.shown) : entry.Alike other := by
  simp only [shown,settled,DeviceEntry.mk.injEq] at same
  obtain ⟨device,state,_,clientIp,exportTime,isShared⟩ := same
  exact ⟨device,state,clientIp,exportTime,isShared⟩

theorem Alike.isOpen (alike : entry.Alike other) : other.device.isOpen = entry.device.isOpen := by
  rcases UsbDevice.settled_cases alike.device with same | ⟨_,_,same⟩ <;> rw [same]

theorem Alike.record (alike : entry.Alike other) :
    usbDeviceToUsbip other.device = usbDeviceToUsbip entry.device ∧
      other.device.sentInterfaces = entry.device.sentInterfaces := by
  rcases UsbDevice.settled_cases alike.device with same | ⟨_,_,same⟩ <;> rw [same] <;> exact ⟨rfl,rfl⟩

theorem sendDeviceCallback_shown (entry : DeviceEntry) (data : SendDevlistData) :
    sendDeviceCallback entry.shown data = sendDeviceCallback entry data := by
  have settled : entry.device.settled.settled = entry.device.settled := by
    cases claimed : entry.device.isClaimed <;> simp [UsbDevice.settled,claimed]
  have alike : entry.Alike entry.shown := ⟨settled,rfl,rfl,rfl,rfl⟩
  simp only [sendDeviceCallback,alike.record]

end DeviceEntry

namespace DeviceList

def Matches (first second : DeviceList) : Prop :=
  second.entries.map DeviceEntry.shown = first.entries.map DeviceEntry.shown

variable {first second : DeviceList} {busid : Busid}

theorem Matches.find (same : first.Matches second) (busid : Busid) :
    deviceListFind first busid = none ∧ deviceListFind second busid = none ∨
      ∃ entry other, deviceListFind first busid = some entry ∧
        deviceListFind second busid = some other ∧ entry.Alike other := by
  have view (list : DeviceList) : Keyed.find DeviceEntry.busid busid (list.entries.map DeviceEntry.shown) =
      (deviceListFind list busid).map DeviceEntry.shown :=
    Keyed.find_map _ _ DeviceEntry.busid_shown busid _
  have both := (view second).symm.trans ((congrArg _ same).trans (view first))
  cases found : deviceListFind first busid with
  | none =>
    rw [found,Option.map_none,Option.map_eq_none_iff] at both
    exact Or.inl ⟨rfl,both⟩
  | some entry =>
    rw [found] at both
    obtain ⟨other,here,shown⟩ := Option.map_eq_some_iff.mp both
    exact Or.inr ⟨entry,other,rfl,here,DeviceEntry.alike_of_shown shown⟩

theorem Matches.modify (same : first.Matches second) {f g : DeviceEntry → DeviceEntry}
    (agree : ∀ entry other, entry.Alike other → (g other).shown = (f entry).shown) (busid : Busid) :
    (first.modify busid f).Matches (second.modify busid g) :=
  Keyed.map_modify_both _ DeviceEntry.busid_shown busid
    (fun entry other shown => agree entry other (DeviceEntry.alike_of_shown shown)) same

theorem Matches.modifyDevice (same : first.Matches second) {g : UsbDevice → UsbDevice}
    (settling : UsbDevice.Settling g) (busid : Busid) :
    (first.modifyDevice busid g).Matches (second.modifyDevice busid g) := by
  apply same.modify
  intro entry other alike
  exact DeviceEntry.shown_eq (settling _ _ alike.device) alike.state alike.clientIp alike.exportTime
    alike.isShared

theorem Matches.export (same : first.Matches second) (busid : Busid) (mine theirs : UInt32)
    (clientIp : CString 63) (now : UInt64) :
    (deviceListExport first busid mine clientIp now).2.Matches
      (deviceListExport second busid theirs clientIp now).2 := by
  simp only [deviceListExport]
  rcases same.find busid with ⟨absent,missing⟩ | ⟨entry,other,found,here,alike⟩
  · simp only [absent,missing]
    exact same
  · simp only [found,here,alike.state]
    split
    · exact same
    · apply same.modify
      intro entry other alike
      exact DeviceEntry.shown_eq alike.device rfl rfl rfl alike.isShared

theorem Matches.unexport (same : first.Matches second) (busid : Busid) :
    (deviceListUnexport first busid).2.Matches (deviceListUnexport second busid).2 := by
  rw [unexport_modify,unexport_modify]
  apply same.modify
  intro entry other alike
  exact DeviceEntry.shown_eq alike.device rfl rfl rfl alike.isShared

theorem Matches.attachCheck (same : first.Matches second) (busid : Busid) :
    attachCheck second busid = attachCheck first busid := by
  simp only [UsbOverNetwork.attachCheck]
  rcases same.find busid with ⟨absent,missing⟩ | ⟨entry,other,found,here,alike⟩
  · rw [absent,missing]
  · simp only [found,here,alike.isShared,alike.state]

theorem Matches.attachOpen (same : first.Matches second) (busid : Busid) (outcome : OpenOutcome) :
    (attachOpen second busid outcome).1 = (attachOpen first busid outcome).1 ∧
      (attachOpen first busid outcome).2.Matches (attachOpen second busid outcome).2 := by
  simp only [UsbOverNetwork.attachOpen]
  rcases same.find busid with ⟨absent,missing⟩ | ⟨entry,other,found,here,alike⟩
  · simp only [absent,missing]
    exact ⟨trivial,same⟩
  · simp only [found,here]
    exact ⟨(openAndClaim_same outcome alike.device).1,
      same.modifyDevice (fun _ _ settled => (openAndClaim_same outcome settled).2) busid⟩

theorem foreachShared_shown (entries : List DeviceEntry) (data : SendDevlistData) :
    deviceListForeachShared sendDeviceCallback (entries.map DeviceEntry.shown) data =
      deviceListForeachShared sendDeviceCallback entries data := by
  induction entries generalizing data with
  | nil => rfl
  | cons entry rest ih =>
    simp only [List.map_cons,deviceListForeachShared,DeviceEntry.sendDeviceCallback_shown,ih]
    rfl

theorem Matches.sendDeviceList (same : first.Matches second) (socket : Socket) :
    sendDeviceList second socket (countDevices second) = sendDeviceList first socket (countDevices first) := by
  have walk (data : SendDevlistData) :
      deviceListForeachShared sendDeviceCallback second.entries data =
        deviceListForeachShared sendDeviceCallback first.entries data := by
    rw [← foreachShared_shown,same,foreachShared_shown]
  have listed (list : DeviceList) : (list.entries.map DeviceEntry.shown).countP DeviceEntry.listed =
      list.entries.countP DeviceEntry.listed := List.countP_map
  have count : countDevices second = countDevices first := by
    rw [countDevices,countDevices,← listed second,same,listed]
  simp only [UsbOverNetwork.sendDeviceList,count,walk]

end DeviceList

section Worker

variable {device other : Option UsbDevice} (same : other.any UsbDevice.isOpen = device.any UsbDevice.isOpen)

include same

theorem usbSubmitUrb_open (urb : UsbUrb) (outcome : TransferOutcome) :
    usbSubmitUrb other urb outcome = usbSubmitUrb device urb outcome := by
  simp only [usbSubmitUrb,same]

theorem urbWorkerStep_open (outcome : WorkerOutcome) (handler : UrbHandler) :
    urbWorkerStep other outcome handler = urbWorkerStep device outcome handler := by
  simp only [urbWorkerStep,UrbEntry.executed,usbSubmitUrb_open same]

theorem urbHandlerStop_open (joins : Fin 4 → WorkerOutcome) (handler : UrbHandler) :
    urbHandlerStop other joins handler = urbHandlerStop device joins handler := by
  simp only [urbHandlerStop,workerJoin,urbWorkerStep_open same]

theorem urbHandlerCleanup_open (joins : Fin 4 → WorkerOutcome) (handler : UrbHandler) :
    urbHandlerCleanup other joins handler = urbHandlerCleanup device joins handler := by
  simp only [urbHandlerCleanup,urbHandlerStop_open same]

theorem urbStep_open (messages : Nat → MessageOutcome) (turn : Turn) (urb : UrbSession) :
    UrbSession.step other messages turn urb = UrbSession.step device messages turn urb := by
  cases turn with
  | worker outcome => simp only [UrbSession.step,urbWorkerStep_open same]
  | session => rfl
  | signal => rfl

end Worker

/-- The handlers that two servers had before the sessions compared. -/
structure Past where
  first : List UrbHandler
  second : List UrbHandler

/-- Two servers that have served different clients: beside what clients are not
shown, their ids and their old handlers differ. -/
structure Server.Matches (past : Past) (first second : Server) : Prop where
  clients : second.manager.clients = first.manager.clients
  count : second.manager.clientCount = first.manager.clientCount
  devices : first.devices.Matches second.devices
  handlers : ∃ own, first.handlers = past.first ++ own ∧ second.handlers = past.second ++ own

def ClientConnection.renumbered (client : ClientConnection) (id : UInt32)
    (urbHandler : Option HandlerPtr) : ClientConnection := {client with id, urbHandler}

def ClientConnection.Matches (past : Past) (client other : ClientConnection) : Prop :=
  ∃ id turn, client.urbHandler = Option.map (past.first.length + ·) turn ∧
    other = client.renumbered id (turn.map (past.second.length + ·))

variable {past : Past} {first second : Server} {client other : ClientConnection}

namespace Server

theorem Matches.device (servers : first.Matches past second) (busid : Busid) :
    (second.device busid).any UsbDevice.isOpen = (first.device busid).any UsbDevice.isOpen ∧
      (second.device busid).map usbDeviceToUsbip = (first.device busid).map usbDeviceToUsbip := by
  simp only [Server.device]
  rcases servers.devices.find busid with ⟨absent,missing⟩ | ⟨entry,other,found,here,alike⟩
  · rw [absent,missing]
    exact ⟨rfl,rfl⟩
  · rw [found,here]
    exact ⟨alike.isOpen,congrArg some alike.record.1⟩

theorem Matches.putDevices (servers : first.Matches past second) {devices others : DeviceList}
    (same : devices.Matches others) :
    Server.Matches past {first with devices} {second with devices := others} :=
  ⟨servers.clients,servers.count,same,servers.handlers⟩

theorem Matches.modifyHandler (servers : first.Matches past second) (turn : Nat)
    {f : Option UsbDevice → UrbHandler → UrbHandler}
    (opened : ∀ device other : Option UsbDevice, other.any UsbDevice.isOpen = device.any UsbDevice.isOpen →
      ∀ handler, f other handler = f device handler) :
    Server.Matches past
      {first with
        handlers := first.handlers.modify (past.first.length+turn)
          (fun handler => f (first.device handler.device) handler)}
      {second with
        handlers := second.handlers.modify (past.second.length+turn)
          (fun handler => f (second.device handler.device) handler)} := by
  obtain ⟨own,mine,theirs⟩ := servers.handlers
  refine ⟨servers.clients,servers.count,servers.devices,
    own.modify turn fun handler => f (first.device handler.device) handler,?_,?_⟩
  · rw [mine]
    exact List.modifyTailIdx_add _ turn past.first own
  · have same : (fun handler : UrbHandler => f (second.device handler.device) handler) =
        fun handler => f (first.device handler.device) handler := by
      funext handler
      exact opened _ _ (servers.device handler.device).1 handler
    rw [theirs,same]
    exact List.modifyTailIdx_add _ turn past.second own

end Server

structure MatchingAnswer (past : Past) (answer other : ErrorCode × Server × ClientConnection) :
    Prop where
  err : other.1 = answer.1
  server : answer.2.1.Matches past other.2.1
  client : answer.2.2.Matches past other.2.2

theorem attachHandler_matches (servers : first.Matches past second) (clients : client.Matches past other)
    (busid : Busid) (outcome : AttachOutcome) :
    MatchingAnswer past (attachHandler first client busid outcome)
      (attachHandler second other busid outcome) := by
  have failed := servers.putDevices (servers.devices.modifyDevice releaseAndClose_settling busid)
  obtain ⟨id,turn,held,rfl⟩ := clients
  simp only [attachHandler]
  cases outcome.handlerAlloc with
  | false => exact ⟨rfl,failed,id,none,rfl,rfl⟩
  | true =>
    cases urbHandlerInit busid outcome.init with
    | error err => exact ⟨rfl,failed,id,none,rfl,rfl⟩
    | ok handler =>
      simp only [Bool.not_true,Bool.false_eq_true,if_false]
      rcases urbHandlerStart handler outcome.thread with ⟨err,started⟩
      cases err with
      | success =>
        obtain ⟨own,mine,theirs⟩ := servers.handlers
        refine ⟨rfl,⟨servers.clients,servers.count,servers.devices,own ++ [started],?_,?_⟩,id,
          some own.length,?_,?_⟩
        · simp only [mine,List.append_assoc]
        · simp only [theirs,List.append_assoc]
        · simp only [mine,List.length_append,Option.map_some]
        · simp only [theirs,List.length_append,Option.map_some]
          rfl
      | _ => exact ⟨rfl,failed,id,none,rfl,rfl⟩

theorem attach_matches (servers : first.Matches past second) (clients : client.Matches past other)
    (busid : Busid) (outcome : AttachOutcome) :
    MatchingAnswer past (clientAttachDevice first client busid outcome)
      (clientAttachDevice second other busid outcome) := by
  simp only [clientAttachDevice,servers.devices.attachCheck busid]
  cases attachCheck first.devices busid with
  | success =>
    obtain ⟨err,opened⟩ := servers.devices.attachOpen busid outcome.opened
    rcases one : attachOpen first.devices busid outcome.opened with ⟨result,devices⟩
    rcases two : attachOpen second.devices busid outcome.opened with ⟨again,others⟩
    simp only [one,two] at err opened
    subst err
    cases again with
    | success =>
      obtain ⟨same,left,served⟩ := attachHandler_matches (servers.putDevices opened) clients busid outcome
      rcases three : attachHandler {first with devices} client busid outcome with ⟨failure,mine,one⟩
      rcases four : attachHandler {second with devices := others} other busid outcome with
        ⟨again,theirs,two⟩
      simp only [three,four] at same left served ⊢
      subst same
      cases again with
      | success =>
        obtain ⟨id,turn,held,rfl⟩ := served
        exact ⟨rfl,left.putDevices (left.devices.export busid one.id id one.ipAddress outcome.now),
          id,turn,held,rfl⟩
      | _ => exact ⟨rfl,left,served⟩
    | _ => exact ⟨rfl,servers.putDevices opened,clients⟩
  | _ => exact ⟨rfl,servers,clients⟩

structure MatchingRest (past : Past) (rest other : Server × ClientConnection) : Prop where
  server : rest.1.Matches past other.1
  client : rest.2.Matches past other.2

theorem detachHandler_matches (servers : first.Matches past second) (clients : client.Matches past other)
    (joins : Fin 4 → WorkerOutcome) :
    MatchingRest past (detachHandler first client joins) (detachHandler second other joins) := by
  obtain ⟨id,turn,held,rfl⟩ := clients
  cases turn with
  | none =>
    simp only [detachHandler,held,ClientConnection.renumbered,Option.map_none]
    exact ⟨servers,id,none,held,rfl⟩
  | some turn =>
    simp only [detachHandler,held,ClientConnection.renumbered,Option.map_some]
    have stopped := servers.modifyHandler turn fun _ _ same => urbHandlerStop_open same joins
    exact ⟨stopped.modifyHandler turn fun _ _ same => urbHandlerCleanup_open same joins,id,none,rfl,rfl⟩

theorem detachDevice_matches (servers : first.Matches past second) (clients : client.Matches past other) :
    MatchingRest past (detachDevice first client) (detachDevice second other) := by
  obtain ⟨id,turn,held,rfl⟩ := clients
  cases lent : client.device with
  | none =>
    simp only [detachDevice,ClientConnection.renumbered,lent]
    exact ⟨servers,id,turn,held,by simp only [ClientConnection.renumbered,lent]⟩
  | some busid =>
    simp only [detachDevice,ClientConnection.renumbered,lent]
    exact ⟨servers.putDevices (servers.devices.modifyDevice releaseAndClose_settling busid),
      id,turn,held,rfl⟩

theorem detach_matches (servers : first.Matches past second) (clients : client.Matches past other)
    (joins : Fin 4 → WorkerOutcome) :
    MatchingRest past (clientDetachDevice first client joins) (clientDetachDevice second other joins) := by
  have attached : other.attachedBusid = client.attachedBusid := by
    obtain ⟨_,_,_,rfl⟩ := clients
    rfl
  simp only [clientDetachDevice,attached]
  split
  · exact ⟨servers,clients⟩
  · obtain ⟨stopped,freed⟩ := detachHandler_matches servers clients joins
    obtain ⟨closed,left⟩ := detachDevice_matches stopped freed
    obtain ⟨id,turn,held,same⟩ := left
    simp only [same,detachUnexport]
    exact ⟨closed.putDevices (closed.devices.unexport _),id,turn,held,rfl⟩

theorem handleImport_matches (servers : first.Matches past second) (clients : client.Matches past other)
    (busid : Busid) (outcome : RequestOutcome) :
    MatchingAnswer past (clientHandleImport first client busid outcome)
      (clientHandleImport second other busid outcome) := by
  obtain ⟨same,left,served⟩ := attach_matches servers clients busid outcome.attach
  rcases one : clientAttachDevice first client busid outcome.attach with ⟨result,mine,client⟩
  rcases two : clientAttachDevice second other busid outcome.attach with ⟨err,theirs,other⟩
  simp only [one,two] at same left served
  subst same
  obtain ⟨id,turn,held,rfl⟩ := served
  have record (socket : Socket) : importReplyDevice theirs {client.renumbered id
      (turn.map (past.second.length + ·)) with socket} = importReplyDevice mine {client with socket} := by
    simp only [importReplyDevice,ClientConnection.renumbered]
    cases client.device with
    | none => rfl
    | some busid =>
      have shown := (left.device busid).2
      cases first : mine.device busid <;> cases second : theirs.device busid <;> simp_all
  simp only [clientHandleImport,one,two]
  have sockets : (client.renumbered id (turn.map (past.second.length + ·))).socket = client.socket := rfl
  rw [sockets]
  split
  next socket _ =>
    by_cases ok : err = .success
    · simp only [ok,if_true,record]
      split
      next last _ => exact ⟨rfl,left,id,turn,held,rfl⟩
      next last _ _ =>
        obtain ⟨closed,gone⟩ := @detach_matches past mine theirs {client with socket := last}
          {client.renumbered id (turn.map (past.second.length + ·)) with socket := last} left
          ⟨id,turn,held,rfl⟩ outcome.joins
        exact ⟨rfl,closed,gone⟩
    · simp only [if_neg ok]
      exact ⟨rfl,left,id,turn,held,rfl⟩
  next _ => exact ⟨rfl,left,id,turn,held,rfl⟩

theorem handleRequest_matches (servers : first.Matches past second) (clients : client.Matches past other)
    (outcome : RequestOutcome) {answer : ErrorCode × Server × ClientConnection}
    (handled : clientHandleRequest first client outcome = some answer) :
    ∃ theirs, clientHandleRequest second other outcome = some theirs ∧
      MatchingAnswer past answer theirs := by
  obtain ⟨id,turn,held,rfl⟩ := clients
  have sockets : (client.renumbered id (turn.map (past.second.length + ·))).socket = client.socket := rfl
  simp only [clientHandleRequest,sockets] at handled ⊢
  split at handled
  next _ => cases handled
  next err socket _ =>
    cases handled
    exact ⟨_,rfl,rfl,servers,id,turn,held,rfl⟩
  next request socket _ =>
    have going : ClientConnection.Matches past {client with socket}
        {client.renumbered id (turn.map (past.second.length + ·)) with socket} := ⟨id,turn,held,rfl⟩
    cases request with
    | devlist =>
      cases handled
      simp only [clientSendDeviceList,servers.devices.sendDeviceList]
      exact ⟨_,rfl,rfl,servers,id,turn,held,rfl⟩
    | «import» busid =>
      cases handled
      exact ⟨_,rfl,handleImport_matches servers going busid outcome⟩
    | unknown =>
      cases handled
      exact ⟨_,rfl,rfl,servers,going⟩

section Loop

variable (id : UInt32) (urbHandler : Option HandlerPtr)

theorem sendCompletion_renumbered (client : ClientConnection) (entry : UrbEntry) (stale : Nat → UInt8) :
    clientSendUrbCompletion (client.renumbered id urbHandler) entry stale =
      ((clientSendUrbCompletion client entry stale).1,(clientSendUrbCompletion client entry stale).2.1,
        (clientSendUrbCompletion client entry stale).2.2.renumbered id urbHandler) := by
  simp only [clientSendUrbCompletion,ClientConnection.renumbered]
  split
  next _ =>
    split
    · split <;> rfl
    · rfl
  next _ => rfl

def UrbSession.renumbered (urb : UrbSession) : UrbSession :=
  {urb with client := urb.client.renumbered id urbHandler}

theorem urbStep_renumbered (device : Option UsbDevice) (messages : Nat → MessageOutcome) (turn : Turn)
    (urb : UrbSession) :
    UrbSession.step device messages turn (urb.renumbered id urbHandler) =
      (UrbSession.step device messages turn urb).map (·.renumbered id urbHandler) := by
  obtain ⟨client,handler,serverRunning,pc,passes,unlinks⟩ := urb
  cases turn with
  | worker outcome => rfl
  | signal => rfl
  | session =>
    have state : (client.renumbered id urbHandler).state = client.state := rfl
    have socket : (client.renumbered id urbHandler).socket = client.socket := rfl
    simp only [UrbSession.step,UrbSession.sessionStep,UrbSession.renumbered,state,socket]
    cases pc with
    | loop =>
      simp only
      split <;> rfl
    | recv =>
      simp only
      cases usbipRecvUrbHeader client.socket with
      | none => rfl
      | some read => rcases read with ⟨_ | _,_⟩ <;> rfl
    | submit header =>
      simp only
      split
      · split
        · rfl
        · cases usbipRecvUrbData client.socket header.u.transferBufferLength with
          | none => rfl
          | some read => rcases read with ⟨_ | _,_⟩ <;> rfl
      · rfl
    | forward header data =>
      simp only [clientForwardUrb,ClientConnection.renumbered,Option.map_some]
    | drain =>
      simp only
      rcases urbHandlerGetCompleted handler with ⟨_ | _,_⟩ <;> rfl
    | reply entry =>
      simp only [sendCompletion_renumbered,Option.map_some]
    | unlink header =>
      simp only
      rcases urbHandlerUnlinkRemove _ _ with ⟨_ | _,_⟩ <;> rfl
    | unlinkPush header entry => rfl
    | unlinkReply header removed =>
      simp only [ClientConnection.renumbered,Option.map_some]
    | ended => rfl

end Loop

inductive Cli.Matches (past : Past) : Cli → Cli → Prop
  | accepted (server other : Server) (socket ipAddress port) (servers : server.Matches past other) :
      Matches past (.accepted server socket ipAddress port) (.accepted other socket ipAddress port)
  | serving (s : CliSession) (server : Server) (client : ClientConnection)
      (servers : s.server.Matches past server) (clients : s.client.Matches past client) :
      Matches past (.serving s) (.serving {s with server, client})
  | finished (server other : Server) (servers : server.Matches past other) :
      Matches past (.finished server) (.finished other)

theorem Cli.Matches.sent {cli seen : Cli} (same : cli.Matches past seen) : seen.sent = cli.sent := by
  cases same with
  | accepted => rfl
  | serving s server client servers clients =>
    obtain ⟨_,_,_,rfl⟩ := clients
    rfl
  | finished => rfl

theorem urbTurn_matches {messages : Nat → MessageOutcome} {turn : Turn} {s next : CliSession}
    {server : Server} {client : ClientConnection} (servers : s.server.Matches past server)
    (clients : s.client.Matches past client) (stepped : s.urbTurn messages turn = some next) :
    ∃ after left, CliSession.urbTurn messages turn {s with server, client} =
        some {next with server := after, client := left} ∧
      next.server.Matches past after ∧ next.client.Matches past left := by
  obtain ⟨id,own,held,rfl⟩ := clients
  obtain ⟨handlers,mine,theirs⟩ := servers.handlers
  cases own with
  | none => simp [CliSession.urbTurn,CliSession.urbSession,held] at stepped
  | some place =>
    have pointer : s.server.handlers[past.first.length+place]? = handlers[place]? := by
      rw [mine,List.getElem?_append_right (Nat.le_add_right _ _),Nat.add_sub_cancel_left]
    have there : server.handlers[past.second.length+place]? = handlers[place]? := by
      rw [theirs,List.getElem?_append_right (Nat.le_add_right _ _),Nat.add_sub_cancel_left]
    simp only [Option.map_some] at held ⊢
    simp only [CliSession.urbTurn,CliSession.urbSession,held,pointer] at stepped
    cases found : handlers[place]? with
    | none => simp [found] at stepped
    | some handler =>
      simp only [found,Option.map_some,Option.map_eq_some_iff] at stepped
      obtain ⟨urb,taken,rfl⟩ := stepped
      have kept := (UrbSession.step_attachment turn _ urb taken).urbHandler
      have again := urbStep_renumbered id (some (past.second.length+place))
        (s.server.device handler.device) messages turn
        ⟨s.client,handler,s.serverRunning,CliSession.urbPc s.pc,s.passes,s.unlinks⟩
      rw [taken,← urbStep_open (servers.device handler.device).1] at again
      refine ⟨{server with handlers := past.second ++ handlers.set place urb.handler},
        urb.client.renumbered id (some (past.second.length+place)),?_,?_,?_⟩
      · simp only [CliSession.urbTurn,CliSession.urbSession,ClientConnection.renumbered,there,found,
          Option.map_some]
        simp only [UrbSession.renumbered,ClientConnection.renumbered,Option.map_some] at again
        rw [again]
        simp only [CliSession.putUrbSession,Option.map_some,theirs,
          List.set_append_right _ _ (Nat.le_add_right _ _),Nat.add_sub_cancel_left]
      · simp only [CliSession.putUrbSession,held]
        exact ⟨servers.clients,servers.count,servers.devices,handlers.set place urb.handler,
          by rw [mine,List.set_append_right _ _ (Nat.le_add_right _ _),Nat.add_sub_cancel_left],rfl⟩
      · exact ⟨id,some place,kept.trans held,rfl⟩

theorem freeClient_matches (servers : first.Matches past second) (clients : client.Matches past other)
    (joins : Fin 4 → WorkerOutcome) :
    (freeClient first client joins).Matches past (freeClient second other joins) := by
  obtain ⟨id,turn,held,rfl⟩ := clients
  have close {mine theirs : Server} (left : mine.Matches past theirs) (busid : Busid) :
      Server.Matches past {mine with devices := mine.devices.modifyDevice busid usbCloseDevice}
        {theirs with devices := theirs.devices.modifyDevice busid usbCloseDevice} :=
    left.putDevices (left.devices.modifyDevice usbCloseDevice_settling busid)
  cases turn with
  | none =>
    simp only [freeClient,held,ClientConnection.renumbered,Option.map_none]
    cases client.device with
    | none => exact servers
    | some busid => exact close servers busid
  | some turn =>
    have cleaned := servers.modifyHandler turn fun _ _ same => urbHandlerCleanup_open same joins
    simp only [freeClient,held,ClientConnection.renumbered,Option.map_some]
    cases client.device with
    | none => exact cleaned
    | some busid => exact close cleaned busid

theorem remove_matches (servers : first.Matches past second) (clients : client.Matches past other)
    (pointer : ClientPtr) (joins : Fin 4 → WorkerOutcome) :
    (clientManagerRemove first pointer client joins).2.Matches past
      (clientManagerRemove second pointer other joins).2 := by
  have attached : other.attachedBusid = client.attachedBusid := by
    obtain ⟨_,_,_,rfl⟩ := clients
    rfl
  simp only [clientManagerRemove,ClientManager.unlink,servers.clients,servers.count,attached]
  by_cases member : pointer ∈ first.manager.clients
  · simp only [if_pos member]
    apply freeClient_matches _ clients
    have unlinked : Server.Matches past
        {first with manager := ⟨first.manager.clients.erase pointer,first.manager.clientCount-1,
          first.manager.nextClientId⟩}
        {second with manager := ⟨first.manager.clients.erase pointer,first.manager.clientCount-1,
          second.manager.nextClientId⟩} := ⟨rfl,rfl,servers.devices,servers.handlers⟩
    split
    · simp only [detachUnexport,attached]
      exact unlinked.putDevices (servers.devices.unexport _)
    · exact unlinked
  · simp only [if_neg member]
    exact servers

namespace Cli

theorem sessionTurn_matches {outcomes : CliOutcomes} {s : CliSession} {next : Cli} {server : Server}
    {client : ClientConnection} (servers : s.server.Matches past server)
    (clients : s.client.Matches past client) (stepped : sessionTurn outcomes s = some next) :
    ∃ after, sessionTurn outcomes {s with server, client} = some after ∧ next.Matches past after := by
  have urb (turned : (s.urbTurn outcomes.messages .session).map .serving = some next) :
      ∃ after, (CliSession.urbTurn outcomes.messages .session {s with server, client}).map .serving =
        some after ∧ next.Matches past after := by
    obtain ⟨session,taken,rfl⟩ := Option.map_eq_some_iff.mp turned
    obtain ⟨after,left,same,still,kept⟩ := urbTurn_matches servers clients taken
    exact ⟨_,by rw [same]; rfl,.serving session after left still kept⟩
  have state : client.state = s.client.state := by
    obtain ⟨_,_,_,rfl⟩ := clients
    rfl
  cases pc : s.pc with
  | urb inner =>
    simp only [sessionTurn,pc] at stepped ⊢
    exact pc ▸ urb stepped
  | detach =>
    simp only [sessionTurn,pc,Option.some.injEq] at stepped ⊢
    obtain ⟨still,kept⟩ := detach_matches servers clients outcomes.detaching
    subst stepped
    exact ⟨_,rfl,.serving _ _ _ still kept⟩
  | remove =>
    simp only [sessionTurn,pc,Option.some.injEq] at stepped ⊢
    subst stepped
    exact ⟨_,rfl,.finished _ _ (remove_matches servers clients s.pointer outcomes.removing)⟩
  | loop =>
    cases here : s.client.state with
    | attached =>
      simp only [sessionTurn,pc,state,here] at stepped ⊢
      exact pc ▸ urb stepped
    | connected =>
      simp only [sessionTurn,pc,state,here] at stepped ⊢
      split at stepped
      next running =>
        rw [if_pos running]
        split at stepped
        next _ => cases stepped
        next err mine left handled =>
          obtain ⟨⟨_,after,gone⟩,same,answer⟩ := handleRequest_matches servers clients _ handled
          obtain ⟨rfl,still,kept⟩ := answer
          simp only [same]
          cases stepped
          exact ⟨_,rfl,.serving _ _ _ still kept⟩
      next stopped =>
        rw [if_neg stopped]
        cases stepped
        exact ⟨_,rfl,.serving {s with pc := .detach} server client servers clients⟩
    | disconnecting =>
      simp only [sessionTurn,pc,state,here] at stepped ⊢
      split at stepped
      next running =>
        rw [if_pos running]
        cases stepped
        exact ⟨_,rfl,pc ▸ .serving s server client servers clients⟩
      next stopped =>
        rw [if_neg stopped]
        cases stepped
        exact ⟨_,rfl,.serving {s with pc := .detach} server client servers clients⟩
    | disconnected =>
      simp only [sessionTurn,pc,state,here] at stepped ⊢
      cases stepped
      exact ⟨_,rfl,.serving {s with pc := .detach} server client servers clients⟩

theorem step_matches {outcomes : CliOutcomes} {turn : Turn} {cli next seen : Cli}
    (same : cli.Matches past seen) (stepped : step outcomes turn cli = some next) :
    ∃ after, step outcomes turn seen = some after ∧ next.Matches past after := by
  cases same with
  | finished server other servers => cases turn <;> cases stepped
  | accepted server other socket ipAddress port servers =>
    cases turn with
    | session =>
      simp only [step,clientManagerAdd,servers.count] at stepped ⊢
      by_cases full : server.manager.clientCount ≥ maxClients
      · simp only [if_pos full] at stepped ⊢
        cases stepped
        exact ⟨_,rfl,.finished _ _ servers⟩
      · simp only [if_neg full] at stepped ⊢
        cases made : outcomes.alloc with
        | none =>
          simp only [made] at stepped ⊢
          cases stepped
          exact ⟨_,rfl,.finished _ _ ⟨servers.clients,rfl,servers.devices,servers.handlers⟩⟩
        | some pointer =>
          simp only [made,servers.clients] at stepped ⊢
          cases stepped
          exact ⟨_,rfl,.serving _ _ _ ⟨rfl,rfl,servers.devices,servers.handlers⟩
            ⟨other.manager.nextClientId,none,rfl,rfl⟩⟩
    | worker outcome => cases stepped
    | signal => cases stepped
  | serving s server client servers clients =>
    cases turn with
    | session => exact sessionTurn_matches servers clients stepped
    | worker outcome =>
      simp only [step] at stepped ⊢
      obtain ⟨session,taken,rfl⟩ := Option.map_eq_some_iff.mp stepped
      obtain ⟨after,left,same,still,kept⟩ := urbTurn_matches servers clients taken
      exact ⟨_,by rw [same]; rfl,.serving session after left still kept⟩
    | signal =>
      cases stepped
      exact ⟨_,rfl,.serving {s with serverRunning := false} server client servers clients⟩

end Cli

section Iterations

variable {base used after : Server}

theorem DeviceEntry.Idle.shown {entry : DeviceEntry} (idle : entry.Idle) :
    entry.shown = entry.unnumbered := by
  obtain ⟨closed,_,clientId,_,_⟩ := idle
  simp only [DeviceEntry.shown,DeviceEntry.settled,DeviceEntry.unnumbered,UsbDevice.settled,
    closed.isClaimed,clientId]
  rfl

theorem Server.Matches.symm (servers : first.Matches past second) :
    second.Matches ⟨past.second,past.first⟩ first := by
  obtain ⟨own,mine,theirs⟩ := servers.handlers
  exact ⟨servers.clients.symm,servers.count.symm,Eq.symm servers.devices,own,theirs,mine⟩

theorem Leaves.matches (enumerated : base.devices.Enumerated) (leaves : Leaves base used) :
    base.Matches ⟨base.handlers,used.handlers⟩ used := by
  refine ⟨leaves.clients,leaves.count,?_,[],by simp,by simp⟩
  have same := unnumbered_of_skeleton leaves.devices.skeleton leaves.devices.idle enumerated.idle
  rw [DeviceList.Matches,List.map_congr_left fun entry member => (leaves.devices.idle entry member).shown,
    List.map_congr_left fun entry member => (enumerated.idle entry member).shown]
  exact same

theorem Leaves.refl (enumerated : base.devices.Enumerated) : Leaves base base :=
  ⟨rfl,rfl,⟨rfl,enumerated.idle⟩,[],by simp,by simp⟩

theorem Leaves.trans (before : Leaves base used) (last : Leaves used after) : Leaves base after := by
  obtain ⟨retired,made,ended⟩ := before.handlers
  obtain ⟨more,added,gone⟩ := last.handlers
  refine ⟨last.clients.trans before.clients,last.count.trans before.count,
    ⟨last.devices.skeleton.trans before.devices.skeleton,last.devices.idle⟩,retired ++ more,?_,?_⟩
  · rw [added,made,List.append_assoc]
  · intro handler member
    exact (List.mem_append.mp member).elim (ended handler) (gone handler)

theorem Leaves.enumerated (enumerated : base.devices.Enumerated) (leaves : Leaves base used) :
    used.devices.Enumerated :=
  ⟨distinct_of_skeleton enumerated leaves.devices.skeleton,
    named_of_skeleton enumerated leaves.devices.skeleton,leaves.devices.idle⟩

end Iterations

theorem matches_simulation (past : Past) :
    SessionSimulation (Server.Matches past) (Cli.Matches past) where
  starts servers socket ipAddress port := .accepted _ _ _ _ _ servers
  step := Cli.step_matches
  sent := Cli.Matches.sent
  accepted same := by
    cases same with
    | accepted server other socket ipAddress port servers => exact ⟨other,rfl⟩
  serving := by
    intro s seen same
    cases same with
    | serving _ server client servers clients =>
      exact ⟨_,rfl,fun flag => .serving {s with serverRunning := flag} server client servers clients⟩
  finished same := by
    cases same with
    | finished server other servers => exact ⟨other,rfl,servers⟩

namespace MainLoop

/-- The sessions served so far left nothing behind, and the one that goes on
started from a server they left. -/
structure Clean (base : Server) (token : Option Token) (s : MainLoop) : Prop where
  leaves : Leaves base s.server
  authToken : s.authToken = token
  session : ∀ connection cli, s.phase = .session connection cli → ∃ ending, cli.Inv s.server ending

theorem resume_clean {base : Server} {token : Option Token} (s : MainLoop) (leaves : Leaves base s.server)
    (authToken : s.authToken = token) (connection : Nat) {cli : Cli} {ending : StreamEnd}
    (inv : cli.Inv s.server ending) : Clean base token (s.resume connection cli) := by
  cases cli with
  | accepted server socket ipAddress port =>
    refine ⟨leaves,authToken,?_⟩
    rintro _ _ ⟨⟩
    exact ⟨ending,inv⟩
  | serving session =>
    have serves : session.Serves s.server ending := inv
    refine ⟨leaves,authToken,?_⟩
    rintro _ _ ⟨⟩
    exact ⟨ending,serves.clients,serves.count,serves.ending,serves.going,serves.attachment⟩
  | finished server => exact ⟨leaves.trans inv,authToken,by simp [MainLoop.resume]⟩

theorem step_clean {base : Server} {token : Option Token} (enumerated : base.devices.Enumerated)
    (action : MainAction) (s next : MainLoop) (clean : Clean base token s)
    (stepped : step action s = some next) : Clean base token next := by
  obtain ⟨leaves,authToken,session⟩ := clean
  have inside {connection : Nat} {cli after : Cli} {outcomes : CliOutcomes} {turn : Turn}
      (phase : s.phase = .session connection cli) (taken : Cli.step outcomes turn cli = some after) :
      ∃ ending, after.Inv s.server ending := by
    obtain ⟨ending,inv⟩ := session connection cli phase
    exact ⟨ending,(Cli.step_inv (leaves.enumerated enumerated) turn cli after inv taken).1⟩
  simp only [step] at stepped
  split at stepped
  next _ socket ipAddress port _ =>
    split at stepped
    next _ => cases stepped; exact ⟨leaves,authToken,by simp⟩
    next _ => cases stepped
  next _ _ =>
    split at stepped
    next _ => cases stepped
    next _ => cases stepped; exact ⟨leaves,authToken,by simp⟩
  next waits connection socket ipAddress port phase =>
    split at stepped
    next _ =>
      cases stepped
      refine ⟨leaves,authToken,?_⟩
      rintro _ _ ⟨⟩
      exact ⟨socket.ending,rfl,rfl⟩
    next _ =>
      cases stepped
      refine ⟨leaves,authToken,?_⟩
      intro other cli here
      split at here
      next _ =>
        cases here
        exact ⟨_,rfl,rfl⟩
      next _ => cases here
  next outcomes connection cli phase =>
    obtain ⟨after,taken,rfl⟩ := Option.map_eq_some_iff.mp stepped
    obtain ⟨ending,inv⟩ := inside phase taken
    apply resume_clean
    · exact leaves
    · exact authToken
    · exact inv
  next outcomes outcome connection cli phase =>
    obtain ⟨after,taken,rfl⟩ := Option.map_eq_some_iff.mp stepped
    obtain ⟨ending,inv⟩ := inside phase taken
    exact resume_clean s leaves authToken connection inv
  next connection cli phase =>
    cases stepped
    obtain ⟨ending,inv⟩ := session connection cli phase
    apply resume_clean
    · exact leaves
    · exact authToken
    · exact inv
  next _ _ _ => cases stepped; exact ⟨leaves,authToken,session⟩
  next _ _ => cases stepped

/-- Between two clients the server is as good as new: whatever came before, all
that happens from there on could happen to the server as it was started, and
conversely, with the same bytes sent at every moment. -/
theorem earlier_clients_invisible {server : Server} (enumerated : server.devices.Enumerated)
    (keyArg env : Option Token) {earlier : List MainAction} {between : MainLoop}
    (run : Run step (start server keyArg env) earlier between) (accepting : between.phase = .accepting)
    (running : between.running = true) (later : List MainAction) :
    (∀ final, Run step between later final → ∃ other,
      Run step (start server keyArg env) later other ∧ other.phase.sent = final.phase.sent) ∧
    ∀ other, Run step (start server keyArg env) later other → ∃ final,
      Run step between later final ∧ final.phase.sent = other.phase.sent := by
  have clean : Clean server (some (authGetToken keyArg env)) between := by
    apply run.invariant (Clean server (some (authGetToken keyArg env))) (step_clean enumerated)
    exact ⟨.refl enumerated,rfl,by simp [start]⟩
  have servers := clean.leaves.matches enumerated
  constructor
  · intro final after
    exact related_run (matches_simulation ⟨between.server.handlers,server.handlers⟩)
      ⟨servers.symm,clean.authToken.symm,running.symm,accepting ▸ .accepting⟩ after
  · intro other after
    exact related_run (matches_simulation ⟨server.handlers,between.server.handlers⟩)
      ⟨servers,clean.authToken,running,accepting ▸ .accepting⟩ after

def visiting (turns : Nat) : List MainAction :=
  [.accept Cli.visitor .empty 0,
    .authenticate ⟨⟨fun _ => 0,fun _ _ => true⟩,⟨fun _ => 0,fun _ _ => true⟩⟩] ++ List.replicate turns (.session Cli.willing)

theorem earlier_clients_invisible_visitor : ∃ between final other,
    Run step (start Cli.keyboardServer none none) (visiting 11) between ∧
    between.server.handlers.length = 1 ∧
    Run step between (visiting 5) final ∧
    Run step (start Cli.keyboardServer none none) (visiting 5) other ∧
    other.phase.sent.map List.length = some 320 ∧ final.phase.sent = other.phase.sent := by
  obtain ⟨between,before,idle⟩ := run_of_check step (visiting 11)
    (start Cli.keyboardServer none none) (fun s => s.phase.waiting && s.running && s.server.handlers.length = 1)
    (by decide +kernel)
  obtain ⟨other,fresh,sent⟩ := run_of_check step (visiting 5) (start Cli.keyboardServer none none)
    (fun s => s.phase.sent.map List.length = some 320) (by decide +kernel)
  cases phase : between.phase with
  | accepting =>
    simp only [phase,MainPhase.waiting,Bool.true_and,Bool.and_eq_true,decide_eq_true_eq] at idle
    obtain ⟨final,used,same⟩ := (earlier_clients_invisible Cli.keyboardServer_enumerated none none before
      phase idle.1 (visiting 5)).2 other fresh
    exact ⟨between,final,other,before,idle.2,used,fresh,of_decide_eq_true sent,same⟩
  | _ => simp [phase,MainPhase.waiting] at idle

end MainLoop

end UsbOverNetwork
