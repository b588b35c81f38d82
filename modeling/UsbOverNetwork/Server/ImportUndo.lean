import UsbOverNetwork.Server.Attachment
import UsbOverNetwork.Server.DeviceListCalls

/-! What an import that fails leaves behind, whatever state the manager was in.
`client_attach_device` undoes its own steps; the two sends of the reply come
after it, and only the second of them undoes the attachment. -/
namespace UsbOverNetwork

/-- The device up to the interface number that an unclaimed one carries along. -/
def UsbDevice.settled (device : UsbDevice) : UsbDevice :=
  if device.isClaimed then device else {device with claimedInterface := 0}

def DeviceEntry.settled (entry : DeviceEntry) : DeviceEntry :=
  {entry with device := entry.device.settled}

def DeviceList.Settles (list next : DeviceList) : Prop :=
  next.entries.map DeviceEntry.settled = list.entries.map DeviceEntry.settled

structure ClientConnection.Unattached (client : ClientConnection) : Prop where
  state : client.state = .connected
  device : client.device = none
  handler : client.urbHandler = none
  busid : client.attachedBusid = .empty

structure ImportUndone (before : Server) (after : Server × ClientConnection) : Prop where
  client : after.2.Unattached
  devices : before.devices.Settles after.1.devices

structure Attaches (devices : DeviceList) (busid : Busid) (outcome : AttachOutcome)
    (entry : DeviceEntry) : Prop where
  found : deviceListFind devices busid = some entry
  shared : entry.isShared = true
  available : entry.state = .available
  path : entry.device.path.chars ≠ []
  memory : outcome.handlerAlloc = true
  queues : outcome.init = ⟨true,true,true,true⟩
  thread : outcome.thread = true

def importReplyRecord (device : UsbDevice) : List UInt8 :=
  (usbipPackDevice (usbDeviceToUsbip device)).image

def Socket.TakesHeader (socket : Socket) : Prop :=
  (sendExact socket (usbipPackHeaderBasic (importReplyHeader .success)).image).1 = .success

def Socket.TakesRecord (socket : Socket) (device : UsbDevice) : Prop :=
  (sendExact (sendExact socket (usbipPackHeaderBasic (importReplyHeader .success)).image).2
    (importReplyRecord device)).1 = .success

section Devices

variable {device : UsbDevice} {outcome : OpenOutcome}

theorem UsbDevice.Closed.settled (closed : device.Closed) : device.settled = device.reset := by
  rw [closed.reset,UsbDevice.settled,closed.isClaimed]
  rfl

theorem openAndClaim_iff (closed : device.Closed) :
    (openAndClaim outcome device).1 = .success ↔ device.path.chars ≠ [] := by
  constructor
  · intro ok blank
    have refused : (openAndClaim outcome device).1 = .invalidParam := by
      simp [openAndClaim,usbOpenDevice,blank]
    rw [refused] at ok
    cases ok
  · intro named
    rcases openAndClaim_closed outcome device closed with ⟨ok,_⟩ | ⟨failed,_⟩
    · exact ok
    · refine absurd ?_ failed
      simp only [openAndClaim,usbOpenDevice,named,closed.isOpen,Bool.false_eq_true,if_false]
      cases outcome.file <;> cases outcome.winusb <;>
        simp [usbClaimInterface,closed.isClaimed]

theorem reopened_settled (closed : device.Closed) (opened : (openAndClaim outcome device).1 = .success) :
    (releaseAndClose (openAndClaim outcome device).2).settled = device.settled := by
  have held : (openAndClaim outcome device).2.Held :=
    (openAndClaim_closed outcome device closed).elim And.right fun failed => absurd opened failed.1
  rw [(releaseAndClose_held _ held).settled,releaseAndClose_reset,openAndClaim_reset,closed.settled]

end Devices

theorem attachHandler_iff (server : Server) (client : ClientConnection) (busid : Busid)
    (outcome : AttachOutcome) : (attachHandler server client busid outcome).1 = .success ↔
      outcome.handlerAlloc = true ∧ outcome.init = ⟨true,true,true,true⟩ ∧ outcome.thread = true := by
  obtain ⟨opened,memory,⟨pendingMutex,pendingEvent,completedMutex,completedEvent⟩,thread,now⟩ := outcome
  cases memory <;> cases pendingMutex <;> cases pendingEvent <;> cases completedMutex <;>
    cases completedEvent <;> cases thread <;>
    simp [attachHandler,urbHandlerInit,queueInit,urbHandlerStart]

def lendEntry (client : ClientConnection) (outcome : AttachOutcome) (entry : DeviceEntry) :
    DeviceEntry :=
  {entry with device := (openAndClaim outcome.opened entry.device).2}.export client.id
    client.ipAddress outcome.now

section Attaching

variable {server : Server} {client : ClientConnection} {busid : Busid} {outcome : AttachOutcome}
  {entry : DeviceEntry}

theorem attach_attaches (attaches : Attaches server.devices busid outcome entry)
    (closed : entry.device.Closed) :
    clientAttachDevice server client busid outcome =
      (.success,{server with
        devices := server.devices.modify busid (lendEntry client outcome)
        handlers := server.handlers ++ [urbHandlerStarted busid]},
        attachUpdate {client with urbHandler := some server.handlers.length} busid) := by
  obtain ⟨found,shared,available,path,memory,queues,thread⟩ := attaches
  have checked : attachCheck server.devices busid = .success := by
    simp [attachCheck,found,shared,available]
  have opened : attachOpen server.devices busid outcome.opened = (.success,
      server.devices.modifyDevice busid fun device => (openAndClaim outcome.opened device).2) := by
    simp only [attachOpen,found,(openAndClaim_iff closed).mpr path]
  have started (devices : DeviceList) : attachHandler {server with devices} client busid outcome =
      (.success,{server with devices, handlers := server.handlers ++ [urbHandlerStarted busid]},
        {client with urbHandler := some server.handlers.length}) := by
    rcases attachHandler_cases {server with devices} client busid outcome with ok | ⟨err,failed,undone⟩
    · exact ok
    · have ok := (attachHandler_iff {server with devices} client busid outcome).mpr
        ⟨memory,queues,thread⟩
      rw [undone] at ok
      exact absurd ok failed
  have listed := find_modifyDevice (openAndClaim_reset outcome.opened) found
  simp only [clientAttachDevice,checked,opened,started]
  refine Prod.ext rfl (Prod.ext ?_ rfl)
  simp only [attachExport,attachUpdate,find_export _ _ _ _ listed available]
  congr 1
  exact congrArg DeviceList.mk (Keyed.modify_modify _ _
    (modifyDevice_busid (openAndClaim_reset outcome.opened)) _)

theorem opened_settles (found : deviceListFind server.devices busid = some entry)
    (clean : entry.device.Closed) {opened : OpenOutcome}
    (failed : (openAndClaim opened entry.device).1 ≠ .success) : server.devices.Settles
      (server.devices.modifyDevice busid fun device => (openAndClaim opened device).2) := by
  have same : (openAndClaim opened entry.device).2 = entry.device :=
    (openAndClaim_closed opened entry.device clean).elim (fun ok => absurd ok.1 failed) And.right
  refine Keyed.map_modify _ _ _ _ _ fun other searched => ?_
  cases found.symm.trans searched
  exact congrArg (fun device => DeviceEntry.settled {entry with device}) same

theorem reopened_settles (found : deviceListFind server.devices busid = some entry)
    (clean : entry.device.Closed) {opened : OpenOutcome}
    (ok : (openAndClaim opened entry.device).1 = .success) : server.devices.Settles
      ((server.devices.modifyDevice busid fun device => (openAndClaim opened device).2).modifyDevice
        busid releaseAndClose) := by
  refine (congrArg _ (Keyed.modify_modify DeviceEntry.busid _
    (modifyDevice_busid (openAndClaim_reset opened)) _)).trans ?_
  refine Keyed.map_modify _ _ _ _ _ fun other searched => ?_
  cases found.symm.trans searched
  exact congrArg (fun device => {entry with device}) (reopened_settled clean ok)

theorem attach_refused (refused : ∀ entry, ¬Attaches server.devices busid outcome entry)
    (closed : ∀ entry ∈ server.devices.entries, entry.state = .available → entry.device.Closed)
    (free : client.Unattached) :
    (clientAttachDevice server client busid outcome).1 ≠ .success ∧
      (clientAttachDevice server client busid outcome).2.2.socket = client.socket ∧
      ImportUndone server (clientAttachDevice server client busid outcome).2 := by
  have untouched : ImportUndone server (server,client) := ⟨free,rfl⟩
  simp only [clientAttachDevice]
  split
  next checked =>
    obtain ⟨entry,found,shared,available⟩ := attachCheck_success checked
    have clean := closed entry (Keyed.find_mem _ found) available
    have opened : attachOpen server.devices busid outcome.opened =
        ((openAndClaim outcome.opened entry.device).1,server.devices.modifyDevice busid
          fun device => (openAndClaim outcome.opened device).2) := by
      simp only [attachOpen,found]
    rw [opened]
    by_cases ok : (openAndClaim outcome.opened entry.device).1 = .success
    · have settles := reopened_settles found clean ok
      generalize server.devices.modifyDevice busid
        (fun device => (openAndClaim outcome.opened device).2) = devices at settles
      rw [ok]
      rcases attachHandler_cases {server with devices} client busid outcome with
        started | ⟨err,failed,undone⟩
      · obtain ⟨memory,queues,thread⟩ := (attachHandler_iff _ client busid outcome).mp
          (congrArg Prod.fst started)
        exact absurd ⟨found,shared,available,(openAndClaim_iff clean).mp ok,memory,queues,thread⟩
          (refused entry)
      · have rest : ImportUndone server ({server with
            devices := devices.modifyDevice busid releaseAndClose},{client with urbHandler := none}) :=
          ⟨⟨free.state,free.device,rfl,free.busid⟩,settles⟩
        dsimp only
        rw [undone]
        cases err <;> first | exact absurd rfl failed | exact ⟨failed,rfl,rest⟩
    · have settles := opened_settles found clean ok
      generalize (openAndClaim outcome.opened entry.device).1 = err at ok
      cases err <;> first | exact absurd rfl ok | exact ⟨ok,rfl,free,settles⟩
  next failing => exact ⟨failing,rfl,untouched⟩

theorem lent_settled (clean : entry.device.Closed) (available : entry.state = .available)
    (path : entry.device.path.chars ≠ []) :
    DeviceEntry.settled (DeviceEntry.unexport
      {lendEntry client outcome entry with
        device := releaseAndClose (lendEntry client outcome entry).device}) = entry.settled ↔
      DeviceListRecord.Unlent entry := by
  have opened : (openAndClaim outcome.opened entry.device).1 = .success :=
    (openAndClaim_iff clean).mpr path
  have settled := reopened_settled clean opened
  simp only [DeviceEntry.settled,DeviceEntry.unexport,lendEntry,DeviceEntry.export,settled,available]
  constructor
  · intro same
    injection same with _ _ clientId clientIp exportTime _
    exact ⟨clientId.symm,clientIp.symm,exportTime.symm⟩
  · intro unlent
    rw [unlent.clientId,unlent.clientIp,unlent.exportTime]

theorem ImportUndone.withSocket {after : Server × ClientConnection} (undone : ImportUndone server after)
    (socket : Socket) : ImportUndone server (after.1,{after.2 with socket}) :=
  ⟨⟨undone.client.state,undone.client.device,undone.client.handler,undone.client.busid⟩,undone.devices⟩

theorem importReplyDevice_lent (found : deviceListFind server.devices busid = some entry)
    (handlers : List UrbHandler) (holder : ClientConnection) (held : holder.device = some busid) :
    importReplyDevice {server with
      devices := server.devices.modify busid (lendEntry client outcome), handlers} holder =
        importReplyRecord entry.device := by
  have keeps (entry : DeviceEntry) : (lendEntry client outcome entry).busid = entry.busid :=
    modifyDevice_busid (openAndClaim_reset outcome.opened) entry
  have same : usbDeviceToUsbip (openAndClaim outcome.opened entry.device).2 =
      usbDeviceToUsbip entry.device := by
    calc usbDeviceToUsbip (openAndClaim outcome.opened entry.device).2
        = usbDeviceToUsbip (openAndClaim outcome.opened entry.device).2.reset := rfl
      _ = usbDeviceToUsbip entry.device := by rw [openAndClaim_reset]; rfl
  simp only [importReplyDevice,held,Option.bind_some,Server.device,find_modify_same keeps,found,
    Option.map_some]
  rw [importReplyRecord,← same]
  rfl

/-- Detaching the device that has just been attached takes everything back
unless the busid is the one that stands for no device. -/
theorem detach_undone_iff (attaches : Attaches server.devices busid outcome entry)
    (clean : entry.device.Closed) (handlers : List UrbHandler) (pointer : HandlerPtr)
    (joins : Fin 4 → WorkerOutcome) (socket : Socket) :
    ImportUndone server (clientDetachDevice {server with
        devices := server.devices.modify busid (lendEntry client outcome), handlers}
      {attachUpdate {client with urbHandler := some pointer} busid with socket} joins) ↔
    busid ≠ .empty ∧ DeviceListRecord.Unlent entry := by
  unfold clientDetachDevice
  by_cases blank : busid = .empty
  · rw [if_pos (show (attachUpdate {client with urbHandler := some pointer} busid).attachedBusid =
      .empty from blank)]
    constructor
    · intro undone
      cases undone.client.state
    · exact fun named => absurd blank named.1
  · rw [if_neg (show (attachUpdate {client with urbHandler := some pointer} busid).attachedBusid ≠
      .empty from blank)]
    have lends (entry : DeviceEntry) : (lendEntry client outcome entry).busid = entry.busid :=
      modifyDevice_busid (openAndClaim_reset outcome.opened) entry
    have closes (entry : DeviceEntry) : DeviceEntry.busid
        {entry with device := releaseAndClose entry.device} = entry.busid :=
      modifyDevice_busid releaseAndClose_reset entry
    have devices : (deviceListUnexport ((server.devices.modify busid
        (lendEntry client outcome)).modifyDevice busid releaseAndClose) busid).2.entries =
        Keyed.modify DeviceEntry.busid busid ((DeviceEntry.unexport ∘ fun entry =>
          {entry with device := releaseAndClose entry.device}) ∘ lendEntry client outcome)
          server.devices.entries := by
      rw [unexport_modify]
      simp only [DeviceList.modify,DeviceList.modifyDevice,Keyed.modify_modify _ _ lends]
      exact Keyed.modify_modify _ _ (fun entry => (closes _).trans (lends entry)) _
    have restored : server.devices.Settles (deviceListUnexport ((server.devices.modify busid
        (lendEntry client outcome)).modifyDevice busid releaseAndClose) busid).2 ↔
        DeviceListRecord.Unlent entry := by
      rw [DeviceList.Settles,devices,Keyed.map_modify_iff]
      constructor
      · intro same
        exact (lent_settled clean attaches.available attaches.path).mp (same entry attaches.found)
      · intro unlent other searched
        cases attaches.found.symm.trans searched
        exact (lent_settled clean attaches.available attaches.path).mpr unlent
    constructor
    · exact fun undone => ⟨blank,restored.mp undone.devices⟩
    · exact fun named => ⟨⟨rfl,rfl,rfl,rfl⟩,restored.mpr named.2⟩

theorem attachUpdate_socket (urbHandler : Option HandlerPtr) :
    (attachUpdate {client with urbHandler} busid).socket = client.socket := rfl

theorem import_cut_short {outcome : RequestOutcome}
    (attaches : Attaches server.devices busid outcome.attach entry) (clean : entry.device.Closed)
    (lost : ¬client.socket.TakesHeader) :
    (clientHandleImport server client busid outcome).1 ≠ .success ∧
      ¬ImportUndone server (clientHandleImport server client busid outcome).2 := by
  simp only [clientHandleImport,attach_attaches attaches clean]
  rw [Socket.TakesHeader] at lost
  rw [attachUpdate_socket]
  generalize sendExact client.socket (usbipPackHeaderBasic (importReplyHeader .success)).image =
    header at lost
  obtain ⟨err,socket⟩ := header
  have attached {socket : Socket} (undone : ImportUndone server
      ({server with
        devices := server.devices.modify busid (lendEntry client outcome.attach)
        handlers := server.handlers ++ [urbHandlerStarted busid]},
        {attachUpdate {client with urbHandler := some server.handlers.length} busid with socket})) :
      False := by cases undone.client.state
  cases err <;> first | exact absurd rfl lost | exact ⟨by simp,attached⟩

theorem import_record {outcome : RequestOutcome}
    (attaches : Attaches server.devices busid outcome.attach entry) (clean : entry.device.Closed)
    (header : client.socket.TakesHeader) :
    clientHandleImport server client busid outcome =
      let sent := sendExact (sendExact client.socket
        (usbipPackHeaderBasic (importReplyHeader .success)).image).2 (importReplyRecord entry.device)
      let lent := {server with
        devices := server.devices.modify busid (lendEntry client outcome.attach)
        handlers := server.handlers ++ [urbHandlerStarted busid]}
      let holder := {attachUpdate {client with urbHandler := some server.handlers.length} busid with
        socket := sent.2}
      if sent.1 = .success then (.success,lent,holder)
      else (.socketSend,clientDetachDevice lent holder outcome.joins) := by
  simp only [clientHandleImport,attach_attaches attaches clean]
  rw [Socket.TakesHeader] at header
  rw [attachUpdate_socket]
  generalize sendExact client.socket (usbipPackHeaderBasic (importReplyHeader .success)).image =
    sent at header
  obtain ⟨err,socket⟩ := sent
  cases header
  simp only [if_true]
  rw [importReplyDevice_lent attaches.found _ _ rfl]
  generalize sendExact socket (importReplyRecord entry.device) = sent
  obtain ⟨err,rest⟩ := sent
  cases err <;> rfl

theorem import_answered {outcome : RequestOutcome}
    (attaches : Attaches server.devices busid outcome.attach entry) (clean : entry.device.Closed)
    (header : client.socket.TakesHeader) (record : client.socket.TakesRecord entry.device) :
    (clientHandleImport server client busid outcome).1 = .success := by
  rw [import_record attaches clean header]
  rw [Socket.TakesRecord] at record
  dsimp only
  rw [if_pos record]

theorem import_taken_back {outcome : RequestOutcome}
    (attaches : Attaches server.devices busid outcome.attach entry) (clean : entry.device.Closed)
    (header : client.socket.TakesHeader) (lost : ¬client.socket.TakesRecord entry.device) :
    (clientHandleImport server client busid outcome).1 ≠ .success ∧
      (ImportUndone server (clientHandleImport server client busid outcome).2 ↔
        busid ≠ .empty ∧ DeviceListRecord.Unlent entry) := by
  rw [import_record attaches clean header]
  rw [Socket.TakesRecord] at lost
  dsimp only
  rw [if_neg lost]
  exact ⟨by simp,detach_undone_iff attaches clean (server.handlers ++ [urbHandlerStarted busid])
    server.handlers.length outcome.joins _⟩

/-- An import that does not succeed leaves no trace exactly when the reply's
header gets out in every case in which the device could be attached, and the
device of a record that does not get out can be given back. -/
theorem import_undone_iff (server : Server) (client : ClientConnection) (busid : Busid)
    (outcome : RequestOutcome) (free : client.Unattached)
    (closed : ∀ entry ∈ server.devices.entries, entry.state = .available → entry.device.Closed) :
    ((clientHandleImport server client busid outcome).1 ≠ .success →
      ImportUndone server (clientHandleImport server client busid outcome).2) ↔
    ∀ entry, Attaches server.devices busid outcome.attach entry → client.socket.TakesHeader ∧
      (client.socket.TakesRecord entry.device ∨
        busid ≠ .empty ∧ DeviceListRecord.Unlent entry) := by
  constructor
  · intro undo entry attaches
    have clean := closed entry (Keyed.find_mem _ attaches.found) attaches.available
    by_cases header : client.socket.TakesHeader
    · refine ⟨header,?_⟩
      by_cases record : client.socket.TakesRecord entry.device
      · exact .inl record
      · obtain ⟨failed,undone⟩ := import_taken_back attaches clean header record
        exact .inr (undone.mp (undo failed))
    · obtain ⟨failed,kept⟩ := import_cut_short attaches clean header
      exact absurd (undo failed) kept
  · intro sent failed
    by_cases attached : ∃ entry, Attaches server.devices busid outcome.attach entry
    · obtain ⟨entry,attaches⟩ := attached
      have clean := closed entry (Keyed.find_mem _ attaches.found) attaches.available
      obtain ⟨header,record⟩ := sent entry attaches
      by_cases taken : client.socket.TakesRecord entry.device
      · exact absurd (import_answered attaches clean header taken) failed
      · obtain ⟨_,undone⟩ := import_taken_back attaches clean header taken
        exact undone.mpr (record.resolve_left taken)
    · have refused : ∀ entry, ¬Attaches server.devices busid outcome.attach entry :=
        fun entry attaches => attached ⟨entry,attaches⟩
      obtain ⟨refusal,_,undone⟩ := attach_refused refused closed free
      simp only [clientHandleImport]
      generalize clientAttachDevice server client busid outcome.attach = attach at refusal undone
      obtain ⟨err,after,holder⟩ := attach
      dsimp only
      split
      next _ socket sent =>
        rw [if_neg refusal]
        exact undone.withSocket socket
      next _ socket _ _ => exact undone.withSocket socket

end Attaching

def adapterEntry : DeviceEntry := createEntry (adapter "C8").device

def oneAdapter : Server := ⟨⟨[],0,1⟩,⟨[adapterEntry]⟩,[]⟩

def answering (outgoing : List SendEvent) : ClientConnection :=
  createClient 1 ⟨[],.silent,outgoing,[]⟩ .empty 0

def everythingWorks : RequestOutcome :=
  ⟨⟨⟨some 1,some 2⟩,true,⟨true,true,true,true⟩,true,0⟩,fun _ => ⟨⟨true,false,1,[7]⟩,false⟩⟩

theorem adapterEntry_closed : ∀ entry ∈ oneAdapter.devices.entries, entry.state = .available →
    entry.device.Closed := by
  intro entry member _
  cases List.mem_singleton.mp member
  exact ⟨rfl,rfl,rfl,rfl,rfl⟩

/-- The header goes out and the record does not. -/
theorem import_undone_adapter :
    let undone := clientHandleImport oneAdapter (answering [.accept 8,.error]) adapterEntry.busid
      everythingWorks
    undone.1 = .socketSend ∧ ImportUndone oneAdapter undone.2 := by
  have failed : (clientHandleImport oneAdapter (answering [.accept 8,.error]) adapterEntry.busid
      everythingWorks).1 = .socketSend := by decide +kernel
  refine ⟨failed,?_⟩
  refine (import_undone_iff oneAdapter _ _ _ ⟨rfl,rfl,rfl,rfl⟩ adapterEntry_closed).mpr ?_ (by
    rw [failed]
    decide)
  intro entry attaches
  cases List.mem_singleton.mp (Keyed.find_mem _ attaches.found)
  refine ⟨?_,.inr ⟨by decide +kernel,rfl,rfl,rfl⟩⟩
  unfold Socket.TakesHeader
  decide +kernel

/-- The header does not go out, and the device stays with a client that has
been told nothing. -/
theorem import_kept_adapter :
    let kept := clientHandleImport oneAdapter (answering [.error]) adapterEntry.busid everythingWorks
    kept.1 = .socketSend ∧ kept.2.2.state = .attached ∧
      kept.2.1.devices.lending adapterEntry.busid = some (.exported,1) ∧
      ¬ImportUndone oneAdapter kept.2 := by
  have attached : (clientHandleImport oneAdapter (answering [.error]) adapterEntry.busid
      everythingWorks).2.2.state = .attached := by decide +kernel
  refine ⟨by decide +kernel,attached,by decide +kernel,fun undone => ?_⟩
  rw [undone.client.state] at attached
  cases attached

end UsbOverNetwork
