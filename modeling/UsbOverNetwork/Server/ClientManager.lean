import UsbOverNetwork.Server.DeviceList
import UsbOverNetwork.Server.UrbHandler

/-! Connected clients: adding and removing them, attaching a device to one and
detaching it. Functions that other threads can interrupt are cut into the
parts between which they can. -/
namespace UsbOverNetwork

inductive ClientState
  | connected
  | attached
  | disconnecting
  | disconnected
deriving DecidableEq, Repr

abbrev ClientPtr := Nat
abbrev HandlerPtr := Nat

/-- `device` names the entry of the device list that the client points into,
`urbHandler` is a pointer to a started handler; `none` is NULL. -/
structure ClientConnection where
  id : UInt32
  socket : Socket
  ipAddress : CString 63
  port : UInt16
  state : ClientState
  attachedBusid : Busid
  device : Option Busid
  urbHandler : Option HandlerPtr
  running : Bool
  bytesSent : UInt64
  bytesReceived : UInt64
  urbsProcessed : UInt64
deriving DecidableEq

structure ClientManager where
  clients : List ClientPtr
  clientCount : Nat
  nextClientId : UInt32
deriving DecidableEq

/-- `handlers` holds every handler whose worker was ever started, at its
pointer. A freed handler keeps its last contents, which nothing reads. -/
structure Server where
  manager : ClientManager
  devices : DeviceList
  handlers : List UrbHandler
deriving DecidableEq

def maxClients : Nat := 16

def createClient (id : UInt32) (socket : Socket) (ipAddress : CString 63) (port : UInt16) :
    ClientConnection :=
  ⟨id,socket,ipAddress,port,.connected,.empty,none,none,false,0,0,0⟩

/-- `alloc` is what `calloc` returns. The id is used up even when it fails. -/
def clientManagerAdd (manager : ClientManager) (socket : Socket) (ipAddress : CString 63)
    (port : UInt16) (alloc : Option ClientPtr) :
    Except ErrorCode (ClientPtr × ClientConnection) × ClientManager :=
  if manager.clientCount ≥ maxClients then (.error .busy,manager)
  else
    let id := manager.nextClientId
    match alloc with
    | none => (.error .outOfMemory,{manager with nextClientId := id+1})
    | some pointer =>
      (.ok (pointer,createClient id socket ipAddress port),
        ⟨pointer::manager.clients,manager.clientCount+1,id+1⟩)

theorem clientManagerAdd_cases (manager : ClientManager) (socket : Socket) (ipAddress : CString 63)
    (port : UInt16) (alloc : Option ClientPtr) :
    (∃ err id, clientManagerAdd manager socket ipAddress port alloc =
      (.error err,{manager with nextClientId := id})) ∨
    ∃ pointer, alloc = some pointer ∧ clientManagerAdd manager socket ipAddress port alloc =
      (.ok (pointer,createClient manager.nextClientId socket ipAddress port),
        ⟨pointer::manager.clients,manager.clientCount+1,manager.nextClientId+1⟩) := by
  simp only [clientManagerAdd]
  split
  · exact Or.inl ⟨.busy,manager.nextClientId,rfl⟩
  · cases alloc with
    | none => exact Or.inl ⟨.outOfMemory,_,rfl⟩
    | some pointer => exact Or.inr ⟨pointer,rfl,rfl⟩

/-- The walk of `client_manager_remove` up to the unlinking; `none` when the
client is not in the list. -/
def ClientManager.unlink (manager : ClientManager) (client : ClientPtr) : Option ClientManager :=
  if client ∈ manager.clients then
    some {manager with
      clients := manager.clients.erase client
      clientCount := manager.clientCount - 1}
  else none

structure AttachOutcome where
  opened : OpenOutcome
  handlerAlloc : Bool
  init : InitOutcome
  thread : Bool
  now : UInt64
deriving DecidableEq

/-- The unlocked checks at the start of `client_attach_device`. -/
def attachCheck (devices : DeviceList) (busid : Busid) : ErrorCode :=
  match deviceListFind devices busid with
  | none => .usbNotFound
  | some entry =>
    if !entry.isShared then .usbNotFound
    else if entry.state ≠ .available then .deviceBusy
    else .success

def openAndClaim (outcome : OpenOutcome) (device : UsbDevice) : ErrorCode × UsbDevice :=
  match usbOpenDevice device outcome with
  | (.success,device) =>
    match usbClaimInterface device 0 with
    | (.success,device) => (.success,device)
    | (err,device) => (err,usbCloseDevice device)
  | (err,device) => (err,device)

def releaseAndClose (device : UsbDevice) : UsbDevice :=
  usbCloseDevice (usbReleaseInterface device 0).2

def attachOpen (devices : DeviceList) (busid : Busid) (outcome : OpenOutcome) :
    ErrorCode × DeviceList :=
  match deviceListFind devices busid with
  | none => (.usbNotFound,devices)
  | some entry =>
    ((openAndClaim outcome entry.device).1,
      devices.modifyDevice busid fun device => (openAndClaim outcome device).2)

/-- `client->urb_handler` is assigned first, so a failure leaves it NULL
whatever it was before. -/
def attachHandler (server : Server) (client : ClientConnection) (busid : Busid)
    (outcome : AttachOutcome) : ErrorCode × Server × ClientConnection :=
  let failed (err : ErrorCode) : ErrorCode × Server × ClientConnection :=
    (err,{server with devices := server.devices.modifyDevice busid releaseAndClose},
      {client with urbHandler := none})
  if !outcome.handlerAlloc then failed .outOfMemory
  else
    match urbHandlerInit busid outcome.init with
    | .error err => failed err
    | .ok handler =>
      match urbHandlerStart handler outcome.thread with
      | (.success,handler) =>
        (.success,{server with handlers := server.handlers ++ [handler]},
          {client with urbHandler := some server.handlers.length})
      | (err,_) => failed err

theorem attachHandler_cases (server : Server) (client : ClientConnection) (busid : Busid)
    (outcome : AttachOutcome) :
    attachHandler server client busid outcome =
      (.success,{server with handlers := server.handlers ++ [urbHandlerStarted busid]},
        {client with urbHandler := some server.handlers.length}) ∨
    ∃ err, err ≠ .success ∧ attachHandler server client busid outcome =
      (err,{server with devices := server.devices.modifyDevice busid releaseAndClose},
        {client with urbHandler := none}) := by
  simp only [attachHandler]
  cases outcome.handlerAlloc with
  | false => exact Or.inr ⟨.outOfMemory,by decide,rfl⟩
  | true =>
    simp only [Bool.not_true,Bool.false_eq_true,if_false]
    cases made : urbHandlerInit busid outcome.init with
    | error err =>
      refine Or.inr ⟨err,?_,rfl⟩
      rintro rfl
      exact urbHandlerInit_error busid outcome.init made
    | ok handler =>
      cases urbHandlerInit_ok busid outcome.init handler made
      cases outcome.thread with
      | true => exact Or.inl rfl
      | false => exact Or.inr ⟨.threadCreate,by decide,rfl⟩

def attachUpdate (client : ClientConnection) (busid : Busid) : ClientConnection :=
  {client with device := some busid, attachedBusid := busid, state := .attached}

/-- The result of `device_list_export` is not looked at. -/
def attachExport (devices : DeviceList) (client : ClientConnection) (busid : Busid) (now : UInt64) :
    DeviceList :=
  (deviceListExport devices busid client.id client.ipAddress now).2

def clientAttachDevice (server : Server) (client : ClientConnection) (busid : Busid)
    (outcome : AttachOutcome) : ErrorCode × Server × ClientConnection :=
  match attachCheck server.devices busid with
  | .success =>
    match attachOpen server.devices busid outcome.opened with
    | (.success,devices) =>
      match attachHandler {server with devices} client busid outcome with
      | (.success,server,client) =>
        let client := attachUpdate client busid
        (.success,{server with
          devices := attachExport server.devices client busid outcome.now},client)
      | (err,server,client) => (err,server,client)
    | (err,devices) => (err,{server with devices},client)
  | err => (err,server,client)

def Server.device (server : Server) (busid : Busid) : Option UsbDevice :=
  (deviceListFind server.devices busid).map DeviceEntry.device

def cleanupHandler (server : Server) (joins : Fin 4 → WorkerOutcome) (pointer : HandlerPtr) : Server :=
  {server with handlers := server.handlers.modify pointer fun handler =>
    urbHandlerCleanup (server.device handler.device) joins handler}

def stopHandler (server : Server) (joins : Fin 4 → WorkerOutcome) (pointer : HandlerPtr) : Server :=
  {server with handlers := server.handlers.modify pointer fun handler =>
    urbHandlerStop (server.device handler.device) joins handler}

def detachHandler (server : Server) (client : ClientConnection) (joins : Fin 4 → WorkerOutcome) :
    Server × ClientConnection :=
  match client.urbHandler with
  | none => (server,client)
  | some pointer =>
    (cleanupHandler (stopHandler server joins pointer) joins pointer,{client with urbHandler := none})

def detachDevice (server : Server) (client : ClientConnection) : Server × ClientConnection :=
  match client.device with
  | none => (server,client)
  | some busid =>
    ({server with devices := server.devices.modifyDevice busid releaseAndClose},
      {client with device := none})

def detachUnexport (server : Server) (client : ClientConnection) : Server :=
  {server with devices := (deviceListUnexport server.devices client.attachedBusid).2}

def detachUpdate (client : ClientConnection) : ClientConnection :=
  {client with attachedBusid := .empty, state := .connected}

def clientDetachDevice (server : Server) (client : ClientConnection)
    (joins : Fin 4 → WorkerOutcome) : Server × ClientConnection :=
  if client.attachedBusid = .empty then (server,client)
  else
    let (server,client) := detachHandler server client joins
    let (server,client) := detachDevice server client
    (detachUnexport server client,detachUpdate client)

/-- Of `free_client` only what outlives the client is kept. -/
def freeClient (server : Server) (client : ClientConnection) (joins : Fin 4 → WorkerOutcome) : Server :=
  let server := match client.urbHandler with
    | none => server
    | some pointer => cleanupHandler server joins pointer
  match client.device with
  | none => server
  | some busid => {server with devices := server.devices.modifyDevice busid usbCloseDevice}

def clientManagerRemove (server : Server) (pointer : ClientPtr) (client : ClientConnection)
    (joins : Fin 4 → WorkerOutcome) : ErrorCode × Server :=
  match server.manager.unlink pointer with
  | none => (.notFound,server)
  | some manager =>
    let server := {server with manager}
    let server := if client.attachedBusid ≠ .empty then detachUnexport server client else server
    (.success,freeClient server client joins)

end UsbOverNetwork
