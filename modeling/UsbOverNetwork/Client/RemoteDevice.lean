import UsbOverNetwork.Common.Codec
import UsbOverNetwork.Server.Attachment

/-! The client's side of the two requests, from its first byte after the
connection is accepted, and what it learns from the server's replies. -/
namespace UsbOverNetwork
open Bytes

/-- The exchange inside `remote_device_connect`. What comes behind it, the
virtual host controller, sees the device record of a successful import. -/
def remoteDeviceConnect (socket : Socket) (busid : List UInt8) :
    Option (Except ErrorCode UsbipUsbDevice × Socket) :=
  let request := usbipCreateImportRequest busid
  match sendExact socket (usbipPackHeaderBasic request.header).image with
  | (.success,socket) =>
    match sendExact socket request.busid.toList with
    | (.success,socket) =>
      match usbipRecvHeaderBasic socket with
      | none => none
      | some (.error _,socket) => some (.error .socketRecv,socket)
      | some (.ok reply,socket) =>
        if reply.status ≠ usbipStOk then
          some (.error (if reply.status = usbipStDevBusy then .deviceBusy else .usbNotFound),socket)
        else
          match usbipRecvDevice socket with
          | none => none
          | some (.error _,socket) => some (.error .socketRecv,socket)
          | some (.ok info,socket) => some (.ok info,socket)
    | (_,socket) => some (.error .socketSend,socket)
  | (_,socket) => some (.error .socketSend,socket)

/-- The inner loop of `remote_server_list_devices`: the records are read and dropped. -/
def skipInterfaces : Nat → Socket → Option Socket
  | 0,socket => some socket
  | remaining+1,socket =>
    match usbipRecvInterface socket with
    | none => none
    | some (.error _,socket) => some socket
    | some (.ok _,socket) => skipInterfaces remaining socket

/-- `devices` and `device_count` are the list of the records kept so far. A
record that does not arrive ends the loop without an error. -/
def recvDevices (maxDevices : Nat) :
    Nat → List UsbipUsbDevice → Socket → Option (List UsbipUsbDevice × Socket)
  | 0,devices,socket => some (devices,socket)
  | remaining+1,devices,socket =>
    if devices.length < maxDevices then
      match usbipRecvDevice socket with
      | none => none
      | some (.error _,socket) => some (devices,socket)
      | some (.ok dev,socket) =>
        match skipInterfaces dev.bNumInterfaces.toNat socket with
        | none => none
        | some socket => recvDevices maxDevices remaining (devices ++ [dev]) socket
    else some (devices,socket)

def remoteServerListDevices (socket : Socket) (maxDevices : Nat) :
    Option (ErrorCode × List UsbipUsbDevice × Socket) :=
  match sendExact socket (usbipPackHeaderBasic usbipCreateDevlistRequest).image with
  | (.success,socket) =>
    match usbipRecvHeaderBasic socket with
    | none => none
    | some (.error _,socket) => some (.socketRecv,[],socket)
    | some (.ok reply,socket) =>
      if reply.status ≠ usbipStOk then some (.protocolInvalid,[],socket)
      else
        match recvExact socket 4 fun bytes => be32toh (read32 bytes 0) with
        | none => none
        | some (.error _,socket) => some (.socketRecv,[],socket)
        | some (.ok ndev,socket) =>
          match recvDevices maxDevices ndev.toNat [] socket with
          | none => none
          | some (devices,socket) => some (.success,devices,socket)
  | (_,socket) => some (.socketSend,[],socket)

theorem recv_encoded {α : Type} {codec : Codec α} (lawful : codec.Lawful) (socket : Socket)
    (value : α) (rest : List UInt8) (stream : socket.stream = codec.encode value ++ rest) :
    ∃ next, recvExact socket codec.size codec.decode = some (.ok value,next) ∧
      next.stream = rest ∧ next.sent = socket.sent ∧ next.outgoing = socket.outgoing := by
  have size := lawful.size_encode value
  obtain ⟨next,read,left,_⟩ := recvExact_enough socket codec.size codec.decode
    (by rw [stream,List.length_append]; omega)
  rw [stream,List.take_left' size,lawful.decode_encode] at read
  rw [stream,List.drop_left' size] at left
  exact ⟨next,read,left,recvExact_output _ _ _ _ _ read⟩

theorem recv_header (socket : Socket) (header : UsbipHeaderBasic) (rest : List UInt8)
    (stream : socket.stream = (usbipPackHeaderBasic header).image ++ rest) :
    ∃ next, usbipRecvHeaderBasic socket = some (.ok header,next) ∧ next.stream = rest ∧
      next.sent = socket.sent ∧ next.outgoing = socket.outgoing :=
  recv_encoded headerBasicCodec_lawful socket header rest stream

theorem recv_device (socket : Socket) (device : UsbipUsbDevice) (rest : List UInt8)
    (stream : socket.stream = (usbipPackDevice device).image ++ rest) :
    ∃ next, usbipRecvDevice socket = some (.ok device,next) ∧ next.stream = rest ∧
      next.sent = socket.sent ∧ next.outgoing = socket.outgoing :=
  recv_encoded deviceCodec_lawful socket device rest stream

theorem connect_header (remote : Socket) (busid : List UInt8) (delivers : remote.Delivers)
    (header : UsbipHeaderBasic) (rest : List UInt8)
    (stream : remote.stream = (usbipPackHeaderBasic header).image ++ rest) :
    ∃ next, next.stream = rest ∧ next.sent = remote.sent ++ importRequest (CString.ofBuffer busid) ∧
      (header.status ≠ usbipStOk → remoteDeviceConnect remote busid =
        some (.error (if header.status = usbipStDevBusy then .deviceBusy else .usbNotFound),next)) ∧
      (header.status = usbipStOk → ∀ device last, usbipRecvDevice next = some (.ok device,last) →
        remoteDeviceConnect remote busid = some (.ok device,last)) := by
  obtain ⟨first,asked,deliversFirst,sentFirst,inputFirst⟩ := sendExact_delivers remote
    (usbipPackHeaderBasic (usbipCreateImportRequest busid).header).image delivers
  obtain ⟨second,name,_,sentSecond,inputSecond⟩ := sendExact_delivers first
    (usbipCreateImportRequest busid).busid.toList deliversFirst
  have sent : second.sent = remote.sent ++ importRequest (CString.ofBuffer busid) := by
    rw [sentSecond,sentFirst,List.append_assoc]
    rfl
  have arriving : second.stream = remote.stream := by
    rw [Socket.stream,inputSecond,inputFirst,Socket.stream]
  obtain ⟨next,read,left,kept,_⟩ := recv_header second header rest (arriving.trans stream)
  refine ⟨next,left,kept.trans sent,?_,?_⟩
  · intro failed
    simp only [remoteDeviceConnect,asked,name,read,if_pos failed]
  · intro good device last received
    simp only [remoteDeviceConnect,asked,name,read,good,ne_eq,not_true,if_false,received]

theorem connect_reply (remote : Socket) (busid : List UInt8) (delivers : remote.Delivers)
    (err : ErrorCode) (device : UsbipUsbDevice)
    (stream : remote.stream = (usbipPackHeaderBasic (importReplyHeader err)).image ++
      if err = .success then (usbipPackDevice device).image else []) :
    ∃ next, remoteDeviceConnect remote busid = some
        (if err = .success then .ok device
          else .error (if err = .deviceBusy then .deviceBusy else .usbNotFound),next) ∧
      next.stream = [] ∧ next.sent = remote.sent ++ importRequest (CString.ofBuffer busid) := by
  obtain ⟨next,left,sent,fails,imports⟩ := connect_header remote busid delivers _ _ stream
  by_cases ok : err = .success
  · rw [if_pos ok] at left
    obtain ⟨last,received,done,unsent,_⟩ := recv_device next device [] (by simpa using left)
    have good : (importReplyHeader err).status = usbipStOk := by simp [importReplyHeader,ok]
    refine ⟨last,?_,done,unsent.trans sent⟩
    rw [if_pos ok]
    exact imports good device last received
  · rw [if_neg ok] at left
    refine ⟨next,?_,left,sent⟩
    by_cases busy : err = .deviceBusy
    · subst busy
      exact fails (by decide)
    · have status : (importReplyHeader err).status = usbipStNa := by simp [importReplyHeader,ok,busy]
      rw [status] at fails
      rw [if_neg ok,if_neg busy]
      exact fails (by decide)

theorem recvRequest_import (socket : Socket) (busid : Busid) (rest : List UInt8)
    (stream : socket.stream = importRequest busid ++ rest) :
    ∃ next, recvRequest socket = some (.ok (.import busid),next) ∧ next.stream = rest ∧
      next.sent = socket.sent ∧ next.outgoing = socket.outgoing := by
  rw [importRequest,List.append_assoc] at stream
  obtain ⟨first,header,left,sentFirst,outgoingFirst⟩ := recv_header socket _ _ stream
  have size : busid.buffer.toList.length = 32 := by simp
  obtain ⟨next,name,done,_⟩ := recvExact_enough first 32 (CString.ofBuffer : List UInt8 → Busid)
    (by rw [left,List.length_append]; omega)
  rw [left,List.take_left' size,CString.ofBuffer_buffer] at name
  rw [left,List.drop_left' size] at done
  obtain ⟨sent,outgoing⟩ := recvExact_output _ _ _ _ _ name
  refine ⟨next,?_,done,sent.trans sentFirst,outgoing.trans outgoingFirst⟩
  simp [recvRequest,header,opReqImport,opReqDevlist,name]

/-- An import that succeeds leaves the entry lent to the client, whatever the
list looked like before. -/
theorem attach_lends (server : Server) (client : ClientConnection) (busid : Busid)
    (outcome : AttachOutcome) (ok : (clientAttachDevice server client busid outcome).1 = .success) :
    (clientAttachDevice server client busid outcome).2.2.device = some busid ∧
      (clientAttachDevice server client busid outcome).2.1.devices.lending busid =
        some (.exported,client.id) := by
  simp only [clientAttachDevice] at ok ⊢
  split at ok
  next checked =>
    obtain ⟨entry,found,_,available⟩ := attachCheck_success checked
    split at ok
    next devices opened =>
      have reached : devices.lending busid = some (.available,entry.clientId) := by
        simp only [attachOpen,found,Prod.mk.injEq] at opened
        rw [← opened.2,DeviceList.lending,find_modifyDevice (openAndClaim_reset outcome.opened) found]
        simp [available]
      rcases attachHandler_cases {server with devices} client busid outcome with
        started | ⟨err,failed,handled⟩
      · simp only [started]
        refine ⟨rfl,?_⟩
        rw [attachExport,lending_export _ entry.clientId _ _ reached,if_pos rfl]
        rfl
      · simp only [handled] at ok
        exact absurd ok failed
    next failed _ => exact absurd ok failed
  next failed => exact absurd ok failed

theorem attachHandler_socket (server : Server) (client : ClientConnection) (busid : Busid)
    (outcome : AttachOutcome) (socket : Socket) :
    attachHandler server {client with socket} busid outcome =
      ((attachHandler server client busid outcome).1,(attachHandler server client busid outcome).2.1,
        {(attachHandler server client busid outcome).2.2 with socket}) := by
  simp only [attachHandler]
  cases outcome.handlerAlloc with
  | false => rfl
  | true =>
    cases urbHandlerInit busid outcome.init with
    | error err => rfl
    | ok handler =>
      simp only [Bool.not_true,Bool.false_eq_true,if_false]
      cases urbHandlerStart handler outcome.thread with
      | mk err started => cases err <;> rfl

theorem attach_socket (server : Server) (client : ClientConnection) (busid : Busid)
    (outcome : AttachOutcome) (socket : Socket) :
    clientAttachDevice server {client with socket} busid outcome =
      ((clientAttachDevice server client busid outcome).1,
        (clientAttachDevice server client busid outcome).2.1,
        {(clientAttachDevice server client busid outcome).2.2 with socket}) := by
  simp only [clientAttachDevice,attachHandler_socket]
  split
  next _ =>
    split
    next devices _ =>
      cases attachHandler {server with devices} client busid outcome with
      | mk err rest => cases err <;> rfl
    next _ => rfl
  next _ => rfl

/-- What both ends think of an import: `err` is the server's result and
`devices` its list after it, `result` is what the client has when it is past
the reply. -/
structure ImportAgrees (busid : Busid) (id : UInt32) (err : ErrorCode) (devices : DeviceList)
    (result : Except ErrorCode UsbipUsbDevice) : Prop where
  imported : (∃ info, result = .ok info) ↔
    err = .success ∧ devices.lending busid = some (.exported,id)
  busy : result = .error .deviceBusy ↔ err = .deviceBusy
  notFound : result = .error .usbNotFound ↔ err ≠ .success ∧ err ≠ .deviceBusy
  info : ∀ info, result = .ok info → ∃ entry, deviceListFind devices busid = some entry ∧
    info = usbDeviceToUsbip entry.device

theorem handle_import (server : Server) (client : ClientConnection) (busid : Busid)
    (outcome : RequestOutcome) (delivers : client.socket.Delivers) :
    ∃ next, clientHandleImport server client busid outcome =
        ((clientAttachDevice server client busid outcome.attach).1,
          (clientAttachDevice server client busid outcome.attach).2.1,
          {(clientAttachDevice server client busid outcome.attach).2.2 with socket := next}) ∧
      next.incoming = client.socket.incoming ∧
      next.sent = client.socket.sent ++ ((usbipPackHeaderBasic (importReplyHeader
          (clientAttachDevice server client busid outcome.attach).1)).image ++
        if (clientAttachDevice server client busid outcome.attach).1 = .success
        then importReplyDevice (clientAttachDevice server client busid outcome.attach).2.1
          (clientAttachDevice server client busid outcome.attach).2.2 else []) := by
  have same : (clientAttachDevice server client busid outcome.attach).2.2.socket = client.socket := by
    have unused := attach_socket server client busid outcome.attach client.socket
    exact congrArg (fun result => result.2.2.socket) unused
  rcases attempt : clientAttachDevice server client busid outcome.attach with ⟨err,after,attached⟩
  rw [attempt] at same
  obtain ⟨first,header,deliversFirst,sentFirst,inputFirst⟩ := sendExact_delivers attached.socket
    (usbipPackHeaderBasic (importReplyHeader err)).image (same ▸ delivers)
  simp only [clientHandleImport,attempt,header]
  by_cases ok : err = .success
  · obtain ⟨second,record,_,sentSecond,inputSecond⟩ := sendExact_delivers first
      (importReplyDevice after {attached with socket := first}) deliversFirst
    refine ⟨second,by simp only [ok,if_true,record],by rw [inputSecond,inputFirst,same],?_⟩
    rw [sentSecond,sentFirst,same,List.append_assoc,if_pos ok]
    rfl
  · refine ⟨first,by simp only [ok,if_false],by rw [inputFirst,same],?_⟩
    rw [sentFirst,same,if_neg ok,List.append_nil]

/-- Both ends of an import come to the same view of it, and neither leaves a
byte unread. -/
theorem import_agrees (server : Server) (client : ClientConnection) (outcome : RequestOutcome)
    (name : List UInt8) (answers : client.socket.Delivers)
    (request : client.socket.stream = importRequest (CString.ofBuffer name)) :
    ∃ err after attached, clientHandleRequest server client outcome = some (err,after,attached) ∧
      err = (clientAttachDevice server client (CString.ofBuffer name) outcome.attach).1 ∧
      attached.socket.stream = [] ∧
      ∀ remote : Socket, remote.Delivers →
        attached.socket.sent = client.socket.sent ++ remote.stream →
        ∃ result next, remoteDeviceConnect remote name = some (result,next) ∧
          next.sent = remote.sent ++ client.socket.stream ∧ next.stream = [] ∧
          ImportAgrees (CString.ofBuffer name) client.id err after.devices result := by
  let busid : Busid := CString.ofBuffer name
  obtain ⟨socket,read,rest,sent,outgoing⟩ := recvRequest_import client.socket busid [] (by simpa)
  obtain ⟨next,handled,input,written⟩ := handle_import server {client with socket} busid outcome
    (by simpa [Socket.Delivers,outgoing] using answers)
  have lends := attach_lends server client busid outcome.attach
  rw [attach_socket] at handled written
  rcases attempt : clientAttachDevice server client busid outcome.attach with ⟨err,after,attached⟩
  simp only [attempt] at handled written lends
  refine ⟨err,after,_,by simp only [clientHandleRequest,read]; exact congrArg some handled,
    rfl,?_,?_⟩
  · simp only [Socket.stream,input]
    exact rest
  · intro remote delivers reply
    have stream : remote.stream = (usbipPackHeaderBasic (importReplyHeader err)).image ++
        if err = .success then importReplyDevice after {attached with socket} else [] := by
      apply List.append_cancel_left
      rw [← reply,← sent]
      exact written
    by_cases ok : err = .success
    · obtain ⟨device,lent⟩ := lends ok
      obtain ⟨entry,found,_⟩ := Option.map_eq_some_iff.mp lent
      have record : importReplyDevice after {attached with socket} =
          (usbipPackDevice (usbDeviceToUsbip entry.device)).image := by
        simp [importReplyDevice,device,Server.device,found]
      rw [record] at stream
      obtain ⟨last,connected,done,asked⟩ := connect_reply remote name delivers err _ stream
      rw [if_pos ok] at connected
      refine ⟨_,last,connected,by rw [asked,request],done,?_⟩
      exact ⟨⟨fun _ => ⟨ok,lent⟩,fun _ => ⟨_,rfl⟩⟩,by simp [ok],by simp [ok],
        fun info same => ⟨entry,found,(Except.ok.inj same).symm⟩⟩
    · rw [if_neg ok] at stream
      obtain ⟨last,connected,done,asked⟩ := connect_reply remote name delivers err (.ofImage [])
        (by rw [if_neg ok]; exact stream)
      rw [if_neg ok] at connected
      refine ⟨_,last,connected,by rw [asked,request],done,?_⟩
      exact ⟨by simp [ok],by simp,by simp [ok],by simp⟩

def oneKeyboard : Server := ⟨⟨[],0,1⟩,⟨[sharedKeyboard]⟩,[]⟩

def asking : ClientConnection :=
  createClient 1 ⟨RecvEvent.unread (importRequest sharedKeyboard.busid) [],.silent,[],[]⟩ .empty 0

def opens : RequestOutcome :=
  ⟨⟨⟨some 1,some 2⟩,true,⟨true,true,true,true⟩,true,0⟩,fun _ => ⟨⟨true,false,1,[7]⟩,false⟩⟩

/-- A connection that carries the given bytes to its reader, one at a time. -/
def carrying (bytes : List UInt8) : Socket := ⟨bytes.map (.chunk · []),.silent,[],[]⟩

theorem carrying_stream (bytes : List UInt8) : (carrying bytes).stream = bytes := by
  simp [carrying,Socket.stream,List.flatMap_map,RecvEvent.bytes]

theorem carrying_delivers (bytes : List UInt8) : (carrying bytes).Delivers := by
  simp [Socket.Delivers,carrying]

theorem import_agrees_keyboard : ∃ after attached,
    clientHandleRequest oneKeyboard asking opens = some (.success,after,attached) ∧
    ∃ info next, remoteDeviceConnect (carrying attached.socket.sent) [0x31,0x2d,0x31] =
        some (.ok info,next) ∧
      ∃ entry, deviceListFind after.devices sharedKeyboard.busid = some entry ∧
        info = usbDeviceToUsbip entry.device := by
  have named : CString.ofBuffer [0x31,0x2d,0x31] = sharedKeyboard.busid := by decide
  obtain ⟨err,after,attached,handled,same,_,view⟩ := import_agrees oneKeyboard asking opens
    [0x31,0x2d,0x31] (by simp [Socket.Delivers,asking,createClient]) (by decide +kernel)
  have ok : err = .success := by
    rw [same]
    decide +kernel
  obtain ⟨result,next,connected,_,_,agrees⟩ := view (carrying attached.socket.sent)
    (carrying_delivers _) (by rw [carrying_stream]; rfl)
  rw [ok] at handled agrees
  have lent : after.devices.lending (CString.ofBuffer [0x31,0x2d,0x31]) = some (.exported,1) := by
    have checked : (clientHandleRequest oneKeyboard asking opens).any (fun result =>
        result.2.1.devices.lending (CString.ofBuffer [0x31,0x2d,0x31]) = some (.exported,1)) = true := by
      decide +kernel
    rw [handled] at checked
    simpa using checked
  obtain ⟨info,rfl⟩ := agrees.imported.mpr ⟨rfl,lent⟩
  exact ⟨after,attached,handled,info,next,connected,named ▸ agrees.info info rfl⟩

theorem sendInterfaces_delivers (socket : Socket) (interfaces : List UsbInterfaceInfo)
    (delivers : socket.Delivers) :
    ∃ next, sendInterfaces socket interfaces = (.success,next) ∧ next.Delivers := by
  induction interfaces generalizing socket with
  | nil => exact ⟨socket,rfl,delivers⟩
  | cons iface rest ih =>
    obtain ⟨middle,stepped,still,_⟩ := sendExact_delivers socket (usbInterfaceToUsbip iface).image
      delivers
    simp only [sendInterfaces,usbipSendInterface,stepped]
    exact ih middle still

theorem sendDeviceCallback_delivers (entry : DeviceEntry) (data : SendDevlistData)
    (delivers : data.socket.Delivers) :
    (sendDeviceCallback entry data).1 = true ∧ (sendDeviceCallback entry data).2.socket.Delivers ∧
      (sendDeviceCallback entry data).2.error = data.error := by
  obtain ⟨first,record,still,_⟩ := sendExact_delivers data.socket
    (usbipPackDevice (usbDeviceToUsbip entry.device)).image delivers
  obtain ⟨second,interfaces,last⟩ := sendInterfaces_delivers first entry.device.sentInterfaces still
  simpa only [sendDeviceCallback,usbipSendDevice,record,interfaces,true_and,and_true] using last

theorem foreachShared_delivers (entries : List DeviceEntry) (data : SendDevlistData)
    (delivers : data.socket.Delivers) :
    (deviceListForeachShared sendDeviceCallback entries data).error = data.error := by
  induction entries generalizing data with
  | nil => rfl
  | cons entry rest ih =>
    simp only [deviceListForeachShared]
    split
    · obtain ⟨go,still,same⟩ := sendDeviceCallback_delivers entry data delivers
      rw [if_pos go,ih _ still,same]
    · exact ih data delivers

theorem sendDeviceList_delivers (devices : DeviceList) (socket : Socket) (deviceCount : UInt32)
    (delivers : socket.Delivers) : (sendDeviceList devices socket deviceCount).1 = .success := by
  obtain ⟨first,header,still,_⟩ := sendExact_delivers socket
    (usbipPackHeaderBasic (usbipCreateDevlistReply deviceCount).header).image delivers
  obtain ⟨second,count,last,_⟩ := sendExact_delivers first
    (image32 (htobe32 (usbipCreateDevlistReply deviceCount).ndev)) still
  simp only [sendDeviceList,header,count]
  exact foreachShared_delivers devices.entries ⟨second,0,.success⟩ last

theorem skipInterfaces_records (interfaces : List UsbInterfaceInfo) (socket : Socket)
    (rest : List UInt8) (stream : socket.stream =
      (interfaces.flatMap fun iface => (usbInterfaceToUsbip iface).image) ++ rest) :
    ∃ next, skipInterfaces interfaces.length socket = some next ∧ next.stream = rest := by
  induction interfaces generalizing socket with
  | nil => exact ⟨socket,rfl,by simpa using stream⟩
  | cons iface more ih =>
    rw [List.flatMap_cons,List.append_assoc] at stream
    have size : (usbInterfaceToUsbip iface).image.length = UsbipUsbInterface.size := rfl
    obtain ⟨middle,read,left,_⟩ := recvExact_enough socket UsbipUsbInterface.size
      UsbipUsbInterface.ofImage (by rw [stream,List.length_append]; omega)
    rw [stream,List.drop_left' size] at left
    simp only [List.length_cons,skipInterfaces,usbipRecvInterface,read]
    exact ih middle left

/-- An entry whose record the receiver can skip over by its own count. -/
def DeviceEntry.Fits (entry : DeviceEntry) : Prop := entry.device.numInterfaces.toNat ≤ usbMaxInterfaces

instance (entry : DeviceEntry) : Decidable entry.Fits :=
  inferInstanceAs (Decidable (entry.device.numInterfaces.toNat ≤ usbMaxInterfaces))

theorem recvDevices_records (maxDevices : Nat) (records : List DeviceEntry)
    (got : List UsbipUsbDevice) (socket : Socket) (rest : List UInt8)
    (fits : ∀ entry ∈ records, entry.Fits)
    (stream : socket.stream = records.flatMap DeviceEntry.record ++ rest) :
    ∃ next, recvDevices maxDevices records.length got socket = some
      (got ++ (records.map fun entry => usbDeviceToUsbip entry.device).take
        (maxDevices - got.length),next) := by
  induction records generalizing got socket with
  | nil => exact ⟨socket,by simp [recvDevices]⟩
  | cons entry more ih =>
    simp only [List.length_cons,recvDevices]
    by_cases room : got.length < maxDevices
    · rw [List.flatMap_cons,DeviceEntry.record,List.append_assoc,List.append_assoc] at stream
      obtain ⟨first,read,left,_⟩ := recv_device socket _ _ stream
      have number : (usbDeviceToUsbip entry.device).bNumInterfaces.toNat =
          entry.device.sentInterfaces.length := by
        have fit := fits entry (by simp)
        simp only [DeviceEntry.Fits,usbMaxInterfaces] at fit
        simp only [usbDeviceToUsbip,UsbDevice.sentInterfaces,List.length_take,Vector.length_toList]
        omega
      obtain ⟨second,skipped,behind⟩ := skipInterfaces_records entry.device.sentInterfaces first _ left
      obtain ⟨next,received⟩ := ih (got ++ [usbDeviceToUsbip entry.device]) second
        (fun other member => fits other (by simp [member])) behind
      refine ⟨next,?_⟩
      simp only [room,if_true,read,number,skipped,received]
      obtain ⟨space,enough⟩ : ∃ space, maxDevices - got.length = space+1 :=
        ⟨maxDevices - got.length - 1,by omega⟩
      have less : maxDevices - (got.length+1) = space := by omega
      simp [enough,less]
    · refine ⟨socket,?_⟩
      have full : maxDevices - got.length = 0 := by omega
      simp [room,full]

/-- Every list that `device_list_add` builds: its `count` is an `int`. -/
def DeviceList.Counted (list : DeviceList) : Prop := list.entries.length < 2^31

instance (list : DeviceList) : Decidable list.Counted :=
  inferInstanceAs (Decidable (list.entries.length < 2^31))

theorem countDevices_shared (devices : DeviceList) (counted : devices.Counted)
    (available : ∀ entry ∈ devices.entries, entry.isShared = true → entry.state = .available) :
    (countDevices devices).toNat = (devices.entries.filter DeviceEntry.isShared).length := by
  have same : devices.entries.countP DeviceEntry.listed = devices.entries.countP DeviceEntry.isShared := by
    apply List.countP_congr
    intro entry member
    simpa [DeviceEntry.listed] using available entry member
  have bound : devices.entries.countP DeviceEntry.isShared ≤ devices.entries.length :=
    List.countP_le_length
  rw [countDevices,UInt32.toNat_ofNat',same,← List.countP_eq_length_filter]
  simp only [DeviceList.Counted] at counted
  omega

theorem recv_count (socket : Socket) (count : UInt32) (rest : List UInt8)
    (stream : socket.stream = image32 (htobe32 count) ++ rest) :
    ∃ next, (recvExact socket 4 fun bytes => be32toh (read32 bytes 0)) = some (.ok count,next) ∧
      next.stream = rest := by
  have size : (image32 (htobe32 count)).length = 4 := rfl
  obtain ⟨next,read,left,_⟩ := recvExact_enough socket 4 (fun bytes => be32toh (read32 bytes 0))
    (by rw [stream,List.length_append]; omega)
  have value : read32 (image32 (htobe32 count)) 0 = htobe32 count := read32_of_slice slice_whole
  rw [stream,List.take_left' size,value,be32toh,htobe32,swap32_swap32] at read
  rw [stream,List.drop_left' size] at left
  exact ⟨next,read,left⟩

/-- Behind a header of good status, the client's list is the beginning of the
server's shared entries, as many as it has room for. -/
theorem list_devices_reads (header : UsbipHeaderBasic) (good : header.status = usbipStOk)
    (devices : List DeviceEntry) (ndev : UInt32) (remote : Socket) (maxDevices : Nat)
    (asks : remote.Delivers) (number : ndev.toNat = devices.length)
    (fits : ∀ entry ∈ devices, entry.Fits) (reply : remote.stream =
      (usbipPackHeaderBasic header).image ++
        (image32 (htobe32 ndev) ++ devices.flatMap DeviceEntry.record)) :
    ∃ next, remoteServerListDevices remote maxDevices = some
      (.success,(devices.map fun entry => usbDeviceToUsbip entry.device).take maxDevices,next) := by
  obtain ⟨first,asked,_,_,input⟩ := sendExact_delivers remote
    (usbipPackHeaderBasic usbipCreateDevlistRequest).image asks
  have arriving : first.stream = remote.stream := by rw [Socket.stream,input,Socket.stream]
  rw [reply] at arriving
  obtain ⟨second,read,behind,_⟩ := recv_header first _ _ arriving
  obtain ⟨third,count,records⟩ := recv_count second ndev _ behind
  obtain ⟨next,received⟩ := recvDevices_records maxDevices devices [] third [] fits (by simpa using records)
  rw [← number] at received
  refine ⟨next,?_⟩
  simp [remoteServerListDevices,asked,read,good,count,received]

theorem devlist_round_trip (devices : DeviceList) (client : ClientConnection) (remote : Socket)
    (maxDevices : Nat) (counted : devices.Counted)
    (available : ∀ entry ∈ devices.entries, entry.isShared = true → entry.state = .available)
    (fits : ∀ entry ∈ devices.entries, entry.isShared = true → entry.Fits)
    (answers : client.socket.Delivers) (asks : remote.Delivers)
    (reply : (clientSendDeviceList devices devices client).2.socket.sent =
      client.socket.sent ++ remote.stream) :
    ∃ received next, remoteServerListDevices remote maxDevices = some (.success,received,next) ∧
      received.length = min maxDevices (devices.entries.filter DeviceEntry.isShared).length ∧
      ∀ i (inside : i < received.length), ∃ entry,
        (devices.entries.filter DeviceEntry.isShared)[i]? = some entry ∧
        received[i] = usbDeviceToUsbip entry.device := by
  have sent := sendDeviceList_sent devices client.socket (countDevices devices)
    (sendDeviceList_delivers devices client.socket _ answers)
  have stream : remote.stream = devlistReply (countDevices devices)
      (devices.entries.filter DeviceEntry.isShared) :=
    List.append_cancel_left (reply.symm.trans sent)
  rw [devlistReply,List.append_assoc] at stream
  obtain ⟨next,listed⟩ := list_devices_reads _ rfl (devices.entries.filter DeviceEntry.isShared)
    (countDevices devices) remote maxDevices asks (countDevices_shared devices counted available)
    (fun entry member => fits entry (List.mem_filter.mp member).1 (List.mem_filter.mp member).2)
    stream
  refine ⟨_,next,listed,by simp,?_⟩
  intro i inside
  simp only [List.length_take,List.length_map] at inside
  refine ⟨(devices.entries.filter DeviceEntry.isShared)[i],?_,by simp⟩
  exact List.getElem?_eq_getElem (by omega)

def threeDevices : DeviceList := ⟨[sharedKeyboard,{sharedKeyboard with isShared := false},
  {sharedKeyboard with device := .keyboard ⟨[0x32,0x2d,0x31],by decide,by decide⟩}]⟩

theorem devlist_round_trip_three : ∃ received next,
    remoteServerListDevices (carrying
      (clientSendDeviceList threeDevices threeDevices quietClient).2.socket.sent) 5 =
        some (.success,received,next) ∧ received.length = 2 := by
  obtain ⟨received,next,listed,count,_⟩ := devlist_round_trip threeDevices quietClient
    (carrying (clientSendDeviceList threeDevices threeDevices quietClient).2.socket.sent) 5
    (by decide) (by decide) (by decide) (by simp [Socket.Delivers,quietClient,createClient])
    (carrying_delivers _) (by rw [carrying_stream]; exact (List.nil_append _).symm)
  exact ⟨received,next,listed,count⟩

end UsbOverNetwork
