import Mathlib.Data.List.Flatten
import UsbOverNetwork.Server.ClientManager

/-! The requests a client may make before it is attached, and the two calls
that carry its URBs to the handler and their results back. -/
namespace UsbOverNetwork
open Bytes

def sendInterfaces (socket : Socket) : List UsbInterfaceInfo → ErrorCode × Socket
  | [] => (.success,socket)
  | iface::rest =>
    match usbipSendInterface socket (usbInterfaceToUsbip iface) with
    | (.success,socket) => sendInterfaces socket rest
    | (_,socket) => (.socketSend,socket)

def UsbDevice.sentInterfaces (device : UsbDevice) : List UsbInterfaceInfo :=
  device.interfaces.toList.take device.numInterfaces.toNat

structure SendDevlistData where
  socket : Socket
  count : Nat
  error : ErrorCode
deriving DecidableEq

def sendDeviceCallback (entry : DeviceEntry) (data : SendDevlistData) : Bool × SendDevlistData :=
  match usbipSendDevice data.socket (usbDeviceToUsbip entry.device) with
  | (.success,socket) =>
    match sendInterfaces socket entry.device.sentInterfaces with
    | (.success,socket) => (true,{data with socket, count := data.count+1})
    | (_,socket) => (false,{data with socket, error := .socketSend})
  | (_,socket) => (false,{data with socket, error := .socketSend})

def DeviceEntry.listed (entry : DeviceEntry) : Bool := entry.isShared && entry.state = .available

def countDevices (devices : DeviceList) : UInt32 :=
  UInt32.ofNat (devices.entries.countP DeviceEntry.listed)

/-- Everything after the counting pass; the lock was dropped in between. -/
def sendDeviceList (devices : DeviceList) (socket : Socket) (deviceCount : UInt32) :
    ErrorCode × Socket :=
  let reply := usbipCreateDevlistReply deviceCount
  match sendExact socket (usbipPackHeaderBasic reply.header).image with
  | (.success,socket) =>
    match sendExact socket (image32 (htobe32 reply.ndev)) with
    | (.success,socket) =>
      let data := deviceListForeachShared sendDeviceCallback devices.entries ⟨socket,0,.success⟩
      (data.error,data.socket)
    | (_,socket) => (.socketSend,socket)
  | (_,socket) => (.socketSend,socket)

def DeviceEntry.record (entry : DeviceEntry) : List UInt8 :=
  (usbipPackDevice (usbDeviceToUsbip entry.device)).image ++
    entry.device.sentInterfaces.flatMap fun iface => (usbInterfaceToUsbip iface).image

def devlistReply (ndev : UInt32) (records : List DeviceEntry) : List UInt8 :=
  (usbipPackHeaderBasic (usbipCreateDevlistReply ndev).header).image ++ image32 (htobe32 ndev) ++
    records.flatMap DeviceEntry.record

theorem sendInterfaces_sent (socket : Socket) (interfaces : List UsbInterfaceInfo)
    (ok : (sendInterfaces socket interfaces).1 = .success) :
    (sendInterfaces socket interfaces).2.sent =
      socket.sent ++ interfaces.flatMap fun iface => (usbInterfaceToUsbip iface).image := by
  induction interfaces generalizing socket with
  | nil => simp [sendInterfaces]
  | cons iface rest ih =>
    have sent := sendExact_success socket (usbInterfaceToUsbip iface).image
    simp only [sendInterfaces,usbipSendInterface] at ok ⊢
    split at ok
    next next stepped =>
      rw [stepped] at sent
      rw [ih next ok,sent rfl]
      simp
    next failed => cases ok

theorem sendDeviceCallback_sent (entry : DeviceEntry) (data : SendDevlistData)
    (ok : (sendDeviceCallback entry data).1 = true) :
    (sendDeviceCallback entry data).2.error = data.error ∧
      (sendDeviceCallback entry data).2.socket.sent = data.socket.sent ++ entry.record := by
  have sent := sendExact_success data.socket (usbipPackDevice (usbDeviceToUsbip entry.device)).image
  simp only [sendDeviceCallback,usbipSendDevice] at ok ⊢
  split at ok
  next next stepped =>
    rw [stepped] at sent
    have interfaces := sendInterfaces_sent next entry.device.sentInterfaces
    split at ok
    next last finished =>
      rw [finished] at interfaces
      refine ⟨rfl,?_⟩
      rw [interfaces rfl,sent rfl,List.append_assoc]
      rfl
    next _ => cases ok
  next _ => cases ok

theorem sendDeviceCallback_failed (entry : DeviceEntry) (data : SendDevlistData)
    (stop : (sendDeviceCallback entry data).1 = false) :
    (sendDeviceCallback entry data).2.error = .socketSend := by
  simp only [sendDeviceCallback] at stop ⊢
  split at stop
  next _ =>
    split at stop
    next _ => cases stop
    next _ => rfl
  next _ => rfl

theorem foreachShared_sent (entries : List DeviceEntry) (data : SendDevlistData)
    (ok : (deviceListForeachShared sendDeviceCallback entries data).error = .success) :
    (deviceListForeachShared sendDeviceCallback entries data).socket.sent =
      data.socket.sent ++ (entries.filter DeviceEntry.isShared).flatMap DeviceEntry.record := by
  induction entries generalizing data with
  | nil => simp [deviceListForeachShared]
  | cons entry rest ih =>
    simp only [deviceListForeachShared] at ok ⊢
    cases shared : entry.isShared with
    | false =>
      simp only [shared,Bool.false_eq_true,if_false] at ok ⊢
      rw [ih data ok,List.filter_cons_of_neg (by simp [shared])]
    | true =>
      simp only [shared,if_true] at ok ⊢
      cases go : (sendDeviceCallback entry data).1 with
      | false =>
        simp only [go,Bool.false_eq_true,if_false] at ok
        rw [sendDeviceCallback_failed entry data go] at ok
        cases ok
      | true =>
        simp only [go,if_true] at ok ⊢
        obtain ⟨_,sent⟩ := sendDeviceCallback_sent entry data go
        rw [ih _ ok,sent,List.filter_cons_of_pos shared,List.flatMap_cons,List.append_assoc]

theorem sendDeviceList_sent (devices : DeviceList) (socket : Socket) (deviceCount : UInt32)
    (ok : (sendDeviceList devices socket deviceCount).1 = .success) :
    (sendDeviceList devices socket deviceCount).2.sent =
      socket.sent ++ devlistReply deviceCount (devices.entries.filter DeviceEntry.isShared) := by
  have header := sendExact_success socket
    (usbipPackHeaderBasic (usbipCreateDevlistReply deviceCount).header).image
  simp only [sendDeviceList] at ok ⊢
  split at ok
  next first stepped =>
    have count := sendExact_success first
      (image32 (htobe32 (usbipCreateDevlistReply deviceCount).ndev))
    rw [stepped] at header
    split at ok
    next second counted =>
      rw [counted] at count
      calc (deviceListForeachShared sendDeviceCallback devices.entries ⟨second,0,.success⟩).socket.sent
          = second.sent ++ _ := foreachShared_sent _ _ ok
        _ = first.sent ++ image32 (htobe32 deviceCount) ++ _ := congrArg (· ++ _) (count rfl)
        _ = _ := by
          rw [show first.sent = _ from header rfl]
          simp only [devlistReply,List.append_assoc]
    next _ => cases ok
  next _ => cases ok

theorem sendInterfaces_sameInput (socket : Socket) (interfaces : List UsbInterfaceInfo) :
    socket.SameInput (sendInterfaces socket interfaces).2 := by
  induction interfaces generalizing socket with
  | nil => exact ⟨rfl,rfl⟩
  | cons iface rest ih =>
    have first := sendExact_sameInput socket (usbInterfaceToUsbip iface).image
    simp only [sendInterfaces,usbipSendInterface]
    split
    next next stepped =>
      rw [stepped] at first
      exact first.trans (ih next)
    next next stepped =>
      rw [stepped] at first
      exact first

theorem sendDeviceCallback_sameInput (entry : DeviceEntry) (data : SendDevlistData) :
    data.socket.SameInput (sendDeviceCallback entry data).2.socket := by
  have first := sendExact_sameInput data.socket
    (usbipPackDevice (usbDeviceToUsbip entry.device)).image
  simp only [sendDeviceCallback,usbipSendDevice]
  split
  next next stepped =>
    rw [stepped] at first
    have second := sendInterfaces_sameInput next entry.device.sentInterfaces
    split
    next _ finished => rw [finished] at second; exact first.trans second
    next _ finished => rw [finished] at second; exact first.trans second
  next next stepped =>
    rw [stepped] at first
    exact first

theorem foreachShared_sameInput (entries : List DeviceEntry) (data : SendDevlistData) :
    data.socket.SameInput (deviceListForeachShared sendDeviceCallback entries data).socket := by
  induction entries generalizing data with
  | nil => exact ⟨rfl,rfl⟩
  | cons entry rest ih =>
    have first := sendDeviceCallback_sameInput entry data
    simp only [deviceListForeachShared]
    split
    · split
      · exact first.trans (ih _)
      · exact first
    · exact ih data

theorem sendDeviceList_sameInput (devices : DeviceList) (socket : Socket) (deviceCount : UInt32) :
    socket.SameInput (sendDeviceList devices socket deviceCount).2 := by
  have header := sendExact_sameInput socket
    (usbipPackHeaderBasic (usbipCreateDevlistReply deviceCount).header).image
  simp only [sendDeviceList]
  split
  next first stepped =>
    rw [stepped] at header
    have count := sendExact_sameInput first
      (image32 (htobe32 (usbipCreateDevlistReply deviceCount).ndev))
    split
    next second counted =>
      rw [counted] at count
      exact (header.trans count).trans (foreachShared_sameInput devices.entries ⟨second,0,.success⟩)
    next second counted =>
      rw [counted] at count
      exact header.trans count
  next first stepped =>
    rw [stepped] at header
    exact header

/-- `counted` and `sending` are the device list during the two passes. -/
def clientSendDeviceList (counted sending : DeviceList) (client : ClientConnection) :
    ErrorCode × ClientConnection :=
  let (err,socket) := sendDeviceList sending client.socket (countDevices counted)
  (err,{client with socket})

theorem record_ne_nil (entry : DeviceEntry) : entry.record ≠ [] := by
  simp [DeviceEntry.record,UsbipUsbDevice.image]

theorem flatMap_record_filter (entries : List DeviceEntry) (keep : DeviceEntry → Bool)
    (same : entries.flatMap DeviceEntry.record = (entries.filter keep).flatMap DeviceEntry.record) :
    ∀ entry ∈ entries, keep entry = true := by
  have shorter (entries : List DeviceEntry) :
      ((entries.filter keep).flatMap DeviceEntry.record).length ≤
        (entries.flatMap DeviceEntry.record).length :=
    (List.filter_sublist.flatMap _).length_le
  induction entries with
  | nil => simp
  | cons head rest ih =>
    cases kept : keep head with
    | false =>
      have length := congrArg List.length same
      rw [List.filter_cons_of_neg (by simp [kept]),List.flatMap_cons,List.length_append] at length
      have positive := List.length_pos_of_ne_nil (record_ne_nil head)
      have := shorter rest
      omega
    | true =>
      rw [List.filter_cons_of_pos kept,List.flatMap_cons,List.flatMap_cons] at same
      intro entry member
      rcases List.mem_cons.mp member with rfl | inside
      · exact kept
      · exact ih (List.append_cancel_left same) entry inside

theorem devlistReply_injective (first second : UInt32) (left right : List DeviceEntry)
    (same : devlistReply first left = devlistReply second right) :
    first = second ∧ left.flatMap DeviceEntry.record = right.flatMap DeviceEntry.record := by
  obtain ⟨front,records⟩ := List.append_inj same (by simp [UsbipHeaderBasic.image,image16,image32])
  obtain ⟨_,count⟩ := List.append_inj front (by simp [UsbipHeaderBasic.image,image16,image32])
  have swapped : swap32 first = swap32 second := image32_injective count
  refine ⟨?_,records⟩
  rw [← swap32_swap32 first,swapped,swap32_swap32]

/-- The reply's count is the number of records behind it, and those are the
shared and available entries, exactly when every shared entry is available
during the second pass and there are as many as the first pass counted. -/
theorem device_list_reply_agrees_iff (counted sending : DeviceList) (client : ClientConnection)
    (ok : (clientSendDeviceList counted sending client).1 = .success) :
    (∃ ndev, (clientSendDeviceList counted sending client).2.socket.sent = client.socket.sent ++
        devlistReply ndev (sending.entries.filter DeviceEntry.listed) ∧
      ndev.toNat = (sending.entries.filter DeviceEntry.listed).length) ↔
    (∀ entry ∈ sending.entries, entry.isShared = true → entry.state = .available) ∧
      counted.entries.countP DeviceEntry.listed % 2^32 =
        sending.entries.countP DeviceEntry.isShared := by
  have sent : (clientSendDeviceList counted sending client).2.socket.sent = client.socket.sent ++
      devlistReply (countDevices counted) (sending.entries.filter DeviceEntry.isShared) :=
    sendDeviceList_sent sending client.socket (countDevices counted) ok
  have listed : sending.entries.filter DeviceEntry.listed =
      (sending.entries.filter DeviceEntry.isShared).filter (·.state = .available) := by
    rw [List.filter_filter]
    congr 1
    funext entry
    rw [DeviceEntry.listed,Bool.and_comm]
  have count : (countDevices counted).toNat = counted.entries.countP DeviceEntry.listed % 2^32 := by
    rw [countDevices,UInt32.toNat_ofNat']
  constructor
  · rintro ⟨ndev,bytes,number⟩
    rw [sent] at bytes
    obtain ⟨same,records⟩ := devlistReply_injective _ _ _ _ (List.append_cancel_left bytes)
    rw [listed] at records
    have available := flatMap_record_filter _ _ records
    refine ⟨fun entry member shared => ?_,?_⟩
    · simpa using available entry (List.mem_filter.mpr ⟨member,shared⟩)
    · rw [← count,same,number,listed,List.filter_eq_self.mpr available,List.countP_eq_length_filter]
  · rintro ⟨available,number⟩
    have all : sending.entries.filter DeviceEntry.listed =
        sending.entries.filter DeviceEntry.isShared := by
      rw [listed]
      apply List.filter_eq_self.mpr
      intro entry member
      obtain ⟨inside,shared⟩ := List.mem_filter.mp member
      simpa using available entry inside shared
    refine ⟨countDevices counted,?_,?_⟩
    · rw [all]
      exact sent
    · rw [count,number,all,List.countP_eq_length_filter]

def sharedKeyboard : DeviceEntry :=
  ⟨.keyboard ⟨[0x31,0x2d,0x31],by decide,by decide⟩,.available,0,.empty,0,true⟩

def exportedKeyboard : DeviceEntry := sharedKeyboard.export 7 .empty 1000

def quietClient : ClientConnection := createClient 1 ⟨[],.closed,[],[]⟩ .empty 0

theorem device_list_reply_agrees_keyboard :
    (clientSendDeviceList ⟨[sharedKeyboard]⟩ ⟨[sharedKeyboard]⟩ quietClient).1 =
      .success ∧
    ∃ ndev, (clientSendDeviceList ⟨[sharedKeyboard]⟩ ⟨[sharedKeyboard]⟩
        quietClient).2.socket.sent = quietClient.socket.sent ++
          devlistReply ndev ([sharedKeyboard].filter DeviceEntry.listed) ∧
      ndev.toNat = ([sharedKeyboard].filter DeviceEntry.listed).length := by
  have ok : (clientSendDeviceList ⟨[sharedKeyboard]⟩ ⟨[sharedKeyboard]⟩
      quietClient).1 = .success := by decide +kernel
  exact ⟨ok,(device_list_reply_agrees_iff _ _ _ ok).mpr (by decide)⟩

theorem device_list_reply_disagrees :
    (clientSendDeviceList ⟨[exportedKeyboard]⟩ ⟨[exportedKeyboard]⟩ quietClient).1 =
      .success ∧
    (clientSendDeviceList ⟨[exportedKeyboard]⟩ ⟨[exportedKeyboard]⟩
      quietClient).2.socket.sent = devlistReply 0 [exportedKeyboard] ∧
    ¬∃ ndev, (clientSendDeviceList ⟨[exportedKeyboard]⟩ ⟨[exportedKeyboard]⟩
        quietClient).2.socket.sent = quietClient.socket.sent ++
          devlistReply ndev ([exportedKeyboard].filter DeviceEntry.listed) ∧
      ndev.toNat = ([exportedKeyboard].filter DeviceEntry.listed).length := by
  have ok : (clientSendDeviceList ⟨[exportedKeyboard]⟩ ⟨[exportedKeyboard]⟩
      quietClient).1 = .success := by decide +kernel
  have sent : (clientSendDeviceList ⟨[exportedKeyboard]⟩ ⟨[exportedKeyboard]⟩
      quietClient).2.socket.sent = devlistReply 0 [exportedKeyboard] :=
    sendDeviceList_sent ⟨[exportedKeyboard]⟩ quietClient.socket
      (countDevices ⟨[exportedKeyboard]⟩) ok
  refine ⟨ok,sent,?_⟩
  rintro ⟨ndev,bytes,_⟩
  rw [sent] at bytes
  obtain ⟨_,records⟩ := devlistReply_injective _ _ _ _ bytes
  rw [List.flatMap_singleton] at records
  exact record_ne_nil exportedKeyboard records

def importReplyHeader (err : ErrorCode) : UsbipHeaderBasic where
  version := usbipProtoVersion
  command := opRepImport
  status := if err = .success then usbipStOk else if err = .deviceBusy then usbipStDevBusy else usbipStNa

/-- The device record of a successful reply, read through `client->device`. -/
def importReplyDevice (server : Server) (client : ClientConnection) : List UInt8 :=
  match client.device.bind server.device with
  | none => []
  | some device => (usbipPackDevice (usbDeviceToUsbip device)).image

structure RequestOutcome where
  attach : AttachOutcome
  joins : Fin 4 → WorkerOutcome

/-- A reply that cannot be sent leaves the device attached when the header
failed and detaches it when the device record did. -/
def clientHandleImport (server : Server) (client : ClientConnection) (busid : Busid)
    (outcome : RequestOutcome) : ErrorCode × Server × ClientConnection :=
  let (err,server,client) := clientAttachDevice server client busid outcome.attach
  match sendExact client.socket (usbipPackHeaderBasic (importReplyHeader err)).image with
  | (.success,socket) =>
    let client := {client with socket}
    if err = .success then
      match sendExact client.socket (importReplyDevice server client) with
      | (.success,socket) => (err,server,{client with socket})
      | (_,socket) =>
        let (server,client) := clientDetachDevice server {client with socket} outcome.joins
        (.socketSend,server,client)
    else (err,server,client)
  | (_,socket) => (.socketSend,server,{client with socket})

inductive Request
  | devlist
  | import (busid : Busid)
  | unknown
deriving DecidableEq

def importRequest (busid : Busid) : List UInt8 :=
  (usbipPackHeaderBasic ⟨usbipProtoVersion,opReqImport,0⟩).image ++ busid.buffer.toList

/-- The receiving part of `client_handle_request`. -/
def recvRequest (socket : Socket) : Option (Except ErrorCode Request × Socket) :=
  match usbipRecvHeaderBasic socket with
  | none => none
  | some (.error err,socket) => some (.error err,socket)
  | some (.ok header,socket) =>
    if header.command = opReqDevlist then some (.ok .devlist,socket)
    else if header.command = opReqImport then
      match recvExact socket 32 CString.ofBuffer with
      | none => none
      | some (.error err,socket) => some (.error err,socket)
      | some (.ok busid,socket) => some (.ok (.import busid),socket)
    else some (.ok .unknown,socket)

theorem recvRequest_next {socket next : Socket} {result : Except ErrorCode Request}
    (read : recvRequest socket = some (result,next)) :
    next.ending = socket.ending ∧ next.stream.length ≤ socket.stream.length ∧
      ∀ request, result = .ok request →
        next.stream.length + UsbipHeaderBasic.size ≤ socket.stream.length := by
  simp only [recvRequest] at read
  split at read
  next _ => cases read
  next err first failed =>
    obtain ⟨shorter,ending⟩ := recvExact_next _ _ _ _ _ failed
    cases read
    exact ⟨ending,shorter,fun _ ok => by cases ok⟩
  next header first received =>
    obtain ⟨enough,_,left,ending⟩ := recvExact_ok _ _ _ _ _ received
    have eaten : first.stream.length + UsbipHeaderBasic.size = socket.stream.length := by
      rw [left,List.length_drop]
      omega
    split at read
    next _ =>
      cases read
      exact ⟨ending,by omega,fun _ _ => by omega⟩
    next _ =>
      split at read
      next _ =>
        split at read
        next _ => cases read
        next err second failed =>
          obtain ⟨shorter,ended⟩ := recvExact_next _ _ _ _ _ failed
          cases read
          exact ⟨ended.trans ending,by omega,fun _ ok => by cases ok⟩
        next busid second arrived =>
          obtain ⟨shorter,ended⟩ := recvExact_next _ _ _ _ _ arrived
          cases read
          exact ⟨ended.trans ending,by omega,fun _ _ => by omega⟩
      next _ =>
        cases read
        exact ⟨ending,by omega,fun _ _ => by omega⟩

theorem recvRequest_error {socket next : Socket} {err : ErrorCode}
    (read : recvRequest socket = some (.error err,next)) : err = .socketRecv := by
  simp only [recvRequest] at read
  split at read
  next _ => cases read
  next _ _ failed =>
    cases read
    exact recvExact_error _ _ _ _ _ failed
  next _ first _ =>
    split at read
    next _ => cases read
    next _ =>
      split at read
      next _ =>
        split at read
        next _ => cases read
        next _ _ failed =>
          cases read
          exact recvExact_error _ _ _ _ _ failed
        next _ => cases read
      next _ => cases read

theorem recvRequest_none {socket : Socket} (blocked : recvRequest socket = none) :
    socket.ending = .silent := by
  simp only [recvRequest] at blocked
  split at blocked
  next none => exact (recvExact_none _ _ _ none).2
  next _ => cases blocked
  next header first received =>
    obtain ⟨_,_,_,ending⟩ := recvExact_ok _ _ _ _ _ received
    split at blocked
    next _ => cases blocked
    next _ =>
      split at blocked
      next _ =>
        split at blocked
        next none => exact ending ▸ (recvExact_none _ _ _ none).2
        next _ => cases blocked
        next _ => cases blocked
      next _ => cases blocked

/-- `none` while the request has not arrived. -/
def clientHandleRequest (server : Server) (client : ClientConnection) (outcome : RequestOutcome) :
    Option (ErrorCode × Server × ClientConnection) :=
  match recvRequest client.socket with
  | none => none
  | some (.error err,socket) => some (err,server,{client with socket})
  | some (.ok request,socket) =>
    let client := {client with socket}
    match request with
    | .devlist =>
      let (err,client) := clientSendDeviceList server.devices server.devices client
      some (err,server,client)
    | .import busid => some (clientHandleImport server client busid outcome)
    | .unknown => some (.protocolUnsupported,server,client)

/-- What the operating system answers while one URB message is handled.
`stale` is the content of memory that nothing has written. -/
structure MessageOutcome where
  payloadAlloc : Bool
  entryAlloc : Bool
  bufferAlloc : Bool
  now : UInt64
  stale : Nat → UInt8

def clientForwardUrb (client : ClientConnection) (handler : UrbHandler) (header : UsbipHeader)
    (data : List UInt8) (outcome : MessageOutcome) : ErrorCode × UrbHandler × ClientConnection :=
  let (err,handler) := urbHandlerSubmit handler header data outcome.entryAlloc outcome.bufferAlloc
    outcome.now
  (err,handler,{client with urbsProcessed := client.urbsProcessed+1})

def UsbUrb.returned (urb : UsbUrb) (stale : Nat → UInt8) : List UInt8 :=
  (List.range urb.actualLength.toNat).map fun i =>
    ((urb.buffer.getD []).getD i none).getD (stale i)

/-- The flag says whether the header went out; the data may still fail after it. -/
def clientSendUrbCompletion (client : ClientConnection) (entry : UrbEntry) (stale : Nat → UInt8) :
    ErrorCode × Bool × ClientConnection :=
  match usbipSendUrbHeader client.socket (urbHandlerCreateReturn entry) with
  | (.success,socket) =>
    if entry.urb.direction = usbipDirIn.toUInt8 && entry.urb.actualLength > 0 then
      match usbipSendUrbData socket (entry.urb.returned stale) with
      | (.success,socket) => (.success,true,{client with
          socket
          bytesSent := client.bytesSent + entry.urb.actualLength.toUInt64})
      | (err,socket) => (err,true,{client with socket})
    else (.success,true,{client with socket})
  | (err,socket) => (err,false,{client with socket})

structure ClientConnection.SameAttachment (first second : ClientConnection) : Prop where
  id : second.id = first.id
  state : second.state = first.state
  attachedBusid : second.attachedBusid = first.attachedBusid
  device : second.device = first.device
  urbHandler : second.urbHandler = first.urbHandler

theorem ClientConnection.SameAttachment.refl (client : ClientConnection) :
    client.SameAttachment client := ⟨rfl,rfl,rfl,rfl,rfl⟩

theorem usbipSendUrbData_sameInput (socket : Socket) (data : List UInt8) :
    socket.SameInput (usbipSendUrbData socket data).2 := by
  simp only [usbipSendUrbData]
  split
  · exact ⟨rfl,rfl⟩
  · exact sendExact_sameInput socket data

theorem clientSendUrbCompletion_kept (client : ClientConnection) (entry : UrbEntry)
    (stale : Nat → UInt8) :
    client.socket.SameInput (clientSendUrbCompletion client entry stale).2.2.socket ∧
      client.SameAttachment (clientSendUrbCompletion client entry stale).2.2 := by
  have header : client.socket.SameInput
      (usbipSendUrbHeader client.socket (urbHandlerCreateReturn entry)).2 :=
    sendExact_sameInput client.socket _
  simp only [clientSendUrbCompletion]
  split
  next socket stepped =>
    rw [stepped] at header
    split
    · have data := usbipSendUrbData_sameInput socket (entry.urb.returned stale)
      split
      next next finished => rw [finished] at data; exact ⟨header.trans data,rfl,rfl,rfl,rfl,rfl⟩
      next next _ finished => rw [finished] at data; exact ⟨header.trans data,rfl,rfl,rfl,rfl,rfl⟩
    · exact ⟨header,rfl,rfl,rfl,rfl,rfl⟩
  next socket _ stepped => rw [stepped] at header; exact ⟨header,rfl,rfl,rfl,rfl,rfl⟩

end UsbOverNetwork
