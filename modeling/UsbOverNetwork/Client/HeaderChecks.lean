import UsbOverNetwork.Client.RemoteDevice

/-! The three receivers of an eight-byte header, one in the server and two in
the client, and the headers that each of them turns away. -/
namespace UsbOverNetwork
open Bytes

def usbipValidateVersion (version : UInt16) : Bool := version = usbipProtoVersion

def usbipValidateCommand (command : UInt16) : Bool :=
  command ∈ [opReqDevlist,opRepDevlist,opReqImport,opRepImport]

def UsbipHeaderBasic.Expected (header : UsbipHeaderBasic) (commands : List UInt16) : Prop :=
  usbipValidateVersion header.version = true ∧ header.command ∈ commands

instance (header : UsbipHeaderBasic) (commands : List UInt16) : Decidable (header.Expected commands) :=
  inferInstanceAs (Decidable (_ ∧ _))

def Socket.Brings (socket : Socket) (header : UsbipHeaderBasic) (rest : List UInt8) : Prop :=
  socket.stream = (usbipPackHeaderBasic header).image ++ rest

/-- `client_handle_request` gives the header up whatever comes behind it: it
returns an error, reads no further, answers nothing and changes nothing. -/
def RequestRefused (header : UsbipHeaderBasic) : Prop :=
  ∀ (server : Server) (client : ClientConnection) (outcome : RequestOutcome) (rest : List UInt8),
    client.socket.Brings header rest →
    ∃ err next, clientHandleRequest server client outcome = some (err,server,{client with socket := next}) ∧
      err ≠ .success ∧ next.stream = rest ∧ next.sent = client.socket.sent

/-- `remote_device_connect` fails on the header without a look behind it. -/
def ImportReplyRefused (header : UsbipHeaderBasic) : Prop :=
  ∀ (socket : Socket) (busid rest : List UInt8), socket.Brings header rest →
    ∃ err next, remoteDeviceConnect socket busid = some (.error err,next) ∧
      err ≠ .success ∧ rest <:+ next.stream

/-- `remote_server_list_devices` fails on the header without a look behind it. -/
def DevlistReplyRefused (header : UsbipHeaderBasic) : Prop :=
  ∀ (socket : Socket) (maxDevices : Nat) (rest : List UInt8), socket.Brings header rest →
    ∃ err next, remoteServerListDevices socket maxDevices = some (err,[],next) ∧
      err ≠ .success ∧ rest <:+ next.stream

variable {header : UsbipHeaderBasic} {socket : Socket} {rest : List UInt8}

/-- A silent connection that has brought the header and nothing more. -/
def headerAlone (header : UsbipHeaderBasic) : Socket := carrying (usbipPackHeaderBasic header).image

theorem headerAlone_brings (header : UsbipHeaderBasic) :
    (headerAlone header).Brings header [] := by
  rw [Socket.Brings,headerAlone,carrying_stream,List.append_nil]

theorem headerAlone_delivers (header : UsbipHeaderBasic) : (headerAlone header).Delivers :=
  carrying_delivers _

theorem Socket.Brings.sameInput {next : Socket} (brings : socket.Brings header rest)
    (same : socket.SameInput next) : next.Brings header rest := by
  rw [Socket.Brings,same.stream]
  exact brings

theorem Socket.Brings.behind (brings : socket.Brings header rest) : rest <:+ socket.stream :=
  ⟨_,brings.symm⟩

theorem Socket.Brings.read (brings : socket.Brings header rest) :
    ∃ next, usbipRecvHeaderBasic socket = some (.ok header,next) ∧ next.stream = rest ∧
      next.sent = socket.sent ∧ next.outgoing = socket.outgoing ∧ next.ending = socket.ending := by
  obtain ⟨next,read,left,sent,outgoing⟩ := recv_header socket header rest brings
  obtain ⟨_,_,_,ending⟩ := recvExact_ok _ _ _ _ _ read
  exact ⟨next,read,left,sent,outgoing,ending⟩

theorem recv_waits {α : Type} {len : Nat} (decode : List UInt8 → α) (some : 0 < len)
    (empty : socket.stream = []) (silent : socket.ending = .silent) :
    recvExact socket len decode = none := by
  rw [recvExact_fewer socket len decode (by simpa [empty] using some),if_pos silent]

theorem unknown_request_refused (unknown : header.command ∉ [opReqDevlist,opReqImport]) :
    RequestRefused header := by
  intro server client outcome rest brings
  obtain ⟨next,read,left,sent,_⟩ := brings.read
  simp only [List.mem_cons,List.not_mem_nil,or_false,not_or] at unknown
  refine ⟨.protocolUnsupported,next,?_,by decide,left,sent⟩
  simp only [clientHandleRequest,recvRequest,read,unknown.1,unknown.2,if_false]

/-- The server has no use for the validator of commands: its `switch` already
turns away what that turns away. -/
theorem invalid_command_refused (invalid : usbipValidateCommand header.command = false) :
    RequestRefused header := by
  apply unknown_request_refused
  intro known
  have valid : usbipValidateCommand header.command = true := by
    rcases List.mem_pair.mp known with lists | imports
    · rw [lists]
      decide
    · rw [imports]
      decide
  cases valid.symm.trans invalid

theorem list_request_answered (lists : header.command = opReqDevlist) (server : Server)
    (client : ClientConnection) (outcome : RequestOutcome) (delivers : client.socket.Delivers)
    (brings : client.socket.Brings header rest) :
    ∃ next, clientHandleRequest server client outcome =
        some (.success,server,{client with socket := next}) ∧
      next.sent = client.socket.sent ++
        devlistReply (countDevices server.devices) (server.devices.entries.filter DeviceEntry.isShared) := by
  obtain ⟨first,read,_,sent,outgoing,_⟩ := brings.read
  have still : first.Delivers := by simpa only [Socket.Delivers,outgoing] using delivers
  have ok := sendDeviceList_delivers server.devices first (countDevices server.devices) still
  have answer := sendDeviceList_sent server.devices first (countDevices server.devices) ok
  have requested : recvRequest client.socket = some (.ok .devlist,first) := by
    simp only [recvRequest,read,if_pos lists]
  rw [sent] at answer
  refine ⟨_,?_,answer⟩
  simp only [clientHandleRequest,requested,clientSendDeviceList,ok]

theorem import_request_waits (imports : header.command = opReqImport) (server : Server)
    (client : ClientConnection) (outcome : RequestOutcome) (silent : client.socket.ending = .silent)
    (brings : client.socket.Brings header []) :
    clientHandleRequest server client outcome = none := by
  obtain ⟨next,read,left,_,_,ending⟩ := brings.read
  have waits : recvExact next 32 (CString.ofBuffer : List UInt8 → Busid) = none :=
    recv_waits CString.ofBuffer (by decide) left (ending.trans silent)
  have other : header.command ≠ opReqDevlist := by
    rw [imports]
    decide
  have unread : recvRequest client.socket = none := by
    simp only [recvRequest,read,if_neg other,if_pos imports,waits]
  simp only [clientHandleRequest,unread]

theorem known_request_accepted (known : header.command ∈ [opReqDevlist,opReqImport]) :
    ¬RequestRefused header := by
  intro refused
  let client := createClient 1 (headerAlone header) .empty 0
  obtain ⟨err,last,handled,failed,_⟩ := refused oneKeyboard client opens [] (headerAlone_brings header)
  rcases List.mem_pair.mp known with lists | imports
  · obtain ⟨next,answered,_⟩ := list_request_answered lists oneKeyboard client opens
      (headerAlone_delivers header) (headerAlone_brings header)
    rw [answered] at handled
    exact failed (Prod.mk.inj (Option.some.inj handled)).1.symm
  · rw [import_request_waits imports oneKeyboard client opens rfl (headerAlone_brings header)] at handled
    cases handled

theorem failed_import_refused (failed : header.status ≠ usbipStOk) : ImportReplyRefused header := by
  intro socket busid rest brings
  have asked := sendExact_sameInput socket
    (usbipPackHeaderBasic (usbipCreateImportRequest busid).header).image
  simp only [remoteDeviceConnect]
  split
  next _ first stepped =>
    rw [stepped] at asked
    have named := sendExact_sameInput first (usbipCreateImportRequest busid).busid.toList
    split
    next _ second finished =>
      rw [finished] at named
      obtain ⟨next,read,left,_⟩ := ((brings.sameInput asked).sameInput named).read
      simp only [read,failed,ne_eq,not_false_eq_true,if_true]
      refine ⟨_,next,rfl,?_,left ▸ List.suffix_rfl⟩
      split <;> decide
    next _ second _ finished =>
      rw [finished] at named
      exact ⟨.socketSend,second,rfl,by decide,((brings.sameInput asked).sameInput named).behind⟩
  next _ first _ stepped =>
    rw [stepped] at asked
    exact ⟨.socketSend,first,rfl,by decide,(brings.sameInput asked).behind⟩

/-- Behind a header of good status the client takes a device, whatever version
and command the header has. -/
theorem device_imported (good : header.status = usbipStOk) (busid : List UInt8) (device : UsbipUsbDevice)
    (delivers : socket.Delivers) (brings : socket.Brings header (usbipPackDevice device).image) :
    ∃ next, remoteDeviceConnect socket busid = some (.ok device,next) := by
  obtain ⟨next,left,_,_,imports⟩ := connect_header socket busid delivers header _ brings
  obtain ⟨last,received,_⟩ := recv_device next device [] (by simpa using left)
  exact ⟨last,imports good device last received⟩

theorem good_import_accepted (good : header.status = usbipStOk) : ¬ImportReplyRefused header := by
  intro refused
  let device := usbDeviceToUsbip sharedKeyboard.device
  have brings : (carrying ((usbipPackHeaderBasic header).image ++ (usbipPackDevice device).image)).Brings
      header (usbipPackDevice device).image := carrying_stream _
  obtain ⟨err,last,ended,_⟩ := refused _ [] _ brings
  obtain ⟨next,imported⟩ := device_imported good [] device (carrying_delivers _) brings
  rw [imported] at ended
  cases ended

theorem failed_devlist_refused (failed : header.status ≠ usbipStOk) : DevlistReplyRefused header := by
  intro socket maxDevices rest brings
  have asked := sendExact_sameInput socket (usbipPackHeaderBasic usbipCreateDevlistRequest).image
  simp only [remoteServerListDevices]
  split
  next _ first stepped =>
    rw [stepped] at asked
    obtain ⟨next,read,left,_⟩ := (brings.sameInput asked).read
    simp only [read,failed,ne_eq,not_false_eq_true,if_true]
    exact ⟨.protocolInvalid,next,rfl,by decide,left ▸ List.suffix_rfl⟩
  next _ first _ stepped =>
    rw [stepped] at asked
    exact ⟨.socketSend,first,rfl,by decide,(brings.sameInput asked).behind⟩

theorem good_devlist_accepted (good : header.status = usbipStOk) : ¬DevlistReplyRefused header := by
  intro refused
  have brings : (carrying ((usbipPackHeaderBasic header).image ++ (image32 (htobe32 0) ++ []))).Brings
      header (image32 (htobe32 0) ++ []) := carrying_stream _
  obtain ⟨err,last,ended,failed,_⟩ := refused _ 0 _ brings
  obtain ⟨next,listed⟩ := list_devices_reads header good [] 0 _ 0 (carrying_delivers _) rfl (by simp) brings
  rw [listed] at ended
  exact failed (Prod.mk.inj (Option.some.inj ended)).1.symm

/-- Which headers each receiver handles as the validators ask. The server's
does not look at the version, and the client's look at the status alone. -/
theorem headers_checked_iff (header : UsbipHeaderBasic) :
    ((¬RequestRefused header → header.Expected [opReqDevlist,opReqImport]) ↔
      usbipValidateVersion header.version = true ∨ header.command ∉ [opReqDevlist,opReqImport]) ∧
    ((¬ImportReplyRefused header → header.Expected [opRepImport]) ↔
      header.status ≠ usbipStOk ∨ header.Expected [opRepImport]) ∧
    ((¬DevlistReplyRefused header → header.Expected [opRepDevlist]) ↔
      header.status ≠ usbipStOk ∨ header.Expected [opRepDevlist]) := by
  refine ⟨⟨fun checked => ?_,?_⟩,⟨fun checked => ?_,?_⟩,⟨fun checked => ?_,?_⟩⟩
  · by_cases known : header.command ∈ [opReqDevlist,opReqImport]
    · exact .inl (checked (known_request_accepted known)).1
    · exact .inr known
  · rintro (current | unknown) accepted
    · by_contra unexpected
      exact accepted (unknown_request_refused fun known => unexpected ⟨current,known⟩)
    · exact absurd (unknown_request_refused unknown) accepted
  · exact or_iff_not_imp_left.mpr fun good =>
      checked (good_import_accepted (not_ne_iff.mp good))
  · rintro (failed | expected) accepted
    · exact absurd (failed_import_refused failed) accepted
    · exact expected
  · exact or_iff_not_imp_left.mpr fun good =>
      checked (good_devlist_accepted (not_ne_iff.mp good))
  · rintro (failed | expected) accepted
    · exact absurd (failed_devlist_refused failed) accepted
    · exact expected

/-- A header of the version that the validators' own test rejects. -/
def strayHeader (command : UInt16) : UsbipHeaderBasic := ⟨0x0001,command,usbipStOk⟩

/-- A list request of another version is answered with the device list, and
behind a header of no known command one client takes a device and another one
a list. -/
theorem stray_headers_accepted :
    (∃ client, clientHandleRequest oneKeyboard
        (createClient 1 (headerAlone (strayHeader opReqDevlist)) .empty 0) opens =
          some (.success,oneKeyboard,client) ∧ client.socket.sent = devlistReply 1 [sharedKeyboard]) ∧
    (∃ next, remoteDeviceConnect (carrying ((usbipPackHeaderBasic (strayHeader 0xFFFF)).image ++
        (usbipPackDevice (usbDeviceToUsbip sharedKeyboard.device)).image)) [0x31,0x2d,0x31] =
      some (.ok (usbDeviceToUsbip sharedKeyboard.device),next)) ∧
    (∃ next, remoteServerListDevices (carrying ((usbipPackHeaderBasic (strayHeader 0xFFFF)).image ++
        (image32 (htobe32 1) ++ [sharedKeyboard].flatMap DeviceEntry.record))) 8 =
      some (.success,[usbDeviceToUsbip sharedKeyboard.device],next)) ∧
    ¬∀ header : UsbipHeaderBasic,
      (¬RequestRefused header → header.Expected [opReqDevlist,opReqImport]) ∧
      (¬ImportReplyRefused header → header.Expected [opRepImport]) ∧
      (¬DevlistReplyRefused header → header.Expected [opRepDevlist]) := by
  have lists : (strayHeader opReqDevlist).command = opReqDevlist := rfl
  obtain ⟨next,answered,sent⟩ := list_request_answered lists oneKeyboard
    (createClient 1 (headerAlone (strayHeader opReqDevlist)) .empty 0) opens (headerAlone_delivers _)
    (headerAlone_brings _)
  refine ⟨⟨_,answered,sent⟩,?_,?_,fun checked => ?_⟩
  · exact device_imported rfl _ _ (carrying_delivers _) (carrying_stream _)
  · exact list_devices_reads (strayHeader 0xFFFF) rfl [sharedKeyboard] 1 _ 8 (carrying_delivers _) rfl
      (by decide) (carrying_stream _)
  · exact absurd ((checked (strayHeader 0xFFFF)).2.1 (good_import_accepted rfl)) (by decide)

end UsbOverNetwork
