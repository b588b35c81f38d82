import UsbOverNetwork.Server.UrbSystem
import UsbOverNetwork.Server.ClientRequests

/-! One client at a time: what attaching, detaching and each request leave
behind. A client is free or holds exactly one device with its handler, and the
way back from the second to the first restores the server. -/
namespace UsbOverNetwork

theorem openAndClaim_closed (outcome : OpenOutcome) (device : UsbDevice) (closed : device.Closed) :
    (openAndClaim outcome device).1 = .success ∧ (openAndClaim outcome device).2.Held ∨
      (openAndClaim outcome device).1 ≠ .success ∧ (openAndClaim outcome device).2 = device := by
  by_cases path : device.path.chars = []
  · right
    simp [openAndClaim,usbOpenDevice,path]
  · left
    have opened : (usbOpenDevice device outcome).1 = .success ∧
        (usbOpenDevice device outcome).2.isOpen = true ∧
        (usbOpenDevice device outcome).2.isClaimed = false ∧
        ((usbOpenDevice device outcome).2.isVirtual = true →
          (usbOpenDevice device outcome).2.handle = none ∧
          (usbOpenDevice device outcome).2.interfaceHandles = Vector.replicate 32 none) := by
      simp only [usbOpenDevice,path,closed.isOpen,Bool.false_eq_true,if_false]
      split
      · exact ⟨rfl,rfl,closed.isClaimed,fun virtual => by cases virtual⟩
      · exact ⟨rfl,rfl,closed.isClaimed,fun _ => ⟨rfl,closed.interfaceHandles⟩⟩
    obtain ⟨ok,isOpen,unclaimed,unhandled⟩ := opened
    have claim : usbClaimInterface (usbOpenDevice device outcome).2 0 =
        (.success,{(usbOpenDevice device outcome).2 with isClaimed := true, claimedInterface := 0}) := by
      simp [usbClaimInterface,isOpen,unclaimed]
    have both : openAndClaim outcome device =
        (.success,{(usbOpenDevice device outcome).2 with isClaimed := true, claimedInterface := 0}) := by
      simp only [openAndClaim]
      split
      next next stepped =>
        rw [stepped] at claim
        rw [claim,stepped]
      next different stepped =>
        rw [stepped] at ok
        exact absurd ok different
    rw [both]
    exact ⟨rfl,isOpen,rfl,rfl,unhandled⟩

@[simp] theorem openAndClaim_reset (outcome : OpenOutcome) (device : UsbDevice) :
    (openAndClaim outcome device).2.reset = device.reset := by
  have opened := usbOpenDevice_reset device outcome
  simp only [openAndClaim]
  split
  next first stepped =>
    rw [stepped] at opened
    have claimed := usbClaimInterface_reset first 0
    split
    next second finished =>
      rw [finished] at claimed
      exact claimed.trans opened
    next second _ finished =>
      rw [finished] at claimed
      exact (usbCloseDevice_reset _).trans (claimed.trans opened)
  next first stepped =>
    rw [stepped] at opened
    exact opened

@[simp] theorem releaseAndClose_reset (device : UsbDevice) :
    (releaseAndClose device).reset = device.reset := by
  simp [releaseAndClose]

theorem releaseAndClose_held (device : UsbDevice) (held : device.Held) :
    (releaseAndClose device).Closed := by
  obtain ⟨isOpen,isClaimed,claimed,unhandled⟩ := held
  have released : (usbReleaseInterface device 0).2 =
      {device with isClaimed := false, claimedInterface := -1} := by
    simp [usbReleaseInterface,isOpen,isClaimed,claimed]
  simp only [releaseAndClose,released,usbCloseDevice,isOpen,Bool.not_true,Bool.false_eq_true,if_false]
  cases virtual : device.isVirtual with
  | false => exact ⟨rfl,rfl,rfl,rfl,rfl⟩
  | true => exact ⟨rfl,rfl,rfl,(unhandled virtual).1,(unhandled virtual).2⟩

/-- The device list that enumeration produces. -/
structure DeviceList.Enumerated (list : DeviceList) : Prop where
  distinct : (list.entries.map DeviceEntry.busid).Nodup
  named : ∀ entry ∈ list.entries, entry.busid ≠ .empty
  idle : ∀ entry ∈ list.entries, entry.Idle

structure DeviceList.Restored (base list : DeviceList) : Prop where
  skeleton : list.skeleton = base.skeleton
  idle : ∀ entry ∈ list.entries, entry.Idle

/-- One device of `base` is lent to a client and every other one is idle. -/
structure DeviceList.Lent (base list : DeviceList) (busid : Busid) (id : UInt32) : Prop where
  skeleton : list.skeleton = base.skeleton
  others : ∀ entry ∈ list.entries, entry.busid ≠ busid → entry.Idle
  lent : ∃ entry, deviceListFind list busid = some entry ∧ entry.state = .exported ∧
    entry.clientId = id ∧ entry.device.Held

structure DeviceList.Opened (base list : DeviceList) (busid : Busid) : Prop where
  skeleton : list.skeleton = base.skeleton
  others : ∀ entry ∈ list.entries, entry.busid ≠ busid → entry.Idle
  opened : ∃ entry, deviceListFind list busid = some entry ∧ entry.state = .available ∧
    entry.clientId = 0 ∧ entry.clientIp = .empty ∧ entry.exportTime = 0 ∧ entry.device.Held

section Devices

variable {base list : DeviceList} {busid : Busid}

theorem distinct_of_skeleton (enumerated : base.Enumerated) (same : list.skeleton = base.skeleton) :
    (list.entries.map DeviceEntry.busid).Nodup := by
  rw [skeleton_busids,same,← skeleton_busids]
  exact enumerated.distinct

theorem named_of_skeleton (enumerated : base.Enumerated) (same : list.skeleton = base.skeleton) :
    ∀ entry ∈ list.entries, entry.busid ≠ .empty := by
  intro entry member
  have inside : entry.busid ∈ base.entries.map DeviceEntry.busid := by
    rw [skeleton_busids,← same,← skeleton_busids]
    exact List.mem_map.mpr ⟨entry,member,rfl⟩
  obtain ⟨other,found,equal⟩ := List.mem_map.mp inside
  exact equal ▸ enumerated.named other found

theorem modifyDevice_busid {g : UsbDevice → UsbDevice} (keeps : ∀ device, (g device).reset = device.reset)
    (entry : DeviceEntry) : DeviceEntry.busid {entry with device := g entry.device} = entry.busid := by
  have same := congrArg UsbDevice.busid (keeps entry.device)
  simpa [DeviceEntry.busid] using same

theorem skeleton_modifyDevice {g : UsbDevice → UsbDevice}
    (keeps : ∀ device, (g device).reset = device.reset) :
    (list.modifyDevice busid g).skeleton = list.skeleton := by
  apply skeleton_modify
  intro entry _
  simp only [DeviceEntry.reset,keeps]

theorem find_modifyDevice {g : UsbDevice → UsbDevice} {entry : DeviceEntry}
    (keeps : ∀ device, (g device).reset = device.reset)
    (found : deviceListFind list busid = some entry) :
    deviceListFind (list.modifyDevice busid g) busid =
      some {entry with device := g entry.device} := by
  rw [DeviceList.modifyDevice,find_modify_same (modifyDevice_busid keeps),found]
  rfl

theorem others_modify {f : DeviceEntry → DeviceEntry}
    (keeps : ∀ entry, (f entry).busid = entry.busid)
    (others : ∀ entry ∈ list.entries, entry.busid ≠ busid → entry.Idle) :
    ∀ entry ∈ (list.modify busid f).entries, entry.busid ≠ busid → entry.Idle := by
  intro entry member different
  rcases Keyed.mem_modify _ busid f list.entries member with old | ⟨old,found,rfl⟩
  · exact others entry old different
  · exact absurd ((keeps old).trans (find_busid found)) different

theorem idle_modify {f : DeviceEntry → DeviceEntry} (enumerated : base.Enumerated)
    (same : list.skeleton = base.skeleton) (keeps : ∀ entry, (f entry).busid = entry.busid)
    (others : ∀ entry ∈ list.entries, entry.busid ≠ busid → entry.Idle)
    (updated : ∀ entry, deviceListFind list busid = some entry → (f entry).Idle) :
    ∀ entry ∈ (list.modify busid f).entries, entry.Idle :=
  Keyed.forall_modify _ (distinct_of_skeleton enumerated same) keeps others updated

theorem attachCheck_success (ok : attachCheck list busid = .success) :
    ∃ entry, deviceListFind list busid = some entry ∧ entry.isShared = true ∧
      entry.state = .available := by
  simp only [attachCheck] at ok
  split at ok
  next _ => cases ok
  next entry found =>
    split at ok
    next _ => cases ok
    next shared =>
      split at ok
      next _ => cases ok
      next available => exact ⟨entry,found,by simpa using shared,by simpa using available⟩

theorem attachOpen_spec (enumerated : base.Enumerated) (restored : base.Restored list)
    {entry : DeviceEntry} (found : deviceListFind list busid = some entry)
    (available : entry.state = .available) (outcome : OpenOutcome) :
    (attachOpen list busid outcome).1 = .success ∧ base.Opened (attachOpen list busid outcome).2 busid ∨
      (attachOpen list busid outcome).1 ≠ .success ∧
        base.Restored (attachOpen list busid outcome).2 := by
  have idle := restored.idle entry (Keyed.find_mem _ found)
  have keeps := openAndClaim_reset outcome
  have skeleton : (list.modifyDevice busid fun device => (openAndClaim outcome device).2).skeleton =
      base.skeleton := (skeleton_modifyDevice keeps).trans restored.skeleton
  have others : ∀ entry ∈ list.entries, entry.busid ≠ busid → entry.Idle :=
    fun entry member _ => restored.idle entry member
  simp only [attachOpen,found]
  rcases openAndClaim_closed outcome entry.device idle.closed with ⟨ok,held⟩ | ⟨failed,same⟩
  · left
    refine ⟨ok,skeleton,others_modify (modifyDevice_busid keeps) others,
      _,find_modifyDevice keeps found,?_⟩
    exact ⟨available,idle.clientId,idle.clientIp,idle.exportTime,held⟩
  · right
    refine ⟨failed,skeleton,idle_modify enumerated restored.skeleton (modifyDevice_busid keeps)
      others ?_⟩
    intro other searched
    cases found.symm.trans searched
    simpa only [same] using idle

theorem DeviceList.Opened.close (enumerated : base.Enumerated) (opened : base.Opened list busid) :
    base.Restored (list.modifyDevice busid releaseAndClose) := by
  refine ⟨(skeleton_modifyDevice releaseAndClose_reset).trans opened.skeleton,
    idle_modify enumerated opened.skeleton (modifyDevice_busid releaseAndClose_reset)
      opened.others ?_⟩
  obtain ⟨entry,found,available,clientId,clientIp,exportTime,held⟩ := opened.opened
  intro other searched
  cases found.symm.trans searched
  exact ⟨releaseAndClose_held _ held,by simp [available],clientId,clientIp,exportTime⟩

theorem DeviceList.Opened.export (opened : base.Opened list busid) (client : ClientConnection)
    (now : UInt64) : base.Lent (attachExport list client busid now) busid client.id := by
  obtain ⟨entry,found,available,_,_,_,held⟩ := opened.opened
  rw [attachExport,find_export _ _ _ entry found available]
  have now_exported : deviceListFind (list.modify busid (·.export client.id client.ipAddress now))
      busid = some (entry.export client.id client.ipAddress now) :=
    (find_modify_same (f := (·.export client.id client.ipAddress now)) fun _ => rfl).trans
      (congrArg _ found)
  refine ⟨?_,others_modify (fun _ => rfl) opened.others,_,now_exported,rfl,rfl,held⟩
  refine (skeleton_modify ?_).trans opened.skeleton
  intro other searched
  cases found.symm.trans searched
  simp [DeviceEntry.reset,DeviceEntry.export,available]

theorem DeviceList.Lent.close (enumerated : base.Enumerated) {id : UInt32}
    (lent : base.Lent list busid id) :
    base.Restored (deviceListUnexport (list.modifyDevice busid releaseAndClose) busid).2 := by
  obtain ⟨entry,found,exported,_,held⟩ := lent.lent
  have keeps := releaseAndClose_reset
  have closed := find_modifyDevice keeps found
  have skeleton : (list.modifyDevice busid releaseAndClose).skeleton = base.skeleton :=
    (skeleton_modifyDevice keeps).trans lent.skeleton
  rw [unexport_modify]
  constructor
  · refine (skeleton_modify ?_).trans skeleton
    intro other searched
    cases closed.symm.trans searched
    simp [DeviceEntry.reset,DeviceEntry.unexport,exported]
  · refine idle_modify enumerated skeleton (fun _ => rfl)
      (others_modify (modifyDevice_busid keeps) lent.others) ?_
    intro other searched
    cases closed.symm.trans searched
    exact ⟨releaseAndClose_held _ held,by simp [DeviceEntry.unexport],rfl,rfl,rfl⟩

end Devices

/-- A handler whose worker is gone and all of whose entries were freed. -/
structure UrbHandler.Retired (handler : UrbHandler) : Prop where
  worker : handler.worker = .stopped
  pending : handler.pending = []
  completed : handler.completed = []
  freed : handler.history.freed.Perm (List.range handler.history.submitted.length)

structure UrbHandler.Serving (handler : UrbHandler) (hold : SessionHold) : Prop where
  initialized : handler.initialized = true
  running : handler.running = true
  inv : (⟨handler,hold,.idle⟩ : UrbSystem).Inv

theorem urbHandlerStarted_serving (device : Busid) : (urbHandlerStarted device).Serving .idle :=
  ⟨rfl,rfl,UrbSystem.started_inv device⟩

section Stopping

variable {device : Option UsbDevice} {joins : Fin 4 → WorkerOutcome} {handler : UrbHandler}

theorem urbHandlerCleanup_stopped (ready : handler.initialized = true)
    (stopped : handler.running = false) :
    urbHandlerCleanup device joins handler = {queuesCleanup handler with initialized := false} := by
  simp [urbHandlerCleanup,urbHandlerStop,ready,stopped]

/-- `urb_handler_stop` and `urb_handler_cleanup` end the worker and free every
entry, wherever it was. -/
theorem cleanup_retired (later : Option UsbDevice) (serving : handler.Serving .idle) :
    (urbHandlerCleanup later joins (urbHandlerStop device joins handler)).Retired := by
  obtain ⟨initialized,running,inv⟩ := serving
  have halted : (⟨{handler with running := false},.idle,.idle⟩ : UrbSystem).Inv :=
    UrbSystem.quiet_inv inv ⟨rfl,rfl,rfl,rfl,rfl,rfl,rfl,rfl⟩
  have joined := workerJoin_keeps (fun handler => (⟨handler,.idle,.idle⟩ : UrbSystem).Inv) device
    joins _ (fun _ outcome inv => UrbSystem.step_inv (.worker device outcome) _ _ inv rfl) halted
  have ready := workerJoin_keeps (·.initialized = true) device joins {handler with running := false}
    (fun handler outcome => (urbWorkerStep_flags device outcome handler).initialized.trans) initialized
  have halt := workerJoin_keeps (·.running = false) device joins {handler with running := false}
    (fun handler outcome => (urbWorkerStep_flags device outcome handler).running.trans) rfl
  have stopped := workerJoin_stopped device joins {handler with running := false} rfl
  have stop : urbHandlerStop device joins handler =
      urbHandlerCancelAll (workerJoin device joins {handler with running := false}) := by
    simp [urbHandlerStop,running]
  rw [stop]
  generalize workerJoin device joins {handler with running := false} = last
    at joined ready halt stopped
  rw [show urbHandlerCleanup later joins (urbHandlerCancelAll last) = _ from
    urbHandlerCleanup_stopped ready halt]
  refine ⟨stopped,rfl,rfl,?_⟩
  have places := joined.places
  refine List.Perm.trans ?_ places
  rw [List.perm_iff_count]
  intro job
  simp only [UrbSystem.inWorker,UrbSystem.inCall,UrbSystem.taken,UrbSystem.ready,
    UrbSystem.unlinking,UrbSystem.cancelling,UrbSystem.delivering,stopped,queuesCleanup,
    urbHandlerCancelAll,List.map_append,List.map_map,List.append_nil,List.map_nil,List.count_append]
  have serials : (UrbEntry.serial ∘ UrbEntry.cancel) = UrbEntry.serial := rfl
  rw [serials]
  omega

end Stopping

/-- The client holds nothing, every device is where it was and every handler
made since then is retired. -/
structure Free (base server : Server) (client : ClientConnection) : Prop where
  state : client.state = .connected
  unattached : client.attachedBusid = .empty
  device : client.device = none
  handler : client.urbHandler = none
  devices : base.devices.Restored server.devices
  handlers : ∃ retired, server.handlers = base.handlers ++ retired ∧
    ∀ handler ∈ retired, handler.Retired

/-- The client holds one device and the handler made last. -/
structure Holding (base server : Server) (client : ClientConnection) (hold : SessionHold)
    (busid : Busid) (retired : List UrbHandler) (handler : UrbHandler) : Prop where
  state : client.state = .attached
  attached : client.attachedBusid = busid
  named : busid ≠ .empty
  device : client.device = some busid
  pointer : client.urbHandler = some (base.handlers ++ retired).length
  devices : base.devices.Lent server.devices busid client.id
  handlers : server.handlers = base.handlers ++ retired ++ [handler]
  retirees : ∀ handler ∈ retired, handler.Retired
  serving : handler.Serving hold

def Attached (base server : Server) (client : ClientConnection) (hold : SessionHold) : Prop :=
  ∃ busid retired handler, Holding base server client hold busid retired handler

def JustAttached (base server : Server) (client : ClientConnection) : Prop :=
  ∃ busid retired, Holding base server client .idle busid retired (urbHandlerStarted busid)

section Attaching

variable {base server : Server} {client : ClientConnection}

theorem JustAttached.attached (just : JustAttached base server client) :
    Attached base server client .idle := by
  obtain ⟨busid,retired,holding⟩ := just
  exact ⟨busid,retired,_,holding⟩

theorem attach_spec (enumerated : base.devices.Enumerated) (free : Free base server client)
    (busid : Busid) (outcome : AttachOutcome) :
    ((clientAttachDevice server client busid outcome).1 = .success ∧
      JustAttached base (clientAttachDevice server client busid outcome).2.1
        (clientAttachDevice server client busid outcome).2.2 ∨
    (clientAttachDevice server client busid outcome).1 ≠ .success ∧
      Free base (clientAttachDevice server client busid outcome).2.1
        (clientAttachDevice server client busid outcome).2.2) ∧
    (clientAttachDevice server client busid outcome).2.1.manager = server.manager ∧
    (clientAttachDevice server client busid outcome).2.2.socket = client.socket := by
  simp only [clientAttachDevice]
  split
  next checked =>
    obtain ⟨entry,found,_,available⟩ := attachCheck_success checked
    have named : busid ≠ .empty := find_busid found ▸
      named_of_skeleton enumerated free.devices.skeleton entry (Keyed.find_mem _ found)
    have opened := attachOpen_spec enumerated free.devices found available outcome.opened
    split
    next devices stepped =>
      rw [stepped] at opened
      obtain ⟨_,opened⟩ | ⟨failed,_⟩ := opened
      · rcases attachHandler_cases {server with devices} client busid outcome with
          started | ⟨err,failed,undone⟩
        · rw [started]
          refine ⟨Or.inl ⟨rfl,?_⟩,rfl,rfl⟩
          obtain ⟨retired,handlers,retirees⟩ := free.handlers
          exact ⟨busid,retired,rfl,rfl,named,rfl,by rw [← handlers]; rfl,
            opened.export (attachUpdate {client with urbHandler := _} busid) outcome.now,
            by rw [← handlers],retirees,urbHandlerStarted_serving busid⟩
        · rw [undone]
          have rest : Free base {server with
              devices := devices.modifyDevice busid releaseAndClose}
              {client with urbHandler := none} :=
            ⟨free.state,free.unattached,free.device,rfl,opened.close enumerated,free.handlers⟩
          cases err <;> first | exact absurd rfl failed | exact ⟨Or.inr ⟨failed,rest⟩,rfl,rfl⟩
      · exact absurd rfl failed
    next err devices failing stepped =>
      rw [stepped] at opened
      obtain ⟨ok,_⟩ | ⟨failed,restored⟩ := opened
      · exact absurd ok failing
      · exact ⟨Or.inr ⟨failed,free.state,free.unattached,free.device,free.handler,restored,
          free.handlers⟩,rfl,rfl⟩
  next err failing => exact ⟨Or.inr ⟨failing,free⟩,rfl,rfl⟩

theorem modify_last (front : List UrbHandler) (handler : UrbHandler) (f : UrbHandler → UrbHandler) :
    (front ++ [handler]).modify front.length f = front ++ [f handler] := by
  rw [List.modify_eq_take_drop]
  simp

theorem detach_spec (enumerated : base.devices.Enumerated) (attached : Attached base server client .idle)
    (joins : Fin 4 → WorkerOutcome) :
    Free base (clientDetachDevice server client joins).1 (clientDetachDevice server client joins).2 ∧
    (clientDetachDevice server client joins).1.manager = server.manager ∧
    (clientDetachDevice server client joins).2.socket = client.socket := by
  obtain ⟨busid,retired,handler,holding⟩ := attached
  have attached : client.attachedBusid ≠ .empty := holding.attached ▸ holding.named
  simp only [clientDetachDevice,if_neg attached,detachHandler,holding.pointer,detachDevice,
    holding.device,cleanupHandler,stopHandler,Server.device,holding.handlers,modify_last]
  refine ⟨⟨rfl,rfl,rfl,rfl,?_,?_⟩,rfl,rfl⟩
  · simp only [detachUnexport,holding.attached]
    exact holding.devices.close enumerated
  · refine ⟨retired ++ [_],List.append_assoc _ _ _,?_⟩
    intro other member
    rcases List.mem_append.mp member with old | new
    · exact holding.retirees other old
    · rw [List.mem_singleton.mp new]
      exact cleanup_retired _ holding.serving

theorem Free.withSocket (free : Free base server client) (socket : Socket) :
    Free base server {client with socket} :=
  ⟨free.state,free.unattached,free.device,free.handler,free.devices,free.handlers⟩

theorem JustAttached.withSocket (attached : JustAttached base server client) (socket : Socket) :
    JustAttached base server {client with socket} := by
  obtain ⟨busid,retired,holding⟩ := attached
  exact ⟨busid,retired,holding.state,holding.attached,holding.named,holding.device,
    holding.pointer,holding.devices,holding.handlers,holding.retirees,holding.serving⟩

structure Handled (base server : Server) (client : ClientConnection)
    (after : Server × ClientConnection) : Prop where
  attachment : Free base after.1 after.2 ∨ JustAttached base after.1 after.2
  manager : after.1.manager = server.manager
  ending : after.2.socket.ending = client.socket.ending
  stream : after.2.socket.stream = client.socket.stream

theorem import_spec (enumerated : base.devices.Enumerated) (free : Free base server client)
    (busid : Busid) (outcome : RequestOutcome) :
    Handled base server client (clientHandleImport server client busid outcome).2 := by
  obtain ⟨attachment,manager,socket⟩ := attach_spec enumerated free busid outcome.attach
  simp only [clientHandleImport]
  generalize clientAttachDevice server client busid outcome.attach = attach
    at attachment manager socket
  obtain ⟨err,middle,holder⟩ := attach
  simp only at attachment manager socket ⊢
  have header := sendExact_sameInput holder.socket (usbipPackHeaderBasic (importReplyHeader err)).image
  rw [socket] at header ⊢
  have kept : Free base middle holder ∨ JustAttached base middle holder :=
    attachment.elim (fun yes => Or.inr yes.2) (fun no => Or.inl no.2)
  have moved (next : Socket) : Free base middle {holder with socket := next} ∨
      JustAttached base middle {holder with socket := next} :=
    kept.imp (fun free => free.withSocket next) (fun attached => attached.withSocket next)
  split
  next first stepped =>
    rw [stepped] at header
    split
    next ok =>
      have device := sendExact_sameInput first (importReplyDevice middle {holder with socket := first})
      split
      next second finished =>
        rw [finished] at device
        have same := header.trans device
        exact ⟨moved second,manager,same.ending,same.stream⟩
      next second _ finished =>
        rw [finished] at device
        have same := header.trans device
        have attached : JustAttached base middle holder :=
          attachment.elim And.right (fun no => absurd ok no.1)
        obtain ⟨free,kept,unread⟩ :=
          detach_spec enumerated (attached.withSocket second).attached outcome.joins
        refine ⟨Or.inl free,kept.trans manager,?_,?_⟩
        · exact (congrArg Socket.ending unread).trans same.ending
        · exact (congrArg Socket.stream unread).trans same.stream
    next failed => exact ⟨moved first,manager,header.ending,header.stream⟩
  next first _ stepped =>
    rw [stepped] at header
    exact ⟨moved first,manager,header.ending,header.stream⟩

/-- A request leaves its client free or attached, and a served one has taken
its header from the stream. -/
theorem request_spec (enumerated : base.devices.Enumerated) (free : Free base server client)
    (outcome : RequestOutcome) {err : ErrorCode} {after : Server × ClientConnection}
    (handled : clientHandleRequest server client outcome = some (err,after)) :
    (Free base after.1 after.2 ∨ JustAttached base after.1 after.2) ∧
    after.1.manager = server.manager ∧ after.2.socket.ending = client.socket.ending ∧
    after.2.socket.stream.length ≤ client.socket.stream.length ∧
    (err = .success → after.2.socket.stream.length + UsbipHeaderBasic.size ≤
      client.socket.stream.length) := by
  simp only [clientHandleRequest] at handled
  split at handled
  next _ => cases handled
  next failure socket read =>
    obtain ⟨ending,shorter,_⟩ := recvRequest_next read
    cases recvRequest_error read
    cases handled
    exact ⟨Or.inl (free.withSocket socket),rfl,ending,shorter,fun ok => by cases ok⟩
  next request socket read =>
    obtain ⟨ending,shorter,served⟩ := recvRequest_next read
    have eaten := served request rfl
    clear served
    cases request with
    | devlist =>
      have same := sendDeviceList_sameInput server.devices socket (countDevices server.devices)
      have length := congrArg List.length same.stream
      cases handled
      exact ⟨Or.inl (free.withSocket _),rfl,same.ending.trans ending,length.trans_le shorter,
        fun _ => (congrArg (· + UsbipHeaderBasic.size) length).trans_le eaten⟩
    | «import» busid =>
      have spec := import_spec enumerated (free.withSocket socket) busid outcome
      have length := congrArg List.length spec.stream
      rw [show after = (clientHandleImport server {client with socket} busid outcome).2 from
        (congrArg Prod.snd (Option.some.inj handled)).symm]
      exact ⟨spec.attachment,spec.manager,spec.ending.trans ending,length.trans_le shorter,
        fun _ => (congrArg (· + UsbipHeaderBasic.size) length).trans_le eaten⟩
    | unknown =>
      cases handled
      exact ⟨Or.inl (free.withSocket socket),rfl,ending,shorter,fun ok => by cases ok⟩

end Attaching

end UsbOverNetwork
