import UsbOverNetwork.Client.Discovery
import UsbOverNetwork.Client.ListDecoder
import UsbOverNetwork.Client.Main
import UsbOverNetwork.Client.RemoteDeviceList
import UsbOverNetwork.Server.DeviceListCalls

/-! The window of the client. Whatever its user clicks, it edits the attached
devices through the calls of `remote_device.c` only, and what it shows of a
device is whether that device is attached. -/
namespace UsbOverNetwork
open Runs

/-- The system's conversions between the text of a busid and the text of a row. -/
structure WideText (Wide : Type) where
  guiUtf8ToWide : Token → Wide
  guiWideToUtf8 : Wide → Busid

inductive RemoteStatus
  | available
  | attached
deriving DecidableEq

structure RemoteRow (Wide : Type) where
  busid : Wide
  status : RemoteStatus
  checked : Bool

/-- `client_gui_context_t`, with the rows that the list view was given. -/
structure ClientGui (Wide : Type) where
  remote : RemoteClient
  currentServer : CString 63
  connected : Bool
  rows : List (RemoteRow Wide)

/-- What a request for the device list meets: the array on the stack, the token
in use and the connection. -/
structure ListAnswer where
  devices : DeviceArray
  token : Option Token
  socket : Option Socket

structure AttachAnswer where
  token : Option Token
  alloc : Option Nat
  socket : Option Socket
  plug : Bool
  unplug : Bool

/-- `ERR_ALREADY_EXISTS`, or the code of `remote_device_connect`. -/
inductive AttachCode
  | alreadyExists
  | of (err : ErrorCode)
deriving DecidableEq

/-- `sel` is the selected row. No control of the window calls for the last two. -/
inductive ClientGuiAction
  | connectClicked (server : Token) (probe refresh : ListAnswer) (unplugs : Nat → Bool)
  | refreshClicked (answer : ListAnswer)
  | checkboxClicked (index : Nat) (answer : AttachAnswer)
  | attachSelected (sel : Option Nat) (answer : AttachAnswer) (refresh : ListAnswer)
  | detachSelected (sel : Option Nat) (unplug : Bool) (refresh : ListAnswer)

def UsbipUsbDevice.busidText (dev : UsbipUsbDevice) : Token where
  chars := dev.busid.toList.takeWhile (· != 0)
  noNul := fun member => absurd (List.mem_takeWhile_imp member) (by simp)

def ListCall.records (call : ListCall) : List UsbipUsbDevice :=
  match call.devices,call.deviceCount with
  | some devices,some count => (List.range count.toNat).map devices
  | _,_ => []

def ListAnswer.call (answer : ListAnswer) (server : CString 63) (maxDevices : Int) : ListCall where
  serverIp := some (.ofCString server)
  serverPort := usbipPort
  devices := some answer.devices
  deviceCount := some 0
  maxDevices
  token := answer.token
  socket := answer.socket

def AttachAnswer.call (answer : AttachAnswer) (server : CString 63) (busid : Busid) : ConnectCall where
  vhci := true
  serverIp := some (.ofCString server)
  serverPort := usbipPort
  busid := some (.ofCString busid)
  token := answer.token
  alloc := answer.alloc
  socket := answer.socket
  plug := answer.plug
  unplug := answer.unplug

namespace ClientGui

variable {Wide : Type} (text : WideText Wide)

/-- The state after `client_gui_init`. -/
def start (opened : Bool) : ClientGui Wide := ⟨.start opened,.empty,false,[]⟩

def statusOf (attached : Bool) : RemoteStatus := if attached then .attached else .available

def rowOf (s : ClientGui Wide) (dev : UsbipUsbDevice) : RemoteRow Wide :=
  let attached := s.remote.remoteDeviceFindByBusid dev.busidText
  ⟨text.guiUtf8ToWide dev.busidText,statusOf attached.isSome,attached.isSome⟩

/-- The checks that it sets are not reported to `on_device_checkbox_changed`.
`none` while the server is silent. -/
def populateDeviceList (answer : ListAnswer) (s : ClientGui Wide) : Option (ClientGui Wide) :=
  let s := {s with rows := []}
  if !s.connected then some s
  else
    match (answer.call s.currentServer maxDevices).remoteServerListDevices with
    | none => none
    | some (.success,call) => some {s with rows := call.records.map (s.rowOf text)}
    | some _ => some s

def clientGuiConnect (probe refresh : ListAnswer) (s : ClientGui Wide) : Option (ClientGui Wide) :=
  match (probe.call s.currentServer 1).remoteServerListDevices with
  | none => none
  | some (.success,_) => populateDeviceList text refresh {s with connected := true}
  | some _ => some s

def clientGuiDisconnect (unplugs : Nat → Bool) (s : ClientGui Wide) : ClientGui Wide :=
  {s with remote := s.remote.remoteDeviceDisconnectAll unplugs, connected := false, rows := []}

def clientGuiSetServer (ip : CString 63) (s : ClientGui Wide) : ClientGui Wide :=
  {s with currentServer := ip}

def onConnectClicked (server : Token) (probe refresh : ListAnswer) (unplugs : Nat → Bool)
    (s : ClientGui Wide) : Option (ClientGui Wide) :=
  if s.connected then some (s.clientGuiDisconnect unplugs)
  else
    let server : CString 63 := .ofBuffer server.chars
    if server = .empty then some s
    else (s.clientGuiSetServer server).clientGuiConnect text probe refresh

def clientGuiAttachDevice (busid : Busid) (answer : AttachAnswer) (s : ClientGui Wide) :
    Option (AttachCode × ClientGui Wide) :=
  match s.remote.remoteDeviceFindByBusid (.ofCString busid) with
  | some _ => some (.alreadyExists,s)
  | none => (s.remote.remoteDeviceConnect (answer.call s.currentServer busid)).map
      fun (err,remote) => (.of err,{s with remote})

def clientGuiDetachDevice (busid : Busid) (unplug : Bool) (s : ClientGui Wide) :
    ErrorCode × ClientGui Wide :=
  match s.remote.remoteDeviceFindByBusid (.ofCString busid) with
  | none => (.notFound,s)
  | some device =>
    (.success,{s with remote := (s.remote.remoteDeviceDisconnect (some device.address) unplug).2})

def setRow (index : Nat) (row : RemoteRow Wide) (s : ClientGui Wide) : ClientGui Wide :=
  {s with rows := s.rows.set index row}

/-- A check that is put back is not reported either. -/
def onDeviceCheckboxChanged (index : Nat) (answer : AttachAnswer) (s : ClientGui Wide) :
    Option (ClientGui Wide) :=
  match s.rows[index]? with
  | none => some s
  | some row =>
    let busid := text.guiWideToUtf8 row.busid
    if busid = .empty then some s
    else if row.checked then
      (s.clientGuiAttachDevice busid answer).map fun (err,s) =>
        if err = .of .success then s.setRow index {row with status := .attached}
        else s.setRow index {row with checked := false}
    else
      let (err,s) := s.clientGuiDetachDevice busid answer.unplug
      if err = .success then some (s.setRow index {row with status := .available})
      else some (s.setRow index {row with checked := true})

def clientGuiAttachSelected (sel : Option Nat) (answer : AttachAnswer) (refresh : ListAnswer)
    (s : ClientGui Wide) : Option (ClientGui Wide) :=
  match sel.bind (s.rows[·]?) with
  | none => some s
  | some row =>
    match s.clientGuiAttachDevice (text.guiWideToUtf8 row.busid) answer with
    | none => none
    | some (.of .success,s) => s.populateDeviceList text refresh
    | some (_,s) => some s

def clientGuiDetachSelected (sel : Option Nat) (unplug : Bool) (refresh : ListAnswer)
    (s : ClientGui Wide) : Option (ClientGui Wide) :=
  match sel.bind (s.rows[·]?) with
  | none => some s
  | some row =>
    match s.clientGuiDetachDevice (text.guiWideToUtf8 row.busid) unplug with
    | (.success,s) => s.populateDeviceList text refresh
    | (_,s) => some s

/-- A click turns the box over before the handler is told. -/
def step : ClientGuiAction → ClientGui Wide → Option (ClientGui Wide)
  | .connectClicked server probe refresh unplugs,s =>
    s.onConnectClicked text server probe refresh unplugs
  | .refreshClicked answer,s => s.populateDeviceList text answer
  | .checkboxClicked index answer,s => (s.rows[index]?).bind fun row =>
      (s.setRow index {row with checked := !row.checked}).onDeviceCheckboxChanged text index answer
  | .attachSelected sel answer refresh,s => s.clientGuiAttachSelected text sel answer refresh
  | .detachSelected sel unplug refresh,s => s.clientGuiDetachSelected text sel unplug refresh

/-- `WM_CLOSE` asks the user first. -/
def closeAsks (s : ClientGui Wide) : Bool := s.remote.list.count > 0

def clientGuiCleanup (unplugs listUnplugs : Nat → Bool) (ports : Fin vhciMaxPorts → Bool)
    (s : ClientGui Wide) : RemoteClient :=
  ((s.remote.remoteDeviceDisconnectAll unplugs).remoteDeviceListCleanup listUnplugs).cleanup ports

end ClientGui

namespace RemoteClient

variable {s next : RemoteClient} {err : ErrorCode}

def Lists (s : RemoteClient) (device : RemoteDevice) : ErrorCode → RemoteClient → Prop
  | .success,next => ∃ added : RemoteDevice,
      next.list = {s.list with devices := added::s.list.devices, count := s.list.count+1} ∧
      added.address = device.address ∧ added.busid = device.busid ∧ added.serverIp = device.serverIp
  | _,next => next.list = s.list

theorem lists_failed {device : RemoteDevice} (failed : err ≠ .success) (list : next.list = s.list) :
    s.Lists device err next := by
  cases err with
  | success => exact absurd rfl failed
  | _ => exact list

theorem Lists.failed {device : RemoteDevice} (lists : s.Lists device err next)
    (failed : err ≠ .success) : next.list = s.list := by
  cases err with
  | success => exact absurd rfl failed
  | _ => exact lists

theorem attachDevice_lists {device : RemoteDevice} {call : ConnectCall} {socket : Nat} {serverIp : Token}
    (ended : s.attachDevice device call socket serverIp = (err,next)) : s.Lists device err next := by
  simp only [attachDevice] at ended
  split at ended
  next _ =>
    cases ended
    exact free_list _ _ _
  next _ =>
    split at ended
    next failed =>
      cases ended
      exact lists_failed failed (free_list _ _ _)
    next _ =>
      cases ended
      exact ⟨_,rfl,rfl,rfl,rfl⟩

theorem importDevice_lists {device : RemoteDevice} {call : ConnectCall} {socket : Socket}
    {serverIp busid : Token} (ended : s.importDevice device call socket serverIp busid = some (err,next)) :
    s.Lists device err next := by
  unfold importDevice at ended
  cases shaken : call.handshake socket with
  | mk authErr socket =>
    simp only [shaken] at ended
    split at ended
    next failed =>
      cases ended
      exact lists_failed failed (free_list _ _ _)
    next _ =>
      split at ended
      next => cases ended
      next error rest exchanged =>
        cases ended
        exact lists_failed (exchange_fails exchanged) (free_list _ _ _)
      next info rest _ =>
        split at ended
        next _ =>
          have attached := attachDevice_lists (Option.some.inj ended)
          exact attached
        next _ =>
          cases ended
          exact ⟨_,rfl,rfl,rfl,rfl⟩

/-- A call that succeeds has put one device in front of the list, under the
names it was given. -/
theorem connect_lists {call : ConnectCall} {serverIp busid : Token} (ip : call.serverIp = some serverIp)
    (name : call.busid = some busid) (ended : s.remoteDeviceConnect call = some (err,next)) :
    ∃ device : RemoteDevice, device.busid = .ofBuffer busid.chars ∧
      device.serverIp = .ofBuffer serverIp.chars ∧
      (err = .success → device.address ∉ s.list.devices.map RemoteDevice.address) ∧
      s.Lists device err next := by
  simp only [remoteDeviceConnect,ip,name] at ended
  split at ended
  next _ =>
    cases ended
    exact ⟨{createRemoteDevice 0 with busid := .ofBuffer busid.chars
                                      serverIp := .ofBuffer serverIp.chars},rfl,rfl,
      (by intro same; cases same),rfl⟩
  next address _ =>
    split at ended
    next => cases ended
    next fresh =>
      split at ended
      next _ =>
        cases ended
        exact ⟨{createRemoteDevice address with busid := .ofBuffer busid.chars
                                                serverIp := .ofBuffer serverIp.chars},rfl,rfl,
          (by intro same; cases same),free_list _ _ _⟩
      next socket _ => exact ⟨_,rfl,rfl,fun _ => fresh,importDevice_lists ended⟩

end RemoteClient

namespace RemoteClient

variable {s : RemoteClient}

theorem find_none (ready : s.list.initialized = true) (busid : Busid) :
    s.remoteDeviceFindByBusid (.ofCString busid) = none ↔
      busid ∉ s.list.devices.map RemoteDevice.busid := by
  simp only [remoteDeviceFindByBusid,ready,Bool.not_true,Bool.false_eq_true,if_false,
    List.find?_eq_none,decide_eq_true_eq,List.mem_map,not_exists,not_and]
  exact forall₂_congr fun device _ => not_congr (by rw [CString.mk.injEq]; rfl)

theorem find_some {text : Token} {device : RemoteDevice}
    (found : s.remoteDeviceFindByBusid text = some device) :
    device ∈ s.list.devices ∧ device.busid.chars = text.chars := by
  unfold remoteDeviceFindByBusid at found
  split at found
  next _ => cases found
  next _ =>
    have same := List.find?_some found
    exact ⟨List.mem_of_find?_eq_some found,of_decide_eq_true same⟩

theorem disconnect_sublist (s : RemoteClient) (device : Option Nat) (unplug : Bool) :
    (s.remoteDeviceDisconnect device unplug).2.list.devices.Sublist s.list.devices ∧
      (s.remoteDeviceDisconnect device unplug).2.list.initialized = s.list.initialized := by
  rcases disconnect_cases s device unplug with ⟨_,same⟩ | ⟨before,found,after,split,_,next⟩
  · rw [same]
    exact ⟨List.Sublist.refl _,rfl⟩
  · rw [next,free_list,split]
    exact ⟨(List.Sublist.refl before).append (List.sublist_cons_self found after),rfl⟩

theorem disconnectAll_ready (ready : s.list.initialized = true) (unplugs : Nat → Bool) :
    (s.remoteDeviceDisconnectAll unplugs).list.initialized = true := by
  have kept : ∀ (s : RemoteClient) (device : Option Nat) (unplug : Bool), s.list.initialized = true →
      (s.remoteDeviceDisconnect device unplug).2.list.initialized = true :=
    fun s device unplug ready => (disconnect_sublist s device unplug).2.trans ready
  have still := disconnectAll_kept kept unplugs ready
  exact still

end RemoteClient

namespace ClientGui

variable {Wide : Type} {text : WideText Wide} {s next : ClientGui Wide}

theorem populate_cases {answer : ListAnswer} (shown : s.populateDeviceList text answer = some next) :
    next = {s with rows := []} ∨ ∃ call, s.connected = true ∧
      (answer.call s.currentServer maxDevices).remoteServerListDevices = some (.success,call) ∧
      next = {s with rows := call.records.map (s.rowOf text)} := by
  simp only [populateDeviceList] at shown
  split at shown
  next _ => exact Or.inl (Option.some.inj shown).symm
  next connected =>
    split at shown
    next => cases shown
    next call listed =>
      exact Or.inr ⟨call,by simpa using connected,listed,(Option.some.inj shown).symm⟩
    next => exact Or.inl (Option.some.inj shown).symm

theorem attach_cases {busid : Busid} {answer : AttachAnswer} {code : AttachCode}
    (ended : s.clientGuiAttachDevice busid answer = some (code,next)) :
    (code = .alreadyExists ∧ next = s) ∨ ∃ err remote, code = .of err ∧
      s.remote.remoteDeviceFindByBusid (.ofCString busid) = none ∧
      s.remote.remoteDeviceConnect (answer.call s.currentServer busid) = some (err,remote) ∧
      next = {s with remote} := by
  unfold clientGuiAttachDevice at ended
  split at ended
  next _ =>
    cases ended
    exact Or.inl ⟨rfl,rfl⟩
  next absent =>
    obtain ⟨⟨err,remote⟩,connected,same⟩ := Option.map_eq_some_iff.mp ended
    cases same
    exact Or.inr ⟨err,remote,rfl,absent,connected,rfl⟩

inductive Clicked (s : ClientGui Wide) : ClientGui Wide → Prop
  | disconnected (unplugs : Nat → Bool) (on : s.connected = true) :
      Clicked s (s.clientGuiDisconnect unplugs)
  | dialled (server : CString 63) (connected : Bool) (rows : List (RemoteRow Wide))
      (off : s.connected = false) (blank : connected = false → rows = [] ∨ s.rows ≠ []) :
      Clicked s {s with currentServer := server, connected, rows}
  | shown (rows : List (RemoteRow Wide))
      (blank : s.connected = false → rows = [] ∨ s.rows ≠ []) : Clicked s {s with rows}
  | attached (busid : Busid) (answer : AttachAnswer) (err : ErrorCode) (remote : RemoteClient)
      (rows : List (RemoteRow Wide)) (pressed : s.rows ≠ [])
      (absent : s.remote.remoteDeviceFindByBusid (.ofCString busid) = none)
      (ended : s.remote.remoteDeviceConnect (answer.call s.currentServer busid) = some (err,remote)) :
      Clicked s {s with remote, rows}
  | detached (text : Token) (device : RemoteDevice) (unplug : Bool) (rows : List (RemoteRow Wide))
      (pressed : s.rows ≠ []) (found : s.remote.remoteDeviceFindByBusid text = some device) :
      Clicked s {s with
        remote := (s.remote.remoteDeviceDisconnect (some device.address) unplug).2, rows}

theorem populate_clicked {answer : ListAnswer} (shown : s.populateDeviceList text answer = some next) :
    Clicked s next := by
  rcases populate_cases shown with rfl | ⟨call,on,_,rfl⟩
  · exact .shown [] fun _ => Or.inl rfl
  · exact .shown _ fun off => by rw [on] at off; cases off

theorem connect_clicked {server : Token} {probe refresh : ListAnswer} {unplugs : Nat → Bool}
    (ended : s.onConnectClicked text server probe refresh unplugs = some next) : Clicked s next := by
  simp only [onConnectClicked] at ended
  split at ended
  next on =>
    cases ended
    exact .disconnected unplugs on
  next off =>
    have off : s.connected = false := by simpa using off
    split at ended
    next _ =>
      cases ended
      exact .dialled s.currentServer s.connected s.rows off fun _ => em _
    next _ =>
      unfold clientGuiConnect at ended
      split at ended
      next => cases ended
      next =>
        rcases populate_cases ended with rfl | ⟨call,_,_,rfl⟩
        · exact .dialled (.ofBuffer server.chars) true [] off nofun
        · exact .dialled (.ofBuffer server.chars) true _ off nofun
      next =>
        cases ended
        exact .dialled (.ofBuffer server.chars) s.connected s.rows off fun _ => em _

theorem attach_clicked {busid : Busid} {answer : AttachAnswer} {code : AttachCode}
    (pressed : s.rows ≠ []) (ended : s.clientGuiAttachDevice busid answer = some (code,next))
    (rows : List (RemoteRow Wide)) : Clicked s {next with rows} := by
  rcases attach_cases ended with ⟨_,rfl⟩ | ⟨err,remote,_,absent,connected,rfl⟩
  · exact .shown rows fun _ => Or.inr pressed
  · exact .attached busid answer err remote rows pressed absent connected

theorem detach_clicked {busid : Busid} {unplug : Bool} {err : ErrorCode} (pressed : s.rows ≠ [])
    (ended : s.clientGuiDetachDevice busid unplug = (err,next)) (rows : List (RemoteRow Wide)) :
    Clicked s {next with rows} := by
  unfold clientGuiDetachDevice at ended
  split at ended
  next _ =>
    cases ended
    exact .shown rows fun _ => Or.inr pressed
  next device found =>
    cases ended
    exact .detached _ device unplug rows pressed found

theorem Clicked.of_rows {rows : List (RemoteRow Wide)} (pressed : s.rows ≠ [])
    (clicked : Clicked {s with rows} next) : Clicked s next := by
  cases clicked with
  | disconnected unplugs on => exact .disconnected unplugs on
  | dialled server connected rows off _ =>
    exact .dialled server connected rows off fun _ => Or.inr pressed
  | shown rows _ => exact .shown rows fun _ => Or.inr pressed
  | attached busid answer err remote rows _ absent ended =>
    exact .attached busid answer err remote rows pressed absent ended
  | detached text device unplug rows _ found => exact .detached text device unplug rows pressed found

theorem found_ne_nil {index : Nat} {row : RemoteRow Wide} (found : s.rows[index]? = some row) :
    s.rows ≠ [] := List.ne_nil_of_mem (List.mem_of_getElem? found)

theorem set_ne_nil {index : Nat} {other : RemoteRow Wide} (pressed : s.rows ≠ []) :
    (s.setRow index other).rows ≠ [] := fun none => pressed (by simpa [setRow] using none)

theorem checkbox_clicked {index : Nat} {answer : AttachAnswer} (pressed : s.rows ≠ [])
    (ended : s.onDeviceCheckboxChanged text index answer = some next) : Clicked s next := by
  unfold onDeviceCheckboxChanged at ended
  split at ended
  next _ =>
    cases ended
    exact .shown s.rows fun _ => Or.inr pressed
  next row found =>
    simp only at ended
    split at ended
    next _ =>
      cases ended
      exact .shown s.rows fun _ => Or.inr pressed
    next _ =>
      split at ended
      next _ =>
        obtain ⟨⟨code,after⟩,attached,same⟩ := Option.map_eq_some_iff.mp ended
        subst same
        have clicked := attach_clicked pressed attached
        split
        · exact clicked _
        · exact clicked _
      next _ =>
        cases detached : s.clientGuiDetachDevice (text.guiWideToUtf8 row.busid) answer.unplug with
        | mk err after =>
          have clicked := detach_clicked pressed detached
          rw [detached] at ended
          simp only at ended
          split at ended
          · exact Option.some.inj ended ▸ clicked _
          · exact Option.some.inj ended ▸ clicked _

theorem populate_after {answer : ListAnswer} {after : ClientGui Wide}
    (clicked : ∀ rows, Clicked s {after with rows})
    (shown : after.populateDeviceList text answer = some next) : Clicked s next := by
  rcases populate_cases shown with rfl | ⟨call,_,_,rfl⟩
  · exact clicked _
  · exact clicked _

theorem step_clicked {action : ClientGuiAction} (stepped : step text action s = some next) :
    Clicked s next := by
  cases action with
  | connectClicked server probe refresh unplugs => exact connect_clicked stepped
  | refreshClicked answer => exact populate_clicked stepped
  | checkboxClicked index answer =>
    obtain ⟨row,found,changed⟩ := Option.bind_eq_some_iff.mp stepped
    have pressed := found_ne_nil found
    exact (checkbox_clicked (set_ne_nil pressed) changed).of_rows pressed
  | attachSelected sel answer refresh =>
    simp only [step,clientGuiAttachSelected] at stepped
    split at stepped
    next _ =>
      cases stepped
      exact .shown s.rows fun _ => em _
    next row selected =>
      obtain ⟨index,_,found⟩ := Option.bind_eq_some_iff.mp selected
      have pressed := found_ne_nil found
      split at stepped
      next => cases stepped
      next after attached => exact populate_after (attach_clicked pressed attached) stepped
      next code after _ attached =>
        cases stepped
        exact attach_clicked pressed attached _
  | detachSelected sel unplug refresh =>
    simp only [step,clientGuiDetachSelected] at stepped
    split at stepped
    next _ =>
      cases stepped
      exact .shown s.rows fun _ => em _
    next row selected =>
      obtain ⟨index,_,found⟩ := Option.bind_eq_some_iff.mp selected
      have pressed := found_ne_nil found
      split at stepped
      next after detached => exact populate_after (detach_clicked pressed detached) stepped
      next err after _ detached =>
        cases stepped
        exact detach_clicked pressed detached _

theorem Clicked.calls (clicked : Clicked s next) : next.remote = s.remote ∨
    ∃ call, InUse call s.remote ∧ RemoteClient.step call s.remote = some next.remote := by
  cases clicked with
  | disconnected unplugs _ => exact Or.inr ⟨.disconnectAll unplugs,trivial,rfl⟩
  | dialled server connected rows _ _ => exact Or.inl rfl
  | shown rows _ => exact Or.inl rfl
  | attached busid answer err remote rows _ _ ended =>
    refine Or.inr ⟨.connect (answer.call s.currentServer busid),rfl,?_⟩
    rw [RemoteClient.step,ended]
    rfl
  | detached text device unplug rows _ _ =>
    exact Or.inr ⟨.disconnect (some device.address) unplug,trivial,rfl⟩

theorem run_calls {opened : Bool} {actions : List ClientGuiAction}
    (run : Run (step text) (start opened) actions s) :
    ∃ calls, GuardedRun RemoteClient.step InUse (.start opened) calls s.remote :=
  run.stutter remote fun _ _ _ stepped => (step_clicked stepped).calls

/-- No busid is attached twice, and every device comes from the server that the
window names; there is none while it is not connected. -/
structure Sound (s : ClientGui Wide) : Prop where
  ready : s.remote.list.initialized = true
  addresses : (s.remote.list.devices.map RemoteDevice.address).Nodup
  busids : (s.remote.list.devices.map RemoteDevice.busid).Nodup
  server : ∀ device ∈ s.remote.list.devices, device.serverIp = s.currentServer
  idle : s.connected = false → s.rows = [] ∧ s.remote.list.devices = []

theorem Sound.pressed (sound : s.Sound) (some : s.rows ≠ []) : s.connected = true := by
  cases connected : s.connected with
  | true => rfl
  | false => exact absurd (sound.idle connected).1 some

theorem Sound.clicked (sound : s.Sound) (clicked : Clicked s next) : next.Sound := by
  obtain ⟨ready,addresses,busids,server,idle⟩ := id sound
  cases clicked with
  | disconnected unplugs on =>
    have empty := RemoteClient.disconnectAll_empty ready unplugs
    have still := RemoteClient.disconnectAll_ready ready unplugs
    refine ⟨still,?_,?_,?_,fun _ => ⟨rfl,empty⟩⟩
    all_goals simp [clientGuiDisconnect,empty]
  | dialled server connected rows off blank =>
    obtain ⟨norows,none⟩ := idle off
    refine ⟨ready,addresses,busids,?_,fun off => ⟨?_,none⟩⟩
    · simp [none]
    · exact (blank off).resolve_right fun some => some norows
  | shown rows blank =>
    refine ⟨ready,addresses,busids,server,fun off => ?_⟩
    obtain ⟨norows,none⟩ := idle off
    exact ⟨(blank off).resolve_right fun some => some norows,none⟩
  | attached busid answer err remote rows pressed absent ended =>
    have on := sound.pressed pressed
    obtain ⟨device,name,ip,fresh,lists⟩ := RemoteClient.connect_lists rfl rfl ended
    rw [ofBuffer_ofCString] at name ip
    by_cases succeeded : err = .success
    · subst succeeded
      obtain ⟨added,list,address,called,origin⟩ := lists
      refine ⟨by rw [list]; exact ready,?_,?_,?_,fun off => ?_⟩
      · rw [list,List.map_cons,address]
        exact List.nodup_cons.mpr ⟨fresh rfl,addresses⟩
      · rw [list,List.map_cons,called,name]
        exact List.nodup_cons.mpr ⟨(RemoteClient.find_none ready busid).mp absent,busids⟩
      · rw [list]
        exact List.forall_mem_cons.mpr ⟨origin.trans ip,server⟩
      · rw [on] at off
        cases off
    · have list := lists.failed succeeded
      refine ⟨?_,?_,?_,?_,fun off => ?_⟩
      · rw [list]; exact ready
      · rw [list]; exact addresses
      · rw [list]; exact busids
      · rw [list]; exact server
      · rw [on] at off
        cases off
  | detached text device unplug rows pressed _ =>
    have on := sound.pressed pressed
    obtain ⟨rest,same⟩ := RemoteClient.disconnect_sublist s.remote (some device.address) unplug
    refine ⟨same.trans ready,addresses.sublist (rest.map _),busids.sublist (rest.map _),
      fun other left => server other (rest.subset left),fun off => ?_⟩
    rw [on] at off
    cases off

def busids (s : ClientGui Wide) : List Busid := s.remote.list.devices.map RemoteDevice.busid

def rowBusid (text : WideText Wide) (row : RemoteRow Wide) : Busid := text.guiWideToUtf8 row.busid

/-- Each row tells of one device, and tells whether it is attached. -/
structure Truthful (text : WideText Wide) (s : ClientGui Wide) : Prop where
  named : ∀ row ∈ s.rows, rowBusid text row ≠ .empty
  distinct : (s.rows.map (rowBusid text)).Nodup
  shows : ∀ row ∈ s.rows, row.status = statusOf row.checked ∧
    (row.checked = true ↔ rowBusid text row ∈ s.busids)

/-- Busids that differ, that are not empty and that the list view gives back. -/
structure Readable (text : WideText Wide) (records : List UsbipUsbDevice) : Prop where
  kept : ∀ dev ∈ records, dev.busidText = .ofCString (text.guiWideToUtf8 (text.guiUtf8ToWide dev.busidText))
  named : ∀ dev ∈ records, dev.busidText.chars ≠ []
  distinct : (records.map UsbipUsbDevice.busidText).Nodup

def ReadableAnswer (text : WideText Wide) (answer : ListAnswer) : Prop :=
  ∀ server call, (answer.call server maxDevices).remoteServerListDevices = some (.success,call) →
    Readable text call.records

def ReadableLists (text : WideText Wide) : ClientGuiAction → ClientGui Wide → Prop
  | .connectClicked _ _ refresh _,_ => ReadableAnswer text refresh
  | .refreshClicked answer,_ => ReadableAnswer text answer
  | .checkboxClicked _ _,_ => True
  | .attachSelected _ _ refresh,_ => ReadableAnswer text refresh
  | .detachSelected _ _ refresh,_ => ReadableAnswer text refresh

theorem truthful_blank (s : ClientGui Wide) : Truthful text {s with rows := []} :=
  ⟨nofun,List.nodup_nil,nofun⟩

theorem populate_truthful {answer : ListAnswer} (ready : s.remote.list.initialized = true)
    (readable : ReadableAnswer text answer)
    (shown : s.populateDeviceList text answer = some next) : Truthful text next := by
  rcases populate_cases shown with rfl | ⟨call,_,listed,rfl⟩
  · exact truthful_blank s
  · obtain ⟨kept,named,distinct⟩ := readable _ _ listed
    have told (dev : UsbipUsbDevice) (member : dev ∈ call.records) :
        dev.busidText = .ofCString (rowBusid text (s.rowOf text dev)) := kept dev member
    refine ⟨fun row member => ?_,?_,fun row member => ?_⟩
    · obtain ⟨dev,inside,rfl⟩ := List.mem_map.mp member
      intro empty
      have chars := named dev inside
      rw [told dev inside,empty] at chars
      exact chars rfl
    · rw [List.map_map]
      refine List.Nodup.of_map Token.ofCString ?_
      rw [List.map_map]
      refine (List.map_congr_left fun dev member => ?_) ▸ distinct
      exact told dev member
    · obtain ⟨dev,inside,rfl⟩ := List.mem_map.mp member
      refine ⟨rfl,?_⟩
      have found := RemoteClient.find_none ready (rowBusid text (s.rowOf text dev))
      rw [← told dev inside,← Option.not_isSome_iff_eq_none] at found
      exact not_iff_not.mp found

theorem Truthful.set (ok : Truthful text s) {index : Nat} {row other : RemoteRow Wide}
    (found : s.rows[index]? = some row) (rows : next.rows = s.rows.set index other)
    (named : other.busid = row.busid) (status : other.status = statusOf other.checked)
    (here : other.checked = true ↔ rowBusid text row ∈ next.busids)
    (others : ∀ busid, busid ≠ rowBusid text row → (busid ∈ next.busids ↔ busid ∈ s.busids)) :
    Truthful text next := by
  obtain ⟨inside,same⟩ := List.getElem?_eq_some_iff.mp found
  obtain ⟨before,after,split,_,set⟩ := @List.exists_of_set _ _ other _ inside
  rw [same] at split
  rw [set] at rows
  have busid : rowBusid text other = rowBusid text row := congrArg text.guiWideToUtf8 named
  obtain ⟨nonempty,distinct,shows⟩ := ok
  rw [split] at nonempty distinct shows
  have apart : rowBusid text row ∉ (before ++ after).map (rowBusid text) := by
    rw [List.map_append,List.map_cons,List.nodup_middle,← List.map_append,List.nodup_cons] at distinct
    exact distinct.1
  have member {r : RemoteRow Wide} (at_ : r ∈ next.rows) : r = other ∨ r ∈ before ++ after := by
    rw [rows,List.mem_append,List.mem_cons] at at_
    rw [List.mem_append]
    tauto
  have old {r : RemoteRow Wide} (left : r ∈ before ++ after) : r ∈ before ++ row::after := by
    rw [List.mem_append] at left
    rw [List.mem_append,List.mem_cons]
    tauto
  refine ⟨fun r listed => ?_,?_,fun r listed => ?_⟩
  · rcases member listed with rfl | left
    · rw [busid]
      exact nonempty row (by simp)
    · exact nonempty r (old left)
  · rw [rows,List.map_append,List.map_cons,busid]
    simpa using distinct
  · rcases member listed with rfl | left
    · exact ⟨status,by rw [busid]; exact here⟩
    · obtain ⟨told,attached⟩ := shows r (old left)
      refine ⟨told,attached.trans (others _ fun same => apart ?_).symm⟩
      exact same ▸ List.mem_map_of_mem left

theorem attach_busids {busid : Busid} {answer : AttachAnswer} {code : AttachCode}
    (ended : s.clientGuiAttachDevice busid answer = some (code,next)) :
    next.rows = s.rows ∧ (code ≠ .of .success → next.busids = s.busids) ∧
    (code = .of .success → ∀ other, other ∈ next.busids ↔ other = busid ∨ other ∈ s.busids) := by
  rcases attach_cases ended with ⟨rfl,rfl⟩ | ⟨err,remote,rfl,_,connected,rfl⟩
  · exact ⟨rfl,fun _ => rfl,nofun⟩
  · obtain ⟨device,name,_,_,lists⟩ := RemoteClient.connect_lists rfl rfl connected
    rw [ofBuffer_ofCString] at name
    refine ⟨rfl,fun failed => ?_,fun succeeded other => ?_⟩
    · rw [busids,lists.failed fun same => failed (congrArg _ same)]
      rfl
    · cases succeeded
      obtain ⟨added,list,_,called,_⟩ := lists
      rw [busids,list,List.map_cons,List.mem_cons,called,name]
      rfl

theorem detach_busids (sound : s.Sound) {busid : Busid} {unplug : Bool} {err : ErrorCode}
    (ended : s.clientGuiDetachDevice busid unplug = (err,next)) :
    (err = .notFound ∧ busid ∉ s.busids ∧ next = s) ∨
    (err = .success ∧ next.rows = s.rows ∧
      ∀ other, other ∈ next.busids ↔ other ≠ busid ∧ other ∈ s.busids) := by
  unfold clientGuiDetachDevice at ended
  split at ended
  next absent =>
    cases ended
    exact Or.inl ⟨rfl,(RemoteClient.find_none sound.ready busid).mp absent,rfl⟩
  next device found =>
    cases ended
    refine Or.inr ⟨rfl,rfl,fun other => ?_⟩
    obtain ⟨member,named⟩ := RemoteClient.find_some found
    have called : device.busid = busid := by
      rw [← CString.ofBuffer_chars device.busid,named]
      exact CString.ofBuffer_chars busid
    have listed := Keyed.find_of_mem RemoteDevice.address sound.addresses member
    rcases RemoteClient.disconnect_cases s.remote (some device.address) unplug with
      ⟨missing,_⟩ | ⟨before,gone,after,split,pointed,left⟩
    · rw [RemoteClient.disconnecting,Option.bind_some,listed] at missing
      cases missing
    · rw [RemoteClient.disconnecting,Option.bind_some,listed] at pointed
      cases pointed
      have distinct := sound.busids
      rw [split,List.map_append,List.map_cons,List.nodup_middle,List.nodup_cons,called] at distinct
      have devices : (s.remote.remoteDeviceDisconnect (some device.address) unplug).2.list.devices =
          before ++ after := by
        rw [left,RemoteClient.free_list]
        rfl
      simp only [busids,devices,split,List.map_append,List.map_cons,called,List.mem_append,
        List.mem_cons] at distinct ⊢
      constructor
      · exact fun rest => ⟨fun same => distinct.1 (same ▸ rest),by tauto⟩
      · tauto

theorem checkbox_truthful (sound : s.Sound) (ok : Truthful text s) {index : Nat} {row : RemoteRow Wide}
    (found : s.rows[index]? = some row) {answer : AttachAnswer}
    (changed : (s.setRow index {row with checked := !row.checked}).onDeviceCheckboxChanged text index
      answer = some next) : Truthful text next := by
  have clicked : (s.setRow index {row with checked := !row.checked}).rows[index]? =
      some {row with checked := !row.checked} := by
    rw [setRow,List.getElem?_set_self (List.getElem?_eq_some_iff.mp found).1]
  have member := List.mem_of_getElem? found
  obtain ⟨told,attached⟩ := ok.shows row member
  have named : text.guiWideToUtf8 row.busid ≠ .empty := ok.named row member
  simp only [onDeviceCheckboxChanged,clicked,named,if_false] at changed
  have reset (other : RemoteRow Wide) (after : ClientGui Wide)
      (rows : after.rows = (s.setRow index {row with checked := !row.checked}).rows) :
      (after.setRow index other).rows = s.rows.set index other := by
    rw [setRow,rows,setRow,List.set_set]
  split at changed
  next checked =>
    have free : row.checked = false := by simpa using checked
    obtain ⟨⟨code,after⟩,ended,rfl⟩ := Option.map_eq_some_iff.mp changed
    obtain ⟨rows,same,more⟩ := attach_busids ended
    simp only
    split
    next succeeded =>
      refine ok.set found (reset _ _ rows) rfl ?_ ?_ fun other apart => ?_
      · simp [free,statusOf]
      · exact iff_of_true checked ((more succeeded _).mpr (Or.inl rfl))
      · exact (more succeeded other).trans (or_iff_right apart)
    next failed =>
      refine ok.set found (reset _ _ rows) rfl ?_ ?_ fun other _ => ?_
      · rw [told,free]
      · rw [show (after.setRow index _).busids = s.busids from same failed,← attached,free]
      · rw [show (after.setRow index _).busids = s.busids from same failed]
  next unchecked =>
    have taken : row.checked = true := by simpa using unchecked
    cases ended : (s.setRow index {row with checked := !row.checked}).clientGuiDetachDevice
      (text.guiWideToUtf8 row.busid) answer.unplug with
    | mk err after =>
      have still : (s.setRow index {row with checked := !row.checked}).Sound :=
        sound.clicked (.shown _ fun _ => Or.inr (found_ne_nil found))
      rcases detach_busids still ended with ⟨_,absent,_⟩ | ⟨rfl,rows,fewer⟩
      · exact absurd (attached.mp taken) absent
      · simp only [ended,if_true,Option.some.injEq] at changed
        subst changed
        refine ok.set found (reset _ _ rows) rfl ?_ ?_ fun other apart => ?_
        · simp [taken,statusOf]
        · refine iff_of_false unchecked fun left => ?_
          exact ((fewer _).mp left).1 rfl
        · exact (fewer other).trans (and_iff_right apart)

theorem Truthful.congr (ok : Truthful text s) (rows : next.rows = s.rows)
    (same : next.busids = s.busids) : Truthful text next := by
  obtain ⟨named,distinct,shows⟩ := ok
  rw [← rows] at named distinct shows
  rw [← same] at shows
  exact ⟨named,distinct,shows⟩

theorem connect_truthful (sound : s.Sound) (ok : Truthful text s) {server : Token}
    {probe refresh : ListAnswer} {unplugs : Nat → Bool} (readable : ReadableAnswer text refresh)
    (ended : s.onConnectClicked text server probe refresh unplugs = some next) :
    Truthful text next := by
  simp only [onConnectClicked] at ended
  split at ended
  next _ =>
    cases ended
    exact ⟨nofun,List.nodup_nil,nofun⟩
  next _ =>
    split at ended
    next _ =>
      cases ended
      exact ok
    next _ =>
      unfold clientGuiConnect at ended
      split at ended
      next => cases ended
      next =>
        refine populate_truthful ?_ readable ended
        exact sound.ready
      next =>
        cases ended
        exact ok.congr rfl rfl

theorem step_truthful (action : ClientGuiAction) (s next : ClientGui Wide)
    (readable : ReadableLists text action s) (ok : s.Sound ∧ Truthful text s)
    (stepped : step text action s = some next) : next.Sound ∧ Truthful text next := by
  obtain ⟨sound,ok⟩ := ok
  refine ⟨sound.clicked (step_clicked stepped),?_⟩
  cases action with
  | connectClicked server probe refresh unplugs => exact connect_truthful sound ok readable stepped
  | refreshClicked answer => exact populate_truthful sound.ready readable stepped
  | checkboxClicked index answer =>
    obtain ⟨row,found,changed⟩ := Option.bind_eq_some_iff.mp stepped
    exact checkbox_truthful sound ok found changed
  | attachSelected sel answer refresh =>
    simp only [step,clientGuiAttachSelected] at stepped
    split at stepped
    next _ =>
      cases stepped
      exact ok
    next row selected =>
      obtain ⟨index,_,found⟩ := Option.bind_eq_some_iff.mp selected
      have pressed := found_ne_nil found
      split at stepped
      next => cases stepped
      next after attached =>
        have ready := (sound.clicked (attach_clicked pressed attached after.rows)).ready
        exact populate_truthful ready readable stepped
      next code after failed attached =>
        cases stepped
        obtain ⟨rows,same,_⟩ := attach_busids attached
        exact ok.congr rows (same failed)
  | detachSelected sel unplug refresh =>
    simp only [step,clientGuiDetachSelected] at stepped
    split at stepped
    next _ =>
      cases stepped
      exact ok
    next row selected =>
      obtain ⟨index,_,found⟩ := Option.bind_eq_some_iff.mp selected
      have pressed := found_ne_nil found
      split at stepped
      next after detached =>
        have ready := (sound.clicked (detach_clicked pressed detached after.rows)).ready
        exact populate_truthful ready readable stepped
      next err after failed detached =>
        cases stepped
        rcases detach_busids sound detached with ⟨_,_,same⟩ | ⟨succeeded,_⟩
        · exact ok.congr (by rw [same]) (by rw [same])
        · exact absurd succeeded failed

theorem start_sound (opened : Bool) : (start opened : ClientGui Wide).Sound :=
  ⟨rfl,List.nodup_nil,List.nodup_nil,nofun,fun _ => ⟨rfl,rfl⟩⟩

theorem closeAsks_iff (kept : s.remote.Bookkept) : s.closeAsks = true ↔ s.remote.list.devices ≠ [] := by
  rw [closeAsks,decide_eq_true_eq,kept.counted,← List.length_pos_iff]
  exact Int.natCast_pos

theorem cleanup_empty (sound : s.Sound) (kept : s.remote.Bookkept) (unplugs listUnplugs : Nat → Bool)
    (ports : Fin vhciMaxPorts → Bool) :
    (s.clientGuiCleanup unplugs listUnplugs ports).list.devices = [] ∧
      ∀ i, (s.clientGuiCleanup unplugs listUnplugs ports).vhci.port i = .cleared i := by
  have disconnects (s : RemoteClient) (device : Option Nat) (unplug : Bool) (kept : s.Bookkept) :=
    kept.disconnect device unplug
  have ready := RemoteClient.disconnectAll_ready sound.ready unplugs
  have first := RemoteClient.disconnectAll_kept disconnects unplugs kept
  have last := RemoteClient.listCleanup_kept disconnects
    (fun s ok => ⟨ok.ready,ok.counted,ok.distinct,ok.attached,ok.unused,ok.numbered⟩) listUnplugs first
  have devices : ((s.remote.remoteDeviceDisconnectAll unplugs).remoteDeviceListCleanup
      listUnplugs).list.devices = [] := by
    rw [RemoteClient.remoteDeviceListCleanup,ready]
    exact RemoteClient.disconnectAll_empty ready listUnplugs
  unfold clientGuiCleanup
  generalize (s.remote.remoteDeviceDisconnectAll unplugs).remoteDeviceListCleanup listUnplugs = left
    at last devices
  have cleared (i : Fin vhciMaxPorts) : left.vhci.port i = .cleared i :=
    last.unused i (by simp [devices])
  have idle : vhciDetachAll left.vhci ports = (left.vhci,[]) := by
    rw [vhciDetachAll,last.ready]
    exact vhciDetachPorts_free (fun i => by rw [cleared]; rfl) ports _
  simp only [RemoteClient.cleanup,vhciCleanup,last.ready,idle]
  exact ⟨devices,cleared⟩

/-- Whatever is clicked: the window edits the attached devices through the
calls of `remote_device.c`, attaches no busid twice and only from the server it
names, asks before it closes exactly if a device is attached, and leaves
nothing behind in the driver. -/
theorem window_sound {opened : Bool} {actions : List ClientGuiAction}
    (run : Run (step text) (start opened) actions s) :
    (∃ calls, GuardedRun RemoteClient.step InUse (.start opened) calls s.remote) ∧ s.Sound ∧
    (s.closeAsks = true ↔ s.remote.list.devices ≠ []) ∧
    ∀ unplugs listUnplugs ports,
      (s.clientGuiCleanup unplugs listUnplugs ports).list.devices = [] ∧
      ∀ i, (s.clientGuiCleanup unplugs listUnplugs ports).vhci.port i = .cleared i := by
  obtain ⟨calls,edited⟩ := run_calls run
  have sound : s.Sound := run.invariant Sound
    (fun _ _ _ sound stepped => sound.clicked (step_clicked stepped)) (start_sound opened)
  have kept := RemoteClient.run_bookkept edited
  exact ⟨⟨calls,edited⟩,sound,closeAsks_iff kept,cleanup_empty sound kept⟩

/-- If each list names its devices apart and legibly, a row is checked and says
so exactly if its device is attached. -/
theorem window_truthful {opened : Bool} {actions : List ClientGuiAction}
    (run : GuardedRun (step text) (ReadableLists text) (start opened) actions s) :
    ∀ row ∈ s.rows, row.status = statusOf row.checked ∧
      (row.checked = true ↔ rowBusid text row ∈ s.busids) :=
  (run.invariant (fun s => s.Sound ∧ Truthful text s) step_truthful
    ⟨start_sound opened,truthful_blank (start opened)⟩).2.shows

def listedKeyboard : UsbipUsbDevice :=
  {usbDeviceToUsbip sharedKeyboard.device with bNumInterfaces := 0}

def keyboardListReply : Socket :=
  {carrying ((usbipPackHeaderBasic ⟨usbipProtoVersion,opRepDevlist,usbipStOk⟩).image ++
    (Bytes.image32 (htobe32 1) ++ ((usbipPackDevice listedKeyboard).image ++ []))) with ending := .closed}

def keyboardList : ListAnswer := ⟨fun _ => .zero,none,some keyboardListReply⟩

def plainText : WideText Token := ⟨id,fun text => .ofBuffer text.chars⟩

theorem tenTwo_noNul : (0 : UInt8) ∉ Text.ascii "10.0.0.2" := by decide

def tenTwo : Token := ⟨Text.ascii "10.0.0.2",tenTwo_noNul⟩

def connectTen : ClientGuiAction := .connectClicked tenTwo keyboardList keyboardList fun _ => true

def attachKeyboard : ClientGuiAction := .checkboxClicked 0 ⟨none,some 7,some keyboardReply,true,true⟩

theorem answer_records {answer : ListAnswer} {server : CString 63} {maxDevices : Int}
    {socket greeted rest : Socket} {err : ErrorCode} {records : List UsbipUsbDevice}
    (connected : answer.socket = some socket)
    (shaken : (answer.call server maxDevices).handshake socket = (.success,greeted))
    (received : UsbOverNetwork.remoteServerListDevices greeted maxDevices.toNat = some (err,records,rest)) :
    ∃ call, (answer.call server maxDevices).remoteServerListDevices = some (err,call) ∧
      call.records = records := by
  have exchanged := @ListCall.remoteServerListDevices_exchange (answer.call server maxDevices) _ _ _
    _ _ rfl rfl rfl connected shaken
  have same : (answer.call server maxDevices).maxDevices = maxDevices := rfl
  rw [same,received] at exchanged
  obtain ⟨stored,holds,returned⟩ := exchanged
  exact ⟨_,returned,holds.records⟩

theorem keyboardList_records (server : CString 63) (maxDevices : Nat) (room : 0 < maxDevices) :
    ∃ call, (keyboardList.call server maxDevices).remoteServerListDevices = some (.success,call) ∧
      call.records = [listedKeyboard] := by
  obtain ⟨⟨err,records,rest⟩,received⟩ :=
    listDevices_returns (show keyboardListReply.ending ≠ .silent from nofun) maxDevices
  have delivers : keyboardListReply.Delivers := fun _ member => absurd member List.not_mem_nil
  obtain ⟨asked,sent,_⟩ := sendExact_delivers keyboardListReply
    (usbipPackHeaderBasic usbipCreateDevlistRequest).image delivers
  have stream : keyboardListReply.stream =
      (usbipPackHeaderBasic ⟨usbipProtoVersion,opRepDevlist,usbipStOk⟩).image ++
        (Bytes.image32 (htobe32 1) ++ ((usbipPackDevice listedKeyboard).image ++ [])) :=
    carrying_stream _
  have sent : (sendExact keyboardListReply
      (usbipPackHeaderBasic usbipCreateDevlistRequest).image).1 = .success := by rw [sent]
  obtain ⟨rfl,walked⟩ := listDevices_walk sent rfl stream received
  have one : min (1 : UInt32).toNat maxDevices = 0+1 := by
    rw [show (1 : UInt32).toNat = 1 from rfl]
    omega
  rw [one,walkRecords_packed] at walked
  have capacity : ((maxDevices : Int).toNat : Nat) = maxDevices := Int.toNat_natCast _
  rw [← capacity] at received
  rw [← show records = [listedKeyboard] from walked]
  exact @answer_records keyboardList _ _ _ _ _ _ _ rfl rfl received

theorem oneOne_fits : (Text.ascii "1-1").length ≤ 31 := by decide

theorem oneOne_noNul : (0 : UInt8) ∉ Text.ascii "1-1" := by decide

def oneOne : Busid := ⟨Text.ascii "1-1",oneOne_fits,oneOne_noNul⟩

theorem listedKeyboard_text : listedKeyboard.busidText = .ofCString oneOne :=
  Token.ext (CString.takeWhile_buffer oneOne)

theorem keyboardList_readable : ReadableAnswer plainText keyboardList := by
  intro server call listed
  obtain ⟨other,returned,records⟩ := keyboardList_records server maxDevices (by decide)
  rw [returned] at listed
  cases listed
  rw [records]
  have same : CString.ofBuffer (Token.ofCString oneOne).chars = oneOne := ofBuffer_ofCString oneOne
  refine ⟨?_,?_,List.nodup_singleton _⟩
  · simp [plainText,listedKeyboard_text,same]
  · simp [listedKeyboard_text,Token.ofCString,oneOne,Text.ascii]

theorem oneOne_absent :
    (RemoteClient.start true).remoteDeviceFindByBusid (.ofCString oneOne) = none := rfl

theorem start_connects {server : Token} {probe refresh : ListAnswer} {unplugs : Nat → Bool}
    {opened : Bool} {probed listed : ListCall} (named : (CString.ofBuffer server.chars : CString 63) ≠ .empty)
    (first : (probe.call (.ofBuffer server.chars) 1).remoteServerListDevices = some (.success,probed))
    (second : (refresh.call (.ofBuffer server.chars) maxDevices).remoteServerListDevices =
      some (.success,listed)) :
    step text (.connectClicked server probe refresh unplugs) (start opened) =
      some ⟨.start opened,.ofBuffer server.chars,true,
        listed.records.map ((start opened : ClientGui Wide).rowOf text)⟩ := by
  simp only [step,onConnectClicked,start,named,if_false,clientGuiSetServer,clientGuiConnect,first,
    populateDeviceList,second,Bool.not_true,Bool.false_eq_true]
  rfl

theorem connectTen_lists : step plainText connectTen (start true) =
    some ⟨.start true,.ofBuffer tenTwo.chars,true,[⟨.ofCString oneOne,.available,false⟩]⟩ := by
  obtain ⟨probed,first,_⟩ := keyboardList_records (.ofBuffer tenTwo.chars) 1 (by decide)
  obtain ⟨listed,second,records⟩ := keyboardList_records (.ofBuffer tenTwo.chars)
    maxDevices (by decide)
  rw [Nat.cast_one] at first
  have named : (CString.ofBuffer tenTwo.chars : CString 63) ≠ .empty := by decide
  rw [connectTen,start_connects named first second,
    records,List.map_singleton,rowOf,listedKeyboard_text]
  rfl

theorem attachKeyboard_attaches : ∃ s,
    Run (step plainText) (start true) [connectTen,attachKeyboard] s ∧ s.rows.length = 1 ∧
    s.busids.map CString.chars = [Text.ascii "1-1"] := by
  obtain ⟨remote,device,taken,listed,_⟩ := RemoteClient.keyboard_attached
  rw [RemoteClient.step] at taken
  obtain ⟨⟨err,remote⟩,ended,rfl⟩ := Option.map_eq_some_iff.mp taken
  obtain ⟨made,named,_,_,lists⟩ :=
    @RemoteClient.connect_lists _ _ _ (keyboardCall 7 true) _ _ rfl rfl ended
  have succeeded : err = .success := by
    by_contra failed
    rw [lists.failed failed] at listed
    cases listed
  subst succeeded
  obtain ⟨added,list,_,called,_⟩ := lists
  have calls : AttachAnswer.call ⟨none,some 7,some keyboardReply,true,true⟩
      (.ofBuffer tenTwo.chars) oneOne = keyboardCall 7 true := rfl
  have clicked : step plainText attachKeyboard ⟨.start true,.ofBuffer tenTwo.chars,true,
      [⟨.ofCString oneOne,.available,false⟩]⟩ =
      some ⟨remote,.ofBuffer tenTwo.chars,true,
        [⟨.ofCString oneOne,.attached,true⟩]⟩ := by
    have some : oneOne ≠ .empty := by decide
    simp only [step,attachKeyboard,setRow,List.getElem?_cons_zero,Option.bind_some,List.set_cons_zero,
      onDeviceCheckboxChanged,plainText,ofBuffer_ofCString,some,if_false,Bool.not_false,if_true,
      clientGuiAttachDevice,oneOne_absent,calls,ended,Option.map_some]
  refine ⟨_,.cons _ _ _ _ _ connectTen_lists (.single _ clicked),rfl,?_⟩
  have devices : remote.list.devices = [added] := congrArg RemoteDeviceList.devices list
  simp only [busids,devices,List.map_cons,List.map_nil,called,named]
  rfl

theorem window_sound_keyboard : ∃ s : ClientGui Token,
    s.busids.map CString.chars = [Text.ascii "1-1"] ∧ s.Sound ∧ s.closeAsks = true := by
  obtain ⟨s,run,_,attached⟩ := attachKeyboard_attaches
  obtain ⟨_,sound,asks,_⟩ := window_sound run
  refine ⟨s,attached,sound,asks.mpr fun none => ?_⟩
  simp [busids,none,Text.ascii] at attached

theorem window_truthful_keyboard : ∃ s : ClientGui Token,
    s.busids.map CString.chars = [Text.ascii "1-1"] ∧ s.rows.length = 1 ∧
    ∀ row ∈ s.rows, row.status = statusOf row.checked ∧
      (row.checked = true ↔ rowBusid plainText row ∈ s.busids) := by
  obtain ⟨s,run,rows,attached⟩ := attachKeyboard_attaches
  have readable : ∀ action ∈ [connectTen,attachKeyboard], ∀ state,
      ReadableLists plainText action state := by
    intro action member state
    rcases List.mem_pair.mp member with rfl | rfl
    · exact keyboardList_readable
    · trivial
  exact ⟨s,attached,rows,window_truthful (run.guarded readable)⟩

end ClientGui

end UsbOverNetwork
