import UsbOverNetwork.Library.Text
import UsbOverNetwork.Library.Keyed
import UsbOverNetwork.Client.RemoteDevice
import UsbOverNetwork.Client.Vhci

/-! The devices a client has attached: a hand-linked list beside the ports of
the virtual host controller, edited by one call after the other. -/
namespace UsbOverNetwork
open Runs Text

inductive RemoteDeviceState
  | disconnected
  | connecting
  | connected
  | active
  | error
deriving DecidableEq, Repr

def UsbipUsbDevice.zero : UsbipUsbDevice :=
  ⟨Vector.replicate 256 0,Vector.replicate 32 0,0,0,0,0,0,0,0,0,0,0,0,0⟩

/-- `vhci` tells whether the caller passed its context. -/
structure RemoteDevice where
  address : Nat
  serverIp : CString 63
  serverPort : UInt16
  socket : Option Nat
  deviceInfo : UsbipUsbDevice
  busid : Busid
  vhci : Bool
  vhciPort : Int
  state : RemoteDeviceState
deriving DecidableEq

structure RemoteDeviceList where
  devices : List RemoteDevice
  count : Int
  initialized : Bool
deriving DecidableEq

/-- `connections` counts the sockets connected so far, and the log is newest first. -/
structure RemoteClient where
  list : RemoteDeviceList
  vhci : VhciContext
  connections : Nat
  log : List ClientEvent

/-- What a call of `remote_device_connect` is given and what its environment
answers: the allocator, the connection attempt and the driver. -/
structure ConnectCall where
  vhci : Bool
  serverIp : Option Token
  serverPort : UInt16
  busid : Option Token
  token : Option Token
  alloc : Option Nat
  socket : Option Socket
  plug : Bool
  unplug : Bool

def createRemoteDevice (address : Nat) : RemoteDevice :=
  ⟨address,.empty,0,none,.zero,.empty,false,-1,.disconnected⟩

def remoteDeviceListInit (mutex : Bool) : ErrorCode × RemoteDeviceList :=
  if !mutex then (.mutexInit,⟨[],0,false⟩) else (.success,⟨[],0,true⟩)

def socketClose (socket : Nat) : List ClientEvent := [.close socket,.shutdown socket]

def ConnectCall.handshake (call : ConnectCall) (socket : Socket) : ErrorCode × Socket :=
  if authIsEnabled call.token then authClientHandshake socket call.token else (.success,socket)

namespace RemoteClient

/-- The state after `vhci_init` and `remote_device_list_init`. -/
def start (opened : Bool) : RemoteClient :=
  ⟨(remoteDeviceListInit true).2,(vhciInit true opened).2,0,[]⟩

def record (s : RemoteClient) (events : List ClientEvent) : RemoteClient :=
  {s with log := events ++ s.log}

/-- No device has a forwarding thread to stop. -/
def freeRemoteDevice (s : RemoteClient) (device : RemoteDevice) (unplug : Bool) : RemoteClient :=
  let s := s.record (device.socket.elim [] socketClose)
  if device.vhci ∧ 0 ≤ device.vhciPort then
    let (_,vhci,events) := vhciDetach s.vhci device.vhciPort unplug
    {s with vhci}.record events
  else s

def addRemoteDevice (s : RemoteClient) (device : RemoteDevice) : RemoteClient :=
  {s with list := {s.list with
    devices := {device with state := .connected}::s.list.devices
    count := s.list.count+1}}

/-- `remote_device_connect` from its search for a port on. -/
def attachDevice (s : RemoteClient) (device : RemoteDevice) (call : ConnectCall) (socket : Nat)
    (serverIp : Token) : ErrorCode × RemoteClient :=
  let device := {device with vhciPort := vhciFindFreePort s.vhci}
  if device.vhciPort < 0 then (.vhciNoFreePort,s.freeRemoteDevice device call.unplug)
  else
    let (err,vhci,events) := vhciAttach s.vhci device.vhciPort socket device.deviceInfo serverIp
      call.serverPort call.plug
    let s := {s with vhci}.record events
    if err ≠ .success then (err,s.freeRemoteDevice device call.unplug)
    else (.success,s.addRemoteDevice device)

/-- `remote_device_connect` once the socket is connected. After a failed
handshake the socket is closed twice. -/
def importDevice (s : RemoteClient) (device : RemoteDevice) (call : ConnectCall) (socket : Socket)
    (serverIp busid : Token) : Option (ErrorCode × RemoteClient) :=
  let connection := s.connections
  let device := {device with socket := some connection}
  let s := {s with connections := connection+1}
  let (authErr,socket) := call.handshake socket
  let s := s.record (if authIsEnabled call.token then [.traffic connection] else [])
  if authErr ≠ .success then
    some (authErr,(s.record (socketClose connection)).freeRemoteDevice device call.unplug)
  else
    let s := s.record [.traffic connection]
    match UsbOverNetwork.remoteDeviceConnect socket busid.chars with
    | none => none
    | some (.error err,_) => some (err,s.freeRemoteDevice device call.unplug)
    | some (.ok info,_) =>
      let device := {device with deviceInfo := info}
      if call.vhci then some (s.attachDevice device call connection serverIp)
      else some (.success,s.addRemoteDevice device)

/-- `remote_device_connect`: a server that stays silent keeps the call from
returning, and the allocator does not hand out memory that is in use. -/
def remoteDeviceConnect (s : RemoteClient) (call : ConnectCall) : Option (ErrorCode × RemoteClient) :=
  match call.serverIp,call.busid with
  | some serverIp,some busid =>
    match call.alloc with
    | none => some (.outOfMemory,s)
    | some address =>
      if address ∈ s.list.devices.map RemoteDevice.address then none
      else
        let device := {createRemoteDevice address with
          serverIp := .ofBuffer serverIp.chars
          serverPort := call.serverPort
          busid := .ofBuffer busid.chars
          vhci := call.vhci
          state := .connecting}
        match call.socket with
        | none => some (.socketConnect,s.freeRemoteDevice device call.unplug)
        | some socket => s.importDevice device call socket serverIp busid
  | _,_ => some (.invalidParam,s)

def unlink (s : RemoteClient) (devices : List RemoteDevice) : RemoteClient :=
  {s with list := {s.list with devices, count := s.list.count-1}}

def remoteDeviceDisconnect (s : RemoteClient) (device : Option Nat) (unplug : Bool) :
    ErrorCode × RemoteClient :=
  match device with
  | none => (.invalidParam,s)
  | some address =>
    match Keyed.find RemoteDevice.address address s.list.devices,
      Keyed.remove RemoteDevice.address address s.list.devices with
    | some device,some devices =>
      (.success,(s.unlink devices).freeRemoteDevice device unplug)
    | _,_ => (.notFound,s)

/-- The device that `remote_device_disconnect` would free for this pointer. -/
def disconnecting (s : RemoteClient) (device : Option Nat) : Option RemoteDevice :=
  device.bind fun address => Keyed.find RemoteDevice.address address s.list.devices

def remoteDeviceFindByPort (s : RemoteClient) (port : Int) : Option RemoteDevice :=
  if !s.list.initialized then none else Keyed.find RemoteDevice.vhciPort port s.list.devices

/-- `strcmp` against the names of the devices. -/
def remoteDeviceFindByBusid (s : RemoteClient) (busid : Token) : Option RemoteDevice :=
  if !s.list.initialized then none
  else s.list.devices.find? fun device => device.busid.chars = busid.chars

def remoteDeviceDisconnectPort (s : RemoteClient) (port : Int) (unplug : Bool) :
    ErrorCode × RemoteClient :=
  match s.remoteDeviceFindByPort port with
  | none => (.notFound,s)
  | some device => s.remoteDeviceDisconnect (some device.address) unplug

/-- The loop of `remote_device_disconnect_all`, for at most this many turns. -/
def disconnectLoop (unplugs : Nat → Bool) : Nat → RemoteClient → RemoteClient
  | 0,s => s
  | turn+1,s =>
    match s.list.devices with
    | [] => s
    | device::_ =>
      disconnectLoop unplugs turn (s.remoteDeviceDisconnect (some device.address) (unplugs turn)).2

def remoteDeviceDisconnectAll (s : RemoteClient) (unplugs : Nat → Bool) : RemoteClient :=
  if !s.list.initialized then s else disconnectLoop unplugs s.list.devices.length s

def remoteDeviceListCleanup (s : RemoteClient) (unplugs : Nat → Bool) : RemoteClient :=
  if !s.list.initialized then s
  else
    let s := s.remoteDeviceDisconnectAll unplugs
    {s with list := {s.list with initialized := false}}

def cleanup (s : RemoteClient) (unplugs : Fin vhciMaxPorts → Bool) : RemoteClient :=
  let (vhci,events) := vhciCleanup s.vhci unplugs
  {s with vhci}.record events

end RemoteClient

inductive ClientCall
  | connect (call : ConnectCall)
  | disconnect (device : Option Nat) (unplug : Bool)
  | disconnectPort (port : Int) (unplug : Bool)
  | disconnectAll (unplugs : Nat → Bool)
  | listCleanup (unplugs : Nat → Bool)
  | vhciCleanup (unplugs : Fin vhciMaxPorts → Bool)

namespace RemoteClient

def step : ClientCall → RemoteClient → Option RemoteClient
  | .connect call,s => (s.remoteDeviceConnect call).map Prod.snd
  | .disconnect device unplug,s => some (s.remoteDeviceDisconnect device unplug).2
  | .disconnectPort port unplug,s => some (s.remoteDeviceDisconnectPort port unplug).2
  | .disconnectAll unplugs,s => some (s.remoteDeviceDisconnectAll unplugs)
  | .listCleanup unplugs,s => some (s.remoteDeviceListCleanup unplugs)
  | .vhciCleanup unplugs,s => some (s.cleanup unplugs)

variable {s : RemoteClient} {device : RemoteDevice} {call : ConnectCall}

theorem free_list (s : RemoteClient) (device : RemoteDevice) (unplug : Bool) :
    (s.freeRemoteDevice device unplug).list = s.list := by
  unfold freeRemoteDevice
  split <;> rfl

theorem free_connections (s : RemoteClient) (device : RemoteDevice) (unplug : Bool) :
    (s.freeRemoteDevice device unplug).connections = s.connections := by
  unfold freeRemoteDevice
  split <;> rfl

theorem free_unported (unported : device.vhci = true → device.vhciPort < 0) (unplug : Bool) :
    s.freeRemoteDevice device unplug = s.record (device.socket.elim [] socketClose) := by
  unfold freeRemoteDevice
  rw [if_neg fun both => absurd both.2 (Int.not_le.mpr (unported both.1))]

theorem free_ported (asked : device.vhci = true) {i : Fin vhciMaxPorts}
    (ported : device.vhciPort = i.val) (unplug : Bool) :
    s.freeRemoteDevice device unplug =
      {s with
        vhci := (vhciDetach s.vhci i.val unplug).2.1
        log := (vhciDetach s.vhci i.val unplug).2.2 ++ (device.socket.elim [] socketClose ++ s.log)} := by
  unfold freeRemoteDevice
  rw [if_pos ⟨asked,by omega⟩,ported]
  rfl

end RemoteClient

/-- The device record that the server's reply brings, if the call gets that far. -/
def ConnectCall.info (call : ConnectCall) : Option UsbipUsbDevice :=
  match call.serverIp,call.busid,call.alloc,call.socket with
  | some _,some busid,some _,some socket =>
    match call.handshake socket with
    | (.success,socket) =>
      match remoteDeviceConnect socket busid.chars with
      | some (.ok info,_) => some info
      | _ => none
    | _ => none
  | _,_,_,_ => none

/-- A device whose record has arrived, on a socket of its own. -/
structure RemoteDevice.Imported (device : RemoteDevice) (s : RemoteClient) (call : ConnectCall)
    (info : UsbipUsbDevice) : Prop where
  address : call.alloc = some device.address
  fresh : device.address ∉ s.list.devices.map RemoteDevice.address
  socket : device.socket = some s.connections
  deviceInfo : device.deviceInfo = info
  vhci : device.vhci = call.vhci
  unported : device.vhciPort = -1

inductive AttachEnd (s : RemoteClient) (device : RemoteDevice) (call : ConnectCall) (socket : Nat)
    (serverIp : Token) : ErrorCode → RemoteClient → Prop
  | noPort (none : vhciFindFreePort s.vhci = -1) :
      AttachEnd s device call socket serverIp .vhciNoFreePort (s.record (socketClose socket))
  | noDriver (i : Fin vhciMaxPorts) (found : vhciFindFreePort s.vhci = i.val)
      (ready : s.vhci.initialized = true) (free : (s.vhci.port i).state = .free)
      (driver : s.vhci.driver = false) :
      AttachEnd s device call socket serverIp .vhciNotFound
        ({s with vhci := s.vhci.setPort i (s.vhci.port i).release}.record (socketClose socket))
  | refused (i : Fin vhciMaxPorts) (found : vhciFindFreePort s.vhci = i.val)
      (ready : s.vhci.initialized = true) (free : (s.vhci.port i).state = .free)
      (driver : s.vhci.driver = true) (devid : UInt32) (plug : call.plug = false) :
      AttachEnd s device call socket serverIp .vhciAttachFailed
        ({s with vhci := s.vhci.setPort i (s.vhci.port i).release}.record
          (ClientEvent.unplug i call.unplug::(socketClose socket ++
            [ClientEvent.plugin i socket devid false])))
  | attached (i : Fin vhciMaxPorts) (found : vhciFindFreePort s.vhci = i.val)
      (ready : s.vhci.initialized = true) (free : (s.vhci.port i).state = .free)
      (driver : s.vhci.driver = true) (devid : UInt32) (plug : call.plug = true)
      (info : VhciPortInfo) (claimed : info =
        {(s.vhci.port i).claim device.deviceInfo serverIp call.serverPort with state := .connected}) :
      AttachEnd s device call socket serverIp .success
        (({s with vhci := s.vhci.setPort i info}.record
          [ClientEvent.plugin i socket devid true]).addRemoteDevice {device with vhciPort := i.val})

inductive ConnectEnd (s : RemoteClient) (call : ConnectCall) : ErrorCode → RemoteClient → Prop
  | failed (err : ErrorCode) (net : List ClientEvent) (connections : Nat) (fails : err ≠ .success)
      (unmet : call.info = none)
      (own : ∀ event ∈ net, event.touched = some s.connections)
      (dialled : s.connections ≤ connections) :
      ConnectEnd s call err ({s with connections}.record net)
  | listed (info : UsbipUsbDevice) (net : List ClientEvent) (device : RemoteDevice)
      (met : call.info = some info) (plain : call.vhci = false)
      (own : ∀ event ∈ net, event.touched = some s.connections)
      (imported : device.Imported s call info) :
      ConnectEnd s call .success
        (({s with connections := s.connections+1}.record net).addRemoteDevice device)
  | asked (info : UsbipUsbDevice) (net : List ClientEvent) (device : RemoteDevice)
      (serverIp : Token) (err : ErrorCode) (next : RemoteClient)
      (met : call.info = some info) (asks : call.vhci = true)
      (own : ∀ event ∈ net, event.touched = some s.connections)
      (imported : device.Imported s call info)
      (attach : AttachEnd ({s with connections := s.connections+1}.record net) device call
        s.connections serverIp err next) :
      ConnectEnd s call err next

namespace RemoteClient

variable {s : RemoteClient} {device : RemoteDevice} {call : ConnectCall}

theorem free_claimed (device : RemoteDevice) (info : VhciPortInfo) (events : List ClientEvent)
    {vhci : VhciContext} {i : Fin vhciMaxPorts} (ready : vhci.initialized = true)
    (released : info.release = (vhci.port i).release) (taken : info.state ≠ .free)
    (asks : device.vhci = true) (ported : device.vhciPort = i.val) {socket : Nat}
    (dialled : device.socket = some socket) (unplug : Bool) :
    ({s with vhci := vhci.setPort i info}.record events).freeRemoteDevice device unplug =
      {s with vhci := vhci.setPort i (vhci.port i).release}.record
        ((if vhci.driver then [ClientEvent.unplug i unplug] else []) ++ (socketClose socket ++ events)) := by
  rw [free_ported asks ported]
  have occupied : ((vhci.setPort i info).port i).state ≠ .free := by
    rwa [VhciContext.port_setPort_same]
  have detached := vhciDetach_taken (i := i) (show (vhci.setPort i info).initialized from ready)
    occupied unplug
  simp only [record,detached,dialled,Option.elim_some,VhciContext.port_setPort_same,released,
    VhciContext.setPort_setPort,VhciContext.setPort_driver,List.append_assoc]
  rfl

theorem attachDevice_cases {socket : Nat} {serverIp : Token} {err : ErrorCode} {next : RemoteClient}
    (asks : device.vhci = true) (dialled : device.socket = some socket)
    (ended : s.attachDevice device call socket serverIp = (err,next)) :
    AttachEnd s device call socket serverIp err next := by
  obtain ⟨rfl,rfl⟩ : (s.attachDevice device call socket serverIp).1 = err ∧
      (s.attachDevice device call socket serverIp).2 = next := Prod.mk.inj ended
  clear ended
  unfold attachDevice
  rcases vhciFindFreePort_cases s.vhci with none | ⟨i,found,ready,free⟩
  · have closed : s.freeRemoteDevice {device with vhciPort := -1} call.unplug =
        s.record (device.socket.elim [] socketClose) :=
      free_unported (fun _ => (by decide : (-1 : Int) < 0)) call.unplug
    simp only [none,Int.reduceNeg,Int.reduceLT,if_true]
    rw [closed,dialled]
    exact .noPort none
  · have inRange : ¬(i.val : Int) < 0 := by omega
    have freed (events : List ClientEvent) := free_claimed (s := s) {device with vhciPort := i.val}
      {(s.vhci.port i).claim device.deviceInfo serverIp call.serverPort with state := .error}
      events ready rfl (by simp) asks rfl dialled call.unplug
    simp only [found,inRange,if_false,vhciAttach_free ready free]
    cases driver : s.vhci.driver with
    | false =>
      simp only [Bool.not_false,if_true,reduceCtorEq,ne_eq,not_false_eq_true]
      rw [freed,driver]
      exact .noDriver i found ready free driver
    | true =>
      cases plug : call.plug with
      | false =>
        simp only [Bool.not_true,Bool.not_false,Bool.false_eq_true,if_true,if_false,reduceCtorEq,
          ne_eq,not_false_eq_true]
        rw [freed,driver]
        exact .refused i found ready free driver _ plug
      | true =>
        simp only [Bool.not_true,Bool.false_eq_true,if_false,ne_eq,not_true_eq_false]
        exact .attached i found ready free driver _ plug _ rfl

theorem socketClose_own (socket : Nat) : ∀ event ∈ socketClose socket, event.touched = some socket := by
  simp [socketClose,ClientEvent.touched]

theorem own_append {first second : List ClientEvent} {socket : Nat}
    (new : ∀ event ∈ first, event.touched = some socket)
    (old : ∀ event ∈ second, event.touched = some socket) :
    ∀ event ∈ first ++ second, event.touched = some socket := by
  intro event member
  rcases List.mem_append.mp member with inside | inside
  · exact new event inside
  · exact old event inside

theorem record_record (first second : List ClientEvent) :
    (s.record first).record second = s.record (second ++ first) := by
  simp only [record,List.append_assoc]

theorem exchange_fails {socket next : Socket} {busid : List UInt8} {err : ErrorCode}
    (failed : UsbOverNetwork.remoteDeviceConnect socket busid = some (.error err,next)) :
    err ≠ .success := by
  intro succeeded
  subst succeeded
  simp only [UsbOverNetwork.remoteDeviceConnect] at failed
  split at failed
  next =>
    split at failed
    next =>
      split at failed
      next => cases failed
      next => cases failed
      next =>
        split at failed
        next =>
          simp only [Option.some.injEq,Prod.mk.injEq,Except.error.injEq] at failed
          split at failed <;> cases failed.1
        next =>
          split at failed <;> cases failed
    next => cases failed
  next => cases failed

theorem importDevice_cases {socket : Socket} {serverIp busid : Token} {err : ErrorCode}
    {next : RemoteClient}
    (names : call.serverIp = some serverIp ∧ call.busid = some busid)
    (allocated : call.alloc = some device.address) (opened : call.socket = some socket)
    (fresh : device.address ∉ s.list.devices.map RemoteDevice.address)
    (vhci : device.vhci = call.vhci) (unported : device.vhciPort = -1)
    (ended : s.importDevice device call socket serverIp busid = some (err,next)) :
    ConnectEnd s call err next := by
  have freed (s : RemoteClient) (connection : Nat) :
      s.freeRemoteDevice {device with socket := some connection} call.unplug =
        s.record (socketClose connection) :=
    free_unported (fun _ => by rw [unported]; decide) call.unplug
  have greeted : ∀ event ∈ (if authIsEnabled call.token then [ClientEvent.traffic s.connections]
      else []), event.touched = some s.connections := by
    split <;> simp [ClientEvent.touched]
  have sent : ∀ event ∈ [ClientEvent.traffic s.connections], event.touched = some s.connections := by
    simp [ClientEvent.touched]
  have talked := own_append sent greeted
  have info : call.info = match call.handshake socket with
      | (.success,socket) =>
        match UsbOverNetwork.remoteDeviceConnect socket busid.chars with
        | some (.ok info,_) => some info
        | _ => none
      | _ => none := by
    simp only [ConnectCall.info,names.1,names.2,allocated,opened]
  unfold importDevice at ended
  cases shaken : call.handshake socket with
  | mk authErr socket =>
    simp only [shaken] at ended info
    split at ended
    next refused =>
      simp only [freed,record_record,Option.some.injEq,Prod.mk.injEq] at ended
      obtain ⟨rfl,rfl⟩ := ended
      refine .failed authErr _ _ refused ?_ (own_append (socketClose_own _)
        (own_append (socketClose_own _) greeted)) (Nat.le_succ _)
      rw [info]
      cases authErr <;> first | rfl | exact absurd rfl refused
    next accepted =>
      rw [not_ne_iff.mp accepted] at info
      cases exchanged : UsbOverNetwork.remoteDeviceConnect socket busid.chars with
      | none => simp [exchanged] at ended
      | some outcome =>
        obtain ⟨result,rest⟩ := outcome
        cases result with
        | error failure =>
          simp only [exchanged,freed,record_record,Option.some.injEq,Prod.mk.injEq] at ended info
          obtain ⟨rfl,rfl⟩ := ended
          exact .failed failure _ _ (exchange_fails exchanged) info
            (own_append (socketClose_own _) talked) (Nat.le_succ _)
        | ok record =>
          simp only [exchanged,record_record] at ended info
          have imported : RemoteDevice.Imported
              {device with socket := some s.connections, deviceInfo := record} s call record :=
            ⟨allocated,fresh,rfl,rfl,vhci,unported⟩
          split at ended
          next asks =>
            exact .asked record _ _ serverIp _ _ info asks talked imported
              (attachDevice_cases (vhci.trans asks) rfl (Option.some.inj ended))
          next plain =>
            cases Option.some.inj ended
            exact .listed record _ _ info (Bool.eq_false_iff.mpr plain) talked imported

theorem connect_cases {err : ErrorCode} {next : RemoteClient}
    (ended : s.remoteDeviceConnect call = some (err,next)) : ConnectEnd s call err next := by
  have nothing {err : ErrorCode} (fails : err ≠ .success) (unmet : call.info = none) :
      ConnectEnd s call err s :=
    .failed err [] s.connections fails unmet (by simp) le_rfl
  unfold RemoteClient.remoteDeviceConnect at ended
  split at ended
  next serverIp busid ip name =>
    split at ended
    next missing =>
      cases Option.some.inj ended
      exact nothing (by decide) (by simp [ConnectCall.info,ip,name,missing])
    next address allocated =>
      split at ended
      next => cases ended
      next fresh =>
        split at ended
        next missing =>
          cases Option.some.inj ended
          rw [free_unported fun _ => (by decide : (-1 : Int) < 0)]
          exact nothing (by decide) (by simp [ConnectCall.info,ip,name,allocated,missing])
        next socket opened =>
          exact importDevice_cases ⟨ip,name⟩ allocated opened fresh rfl rfl ended
  next missing =>
    cases Option.some.inj ended
    refine nothing (by decide) ?_
    unfold ConnectCall.info
    split
    next ip name _ _ => exact absurd name (missing _ _ ip)
    next => rfl

theorem info_met (call : ConnectCall) {serverIp busid : Token} {address : Nat} {socket greeted rest : Socket}
    {info : UsbipUsbDevice} (ip : call.serverIp = some serverIp) (name : call.busid = some busid)
    (allocated : call.alloc = some address) (opened : call.socket = some socket)
    (shaken : call.handshake socket = (.success,greeted))
    (exchanged : UsbOverNetwork.remoteDeviceConnect greeted busid.chars = some (.ok info,rest)) :
    call.info = some info := by
  simp only [ConnectCall.info,ip,name,allocated,opened,shaken,exchanged]

theorem connect_returns (met : call.info ≠ none) (fresh : ∀ address, call.alloc = some address →
      address ∉ s.list.devices.map RemoteDevice.address) :
    ∃ err next, s.remoteDeviceConnect call = some (err,next) := by
  unfold ConnectCall.info at met
  split at met
  next serverIp busid address socket ip name allocated opened =>
    simp only [remoteDeviceConnect,ip,name,allocated,opened,fresh address allocated,if_false,
      importDevice]
    cases shaken : call.handshake socket with
    | mk authErr socket =>
      by_cases accepted : authErr = .success
      · subst accepted
        simp only [shaken] at met
        split at met
        next info rest exchanged =>
          simp only [exchanged,ne_eq,not_true_eq_false,if_false]
          split
          · exact ⟨_,_,rfl⟩
          · exact ⟨_,_,rfl⟩
        next => exact absurd rfl met
      · simp only [ne_eq,accepted,not_false_eq_true,if_true]
        exact ⟨_,_,rfl⟩
  next => exact absurd rfl met

theorem disconnect_cases (s : RemoteClient) (device : Option Nat) (unplug : Bool) :
    (s.disconnecting device = none ∧ (s.remoteDeviceDisconnect device unplug).2 = s) ∨
      ∃ before found after, s.list.devices = before ++ found::after ∧
        s.disconnecting device = some found ∧
        (s.remoteDeviceDisconnect device unplug).2 =
          (s.unlink (before ++ after)).freeRemoteDevice found unplug := by
  cases device with
  | none => exact Or.inl ⟨rfl,rfl⟩
  | some address =>
    cases removed : Keyed.remove RemoteDevice.address address s.list.devices with
    | none =>
      have absent := (Keyed.find_none _).mpr ((Keyed.remove_none _).mp removed)
      exact Or.inl ⟨absent,by simp only [remoteDeviceDisconnect,removed,absent]⟩
    | some left =>
      obtain ⟨before,found,after,split,searched,rfl⟩ := Keyed.remove_some _ removed
      refine Or.inr ⟨before,found,after,split,searched,?_⟩
      simp only [remoteDeviceDisconnect,removed,searched]

theorem disconnect_head {device : RemoteDevice} {rest : List RemoteDevice}
    (listed : s.list.devices = device::rest) (unplug : Bool) :
    (s.remoteDeviceDisconnect (some device.address) unplug).2 =
      (s.unlink rest).freeRemoteDevice device unplug := by
  simp [remoteDeviceDisconnect,listed,Keyed.find,Keyed.remove]

theorem disconnectLoop_empty (unplugs : Nat → Bool) (turns : Nat)
    (enough : s.list.devices.length ≤ turns) :
    (disconnectLoop unplugs turns s).list.devices = [] := by
  induction turns generalizing s with
  | zero => exact List.length_eq_zero_iff.mp (Nat.le_zero.mp enough)
  | succ turn ih =>
    unfold disconnectLoop
    split
    next none => exact none
    next device rest listed =>
      apply ih
      rw [disconnect_head listed,free_list]
      rw [listed] at enough
      exact Nat.le_of_succ_le_succ enough

theorem disconnectAll_empty (ready : s.list.initialized = true) (unplugs : Nat → Bool) :
    (s.remoteDeviceDisconnectAll unplugs).list.devices = [] := by
  rw [remoteDeviceDisconnectAll,ready]
  exact disconnectLoop_empty unplugs _ le_rfl

section Kept

variable {holds : RemoteClient → Prop}
  (kept : ∀ s device unplug, holds s → holds (s.remoteDeviceDisconnect device unplug).2)
include kept

theorem disconnectPort_kept (port : Int) (unplug : Bool) (ok : holds s) :
    holds (s.remoteDeviceDisconnectPort port unplug).2 := by
  unfold remoteDeviceDisconnectPort
  split
  · exact ok
  · exact kept _ _ _ ok

theorem disconnectLoop_kept (unplugs : Nat → Bool) (turns : Nat) (ok : holds s) :
    holds (disconnectLoop unplugs turns s) := by
  induction turns generalizing s with
  | zero => exact ok
  | succ turn ih =>
    unfold disconnectLoop
    split
    · exact ok
    · exact ih (kept _ _ _ ok)

theorem disconnectAll_kept (unplugs : Nat → Bool) (ok : holds s) :
    holds (s.remoteDeviceDisconnectAll unplugs) := by
  unfold remoteDeviceDisconnectAll
  split
  · exact ok
  · exact disconnectLoop_kept kept unplugs _ ok

theorem listCleanup_kept (closed : ∀ s, holds s →
    holds {s with list := {s.list with initialized := false}}) (unplugs : Nat → Bool)
    (ok : holds s) : holds (s.remoteDeviceListCleanup unplugs) := by
  unfold remoteDeviceListCleanup
  split
  · exact ok
  · exact closed _ (disconnectAll_kept kept unplugs ok)

end Kept

end RemoteClient

structure VhciPortInfo.Serves (info : VhciPortInfo) (device : RemoteDevice) : Prop where
  state : info.state = .connected
  busid : info.busid = .ofBuffer device.deviceInfo.busid.toList
  speed : info.speed = device.deviceInfo.speed

theorem VhciPortInfo.release_cleared {info : VhciPortInfo} {i : Fin vhciMaxPorts}
    (numbered : info.portNumber = i) : info.release = .cleared i := by
  simp only [release,cleared,numbered]

structure RemoteClient.Bookkept (s : RemoteClient) : Prop where
  ready : s.vhci.initialized = true
  counted : s.list.count = s.list.devices.length
  distinct : (s.list.devices.map RemoteDevice.vhciPort).Nodup
  attached : ∀ device ∈ s.list.devices, device.vhci = true ∧
    ∃ i : Fin vhciMaxPorts, device.vhciPort = i.val ∧ (s.vhci.port i).Serves device
  unused : ∀ i : Fin vhciMaxPorts, (∀ device ∈ s.list.devices, device.vhciPort ≠ i.val) →
    s.vhci.port i = .cleared i
  numbered : ∀ i, (s.vhci.port i).portNumber = i

namespace RemoteClient.Bookkept

variable {s : RemoteClient}

theorem congr {next : RemoteClient} (ok : s.Bookkept) (list : next.list = s.list)
    (vhci : next.vhci = s.vhci) : next.Bookkept := by
  obtain ⟨ready,counted,distinct,attached,unused,numbered⟩ := ok
  rw [← list] at counted distinct attached unused
  rw [← vhci] at ready attached unused numbered
  exact ⟨ready,counted,distinct,attached,unused,numbered⟩

theorem free_unused (ok : s.Bookkept) {i : Fin vhciMaxPorts}
    (free : (s.vhci.port i).state = .free) : ∀ device ∈ s.list.devices, device.vhciPort ≠ i.val := by
  intro device member same
  obtain ⟨_,j,ported,serves⟩ := ok.attached device member
  have equal : j = i := Fin.ext (by omega)
  rw [← equal,serves.state] at free
  cases free

theorem free_kept (ok : s.Bookkept) {i : Fin vhciMaxPorts} (free : (s.vhci.port i).state = .free) :
    s.vhci.setPort i (s.vhci.port i).release = s.vhci := by
  have cleared := ok.unused i (ok.free_unused free)
  rw [VhciPortInfo.release_cleared (ok.numbered i),← cleared,VhciContext.setPort_port]

theorem start (opened : Bool) : (RemoteClient.start opened).Bookkept := by
  have cleared (i : Fin vhciMaxPorts) : (RemoteClient.start opened).vhci.port i = .cleared i := by
    simp [RemoteClient.start,vhciInit,VhciContext.port]
  refine ⟨rfl,rfl,List.nodup_nil,by simp [RemoteClient.start,remoteDeviceListInit],
    fun i _ => cleared i,fun i => ?_⟩
  rw [cleared]
  rfl

theorem release_port (ok : s.Bookkept) (i j : Fin vhciMaxPorts) :
    (s.vhci.setPort i (s.vhci.port i).release).port j =
      if i = j then .cleared j else s.vhci.port j := by
  rw [VhciContext.port_setPort]
  by_cases same : i = j
  · subst same
    rw [if_pos rfl,if_pos rfl,VhciPortInfo.release_cleared (ok.numbered i)]
  · rw [if_neg same,if_neg same]

theorem unlink (ok : s.Bookkept) {result : RemoteClient} {before after : List RemoteDevice}
    {found : RemoteDevice} {i : Fin vhciMaxPorts}
    (split : s.list.devices = before ++ found::after) (ported : found.vhciPort = i.val)
    (list : result.list = (s.unlink (before ++ after)).list)
    (vhci : result.vhci = s.vhci.setPort i (s.vhci.port i).release) : result.Bookkept := by
  have devices : result.list.devices = before ++ after := by
    rw [list]
    rfl
  have listed (other : RemoteDevice) :
      other ∈ s.list.devices ↔ other = found ∨ other ∈ before ++ after := by
    rw [split,List.mem_append,List.mem_cons,List.mem_append]
    tauto
  have distinct := ok.distinct
  rw [split,List.map_append,List.map_cons,ported,List.nodup_middle,← List.map_append,
    List.nodup_cons] at distinct
  obtain ⟨alone,distinct⟩ := distinct
  have port (j : Fin vhciMaxPorts) : result.vhci.port j =
      if i = j then .cleared j else s.vhci.port j := by
    rw [vhci,ok.release_port i j]
  refine ⟨vhci ▸ ok.ready,?_,devices ▸ distinct,?_,?_,?_⟩
  · rw [devices,list]
    change s.list.count - 1 = _
    rw [ok.counted,split]
    simp
    omega
  · intro other member
    rw [devices] at member
    obtain ⟨asked,j,here,served⟩ := ok.attached other ((listed other).mpr (Or.inr member))
    have apart : i ≠ j := by
      rintro rfl
      exact alone (List.mem_map.mpr ⟨other,member,here⟩)
    refine ⟨asked,j,here,?_⟩
    rw [port j,if_neg apart]
    exact served
  · intro j absent
    rw [devices] at absent
    rw [port j]
    by_cases same : i = j
    · rw [if_pos same]
    · rw [if_neg same]
      refine ok.unused j fun other member here => ?_
      rcases (listed other).mp member with rfl | inside
      · exact same (Fin.ext (by omega))
      · exact absent other inside here
  · intro j
    rw [port j]
    split
    · rfl
    · exact ok.numbered j

theorem disconnect (ok : s.Bookkept) (device : Option Nat) (unplug : Bool) :
    (s.remoteDeviceDisconnect device unplug).2.Bookkept := by
  rcases disconnect_cases s device unplug with ⟨_,same⟩ | ⟨before,found,after,split,_,next⟩
  · rw [same]
    exact ok
  · obtain ⟨asks,i,ported,serves⟩ := ok.attached found (by simp [split])
    have taken : (s.vhci.port i).state ≠ .free := by
      rw [serves.state]
      decide
    apply ok.unlink split ported
    · rw [next,free_list]
    · rw [next,free_ported asks ported]
      exact congrArg (·.2.1) (vhciDetach_taken ok.ready taken unplug)

theorem attach (ok : s.Bookkept) {result : RemoteClient} (device : RemoteDevice)
    {i : Fin vhciMaxPorts} {info : VhciPortInfo} (free : (s.vhci.port i).state = .free)
    (asks : device.vhci = true) (ported : device.vhciPort = i.val) (serves : info.Serves device)
    (numbered : info.portNumber = (s.vhci.port i).portNumber)
    (devices : result.list.devices = device::s.list.devices)
    (count : result.list.count = s.list.count+1) (vhci : result.vhci = s.vhci.setPort i info) :
    result.Bookkept := by
  have unserved := ok.free_unused free
  have port (j : Fin vhciMaxPorts) : result.vhci.port j =
      if i = j then info else s.vhci.port j := by
    rw [vhci,VhciContext.port_setPort]
  refine ⟨vhci ▸ ok.ready,?_,?_,?_,?_,?_⟩
  · rw [count,devices,ok.counted]
    simp
  · rw [devices,List.map_cons,ported]
    refine List.nodup_cons.mpr ⟨fun member => ?_,ok.distinct⟩
    obtain ⟨other,listed,same⟩ := List.mem_map.mp member
    exact unserved other listed same
  · intro other member
    rw [devices] at member
    rcases List.mem_cons.mp member with rfl | listed
    · refine ⟨asks,i,ported,?_⟩
      rw [port i,if_pos rfl]
      exact serves
    · obtain ⟨asked,j,here,served⟩ := ok.attached other listed
      have apart : i ≠ j := fun same => unserved other listed (same ▸ here)
      refine ⟨asked,j,here,?_⟩
      rw [port j,if_neg apart]
      exact served
  · intro j absent
    rw [devices] at absent
    have apart : i ≠ j := fun same => absent device List.mem_cons_self (same ▸ ported)
    rw [port j,if_neg apart]
    exact ok.unused j fun other listed => absent other (List.mem_cons_of_mem _ listed)
  · intro j
    rw [port j]
    split
    next same =>
      rw [numbered,ok.numbered i]
      exact same
    next => exact ok.numbered j

theorem connect (ok : s.Bookkept) {call : ConnectCall} (asks : call.vhci = true) {err : ErrorCode}
    {next : RemoteClient} (ended : s.remoteDeviceConnect call = some (err,next)) :
    next.Bookkept ∧ (err ≠ .success → next.list = s.list ∧ next.vhci = s.vhci) := by
  cases connect_cases ended with
  | failed err net connections fails unmet own dialled =>
    exact ⟨ok.congr rfl rfl,fun _ => ⟨rfl,rfl⟩⟩
  | listed info net device met plain own imported =>
    rw [asks] at plain
    cases plain
  | asked info net device serverIp err next met _ own imported attach =>
    cases attach with
    | noPort none => exact ⟨ok.congr rfl rfl,fun _ => ⟨rfl,rfl⟩⟩
    | noDriver i found ready free driver =>
      have kept := ok.free_kept (i := i) free
      exact ⟨ok.congr rfl kept,fun _ => ⟨rfl,kept⟩⟩
    | refused i found ready free driver devid plug =>
      have kept := ok.free_kept (i := i) free
      exact ⟨ok.congr rfl kept,fun _ => ⟨rfl,kept⟩⟩
    | attached i found ready free driver devid plug info claimed =>
      refine ⟨?_,fun failed => absurd rfl failed⟩
      have serves : info.Serves {device with vhciPort := i.val, state := .connected} := by
        rw [claimed]
        exact ⟨rfl,rfl,rfl⟩
      have numbered : info.portNumber = (s.vhci.port i).portNumber := by
        rw [claimed]
        rfl
      exact ok.attach (i := i) {device with vhciPort := i.val, state := .connected} free
        (imported.vhci.trans asks) rfl serves numbered rfl rfl rfl

end RemoteClient.Bookkept

/-- The controller stays initialised, and every connection asks for a port. -/
def InUse : ClientCall → RemoteClient → Prop
  | .connect call,_ => call.vhci = true
  | .vhciCleanup _,_ => False
  | _,_ => True

namespace RemoteClient

variable {s : RemoteClient}

theorem step_bookkept (action : ClientCall) (s next : RemoteClient) (used : InUse action s)
    (ok : s.Bookkept) (taken : step action s = some next) : next.Bookkept := by
  have kept (s : RemoteClient) (device : Option Nat) (unplug : Bool) (ok : s.Bookkept) :=
    ok.disconnect device unplug
  cases action with
  | connect call =>
    obtain ⟨⟨err,after⟩,ended,rfl⟩ := Option.map_eq_some_iff.mp taken
    exact (ok.connect used ended).1
  | disconnect device unplug => exact Option.some.inj taken ▸ ok.disconnect device unplug
  | disconnectPort port unplug =>
    exact Option.some.inj taken ▸ disconnectPort_kept kept port unplug ok
  | disconnectAll unplugs => exact Option.some.inj taken ▸ disconnectAll_kept kept unplugs ok
  | listCleanup unplugs =>
    refine Option.some.inj taken ▸ listCleanup_kept kept (fun s ok => ?_) unplugs ok
    exact ⟨ok.ready,ok.counted,ok.distinct,ok.attached,ok.unused,ok.numbered⟩
  | vhciCleanup unplugs => exact used.elim

theorem run_bookkept {opened : Bool} {calls : List ClientCall}
    (run : GuardedRun step InUse (start opened) calls s) : s.Bookkept :=
  run.invariant Bookkept step_bookkept (.start opened)

/-- Between calls the list and the ports agree, and a connection that fails
leaves both as they were. -/
theorem ports_bookkept {opened : Bool} {calls : List ClientCall}
    (run : GuardedRun step InUse (start opened) calls s) :
    s.Bookkept ∧ ∀ call err next, call.vhci = true →
      s.remoteDeviceConnect call = some (err,next) → err ≠ .success →
      next.list = s.list ∧ next.vhci = s.vhci :=
  ⟨run_bookkept run,fun _ _ _ asks ended => ((run_bookkept run).connect asks ended).2⟩

end RemoteClient

def keyboardReply : Socket :=
  carrying ((usbipPackHeaderBasic (importReplyHeader .success)).image ++
    (usbipPackDevice (usbDeviceToUsbip sharedKeyboard.device)).image)

theorem keyboardReply_exchange : ∃ rest, remoteDeviceConnect keyboardReply (ascii "1-1") =
    some (.ok (usbDeviceToUsbip sharedKeyboard.device),rest) := by
  have stream : keyboardReply.stream = (usbipPackHeaderBasic (importReplyHeader .success)).image ++
      if ErrorCode.success = .success
      then (usbipPackDevice (usbDeviceToUsbip sharedKeyboard.device)).image else [] := by
    rw [keyboardReply,carrying_stream,if_pos rfl]
  have delivers : keyboardReply.Delivers := by simp [Socket.Delivers,keyboardReply,carrying]
  obtain ⟨rest,exchanged,_⟩ := connect_reply keyboardReply (ascii "1-1") delivers .success
    (usbDeviceToUsbip sharedKeyboard.device) stream
  exact ⟨rest,exchanged⟩

def keyboardCall (address : Nat) (plug : Bool) : ConnectCall where
  vhci := true
  serverIp := some ⟨ascii "10.0.0.2",by decide⟩
  serverPort := 3240
  busid := some ⟨ascii "1-1",by decide⟩
  token := none
  alloc := some address
  socket := some keyboardReply
  plug
  unplug := true

namespace RemoteClient

theorem keyboardCall_info (address : Nat) (plug : Bool) : (keyboardCall address plug).info ≠ none := by
  obtain ⟨rest,exchanged⟩ := keyboardReply_exchange
  rw [info_met (keyboardCall address plug) rfl rfl rfl rfl rfl exchanged]
  exact Option.some_ne_none _

theorem keyboard_connects (plug : Bool) : ∃ err s,
    (start true).remoteDeviceConnect (keyboardCall 7 plug) = some (err,s) :=
  connect_returns (keyboardCall_info 7 plug) fun _ _ => List.not_mem_nil

theorem keyboard_attached : ∃ s device, step (.connect (keyboardCall 7 true)) (start true) = some s ∧
    s.list.devices = [device] ∧ device.address = 7 ∧ device.vhci = true := by
  obtain ⟨err,s,ended⟩ := keyboard_connects true
  have taken : step (.connect (keyboardCall 7 true)) (start true) = some s := by
    rw [step,ended]
    rfl
  cases connect_cases ended with
  | failed err net connections fails unmet => exact absurd unmet (keyboardCall_info 7 true)
  | listed info net device met plain => cases plain
  | asked info net device serverIp err next met asks own imported attach =>
    cases attach with
    | noPort unported =>
      have free : 0 ≤ vhciFindFreePort (start true).vhci := by decide
      change vhciFindFreePort (start true).vhci = -1 at unported
      omega
    | noDriver i found ready free driver => cases driver
    | refused i found ready free driver devid plug => cases plug
    | attached i found ready free driver devid plug info claimed =>
      exact ⟨_,_,taken,rfl,(Option.some.inj imported.address).symm,imported.vhci⟩

theorem ports_bookkept_keyboard : ∃ s : RemoteClient, s.list.devices ≠ [] ∧ s.Bookkept ∧
    ∀ call err next, call.vhci = true → s.remoteDeviceConnect call = some (err,next) →
      err ≠ .success → next.list = s.list ∧ next.vhci = s.vhci := by
  have asks : InUse (.connect (keyboardCall 7 true)) (start true) := rfl
  obtain ⟨s,device,taken,listed,_⟩ := keyboard_attached
  exact ⟨s,by simp [listed],ports_bookkept (.cons _ _ _ _ _ asks taken (.nil _))⟩

end RemoteClient

end UsbOverNetwork
