import UsbOverNetwork.Client.RemoteDeviceList

/-! How often a call of `remote_device_connect` that keeps no port closes the
socket it has connected. -/
namespace UsbOverNetwork

def Socket.Greets (socket : Socket) (token : Token) : Prop :=
  token.chars.length ≤ authTokenMaxLen ∧
    let frame := buildHandshake (authWireHeaderLen + authTokenMaxLen) (some token)
    (netSendAll socket frame).1 = frame.length

structure ConnectCall.Dials (call : ConnectCall) (s : RemoteClient) (address : Nat) (socket : Socket) :
    Prop where
  serverIp : call.serverIp.isSome = true
  busid : call.busid.isSome = true
  alloc : call.alloc = some address
  fresh : address ∉ s.list.devices.map RemoteDevice.address
  socket : call.socket = some socket

namespace RemoteClient

def closes (s : RemoteClient) (socket : Nat) : Nat := s.log.count (.close socket)

/-- A call that fails closes its socket once. One that succeeds without the
virtual host controller has done so after `remote_device_disconnect`. -/
def ClosesOnce (s : RemoteClient) (call : ConnectCall) (address : Nat) : Prop :=
  ∀ err next, s.remoteDeviceConnect call = some (err,next) →
    (err ≠ .success → next.closes s.connections = s.closes s.connections + 1) ∧
    (err = .success → call.vhci = false → ∀ unplug,
      (next.remoteDeviceDisconnect (some address) unplug).2.closes s.connections =
        s.closes s.connections + 1)

variable {s : RemoteClient} {device : RemoteDevice} {call : ConnectCall}

theorem closes_record (events : List ClientEvent) (socket : Nat) :
    (s.record events).closes socket = events.count (.close socket) + s.closes socket :=
  List.count_append

theorem socketClose_closes (socket : Nat) : (socketClose socket).count (.close socket) = 1 := by
  simp [socketClose]

theorem vhciDetach_closes (ctx : VhciContext) (port : Int) (unplug : Bool) (socket : Nat) :
    (vhciDetach ctx port unplug).2.2.count (.close socket) = 0 := by
  simp only [vhciDetach]
  split
  · rfl
  · split
    · rfl
    · split
      · rfl
      · split <;> simp

theorem vhciAttach_closes (ctx : VhciContext) (port : Int) (socket : Nat) (device : UsbipUsbDevice)
    (serverIp : Token) (serverPort : UInt16) (plug : Bool) :
    (vhciAttach ctx port socket device serverIp serverPort plug).2.2.count (.close socket) = 0 := by
  simp only [vhciAttach]
  split
  · rfl
  · split
    · rfl
    · split
      · rfl
      · split
        · rfl
        · split <;> simp

@[simp] theorem closes_vhci (vhci : VhciContext) (socket : Nat) :
    ({s with vhci} : RemoteClient).closes socket = s.closes socket := rfl

@[simp] theorem closes_connections (connections socket : Nat) :
    ({s with connections} : RemoteClient).closes socket = s.closes socket := rfl

theorem free_closes {socket : Nat} (dialled : device.socket = some socket) (unplug : Bool) :
    (s.freeRemoteDevice device unplug).closes socket = s.closes socket + 1 := by
  have closed : (s.record (device.socket.elim [] socketClose)).closes socket = s.closes socket + 1 := by
    rw [closes_record,dialled,Option.elim_some,socketClose_closes,Nat.add_comm]
  simp only [freeRemoteDevice]
  split
  · rw [closes_record,vhciDetach_closes,Nat.zero_add,closes_vhci,closed]
  · exact closed

theorem attachDevice_closes {socket : Nat} (dialled : device.socket = some socket) {serverIp : Token}
    (failed : (s.attachDevice device call socket serverIp).1 ≠ .success) :
    (s.attachDevice device call socket serverIp).2.closes socket = s.closes socket + 1 := by
  simp only [attachDevice] at failed ⊢
  have ported : {device with vhciPort := vhciFindFreePort s.vhci}.socket = some socket := dialled
  split
  next _ => exact free_closes ported _
  next found =>
    rw [if_neg found] at failed
    split
    next _ =>
      refine (free_closes ported _).trans ?_
      rw [closes_record,vhciAttach_closes,Nat.zero_add,closes_vhci]
    next ok =>
      rw [if_neg ok] at failed
      exact absurd rfl failed

theorem connect_imports {address : Nat} {socket : Socket} (dials : call.Dials s address socket) :
    ∃ serverIp busid device, device.address = address ∧
      s.remoteDeviceConnect call = s.importDevice device call socket serverIp busid := by
  obtain ⟨serverIp,ip⟩ := Option.isSome_iff_exists.mp dials.serverIp
  obtain ⟨busid,name⟩ := Option.isSome_iff_exists.mp dials.busid
  refine ⟨serverIp,busid,{createRemoteDevice address with
    serverIp := .ofBuffer serverIp.chars
    serverPort := call.serverPort
    busid := .ofBuffer busid.chars
    vhci := call.vhci
    state := .connecting},rfl,?_⟩
  simp only [remoteDeviceConnect,ip,name,dials.alloc,if_neg dials.fresh,dials.socket]

theorem handshake_success_iff (socket : Socket) : (call.handshake socket).1 = .success ↔
    ∀ token, call.token = some token → token.chars ≠ [] → socket.Greets token := by
  cases named : call.token with
  | none => simp [ConnectCall.handshake,named,authIsEnabled]
  | some token =>
    by_cases blank : token.chars = []
    · simp [ConnectCall.handshake,named,authIsEnabled,blank]
    · have only : (∀ other, some token = some other → other.chars ≠ [] → socket.Greets other) ↔
          socket.Greets token := by simp [blank]
      rw [only]
      simp only [ConnectCall.handshake,named,authIsEnabled_some blank,if_true]
      by_cases fits : token.chars.length ≤ authTokenMaxLen
      · rw [authClientHandshake_frame blank fits]
        simp only [Socket.Greets,fits,true_and,buildHandshake_frame blank fits]
        split
        next all => exact iff_of_true rfl all
        next short => exact iff_of_false (by simp) short
      · have long : buildHandshake (authWireHeaderLen + authTokenMaxLen) (some token) = [] := by
          simp [buildHandshake,Option.filter,blank,Nat.not_le.mp fits]
        simp only [authClientHandshake,authIsEnabled_some blank,long]
        exact iff_of_false (by simp) fun greets => fits greets.1

theorem traffic_closes (sends : Bool) (socket other : Nat) :
    (if sends then [ClientEvent.traffic socket] else []).count (.close other) = 0 := by
  cases sends <;> simp

/-- After a refused handshake the socket is closed by the call itself and again
with the device. -/
theorem refused_closes {socket : Socket} {serverIp busid : Token} {err : ErrorCode}
    {next : RemoteClient} (refused : (call.handshake socket).1 ≠ .success)
    (ended : s.importDevice device call socket serverIp busid = some (err,next)) :
    err ≠ .success ∧ next.closes s.connections = s.closes s.connections + 2 := by
  simp only [importDevice,ne_eq,refused,not_false_eq_true,if_true,Option.some.injEq,
    Prod.mk.injEq] at ended
  obtain ⟨rfl,rfl⟩ := ended
  refine ⟨refused,(free_closes rfl _).trans ?_⟩
  rw [closes_record,socketClose_closes,closes_record,traffic_closes,closes_connections]
  omega

theorem accepted_closes {socket : Socket} {serverIp busid : Token} {err : ErrorCode}
    {next : RemoteClient} (accepted : (call.handshake socket).1 = .success)
    (ended : s.importDevice device call socket serverIp busid = some (err,next)) :
    (err ≠ .success → next.closes s.connections = s.closes s.connections + 1) ∧
    (err = .success → call.vhci = false → ∀ unplug,
      (next.remoteDeviceDisconnect (some device.address) unplug).2.closes s.connections =
        s.closes s.connections + 1) := by
  simp only [importDevice,accepted,ne_eq,not_true_eq_false,if_false] at ended
  have quiet : RemoteClient.closes (({s with connections := s.connections+1}.record
      (if authIsEnabled call.token then [.traffic s.connections] else [])).record
        [.traffic s.connections]) s.connections = s.closes s.connections := by
    rw [closes_record,closes_record,traffic_closes,closes_connections]
    simp
  generalize ({s with connections := s.connections+1}.record
    (if authIsEnabled call.token then [.traffic s.connections] else [])).record
      [.traffic s.connections] = asking at ended quiet
  cases exchanged : UsbOverNetwork.remoteDeviceConnect (call.handshake socket).2 busid.chars with
  | none => simp [exchanged] at ended
  | some outcome =>
    obtain ⟨result,rest⟩ := outcome
    cases result with
    | error failure =>
      simp only [exchanged,Option.some.injEq,Prod.mk.injEq] at ended
      obtain ⟨rfl,rfl⟩ := ended
      refine ⟨fun _ => ?_,fun same => absurd same (exchange_fails exchanged)⟩
      rw [free_closes rfl,quiet]
    | ok info =>
      simp only [exchanged] at ended
      split at ended
      next asks =>
        refine ⟨fun failed => ?_,fun _ plain => by rw [asks] at plain; cases plain⟩
        have attached := Option.some.inj ended
        have dialled : {device with socket := some s.connections, deviceInfo := info}.socket =
          some s.connections := rfl
        have closed := @attachDevice_closes asking _ call _ dialled serverIp
        rw [attached] at closed
        rw [closed failed,quiet]
      next plain =>
        cases Option.some.inj ended
        refine ⟨fun failed => absurd rfl failed,fun _ _ unplug => ?_⟩
        let listed := {device with
          socket := some s.connections, deviceInfo := info, state := .connected}
        have head : (asking.addRemoteDevice
            {device with socket := some s.connections, deviceInfo := info}).list.devices =
          listed::asking.list.devices := rfl
        rw [show device.address = listed.address from rfl,disconnect_head head,free_closes rfl]
        exact congrArg (· + 1) quiet

/-- The socket is closed once exactly when the handshake, if there is one, goes out. -/
theorem closes_once_iff {address : Nat} {socket : Socket} (dials : call.Dials s address socket) :
    s.ClosesOnce call address ↔
      ∀ token, call.token = some token → token.chars ≠ [] → socket.Greets token := by
  rw [← handshake_success_iff]
  obtain ⟨serverIp,busid,device,rfl,imports⟩ := connect_imports dials
  unfold ClosesOnce
  rw [imports]
  constructor
  · intro once
    by_contra refused
    have returned : ∃ result, s.importDevice device call socket serverIp busid = some result := by
      simp only [importDevice,ne_eq,refused,not_false_eq_true,if_true]
      exact ⟨_,rfl⟩
    obtain ⟨⟨err,next⟩,ended⟩ := returned
    obtain ⟨failed,twice⟩ := refused_closes refused ended
    have single := (once err next ended).1 failed
    omega
  · intro accepted err next ended
    exact accepted_closes accepted ended

theorem closes_once_keyboard : ∃ err next,
    (start true).remoteDeviceConnect (keyboardCall 7 false) = some (err,next) ∧ err ≠ .success ∧
      next.closes 0 = 1 := by
  obtain ⟨err,next,ended⟩ := keyboard_connects false
  have dials : (keyboardCall 7 false).Dials (start true) 7 keyboardReply :=
    ⟨rfl,rfl,rfl,List.not_mem_nil,rfl⟩
  have once := (closes_once_iff dials).mpr (by rintro _ ⟨⟩) err next ended
  have failed : err ≠ .success := by
    rintro rfl
    cases connect_cases ended with
    | failed err net connections fails unmet => exact absurd rfl fails
    | listed info net device met plain => cases plain
    | asked info net device serverIp err next met asks own imported attach =>
      cases attach with
      | attached i found ready free driver devid plug info claimed => cases plug
  exact ⟨err,next,ended,failed,once.1 failed⟩

def deafCall : ConnectCall :=
  {keyboardCall 7 true with token := some shortToken, socket := some ⟨[],.closed,[.error],[]⟩}

theorem deaf_closes_twice : ∃ next,
    (start true).remoteDeviceConnect deafCall = some (.socketSend,next) ∧ next.closes 0 = 2 ∧
      ¬(start true).ClosesOnce deafCall 7 := by
  have computed : ((start true).remoteDeviceConnect deafCall).any (fun result =>
      result.1 = .socketSend ∧ result.2.closes 0 = 2) = true := by decide +kernel
  obtain ⟨⟨err,next⟩,ended,checked⟩ := (Option.any_eq_true _ _).mp computed
  obtain ⟨rfl,twice⟩ := of_decide_eq_true checked
  refine ⟨next,ended,twice,fun once => ?_⟩
  have single : next.closes 0 = 1 := (once _ next ended).1 (by decide)
  rw [twice] at single
  cases single

end RemoteClient

end UsbOverNetwork
