import UsbOverNetwork.Client.RemoteDeviceList

/-! What the calls of a client ask of the driver and do to their sockets, over
whole runs. -/
namespace UsbOverNetwork
open Runs

namespace RemoteClient

structure Plugs (s : RemoteClient) (call : ConnectCall) : Prop where
  asks : call.vhci = true
  met : call.info ≠ none
  port : 0 ≤ vhciFindFreePort s.vhci
  driver : s.vhci.driver = true

def PlugAccepted : ClientCall → RemoteClient → Prop
  | .connect call,s => s.Plugs call → call.plug = true
  | _,_ => True

variable {s : RemoteClient}

theorem network_of_own {net : List ClientEvent} {socket : Nat}
    (own : ∀ event ∈ net, event.touched = some socket) : ∀ event ∈ net, event.touched ≠ none := by
  intro event member
  rw [own event member]
  exact Option.some_ne_none socket

theorem closes_network (socket : Option Nat) :
    ∀ event ∈ socket.elim [] socketClose, event.touched ≠ none := by
  cases socket with
  | none => simp
  | some socket => exact network_of_own (socketClose_own socket)

theorem connect_rewired (wired : s.vhci.Wired s.log) {call : ConnectCall} {err : ErrorCode}
    {next : RemoteClient} (ended : s.remoteDeviceConnect call = some (err,next)) :
    next.vhci.Wired next.log ∧ (Disciplined plugAllowed next.log ↔
      Disciplined plugAllowed s.log ∧ (s.Plugs call → call.plug = true)) := by
  cases connect_cases ended with
  | failed err net connections fails unmet own dialled =>
    exact (wired.network (network_of_own own)).harmless fun plugs => absurd unmet plugs.met
  | listed info net device met plain own imported =>
    refine (wired.network (network_of_own own)).harmless fun plugs => ?_
    exact absurd plugs.asks (by simp [plain])
  | asked info net device serverIp err next met asks own imported attach =>
    have entered : s.vhci.Rewired (net ++ s.log) s.log := wired.network (network_of_own own)
    have closed := entered.wired.network (network_of_own (socketClose_own s.connections))
    cases attach with
    | noPort none =>
      refine (closed.trans entered).harmless fun plugs => ?_
      have port : 0 ≤ vhciFindFreePort s.vhci := plugs.port
      have none : vhciFindFreePort s.vhci = -1 := none
      omega
    | noDriver i found ready free driver =>
      have released : VhciContext.Rewired _ _ s.log :=
        ⟨closed.wired.release free,(closed.trans entered).disciplined⟩
      refine released.harmless fun plugs => ?_
      exact absurd (driver.symm.trans plugs.driver) (by decide)
    | refused i found ready free driver devid plug =>
      have refused := entered.wired.refuse ready free
        (network_of_own (socketClose_own s.connections)) s.connections devid call.unplug
      have plugs : s.Plugs call :=
        ⟨asks,by simp [met],by have found : vhciFindFreePort s.vhci = i.val := found; omega,driver⟩
      rw [List.append_cons] at refused
      refine ⟨refused.1,⟨fun all => absurd all refused.2,fun old => ?_⟩⟩
      rw [plug] at old
      exact absurd (old.2 plugs) (by decide)
    | attached i found ready free driver devid plug info claimed =>
      have plugged := entered.wired.plug (i := i) driver info (by rw [claimed])
        s.connections devid
      exact (plugged.trans entered).harmless fun _ => plug

theorem free_rewired (wired : s.vhci.Wired s.log) (device : RemoteDevice) (unplug : Bool) :
    (s.freeRemoteDevice device unplug).vhci.Rewired (s.freeRemoteDevice device unplug).log s.log := by
  have closed := wired.network (closes_network device.socket)
  unfold freeRemoteDevice
  split
  · exact (closed.wired.detach device.vhciPort unplug).trans closed
  · exact closed

theorem disconnect_rewired (wired : s.vhci.Wired s.log) (device : Option Nat) (unplug : Bool) :
    (s.remoteDeviceDisconnect device unplug).2.vhci.Rewired
      (s.remoteDeviceDisconnect device unplug).2.log s.log := by
  rcases disconnect_cases s device unplug with ⟨_,same⟩ | ⟨before,found,after,_,_,next⟩
  · rw [same]
    exact wired.same
  · rw [next]
    exact free_rewired (s := s.unlink (before ++ after)) wired found unplug

theorem step_rewired (action : ClientCall) (s next : RemoteClient) (wired : s.vhci.Wired s.log)
    (taken : step action s = some next) :
    next.vhci.Wired next.log ∧ (Disciplined plugAllowed next.log ↔
      Disciplined plugAllowed s.log ∧ PlugAccepted action s) := by
  have kept (t : RemoteClient) (device : Option Nat) (unplug : Bool)
      (ok : t.vhci.Rewired t.log s.log) :=
    (disconnect_rewired ok.wired device unplug).trans ok
  cases action with
  | connect call =>
    obtain ⟨⟨err,after⟩,ended,rfl⟩ := Option.map_eq_some_iff.mp taken
    exact connect_rewired wired ended
  | disconnect device unplug =>
    cases Option.some.inj taken
    exact (disconnect_rewired wired device unplug).harmless trivial
  | disconnectPort port unplug =>
    cases Option.some.inj taken
    exact (disconnectPort_kept kept port unplug wired.same).harmless trivial
  | disconnectAll unplugs =>
    cases Option.some.inj taken
    exact (disconnectAll_kept kept unplugs wired.same).harmless trivial
  | listCleanup unplugs =>
    cases Option.some.inj taken
    exact (listCleanup_kept kept (fun _ ok => ok) unplugs wired.same).harmless trivial
  | vhciCleanup unplugs =>
    cases Option.some.inj taken
    exact (wired.cleanup unplugs).harmless trivial

theorem start_wired (opened : Bool) : (start opened).vhci.Wired (start opened).log := by
  refine fun _ i => Or.inl ⟨?_,rfl⟩
  simp [start,vhciInit,VhciContext.port,VhciPortInfo.cleared]

/-- A port is unplugged only after it was plugged in, exactly when the driver
accepts every plug request that a call gets as far as. -/
theorem plug_discipline_iff {opened : Bool} {calls : List ClientCall}
    (run : Run step (start opened) calls s) :
    Disciplined plugAllowed s.log ↔ GuardedRun step PlugAccepted (start opened) calls s := by
  have iff := run.guarded_iff PlugAccepted (fun s => Disciplined plugAllowed s.log)
    (fun s => s.vhci.Wired s.log) (fun action s next ok taken => (step_rewired action s next ok taken).1)
    (fun action s next ok taken => (step_rewired action s next ok taken).2)
    (start_wired opened)
  rw [iff]
  exact ⟨And.right,fun guarded => ⟨trivial,guarded⟩⟩

/-- The driver refuses the first keyboard, and its port is unplugged all the same. -/
theorem unplug_unplugged : ∃ s, Run step (start true) [.connect (keyboardCall 7 false)] s ∧
    ¬Disciplined plugAllowed s.log := by
  obtain ⟨err,s,ended⟩ := keyboard_connects false
  refine ⟨s,.single _ (by rw [step,ended]; rfl),?_⟩
  rw [(connect_rewired (start_wired true) ended).2]
  rintro ⟨_,accepted⟩
  have plugs : (start true).Plugs (keyboardCall 7 false) :=
    ⟨rfl,keyboardCall_info 7 false,by decide,rfl⟩
  exact Bool.false_ne_true (accepted plugs)

theorem plug_discipline_keyboard : ∃ s,
    Run step (start true) [.connect (keyboardCall 7 true),.disconnect (some 7) true] s ∧
      Disciplined plugAllowed s.log := by
  obtain ⟨s,device,taken,_⟩ := keyboard_attached
  have accepted : GuardedRun step PlugAccepted (start true)
      [.connect (keyboardCall 7 true),.disconnect (some 7) true] _ :=
    .cons _ _ _ _ _ (fun _ => rfl) taken (.cons _ _ _ _ _ trivial rfl (.nil _))
  exact ⟨_,accepted.run,(plug_discipline_iff accepted.run).mpr accepted⟩

def freed (s : RemoteClient) : ClientCall → List RemoteDevice
  | .connect _ => []
  | .disconnect device _ => (s.disconnecting device).toList
  | .disconnectPort port _ =>
    ((s.remoteDeviceFindByPort port).bind fun device => s.disconnecting device.address).toList
  | .disconnectAll _ => if s.list.initialized then s.list.devices else []
  | .listCleanup _ => if s.list.initialized then s.list.devices else []
  | .vhciCleanup _ => []

/-- No device is freed that the driver forwards. -/
def SparesAttached (action : ClientCall) (s : RemoteClient) : Prop :=
  ∀ device ∈ s.freed action, device.vhci = false

/-- The driver has the sockets of the attached devices, and no others. -/
structure Owned (s : RemoteClient) : Prop where
  dialled : ∀ socket, handedOver socket s.log → socket < s.connections
  devices : ∀ device ∈ s.list.devices, ∃ socket < s.connections, device.socket = some socket ∧
    (handedOver socket s.log ↔ device.vhci = true)

theorem handed_of_own {net : List ClientEvent} {socket : Nat}
    (own : ∀ event ∈ net, event.touched = some socket) : ∀ event ∈ net, event.handed = none :=
  fun event member => handed_of_touched (own event member)

theorem Owned.fresh (owned : s.Owned) : ¬handedOver s.connections s.log :=
  fun handed => Nat.lt_irrefl _ (owned.dialled _ handed)

theorem Owned.append (owned : s.Owned) (next : RemoteClient) (recent : List ClientEvent)
    (log : next.log = recent ++ s.log) (list : next.list = s.list)
    (dialled : s.connections ≤ next.connections) (keeps : ∀ event ∈ recent, event.handed = none)
    (own : ∀ event ∈ recent, ∀ socket, event.touched = some socket → socket = s.connections) :
    next.Owned ∧ (Disciplined touchAllowed next.log ↔ Disciplined touchAllowed s.log) := by
  refine ⟨⟨fun socket handed => ?_,fun device member => ?_⟩,?_⟩
  · rw [log,handedOver_append keeps] at handed
    exact (owned.dialled socket handed).trans_le dialled
  · rw [list] at member
    obtain ⟨socket,older,here,handed⟩ := owned.devices device member
    refine ⟨socket,older.trans_le dialled,here,?_⟩
    rw [log,handedOver_append keeps]
    exact handed
  · rw [log]
    refine untouched_append keeps fun event member socket touched => ?_
    rw [own event member socket touched]
    exact owned.fresh

theorem Owned.add (owned : s.Owned) {device : RemoteDevice} {socket : Nat}
    (here : device.socket = some socket) (older : socket < s.connections)
    (handed : handedOver socket s.log ↔ device.vhci = true) : (s.addRemoteDevice device).Owned := by
  refine ⟨owned.dialled,fun other member => ?_⟩
  rcases List.mem_cons.mp member with rfl | listed
  · exact ⟨socket,older,here,handed⟩
  · exact owned.devices other listed

theorem handedOver_plugin {socket other : Nat} {i : Fin vhciMaxPorts} {devid : UInt32}
    {log : List ClientEvent} :
    handedOver other (.plugin i socket devid true::log) ↔ socket = other ∨ handedOver other log := by
  simp [handedOver,ClientEvent.handed]

theorem Owned.hand (owned : s.Owned) {next : RemoteClient} {socket : Nat} {i : Fin vhciMaxPorts}
    {devid : UInt32} (older : socket < s.connections)
    (unlisted : ∀ device ∈ s.list.devices, device.socket ≠ some socket)
    (log : next.log = .plugin i socket devid true::s.log) (list : next.list = s.list)
    (connections : next.connections = s.connections) : next.Owned := by
  refine ⟨fun other handed => ?_,fun device member => ?_⟩
  · rw [connections]
    rw [log] at handed
    rcases handedOver_plugin.mp handed with rfl | before
    · exact older
    · exact owned.dialled other before
  · rw [list] at member
    obtain ⟨other,inside,here,handed⟩ := owned.devices device member
    have apart : socket ≠ other := fun same => unlisted device member (same ▸ here)
    refine ⟨other,connections ▸ inside,here,?_⟩
    rw [log,handedOver_plugin,handed]
    simp [apart]

theorem connect_owned (owned : s.Owned) {call : ConnectCall} {err : ErrorCode} {next : RemoteClient}
    (ended : s.remoteDeviceConnect call = some (err,next)) :
    next.Owned ∧ (Disciplined touchAllowed next.log ↔ Disciplined touchAllowed s.log) := by
  have same {net : List ClientEvent} (own : ∀ event ∈ net, event.touched = some s.connections) :
      ∀ event ∈ net, ∀ socket, event.touched = some socket → socket = s.connections :=
    fun event member socket touched => Option.some.inj (touched.symm.trans (own event member))
  have entered {net : List ClientEvent} (own : ∀ event ∈ net, event.touched = some s.connections) :=
    owned.append ({s with connections := s.connections+1}.record net) net rfl rfl
      (Nat.le_succ _) (handed_of_own own) (same own)
  cases connect_cases ended with
  | failed err net connections fails unmet own dialled =>
    exact owned.append ({s with connections}.record net) net rfl rfl dialled
      (handed_of_own own) (same own)
  | listed info net device met plain own imported =>
    have unhanded : ¬handedOver s.connections (net ++ s.log) := by
      rw [handedOver_append (handed_of_own own)]
      exact owned.fresh
    refine ⟨(entered own).1.add imported.socket (Nat.lt_succ_self _) ?_,(entered own).2⟩
    rw [imported.vhci,plain]
    exact ⟨fun handed => absurd handed unhanded,fun absurdity => by cases absurdity⟩
  | asked info net device serverIp err next met asks own imported attach =>
    have closed := own_append (socketClose_own s.connections) own
    cases attach with
    | noPort none =>
      exact owned.append _ _ (by simp [record]) rfl (Nat.le_succ _) (handed_of_own closed)
        (same closed)
    | noDriver i found ready free driver =>
      exact owned.append _ _ (by simp [record]) rfl (Nat.le_succ _) (handed_of_own closed)
        (same closed)
    | refused i found ready free driver devid plug =>
      refine owned.append _ (.unplug i call.unplug::(socketClose s.connections ++
        .plugin i s.connections devid false::net)) (by simp [record]) rfl (Nat.le_succ _) ?_ ?_
      · intro event member
        simp only [List.mem_cons,List.mem_append] at member
        rcases member with rfl | close | rfl | inside
        · rfl
        · exact handed_of_own (socketClose_own _) event close
        · rfl
        · exact handed_of_own own event inside
      · intro event member socket touched
        simp only [List.mem_cons,List.mem_append] at member
        rcases member with rfl | close | rfl | inside
        · cases touched
        · exact same (socketClose_own _) event close socket touched
        · cases touched
        · exact same own event inside socket touched
    | attached i found ready free driver devid plug info claimed =>
      have unlisted : ∀ other ∈ s.list.devices, other.socket ≠ some s.connections := by
        intro other member here
        obtain ⟨socket,older,there,_⟩ := owned.devices other member
        rw [there,Option.some.injEq] at here
        omega
      refine ⟨?_,Iff.trans ?_ (entered own).2⟩
      · refine Owned.add ?_ imported.socket (Nat.lt_succ_self _) ?_
        · exact (entered own).1.hand (Nat.lt_succ_self _) unlisted rfl rfl rfl
        · exact ⟨fun _ => imported.vhci.trans asks,fun _ => handedOver_plugin.mpr (Or.inl rfl)⟩
      · change Disciplined touchAllowed (.plugin i s.connections devid true::(net ++ s.log)) ↔ _
        exact ⟨And.right,fun old => ⟨fun _ touched => absurd touched (by simp [ClientEvent.touched]),old⟩⟩

theorem free_log (s : RemoteClient) (device : RemoteDevice) (unplug : Bool) :
    ∃ requests : List ClientEvent, (∀ event ∈ requests, event.Distant) ∧
      (s.freeRemoteDevice device unplug).log =
        requests ++ (device.socket.elim [] socketClose ++ s.log) := by
  unfold freeRemoteDevice
  split
  · exact ⟨_,vhciDetach_distant _ _ _,rfl⟩
  · exact ⟨[],by simp,rfl⟩

/-- Freeing a listed device is harmless exactly when the driver does not have
its socket. -/
theorem free_owned (owned : s.Owned) {device : RemoteDevice} (member : device ∈ s.list.devices)
    (devices : List RemoteDevice) (fewer : ∀ other ∈ devices, other ∈ s.list.devices)
    (unplug : Bool) :
    ((s.unlink devices).freeRemoteDevice device unplug).Owned ∧
      (Disciplined touchAllowed ((s.unlink devices).freeRemoteDevice device unplug).log ↔
        Disciplined touchAllowed s.log ∧ device.vhci = false) := by
  obtain ⟨socket,older,here,handed⟩ := owned.devices device member
  obtain ⟨requests,distant,log⟩ := free_log (s.unlink devices) device unplug
  have list := free_list (s.unlink devices) device unplug
  have connections := free_connections (s.unlink devices) device unplug
  generalize (s.unlink devices).freeRemoteDevice device unplug = next at log list connections
  change next.log = requests ++ (device.socket.elim [] socketClose ++ s.log) at log
  rw [here,Option.elim_some] at log
  have quiet : ∀ event ∈ requests, event.handed = none := fun event inside => (distant event inside).handed
  have closes := handed_of_own (socketClose_own socket)
  have same (other : Nat) : handedOver other next.log ↔ handedOver other s.log := by
    rw [log,handedOver_append quiet,handedOver_append closes]
  have driver : Disciplined touchAllowed next.log ↔
      Disciplined touchAllowed (socketClose socket ++ s.log) := by
    rw [log]
    refine untouched_append quiet fun event inside other touched => ?_
    rw [(distant event inside).touched] at touched
    cases touched
  refine ⟨⟨fun other before => ?_,fun other listed => ?_⟩,driver.trans ?_⟩
  · rw [connections]
    exact owned.dialled other ((same other).mp before)
  · rw [list] at listed
    obtain ⟨its,inside,there,whose⟩ := owned.devices other (fewer other listed)
    exact ⟨its,connections ▸ inside,there,(same its).trans whose⟩
  · cases asked : device.vhci with
    | false =>
      have unhanded : ¬handedOver socket s.log := by
        rw [handed,asked]
        exact Bool.false_ne_true
      refine (untouched_append closes fun event inside other touched => ?_).trans (by simp)
      rw [socketClose_own socket event inside,Option.some.injEq] at touched
      exact touched ▸ unhanded
    | true =>
      refine ⟨fun all => absurd (handed.mpr asked) ?_,fun both => absurd both.2 (by decide)⟩
      exact all.2.1 socket rfl

theorem disconnect_owned (owned : s.Owned) (device : Option Nat) (unplug : Bool) :
    (s.remoteDeviceDisconnect device unplug).2.Owned ∧
      (Disciplined touchAllowed (s.remoteDeviceDisconnect device unplug).2.log ↔
        Disciplined touchAllowed s.log ∧
          ∀ found ∈ (s.disconnecting device).toList, found.vhci = false) := by
  rcases disconnect_cases s device unplug with ⟨absent,same⟩ | ⟨before,found,after,split,searched,next⟩
  · rw [same,absent]
    exact ⟨owned,by simp⟩
  · have fewer : ∀ other ∈ before ++ after, other ∈ s.list.devices := by
      intro other member
      rw [split]
      exact (List.sublist_cons_self found after).append_left before |>.subset member
    have member : found ∈ s.list.devices := by simp [split]
    have freed := free_owned owned member (before ++ after) fewer unplug
    rw [next,searched]
    exact ⟨freed.1,freed.2.trans (by simp)⟩

theorem disconnectLoop_owned (owned : s.Owned) (unplugs : Nat → Bool) (turns : Nat)
    (enough : s.list.devices.length ≤ turns) :
    (disconnectLoop unplugs turns s).Owned ∧
      (Disciplined touchAllowed (disconnectLoop unplugs turns s).log ↔
        Disciplined touchAllowed s.log ∧ ∀ device ∈ s.list.devices, device.vhci = false) := by
  induction turns generalizing s with
  | zero =>
    have none : s.list.devices = [] := List.length_eq_zero_iff.mp (Nat.le_zero.mp enough)
    rw [none]
    exact ⟨owned,by simp [disconnectLoop]⟩
  | succ turn ih =>
    unfold disconnectLoop
    split
    next none =>
      rw [none]
      exact ⟨owned,by simp⟩
    next device rest listed =>
      rw [listed,List.length_cons] at enough
      have member : device ∈ s.list.devices := by simp [listed]
      have fewer : ∀ other ∈ rest, other ∈ s.list.devices := by
        intro other inside
        rw [listed]
        exact List.mem_cons_of_mem device inside
      have first := free_owned owned member rest fewer (unplugs turn)
      have list := free_list (s.unlink rest) device (unplugs turn)
      rw [disconnect_head listed]
      have later := ih first.1 (by rw [list]; exact Nat.le_of_succ_le_succ enough)
      refine ⟨later.1,later.2.trans ?_⟩
      rw [list,first.2,and_assoc]
      change _ ∧ _ ∧ (∀ device ∈ rest, device.vhci = false) ↔ _
      rw [listed,List.forall_mem_cons]

theorem disconnectAll_owned (owned : s.Owned) (unplugs : Nat → Bool) :
    (s.remoteDeviceDisconnectAll unplugs).Owned ∧
      (Disciplined touchAllowed (s.remoteDeviceDisconnectAll unplugs).log ↔
        Disciplined touchAllowed s.log ∧
          ∀ device ∈ s.freed (.disconnectAll unplugs), device.vhci = false) := by
  unfold remoteDeviceDisconnectAll freed
  cases s.list.initialized with
  | false => exact ⟨owned,by simp⟩
  | true => exact disconnectLoop_owned owned unplugs _ le_rfl

theorem step_owned (action : ClientCall) (s next : RemoteClient) (owned : s.Owned)
    (taken : step action s = some next) :
    next.Owned ∧ (Disciplined touchAllowed next.log ↔
      Disciplined touchAllowed s.log ∧ SparesAttached action s) := by
  cases action with
  | connect call =>
    obtain ⟨⟨err,after⟩,ended,rfl⟩ := Option.map_eq_some_iff.mp taken
    have connected := connect_owned owned ended
    exact ⟨connected.1,connected.2.trans (by simp [SparesAttached,freed])⟩
  | disconnect device unplug =>
    cases Option.some.inj taken
    exact disconnect_owned owned device unplug
  | disconnectPort port unplug =>
    cases Option.some.inj taken
    simp only [remoteDeviceDisconnectPort,SparesAttached,freed]
    cases s.remoteDeviceFindByPort port with
    | none => exact ⟨owned,by simp⟩
    | some device => exact disconnect_owned owned device.address unplug
  | disconnectAll unplugs =>
    cases Option.some.inj taken
    exact disconnectAll_owned owned unplugs
  | listCleanup unplugs =>
    cases Option.some.inj taken
    have all := disconnectAll_owned owned unplugs
    unfold remoteDeviceListCleanup SparesAttached
    cases ready : s.list.initialized with
    | false => exact ⟨owned,by simp [freed,ready]⟩
    | true => exact ⟨⟨all.1.dialled,all.1.devices⟩,all.2⟩
  | vhciCleanup unplugs =>
    cases Option.some.inj taken
    have distant := vhciCleanup_distant s.vhci unplugs
    have cleaned := owned.append (s.cleanup unplugs) _ rfl rfl le_rfl
      (fun event member => (distant event member).handed) fun event member socket touched => by
        rw [(distant event member).touched] at touched
        cases touched
    exact ⟨cleaned.1,cleaned.2.trans (by simp [SparesAttached,freed])⟩

/-- The sockets given to the driver are left alone from then on, exactly when
no attached device is ever disconnected. -/
theorem hand_over_iff {opened : Bool} {calls : List ClientCall}
    (run : Run step (start opened) calls s) :
    Disciplined touchAllowed s.log ↔ GuardedRun step SparesAttached (start opened) calls s := by
  have owned : (start opened).Owned := ⟨by simp [start,handedOver],by simp [start,remoteDeviceListInit]⟩
  have iff := run.guarded_iff SparesAttached (fun s => Disciplined touchAllowed s.log) Owned
    (fun action s next ok taken => (step_owned action s next ok taken).1)
    (fun action s next ok taken => (step_owned action s next ok taken).2) owned
  rw [iff]
  exact ⟨And.right,fun guarded => ⟨trivial,guarded⟩⟩

theorem start_owned (opened : Bool) : (start opened).Owned :=
  ⟨by simp [start,handedOver],by simp [start,remoteDeviceListInit]⟩

/-- A keyboard is attached and detached again: its socket is shut down and
closed while the driver has it. -/
theorem socket_taken_back : ∃ s,
    Run step (start true) [.connect (keyboardCall 7 true),.disconnect (some 7) true] s ∧
      ¬Disciplined touchAllowed s.log := by
  obtain ⟨s,device,taken,listed,address,asks⟩ := keyboard_attached
  have owned := (step_owned _ _ _ (start_owned true) taken).1
  have back := disconnect_owned owned (some 7) true
  refine ⟨_,.cons _ _ _ _ _ taken (.single _ rfl),?_⟩
  rw [back.2]
  rintro ⟨_,spared⟩
  have found : s.disconnecting (some 7) = some device := by
    simp [disconnecting,listed,Keyed.find,address]
  rw [found] at spared
  exact absurd (asks.symm.trans (spared device (by simp))) (by decide)

theorem hand_over_keyboard : ∃ s : RemoteClient, s.list.devices ≠ [] ∧
    Disciplined touchAllowed s.log := by
  obtain ⟨s,device,taken,listed,_⟩ := keyboard_attached
  have spares : SparesAttached (.connect (keyboardCall 7 true)) (start true) :=
    fun _ member => by cases member
  exact ⟨s,by simp [listed],(hand_over_iff (.single _ taken)).mpr (.cons _ _ _ _ _ spares taken (.nil _))⟩

end RemoteClient

end UsbOverNetwork
