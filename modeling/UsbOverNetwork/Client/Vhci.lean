import UsbOverNetwork.Library.Runs
import UsbOverNetwork.Common.Auth
import UsbOverNetwork.Common.Protocol

/-! The ports of the virtual host controller, and what user mode asks of its
driver and of the sockets. -/
namespace UsbOverNetwork

def vhciMaxPorts : Nat := 8

inductive VhciPortState
  | free
  | connecting
  | connected
  | disconnecting
  | error
deriving DecidableEq, Repr

structure VhciPortInfo where
  portNumber : Fin vhciMaxPorts
  state : VhciPortState
  busid : CString 31
  serverIp : CString 63
  serverPort : UInt16
  devid : UInt32
  speed : UInt32
deriving DecidableEq

def VhciPortInfo.cleared (portNumber : Fin vhciMaxPorts) : VhciPortInfo :=
  ⟨portNumber,.free,.empty,.empty,0,0,0⟩

namespace VhciPortInfo

/-- What `vhci_attach` writes before it turns to the driver. -/
def claim (info : VhciPortInfo) (device : UsbipUsbDevice) (serverIp : Token) (serverPort : UInt16) :
    VhciPortInfo :=
  {info with
    state := .connecting
    busid := .ofBuffer device.busid.toList
    serverIp := .ofBuffer serverIp.chars
    serverPort
    devid := (device.busnum <<< 16) ||| device.devnum
    speed := device.speed}

def release (info : VhciPortInfo) : VhciPortInfo :=
  {info with
    state := .free, busid := .empty, serverIp := .empty, serverPort := 0, devid := 0, speed := 0}

end VhciPortInfo

/-- `driver` tells whether there is a driver handle. After `vhci_cleanup` the
ports are gone, and no function looks at them. -/
structure VhciContext where
  ports : Vector VhciPortInfo vhciMaxPorts
  initialized : Bool
  driver : Bool
deriving DecidableEq

/-- The sockets are numbered in the order in which they are connected. A plug
request does not carry the port it is made for. -/
inductive ClientEvent
  | traffic (socket : Nat)
  | shutdown (socket : Nat)
  | close (socket : Nat)
  | plugin (port : Fin vhciMaxPorts) (socket : Nat) (devid : UInt32) (ok : Bool)
  | unplug (port : Fin vhciMaxPorts) (ok : Bool)
deriving DecidableEq, Repr

namespace VhciContext

def port (ctx : VhciContext) (i : Fin vhciMaxPorts) : VhciPortInfo := ctx.ports[i]

def setPort (ctx : VhciContext) (i : Fin vhciMaxPorts) (info : VhciPortInfo) : VhciContext :=
  {ctx with ports := ctx.ports.set i info}

end VhciContext

/-- `opened` tells whether the driver was found and its handle could be opened. -/
def vhciInit (alloc opened : Bool) : ErrorCode × VhciContext :=
  let ports := Vector.ofFn VhciPortInfo.cleared
  if !alloc then (.outOfMemory,⟨ports,false,false⟩) else (.success,⟨ports,true,opened⟩)

def vhciFindFreePort (ctx : VhciContext) : Int :=
  if !ctx.initialized then -1
  else
    match (List.finRange vhciMaxPorts).find? fun i => (ctx.port i).state = .free with
    | none => -1
    | some i => i.val

def vhciPortAt (port : Int) : Option (Fin vhciMaxPorts) :=
  if inside : 0 ≤ port ∧ port.toNat < vhciMaxPorts then some ⟨port.toNat,inside.2⟩ else none

/-- `vhci_attach`: the events newest first. `plug` is the driver's answer. -/
def vhciAttach (ctx : VhciContext) (port : Int) (socket : Nat) (device : UsbipUsbDevice)
    (serverIp : Token) (serverPort : UInt16) (plug : Bool) :
    ErrorCode × VhciContext × List ClientEvent :=
  if !ctx.initialized then (.invalidParam,ctx,[])
  else
    match vhciPortAt port with
    | none => (.vhciInvalidPort,ctx,[])
    | some i =>
      if (ctx.port i).state ≠ .free then (.deviceBusy,ctx,[])
      else
        let info := (ctx.port i).claim device serverIp serverPort
        if !ctx.driver then (.vhciNotFound,ctx.setPort i {info with state := .error},[])
        else if !plug then
          (.vhciAttachFailed,ctx.setPort i {info with state := .error},
            [.plugin i socket info.devid false])
        else
          (.success,ctx.setPort i {info with state := .connected},
            [.plugin i socket info.devid true])

/-- `vhci_detach`: the driver's answer to the unplug request changes nothing. -/
def vhciDetach (ctx : VhciContext) (port : Int) (unplug : Bool) :
    ErrorCode × VhciContext × List ClientEvent :=
  if !ctx.initialized then (.invalidParam,ctx,[])
  else
    match vhciPortAt port with
    | none => (.vhciInvalidPort,ctx,[])
    | some i =>
      if (ctx.port i).state = .free then (.success,ctx,[])
      else
        let info := {ctx.port i with state := .disconnecting}
        (.success,ctx.setPort i info.release,if ctx.driver then [.unplug i unplug] else [])

/-- The loop of `vhci_detach_all` over the ports from this one on. -/
def vhciDetachPorts (unplugs : Fin vhciMaxPorts → Bool) :
    List (Fin vhciMaxPorts) → VhciContext → VhciContext × List ClientEvent
  | [],ctx => (ctx,[])
  | i::rest,ctx =>
    if (ctx.port i).state ≠ .free then
      let (_,ctx,events) := vhciDetach ctx i.val (unplugs i)
      let (ctx,later) := vhciDetachPorts unplugs rest ctx
      (ctx,later ++ events)
    else vhciDetachPorts unplugs rest ctx

def vhciDetachAll (ctx : VhciContext) (unplugs : Fin vhciMaxPorts → Bool) :
    VhciContext × List ClientEvent :=
  if !ctx.initialized then (ctx,[]) else vhciDetachPorts unplugs (List.finRange vhciMaxPorts) ctx

def vhciCleanup (ctx : VhciContext) (unplugs : Fin vhciMaxPorts → Bool) :
    VhciContext × List ClientEvent :=
  if !ctx.initialized then (ctx,[])
  else
    let (ctx,events) := vhciDetachAll ctx unplugs
    ({ctx with driver := false, initialized := false},events)

/-- The socket that user mode itself acts on. -/
def ClientEvent.touched : ClientEvent → Option Nat
  | .traffic socket => some socket
  | .shutdown socket => some socket
  | .close socket => some socket
  | .plugin .. => none
  | .unplug .. => none

/-- Whether a plug request for the port has succeeded since its last unplug
request, in a history that is newest first. -/
def plugged (i : Fin vhciMaxPorts) : List ClientEvent → Bool
  | [] => false
  | .plugin port _ _ ok::earlier => (port = i && ok) || plugged i earlier
  | .unplug port _::earlier => port ≠ i && plugged i earlier
  | .traffic _::earlier => plugged i earlier
  | .shutdown _::earlier => plugged i earlier
  | .close _::earlier => plugged i earlier

/-- Whether the driver has a device in the port, which it keeps when it refuses
an unplug request. -/
def occupied (i : Fin vhciMaxPorts) : List ClientEvent → Bool
  | [] => false
  | .plugin port _ _ ok::earlier => (port = i && ok) || occupied i earlier
  | .unplug port ok::earlier => !(port = i && ok) && occupied i earlier
  | .traffic _::earlier => occupied i earlier
  | .shutdown _::earlier => occupied i earlier
  | .close _::earlier => occupied i earlier

def ClientEvent.handed : ClientEvent → Option Nat
  | .traffic _ => none
  | .shutdown _ => none
  | .close _ => none
  | .plugin _ socket _ ok => if ok then some socket else none
  | .unplug .. => none

def handedOver (socket : Nat) (log : List ClientEvent) : Prop :=
  ∃ event ∈ log, event.handed = some socket

section Ports

variable {ctx : VhciContext} {i j : Fin vhciMaxPorts} {info other : VhciPortInfo}

namespace VhciContext

@[simp] theorem setPort_driver : (ctx.setPort i info).driver = ctx.driver := rfl

theorem port_setPort : (ctx.setPort i info).port j = if i = j then info else ctx.port j := by
  simp only [port,setPort,Fin.getElem_fin,Vector.getElem_set,Fin.ext_iff]

@[simp] theorem port_setPort_same : (ctx.setPort i info).port i = info := by
  rw [port_setPort,if_pos rfl]

theorem setPort_setPort : (ctx.setPort i info).setPort i other = ctx.setPort i other := by
  simp only [setPort,Vector.set_set]

theorem setPort_port : ctx.setPort i (ctx.port i) = ctx := by
  simp only [setPort,port,Fin.getElem_fin,Vector.set_getElem_self]

end VhciContext

@[simp] theorem vhciPortAt_val (i : Fin vhciMaxPorts) : vhciPortAt i.val = some i := by
  simp [vhciPortAt]

theorem vhciPortAt_some {port : Int} (found : vhciPortAt port = some i) : port = i.val := by
  unfold vhciPortAt at found
  split at found
  next inside =>
    cases found
    exact (Int.toNat_of_nonneg inside.1).symm
  next => cases found

theorem vhciFindFreePort_cases (ctx : VhciContext) :
    vhciFindFreePort ctx = -1 ∨ ∃ i : Fin vhciMaxPorts, vhciFindFreePort ctx = i.val ∧
      ctx.initialized ∧ (ctx.port i).state = .free := by
  unfold vhciFindFreePort
  cases ready : ctx.initialized with
  | false => exact Or.inl rfl
  | true =>
    simp only [Bool.not_true,Bool.false_eq_true,if_false]
    split
    next => exact Or.inl rfl
    next i found => exact Or.inr ⟨i,rfl,trivial,by simpa using List.find?_some found⟩

theorem vhciAttach_free (ready : ctx.initialized) (free : (ctx.port i).state = .free) (socket : Nat)
    (device : UsbipUsbDevice) (serverIp : Token) (serverPort : UInt16) (plug : Bool) :
    vhciAttach ctx i.val socket device serverIp serverPort plug =
      let info := (ctx.port i).claim device serverIp serverPort
      if !ctx.driver then (.vhciNotFound,ctx.setPort i {info with state := .error},[])
      else if !plug then
        (.vhciAttachFailed,ctx.setPort i {info with state := .error},
          [.plugin i socket info.devid false])
      else
        (.success,ctx.setPort i {info with state := .connected},
          [.plugin i socket info.devid true]) := by
  simp only [vhciAttach,ready,vhciPortAt_val,free,Bool.not_true,Bool.false_eq_true,if_false,ne_eq,
    not_true_eq_false]

theorem vhciDetach_taken (ready : ctx.initialized) (taken : (ctx.port i).state ≠ .free)
    (unplug : Bool) : vhciDetach ctx i.val unplug =
      (.success,ctx.setPort i (ctx.port i).release,
        if ctx.driver then [.unplug i unplug] else []) := by
  simp only [vhciDetach,ready,vhciPortAt_val,taken,Bool.not_true,Bool.false_eq_true,if_false]
  rfl

theorem vhciDetach_cases (ctx : VhciContext) (port : Int) (unplug : Bool) :
    (∃ i : Fin vhciMaxPorts, port = i.val ∧ ctx.initialized ∧ (ctx.port i).state ≠ .free ∧
      (vhciDetach ctx port unplug).2 = (ctx.setPort i (ctx.port i).release,
        if ctx.driver then [.unplug i unplug] else [])) ∨
      (vhciDetach ctx port unplug).2 = (ctx,[]) := by
  cases ready : ctx.initialized with
  | false =>
    right
    simp [vhciDetach,ready]
  | true =>
    cases found : vhciPortAt port with
    | none =>
      right
      simp [vhciDetach,ready,found]
    | some i =>
      have here := vhciPortAt_some found
      subst here
      by_cases free : (ctx.port i).state = .free
      · right
        simp [vhciDetach,ready,free]
      · exact Or.inl ⟨i,rfl,rfl,free,by rw [vhciDetach_taken ready free]⟩

end Ports

section Plugging

variable {ctx : VhciContext} {i : Fin vhciMaxPorts} {log net : List ClientEvent}

/-- An unplug request is for a port that is plugged. -/
def plugAllowed : ClientEvent → List ClientEvent → Prop
  | .unplug port _,earlier => plugged port earlier = true
  | .traffic _,_ => True
  | .shutdown _,_ => True
  | .close _,_ => True
  | .plugin ..,_ => True

theorem plugged_network (network : ∀ event ∈ net, event.touched ≠ none) :
    plugged i (net ++ log) = plugged i log := by
  induction net with
  | nil => rfl
  | cons event rest ih =>
    have tail := ih fun other member => network other (List.mem_cons_of_mem _ member)
    have head := network event List.mem_cons_self
    cases event with
    | traffic socket => exact tail
    | shutdown socket => exact tail
    | close socket => exact tail
    | plugin port socket devid ok => exact absurd rfl head
    | unplug port ok => exact absurd rfl head

theorem disciplined_network (network : ∀ event ∈ net, event.touched ≠ none) :
    Runs.Disciplined plugAllowed (net ++ log) ↔ Runs.Disciplined plugAllowed log := by
  refine Runs.disciplined_append fun between event after split => ?_
  have head := network event (by simp [split])
  cases event with
  | traffic socket => trivial
  | shutdown socket => trivial
  | close socket => trivial
  | plugin port socket devid ok => trivial
  | unplug port ok => exact absurd rfl head

/-- Between calls the ports in use are the plugged ones. -/
def VhciContext.Wired (ctx : VhciContext) (log : List ClientEvent) : Prop :=
  ctx.initialized → ∀ i, ((ctx.port i).state = .free ∧ plugged i log = false) ∨
    ((ctx.port i).state = .connected ∧ plugged i log = true ∧ ctx.driver = true)

structure VhciContext.Rewired (next : VhciContext) (log earlier : List ClientEvent) : Prop where
  wired : next.Wired log
  disciplined : Runs.Disciplined plugAllowed log ↔ Runs.Disciplined plugAllowed earlier

theorem VhciContext.Rewired.trans {next : VhciContext} {later log earlier : List ClientEvent}
    (second : next.Rewired later log) (first : ctx.Rewired log earlier) :
    next.Rewired later earlier :=
  ⟨second.wired,second.disciplined.trans first.disciplined⟩

theorem VhciContext.Rewired.harmless {log earlier : List ClientEvent} {guard : Prop}
    (rewired : ctx.Rewired log earlier) (allowed : guard) :
    ctx.Wired log ∧ (Runs.Disciplined plugAllowed log ↔
      Runs.Disciplined plugAllowed earlier ∧ guard) :=
  ⟨rewired.wired,rewired.disciplined.trans ⟨fun old => ⟨old,allowed⟩,And.left⟩⟩

namespace VhciContext.Wired

theorem same (wired : ctx.Wired log) : ctx.Rewired log log := ⟨wired,Iff.rfl⟩

theorem network (wired : ctx.Wired log) (network : ∀ event ∈ net, event.touched ≠ none) :
    ctx.Rewired (net ++ log) log := by
  refine ⟨fun ready i => ?_,disciplined_network network⟩
  rw [plugged_network network]
  exact wired ready i

theorem detach (wired : ctx.Wired log) (port : Int) (unplug : Bool) :
    (vhciDetach ctx port unplug).2.1.Rewired ((vhciDetach ctx port unplug).2.2 ++ log) log := by
  rcases vhciDetach_cases ctx port unplug with ⟨i,_,ready,taken,detached⟩ | unmoved
  · obtain ⟨free,_⟩ | ⟨_,plug,driver⟩ := wired ready i
    · exact absurd free taken
    · rw [detached,if_pos driver]
      refine ⟨fun _ j => ?_,⟨And.right,fun old => ⟨plug,old⟩⟩⟩
      rw [port_setPort]
      by_cases same : i = j
      · exact Or.inl ⟨by rw [if_pos same]; rfl,by simp [plugged,same]⟩
      · rw [if_neg same]
        simpa [plugged,same] using wired ready j
  · rw [unmoved]
    exact wired.same

theorem detachPorts (wired : ctx.Wired log) (unplugs : Fin vhciMaxPorts → Bool)
    (ports : List (Fin vhciMaxPorts)) :
    (vhciDetachPorts unplugs ports ctx).1.Rewired
      ((vhciDetachPorts unplugs ports ctx).2 ++ log) log := by
  induction ports generalizing ctx log with
  | nil => exact wired.same
  | cons i rest ih =>
    unfold vhciDetachPorts
    split
    · have first := wired.detach i.val (unplugs i)
      have later := ih first.wired
      simp only [List.append_assoc]
      exact later.trans first
    · exact ih wired

theorem release (wired : ctx.Wired log) (free : (ctx.port i).state = .free) :
    (ctx.setPort i (ctx.port i).release).Wired log := by
  intro ready j
  rw [port_setPort]
  by_cases same : i = j
  · subst same
    obtain ⟨_,unplugged⟩ | ⟨connected,_⟩ := wired ready i
    · exact Or.inl ⟨by rw [if_pos rfl]; rfl,unplugged⟩
    · rw [free] at connected
      cases connected
  · rw [if_neg same]
    exact wired ready j

theorem unplugged (wired : ctx.Wired log) (ready : ctx.initialized = true)
    (free : (ctx.port i).state = .free) : plugged i log = false := by
  obtain ⟨_,unplugged⟩ | ⟨connected,_⟩ := wired ready i
  · exact unplugged
  · rw [free] at connected
    cases connected

theorem plug (wired : ctx.Wired log) (driver : ctx.driver = true) (info : VhciPortInfo)
    (connected : info.state = .connected) (socket : Nat) (devid : UInt32) :
    (ctx.setPort i info).Rewired (.plugin i socket devid true::log) log := by
  refine ⟨fun ready j => ?_,And.right,fun old => ⟨trivial,old⟩⟩
  rw [port_setPort]
  by_cases same : i = j
  · exact Or.inr ⟨by rw [if_pos same,connected],by simp [plugged,same],driver⟩
  · rw [if_neg same]
    simpa [plugged,same] using wired ready j

theorem refuse (wired : ctx.Wired log) (ready : ctx.initialized = true)
    (free : (ctx.port i).state = .free)
    (network : ∀ event ∈ net, event.touched ≠ none) (socket : Nat) (devid : UInt32) (ok : Bool) :
    (ctx.setPort i (ctx.port i).release).Wired
        (.unplug i ok::(net ++ .plugin i socket devid false::log)) ∧
      ¬Runs.Disciplined plugAllowed (.unplug i ok::(net ++ .plugin i socket devid false::log)) := by
  constructor
  · intro _ j
    rw [port_setPort]
    by_cases same : i = j
    · exact Or.inl ⟨by rw [if_pos same]; rfl,by simp [plugged,same]⟩
    · rw [if_neg same]
      simpa [plugged,plugged_network network,same] using wired ready j
  · rintro ⟨allowed,_⟩
    simp [plugAllowed,plugged,plugged_network network,wired.unplugged ready free] at allowed

theorem cleanup (wired : ctx.Wired log) (unplugs : Fin vhciMaxPorts → Bool) :
    (vhciCleanup ctx unplugs).1.Rewired ((vhciCleanup ctx unplugs).2 ++ log) log := by
  unfold vhciCleanup vhciDetachAll
  cases ready : ctx.initialized with
  | false => exact wired.same
  | true =>
    have detached := wired.detachPorts unplugs (List.finRange vhciMaxPorts)
    exact ⟨fun ready => absurd ready Bool.false_ne_true,detached.disciplined⟩

end VhciContext.Wired

end Plugging

section Sockets

variable {log recent : List ClientEvent} {socket : Nat}

/-- User mode acts on a socket only before the driver has it. -/
def touchAllowed (event : ClientEvent) (earlier : List ClientEvent) : Prop :=
  ∀ socket, event.touched = some socket → ¬handedOver socket earlier

theorem handed_of_touched {event : ClientEvent} (touched : event.touched = some socket) :
    event.handed = none := by
  cases event with
  | traffic other => rfl
  | shutdown other => rfl
  | close other => rfl
  | plugin port other devid ok => cases touched
  | unplug port ok => cases touched

theorem handedOver_append (keeps : ∀ event ∈ recent, event.handed = none) :
    handedOver socket (recent ++ log) ↔ handedOver socket log := by
  constructor
  · rintro ⟨event,member,handed⟩
    rcases List.mem_append.mp member with inside | inside
    · rw [keeps event inside] at handed
      cases handed
    · exact ⟨event,inside,handed⟩
  · rintro ⟨event,member,handed⟩
    exact ⟨event,List.mem_append_right _ member,handed⟩

theorem untouched_append (keeps : ∀ event ∈ recent, event.handed = none)
    (spares : ∀ event ∈ recent, ∀ socket, event.touched = some socket → ¬handedOver socket log) :
    Runs.Disciplined touchAllowed (recent ++ log) ↔ Runs.Disciplined touchAllowed log := by
  refine Runs.disciplined_append fun between event after split socket touched => ?_
  have older : ∀ other ∈ between, other.handed = none :=
    fun other member => keeps other (by simp [split,member])
  rw [handedOver_append older]
  exact spares event (by simp [split]) socket touched

structure ClientEvent.Distant (event : ClientEvent) : Prop where
  touched : event.touched = none
  handed : event.handed = none

theorem vhciDetach_distant (ctx : VhciContext) (port : Int) (unplug : Bool) :
    ∀ event ∈ (vhciDetach ctx port unplug).2.2, event.Distant := by
  rcases vhciDetach_cases ctx port unplug with ⟨i,_,_,_,detached⟩ | unmoved
  · rw [detached]
    intro event member
    split at member
    · cases List.mem_singleton.mp member
      exact ⟨rfl,rfl⟩
    · cases member
  · simp [unmoved]

theorem vhciDetachPorts_distant (ctx : VhciContext) (unplugs : Fin vhciMaxPorts → Bool)
    (ports : List (Fin vhciMaxPorts)) :
    ∀ event ∈ (vhciDetachPorts unplugs ports ctx).2, event.Distant := by
  induction ports generalizing ctx with
  | nil => simp [vhciDetachPorts]
  | cons i rest ih =>
    unfold vhciDetachPorts
    split
    · intro event member
      rcases List.mem_append.mp member with inside | inside
      · exact ih _ event inside
      · exact vhciDetach_distant ctx i.val (unplugs i) event inside
    · exact ih ctx

theorem vhciCleanup_distant (ctx : VhciContext) (unplugs : Fin vhciMaxPorts → Bool) :
    ∀ event ∈ (vhciCleanup ctx unplugs).2, event.Distant := by
  unfold vhciCleanup vhciDetachAll
  cases ctx.initialized with
  | false => simp
  | true => exact vhciDetachPorts_distant ctx unplugs (List.finRange vhciMaxPorts)

end Sockets

end UsbOverNetwork
