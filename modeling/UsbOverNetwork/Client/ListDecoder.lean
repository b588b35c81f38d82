import UsbOverNetwork.Client.RemoteDevice
import UsbOverNetwork.Common.Auth

/-! `remote_server_list_devices` on whatever a server sends, with the caller's
array as the memory it writes to. -/
namespace UsbOverNetwork
open Bytes

/-- The memory from `devices` on, as an array without an end. -/
abbrev DeviceArray := Nat → UsbipUsbDevice

/-- What a call is given and how its connection attempt ends; `none` is a NULL
pointer. -/
structure ListCall where
  serverIp : Option Token
  serverPort : UInt16
  devices : Option DeviceArray
  deviceCount : Option Int
  maxDevices : Int
  token : Option Token
  socket : Option Socket

/-- A receive that fails has stored the bytes that did arrive. -/
def partialRecord (arrived : List UInt8) (old : UsbipUsbDevice) : UsbipUsbDevice :=
  .ofImage (arrived ++ old.image.drop arrived.length)

/-- The loop of `remote_server_list_devices`. -/
def storeDevices (maxDevices : Int) :
    Nat → DeviceArray → Nat → Socket → Option (DeviceArray × Nat × Socket)
  | 0,devices,count,socket => some (devices,count,socket)
  | remaining+1,devices,count,socket =>
    if (count : Int) < maxDevices then
      match usbipRecvDevice socket with
      | none => none
      | some (.error _,next) =>
        some (Function.update devices count (partialRecord socket.stream (devices count)),count,next)
      | some (.ok dev,socket) =>
        match skipInterfaces dev.bNumInterfaces.toNat socket with
        | none => none
        | some socket =>
          storeDevices maxDevices remaining (Function.update devices count dev) (count+1) socket
    else some (devices,count,socket)

namespace ListCall

def handshake (call : ListCall) (socket : Socket) : ErrorCode × Socket :=
  if authIsEnabled call.token then authClientHandshake socket call.token else (.success,socket)

/-- `remote_server_list_devices`. The call that is returned carries the
caller's memory; `none` while the server keeps it waiting. -/
def remoteServerListDevices (call : ListCall) : Option (ErrorCode × ListCall) :=
  match call.serverIp,call.devices,call.deviceCount with
  | some _,some devices,some _ =>
    let call := {call with deviceCount := some 0}
    match call.socket with
    | none => some (.socketConnect,call)
    | some socket =>
      match call.handshake socket with
      | (.success,socket) =>
        match sendExact socket (usbipPackHeaderBasic usbipCreateDevlistRequest).image with
        | (.success,socket) =>
          match usbipRecvHeaderBasic socket with
          | none => none
          | some (.error _,_) => some (.socketRecv,call)
          | some (.ok reply,socket) =>
            if reply.status ≠ usbipStOk then some (.protocolInvalid,call)
            else
              match recvExact socket 4 fun bytes => be32toh (read32 bytes 0) with
              | none => none
              | some (.error _,_) => some (.socketRecv,call)
              | some (.ok ndev,socket) =>
                match storeDevices call.maxDevices ndev.toNat devices 0 socket with
                | none => none
                | some (devices,count,_) =>
                  some (.success,{call with devices := some devices, deviceCount := some count})
        | _ => some (.socketSend,call)
      | (err,_) => some (err,call)
  | _,_,_ => some (.invalidParam,call)

end ListCall

/-- The complete records at the front of a stream, at most so many of them. A
record says how many interface records lie between it and the next. -/
def walkRecords : Nat → List UInt8 → List UsbipUsbDevice
  | 0,_ => []
  | limit+1,bytes =>
    if bytes.length < UsbipUsbDevice.size then []
    else
      let dev := usbipUnpackDevice (.ofImage (bytes.take UsbipUsbDevice.size))
      dev::walkRecords limit
        (bytes.drop (UsbipUsbDevice.size + UsbipUsbInterface.size * dev.bNumInterfaces.toNat))

/-- The stream holds every byte that a walk over so many records asks for, the
last one's interfaces included. -/
def walkHeld : Nat → List UInt8 → Bool
  | 0,_ => true
  | limit+1,bytes =>
    let dev := usbipUnpackDevice (.ofImage (bytes.take UsbipUsbDevice.size))
    let step := UsbipUsbDevice.size + UsbipUsbInterface.size * dev.bNumInterfaces.toNat
    step ≤ bytes.length && walkHeld limit (bytes.drop step)

/-- The stream holds every byte that the exchange asks for: a header and, when
the header is accepted, the count and the walk. -/
def replyHeld (maxDevices : Nat) (bytes : List UInt8) : Bool :=
  let reply := usbipUnpackHeaderBasic (.ofImage (bytes.take UsbipHeaderBasic.size))
  let behind := bytes.drop UsbipHeaderBasic.size
  let ndev := be32toh (read32 (behind.take 4) 0)
  UsbipHeaderBasic.size ≤ bytes.length && (reply.status ≠ usbipStOk ||
    4 ≤ behind.length && walkHeld (min ndev.toNat maxDevices) (behind.drop 4))

theorem walkRecords_packed (limit : Nat) (dev : UsbipUsbDevice) (rest : List UInt8) :
    walkRecords (limit+1) ((usbipPackDevice dev).image ++ rest) =
      dev::walkRecords limit (rest.drop (UsbipUsbInterface.size * dev.bNumInterfaces.toNat)) := by
  have size : (usbipPackDevice dev).image.length = UsbipUsbDevice.size :=
    deviceCodec_lawful.size_encode dev
  have long : ¬((usbipPackDevice dev).image ++ rest).length < UsbipUsbDevice.size := by
    rw [List.length_append]
    omega
  have read : usbipUnpackDevice (.ofImage (usbipPackDevice dev).image) = dev :=
    deviceCodec_lawful.decode_encode dev
  rw [walkRecords,if_neg long,List.take_left' size,read]
  dsimp only
  rw [← List.drop_drop,List.drop_left' size]

section Streams

variable {socket next : Socket}

theorem skipInterfaces_stream {number : Nat} (skipped : skipInterfaces number socket = some next) :
    next.stream = socket.stream.drop (UsbipUsbInterface.size * number) ∧
      next.ending = socket.ending := by
  induction number generalizing socket with
  | zero =>
    cases skipped
    exact ⟨rfl,rfl⟩
  | succ remaining ih =>
    simp only [skipInterfaces,usbipRecvInterface] at skipped
    by_cases enough : UsbipUsbInterface.size ≤ socket.stream.length
    · obtain ⟨middle,read,left,ending⟩ := recvExact_enough socket _ UsbipUsbInterface.ofImage enough
      simp only [read] at skipped
      obtain ⟨behind,same⟩ := ih skipped
      refine ⟨?_,same.trans ending⟩
      rw [behind,left,List.drop_drop,Nat.mul_succ,Nat.add_comm]
    · rw [recvExact_fewer socket _ _ (by omega)] at skipped
      by_cases silent : socket.ending = .silent
      · rw [if_pos silent] at skipped
        cases skipped
      · rw [if_neg silent] at skipped
        cases skipped
        refine ⟨?_,rfl⟩
        rw [Nat.mul_succ,List.drop_of_length_le (by omega)]
        rfl

theorem recvExact_returns {α : Type} (socket : Socket) (len : Nat) (decode : List UInt8 → α) :
    (recvExact socket len decode).isSome = true ↔
      socket.ending ≠ .silent ∨ len ≤ socket.stream.length := by
  by_cases enough : len ≤ socket.stream.length
  · obtain ⟨next,read,_⟩ := recvExact_enough socket len decode enough
    rw [read]
    exact iff_of_true rfl (Or.inr enough)
  · rw [recvExact_fewer socket len decode (by omega)]
    split
    next silent => exact iff_of_false Bool.false_ne_true (not_or.mpr ⟨not_not.mpr silent,enough⟩)
    next ended => exact iff_of_true rfl (Or.inl ended)

theorem skipInterfaces_returns (number : Nat) (socket : Socket) :
    (skipInterfaces number socket).isSome = true ↔
      socket.ending ≠ .silent ∨ UsbipUsbInterface.size * number ≤ socket.stream.length := by
  induction number generalizing socket with
  | zero => exact iff_of_true rfl (Or.inr (Nat.zero_le _))
  | succ remaining ih =>
    rw [Nat.mul_succ]
    simp only [skipInterfaces,usbipRecvInterface]
    by_cases enough : UsbipUsbInterface.size ≤ socket.stream.length
    · obtain ⟨middle,read,left,ending⟩ := recvExact_enough socket _ UsbipUsbInterface.ofImage enough
      simp only [read]
      rw [ih,ending,left,List.length_drop,Nat.le_sub_iff_add_le enough]
    · rw [recvExact_fewer socket _ _ (by omega)]
      by_cases silent : socket.ending = .silent
      · rw [if_pos silent]
        refine iff_of_false Bool.false_ne_true (not_or.mpr ⟨not_not.mpr silent,?_⟩)
        omega
      · rw [if_neg silent]
        exact iff_of_true rfl (Or.inl silent)

theorem recvDevices_walk {maxDevices remaining : Nat} {got devices : List UsbipUsbDevice}
    (received : recvDevices maxDevices remaining got socket = some (devices,next)) :
    devices = got ++ walkRecords (min remaining (maxDevices - got.length)) socket.stream := by
  induction remaining generalizing got socket with
  | zero =>
    cases received
    simp [walkRecords]
  | succ remaining ih =>
    simp only [recvDevices,usbipRecvDevice] at received
    by_cases room : got.length < maxDevices
    · rw [if_pos room] at received
      obtain ⟨space,enough⟩ : ∃ space, maxDevices - got.length = space+1 :=
        ⟨maxDevices - got.length - 1,by omega⟩
      rw [enough,Nat.add_min_add_right,walkRecords]
      by_cases whole : UsbipUsbDevice.size ≤ socket.stream.length
      · obtain ⟨middle,read,left,_⟩ := recvExact_enough socket _
          (fun bytes => usbipUnpackDevice (.ofImage bytes)) whole
        rw [if_neg (by omega)]
        simp only [read] at received
        generalize usbipUnpackDevice (.ofImage (socket.stream.take UsbipUsbDevice.size)) = dev
          at received
        cases skipped : skipInterfaces dev.bNumInterfaces.toNat middle with
        | none =>
          rw [skipped] at received
          cases received
        | some behind =>
          rw [skipped] at received
          have kept := ih received
          have space_left : maxDevices - (got ++ [dev]).length = space := by
            rw [List.length_append,List.length_singleton]
            omega
          rw [space_left,(skipInterfaces_stream skipped).1,left,List.drop_drop] at kept
          rw [kept,List.append_assoc]
          rfl
      · rw [if_pos (by omega)]
        rw [recvExact_fewer socket _ _ (by omega)] at received
        by_cases silent : socket.ending = .silent
        · rw [if_pos silent] at received
          cases received
        · rw [if_neg silent] at received
          cases received
          simp
    · rw [if_neg room] at received
      have full : maxDevices - got.length = 0 := by omega
      cases received
      simp [full,walkRecords]

/-- The loop waits for ever exactly when the server goes silent within what it
walks over. -/
theorem recvDevices_returns (maxDevices remaining : Nat) (got : List UsbipUsbDevice)
    (socket : Socket) : (recvDevices maxDevices remaining got socket).isSome = true ↔
      socket.ending ≠ .silent ∨
        walkHeld (min remaining (maxDevices - got.length)) socket.stream = true := by
  induction remaining generalizing got socket with
  | zero => exact iff_of_true rfl (Or.inr (by rw [Nat.zero_min,walkHeld]))
  | succ remaining ih =>
    simp only [recvDevices,usbipRecvDevice]
    by_cases room : got.length < maxDevices
    · obtain ⟨space,enough⟩ : ∃ space, maxDevices - got.length = space+1 :=
        ⟨maxDevices - got.length - 1,by omega⟩
      rw [if_pos room,enough,Nat.add_min_add_right,walkHeld]
      by_cases whole : UsbipUsbDevice.size ≤ socket.stream.length
      · obtain ⟨middle,read,left,ending⟩ := recvExact_enough socket _
          (fun bytes => usbipUnpackDevice (.ofImage bytes)) whole
        simp only [read]
        generalize usbipUnpackDevice (.ofImage (socket.stream.take UsbipUsbDevice.size)) = dev
        have skips := skipInterfaces_returns dev.bNumInterfaces.toNat middle
        rw [ending,left,List.length_drop,Nat.le_sub_iff_add_le' whole] at skips
        rw [Bool.and_eq_true,decide_eq_true_eq]
        cases skipped : skipInterfaces dev.bNumInterfaces.toNat middle with
        | none =>
          rw [skipped] at skips
          have stuck := not_or.mp (mt skips.mpr Bool.false_ne_true)
          exact iff_of_false Bool.false_ne_true (not_or.mpr ⟨stuck.1,fun held => stuck.2 held.1⟩)
        | some behind =>
          rw [skipped] at skips
          have space_left : maxDevices - (got ++ [dev]).length = space := by
            rw [List.length_append,List.length_singleton]
            omega
          obtain ⟨stream,same⟩ := skipInterfaces_stream skipped
          have later := ih (got ++ [dev]) behind
          rw [space_left,stream,same,ending,left,List.drop_drop] at later
          have reached := skips.mp rfl
          rw [later]
          tauto
      · rw [recvExact_fewer socket _ _ (by omega)]
        by_cases silent : socket.ending = .silent
        · rw [if_pos silent]
          refine iff_of_false Bool.false_ne_true (not_or.mpr ⟨not_not.mpr silent,?_⟩)
          rw [Bool.and_eq_true,decide_eq_true_eq]
          omega
        · rw [if_neg silent]
          exact iff_of_true rfl (Or.inl silent)
    · have full : maxDevices - got.length = 0 := by omega
      rw [if_neg room,full,Nat.min_zero]
      exact iff_of_true rfl (Or.inr (by rw [walkHeld]))

end Streams

/-- `stored` is what becomes of `memory` when the records are written to its
front, at most `maxDevices` of them. -/
structure DeviceArray.Holds (memory stored : DeviceArray) (maxDevices : Int)
    (records : List UsbipUsbDevice) : Prop where
  records : (List.range records.length).map stored = records
  beyond : ∀ i : Nat, maxDevices ≤ i → stored i = memory i

theorem DeviceArray.map_update (memory : DeviceArray) {count i : Nat} (later : count ≤ i)
    (dev : UsbipUsbDevice) :
    (List.range count).map (Function.update memory i dev) = (List.range count).map memory := by
  refine List.map_congr_left fun j member => ?_
  have earlier := List.mem_range.mp member
  exact Function.update_of_ne (by omega) _ _

theorem DeviceArray.Holds.keep {memory stored : DeviceArray} {maxDevices : Int}
    {records : List UsbipUsbDevice} (holds : memory.Holds stored maxDevices records)
    (room : (records.length : Int) < maxDevices) (dev : UsbipUsbDevice) :
    memory.Holds (Function.update stored records.length dev) maxDevices records := by
  constructor
  · rw [DeviceArray.map_update _ le_rfl,holds.records]
  · intro i outside
    rw [Function.update_of_ne (by omega),holds.beyond i outside]

theorem DeviceArray.Holds.push {memory stored : DeviceArray} {maxDevices : Int}
    {records : List UsbipUsbDevice} (holds : memory.Holds stored maxDevices records)
    (room : (records.length : Int) < maxDevices) (dev : UsbipUsbDevice) :
    memory.Holds (Function.update stored records.length dev) maxDevices (records ++ [dev]) := by
  obtain ⟨kept,beyond⟩ := holds.keep room dev
  refine ⟨?_,beyond⟩
  rw [List.length_append,List.length_singleton,List.range_succ,List.map_append,kept,List.map_singleton,
    Function.update_self]

theorem storeDevices_records {memory stored : DeviceArray} {maxDevices : Int}
    {got : List UsbipUsbDevice} (holds : memory.Holds stored maxDevices got) (remaining : Nat)
    (socket : Socket) :
    match recvDevices maxDevices.toNat remaining got socket with
    | none => storeDevices maxDevices remaining stored got.length socket = none
    | some (devices,_) => ∃ after next,
        storeDevices maxDevices remaining stored got.length socket =
          some (after,devices.length,next) ∧ memory.Holds after maxDevices devices := by
  induction remaining generalizing stored got socket with
  | zero => exact ⟨stored,socket,rfl,holds⟩
  | succ remaining ih =>
    simp only [recvDevices,storeDevices]
    by_cases room : (got.length : Int) < maxDevices
    · rw [if_pos room,if_pos (show got.length < maxDevices.toNat by omega)]
      cases read : usbipRecvDevice socket with
      | none => rfl
      | some received =>
        obtain ⟨result,middle⟩ := received
        cases result with
        | error err => exact ⟨_,_,rfl,holds.keep room _⟩
        | ok dev =>
          dsimp only
          cases skipped : skipInterfaces dev.bNumInterfaces.toNat middle with
          | none => rfl
          | some behind =>
            have step := ih (holds.push room dev) behind
            rw [List.length_append,List.length_singleton] at step
            exact step
    · rw [if_neg room,if_neg (show ¬got.length < maxDevices.toNat by omega)]
      exact ⟨stored,socket,rfl,holds⟩

theorem authClientHandshake_sameInput (socket : Socket) (token : Option Token) :
    socket.SameInput (authClientHandshake socket token).2 := by
  simp only [authClientHandshake]
  split
  · exact ⟨rfl,rfl⟩
  · split <;> exact ⟨rfl,rfl⟩

namespace ListCall

theorem handshake_sameInput (call : ListCall) (socket : Socket) :
    socket.SameInput (call.handshake socket).2 := by
  simp only [handshake]
  split
  · exact authClientHandshake_sameInput _ _
  · exact ⟨rfl,rfl⟩

structure Requests (call : ListCall) (socket : Socket) : Prop where
  serverIp : call.serverIp.isSome = true
  devices : call.devices.isSome = true
  deviceCount : call.deviceCount.isSome = true
  connected : call.socket = some socket
  sent : ∃ greeted, call.handshake socket = (.success,greeted) ∧
    (sendExact greeted (usbipPackHeaderBasic usbipCreateDevlistRequest).image).1 = .success

/-- Where the request goes out, the server does not go silent before it has
sent all that the call reads. -/
def Answered (call : ListCall) : Prop :=
  ∀ socket, call.Requests socket →
    socket.ending ≠ .silent ∨ replyHeld call.maxDevices.toNat socket.stream = true

def Received (call : ListCall) (ndev : UInt32) (rest : List UInt8) : Prop :=
  ∃ socket header, call.Requests socket ∧ header.status = usbipStOk ∧
    socket.stream = (usbipPackHeaderBasic header).image ++ (image32 (htobe32 ndev) ++ rest)

variable {call : ListCall}

theorem remoteServerListDevices_exchange {serverIp : Token} {memory : DeviceArray} {count : Int}
    {socket greeted : Socket} (ip : call.serverIp = some serverIp) (devices : call.devices = some memory)
    (counter : call.deviceCount = some count) (connected : call.socket = some socket)
    (shaken : call.handshake socket = (.success,greeted)) :
    match UsbOverNetwork.remoteServerListDevices greeted call.maxDevices.toNat with
    | none => call.remoteServerListDevices = none
    | some (err,records,_) => ∃ stored, memory.Holds stored call.maxDevices records ∧
        call.remoteServerListDevices = some (err,{call with
          devices := some stored, deviceCount := some records.length}) := by
  obtain ⟨_,serverPort,_,_,maxDevices,token,_⟩ := call
  cases ip
  cases devices
  cases counter
  cases connected
  have empty : memory.Holds memory maxDevices [] := ⟨rfl,fun _ _ => rfl⟩
  have greeting : (⟨some serverIp,serverPort,some memory,some 0,maxDevices,token,some socket⟩ :
    ListCall).handshake socket = (.success,greeted) := shaken
  simp only [UsbOverNetwork.remoteServerListDevices,remoteServerListDevices,greeting]
  generalize sendExact greeted (usbipPackHeaderBasic usbipCreateDevlistRequest).image = asked
  obtain ⟨err,middle⟩ := asked
  by_cases sent : err = .success
  · subst sent
    dsimp only
    cases answered : usbipRecvHeaderBasic middle with
    | none => rfl
    | some answer =>
      obtain ⟨reply,after⟩ := answer
      cases reply with
      | error _ => exact ⟨memory,empty,rfl⟩
      | ok reply =>
        dsimp only
        by_cases refused : reply.status ≠ usbipStOk
        · rw [if_pos refused,if_pos refused]
          exact ⟨memory,empty,rfl⟩
        · rw [if_neg refused,if_neg refused]
          cases counted : recvExact after 4 fun bytes => be32toh (read32 bytes 0) with
          | none => rfl
          | some number =>
            obtain ⟨ndev,last⟩ := number
            cases ndev with
            | error _ => exact ⟨memory,empty,rfl⟩
            | ok ndev =>
              dsimp only
              have loop := storeDevices_records empty ndev.toNat last
              cases received : recvDevices maxDevices.toNat ndev.toNat [] last with
              | none =>
                rw [received] at loop
                rw [List.length_nil] at loop
                simp only [loop]
              | some outcome =>
                obtain ⟨records,rest⟩ := outcome
                rw [received] at loop
                obtain ⟨stored,next,done,holds⟩ := loop
                rw [List.length_nil] at done
                refine ⟨stored,holds,?_⟩
                simp only [done]
  · cases err <;> first | exact absurd rfl sent | exact ⟨memory,empty,rfl⟩

def Asks (call : ListCall) : Prop :=
  ∃ serverIp memory count socket greeted, call.serverIp = some serverIp ∧ call.devices = some memory ∧
    call.deviceCount = some count ∧ call.socket = some socket ∧
    call.handshake socket = (.success,greeted)

theorem Requests.asks {socket : Socket} (requests : call.Requests socket) : call.Asks := by
  obtain ⟨serverIp,ip⟩ := Option.isSome_iff_exists.mp requests.serverIp
  obtain ⟨memory,devices⟩ := Option.isSome_iff_exists.mp requests.devices
  obtain ⟨count,counter⟩ := Option.isSome_iff_exists.mp requests.deviceCount
  obtain ⟨greeted,shaken,_⟩ := requests.sent
  exact ⟨serverIp,memory,count,socket,greeted,ip,devices,counter,requests.connected,shaken⟩

theorem remoteServerListDevices_early (early : ¬call.Asks) :
    ∃ err after, call.remoteServerListDevices = some (err,after) ∧ after.devices = call.devices := by
  simp only [remoteServerListDevices]
  split
  next serverIp memory count ip devices counter =>
    split
    next _ => exact ⟨_,_,rfl,rfl⟩
    next socket connected =>
      split
      next greeted shaken =>
        exact absurd ⟨serverIp,memory,count,socket,greeted,ip,devices,counter,connected,shaken⟩ early
      next err _ _ _ => exact ⟨err,_,rfl,rfl⟩
  next _ => exact ⟨_,_,rfl,rfl⟩

end ListCall

/-- Once its request is out, the exchange waits for ever exactly when the server
goes silent within the reply. -/
theorem listDevices_returns_iff {socket : Socket} (maxDevices : Nat)
    (sent : (sendExact socket (usbipPackHeaderBasic usbipCreateDevlistRequest).image).1 = .success) :
    (remoteServerListDevices socket maxDevices).isSome = true ↔
      socket.ending ≠ .silent ∨ replyHeld maxDevices socket.stream = true := by
  have asked := sendExact_sameInput socket (usbipPackHeaderBasic usbipCreateDevlistRequest).image
  simp only [remoteServerListDevices]
  generalize sendExact socket (usbipPackHeaderBasic usbipCreateDevlistRequest).image = request
    at sent asked
  obtain ⟨_,first⟩ := request
  cases sent
  rw [← asked.ending,← asked.stream]
  dsimp only
  rw [replyHeld,Bool.and_eq_true,decide_eq_true_eq,Bool.or_eq_true,decide_eq_true_eq,
    Bool.and_eq_true,decide_eq_true_eq]
  have answers := recvExact_returns first UsbipHeaderBasic.size
    fun bytes => usbipUnpackHeaderBasic (.ofImage bytes)
  by_cases header : UsbipHeaderBasic.size ≤ first.stream.length
  · obtain ⟨second,answered,behind,ending⟩ := recvExact_enough first UsbipHeaderBasic.size
      (fun bytes => usbipUnpackHeaderBasic (.ofImage bytes)) header
    rw [usbipRecvHeaderBasic,answered]
    dsimp only
    generalize usbipUnpackHeaderBasic (.ofImage (first.stream.take UsbipHeaderBasic.size)) = reply
    by_cases refused : reply.status ≠ usbipStOk
    · rw [if_pos refused]
      exact iff_of_true rfl (Or.inr ⟨header,Or.inl refused⟩)
    · rw [if_neg refused,← behind,← ending]
      by_cases count : 4 ≤ second.stream.length
      · obtain ⟨third,counted,left,same⟩ := recvExact_enough second 4
          (fun bytes => be32toh (read32 bytes 0)) count
        rw [counted]
        dsimp only
        generalize be32toh (read32 (second.stream.take 4) 0) = ndev
        have walks := recvDevices_returns maxDevices ndev.toNat [] third
        rw [List.length_nil,Nat.sub_zero,left,same] at walks
        cases received : recvDevices maxDevices ndev.toNat [] third with
        | none =>
          rw [received] at walks
          have stuck := not_or.mp (mt walks.mpr Bool.false_ne_true)
          exact iff_of_false Bool.false_ne_true (by tauto)
        | some result =>
          rw [received] at walks
          have held := walks.mp rfl
          exact iff_of_true rfl (by tauto)
      · rw [recvExact_fewer second 4 _ (by omega)]
        by_cases silent : second.ending = .silent
        · rw [if_pos silent]
          exact iff_of_false Bool.false_ne_true (by tauto)
        · rw [if_neg silent]
          exact iff_of_true rfl (Or.inl silent)
  · rw [usbipRecvHeaderBasic,recvExact_fewer first _ _ (by omega)]
    by_cases silent : first.ending = .silent
    · rw [if_pos silent]
      exact iff_of_false Bool.false_ne_true (by tauto)
    · rw [if_neg silent]
      exact iff_of_true rfl (Or.inl silent)

theorem listDevices_unsent {socket : Socket}
    (unsent : (sendExact socket (usbipPackHeaderBasic usbipCreateDevlistRequest).image).1 ≠ .success)
    (maxDevices : Nat) : remoteServerListDevices socket maxDevices = some (.socketSend,[],
      (sendExact socket (usbipPackHeaderBasic usbipCreateDevlistRequest).image).2) := by
  rw [remoteServerListDevices]
  generalize sendExact socket (usbipPackHeaderBasic usbipCreateDevlistRequest).image = request at unsent
  obtain ⟨err,next⟩ := request
  cases err <;> first | exact absurd rfl unsent | rfl

theorem listDevices_returns {socket : Socket} (ended : socket.ending ≠ .silent) (maxDevices : Nat) :
    ∃ result, remoteServerListDevices socket maxDevices = some result := by
  by_cases sent : (sendExact socket (usbipPackHeaderBasic usbipCreateDevlistRequest).image).1 = .success
  · exact Option.isSome_iff_exists.mp ((listDevices_returns_iff maxDevices sent).mpr (Or.inl ended))
  · exact ⟨_,listDevices_unsent sent maxDevices⟩

theorem listDevices_walk {socket next : Socket} {maxDevices : Nat} {header : UsbipHeaderBasic}
    {ndev : UInt32} {rest : List UInt8} {err : ErrorCode} {records : List UsbipUsbDevice}
    (sent : (sendExact socket (usbipPackHeaderBasic usbipCreateDevlistRequest).image).1 = .success)
    (accepted : header.status = usbipStOk)
    (stream : socket.stream = (usbipPackHeaderBasic header).image ++ (image32 (htobe32 ndev) ++ rest))
    (returned : remoteServerListDevices socket maxDevices = some (err,records,next)) :
    err = .success ∧ records = walkRecords (min ndev.toNat maxDevices) rest := by
  have asked := sendExact_sameInput socket (usbipPackHeaderBasic usbipCreateDevlistRequest).image
  simp only [remoteServerListDevices] at returned
  generalize sendExact socket (usbipPackHeaderBasic usbipCreateDevlistRequest).image = request
    at sent asked returned
  obtain ⟨_,first⟩ := request
  cases sent
  obtain ⟨second,answered,behind,_⟩ := recv_header first header _ (asked.stream.trans stream)
  obtain ⟨third,counted,left⟩ := recv_count second ndev rest behind
  simp only [answered,accepted,ne_eq,not_true_eq_false,if_false,counted] at returned
  cases received : recvDevices maxDevices ndev.toNat [] third with
  | none =>
    rw [received] at returned
    cases returned
  | some result =>
    rw [received] at returned
    cases returned
    have walked := recvDevices_walk received
    rw [left] at walked
    exact ⟨rfl,walked⟩

namespace ListCall

variable {call : ListCall} {socket greeted : Socket}

theorem Requests.of (ip : call.serverIp.isSome = true) (devices : call.devices.isSome = true)
    (counter : call.deviceCount.isSome = true) (connected : call.socket = some socket)
    (shaken : call.handshake socket = (.success,greeted))
    (sent : (sendExact greeted (usbipPackHeaderBasic usbipCreateDevlistRequest).image).1 = .success) :
    call.Requests socket :=
  ⟨ip,devices,counter,connected,greeted,shaken,sent⟩

theorem Requests.unique {other : Socket} (requests : call.Requests other)
    (connected : call.socket = some socket) (shaken : call.handshake socket = (.success,greeted)) :
    other = socket ∧
      (sendExact greeted (usbipPackHeaderBasic usbipCreateDevlistRequest).image).1 = .success := by
  cases connected.symm.trans requests.connected
  obtain ⟨welcomed,again,sent⟩ := requests.sent
  cases shaken.symm.trans again
  exact ⟨rfl,sent⟩

theorem remoteServerListDevices_returns (call : ListCall) :
    call.remoteServerListDevices.isSome = true ↔ call.Answered := by
  by_cases asks : call.Asks
  · obtain ⟨serverIp,memory,count,socket,greeted,ip,devices,counter,connected,shaken⟩ := asks
    have exchange := call.remoteServerListDevices_exchange ip devices counter connected shaken
    have greeting := call.handshake_sameInput socket
    rw [shaken] at greeting
    have same : call.remoteServerListDevices.isSome =
        (UsbOverNetwork.remoteServerListDevices greeted call.maxDevices.toNat).isSome := by
      cases returned : UsbOverNetwork.remoteServerListDevices greeted call.maxDevices.toNat with
      | none =>
        rw [returned] at exchange
        rw [exchange]
        rfl
      | some result =>
        rw [returned] at exchange
        obtain ⟨stored,_,done⟩ := exchange
        rw [done]
        rfl
    rw [same]
    by_cases sent : (sendExact greeted
        (usbipPackHeaderBasic usbipCreateDevlistRequest).image).1 = .success
    · rw [listDevices_returns_iff call.maxDevices.toNat sent,greeting.ending,greeting.stream]
      constructor
      · intro held other requests
        rw [(requests.unique connected shaken).1]
        exact held
      · intro answered
        exact answered socket (.of (ip ▸ rfl) (devices ▸ rfl) (counter ▸ rfl) connected shaken sent)
    · rw [listDevices_unsent sent]
      refine iff_of_true rfl fun other requests => ?_
      exact absurd (requests.unique connected shaken).2 sent
  · obtain ⟨status,left,returned,_⟩ := remoteServerListDevices_early asks
    rw [returned]
    exact iff_of_true rfl fun other requests => absurd requests.asks asks

theorem remoteServerListDevices_beyond (call : ListCall) {err : ErrorCode} {after : ListCall}
    (returned : call.remoteServerListDevices = some (err,after)) (i : Nat)
    (outside : call.maxDevices ≤ i) : after.devices.map (· i) = call.devices.map (· i) := by
  by_cases asks : call.Asks
  · obtain ⟨serverIp,memory,count,socket,greeted,ip,devices,counter,connected,shaken⟩ := asks
    have exchange := call.remoteServerListDevices_exchange ip devices counter connected shaken
    cases listed : UsbOverNetwork.remoteServerListDevices greeted call.maxDevices.toNat with
    | none =>
      rw [listed] at exchange
      cases exchange.symm.trans returned
    | some result =>
      rw [listed] at exchange
      obtain ⟨stored,holds,done⟩ := exchange
      cases done.symm.trans returned
      rw [devices]
      exact congrArg some (holds.beyond i outside)
  · obtain ⟨status,left,early,kept⟩ := remoteServerListDevices_early asks
    cases early.symm.trans returned
    rw [kept]

theorem Received.decoded {ndev : UInt32} {rest : List UInt8} (received : call.Received ndev rest)
    (answered : call.Answered) :
    ∃ after stored, call.remoteServerListDevices = some (.success,after) ∧
      after.deviceCount =
        some ((walkRecords (min ndev.toNat call.maxDevices.toNat) rest).length : Int) ∧
      after.devices = some stored ∧
      (List.range (walkRecords (min ndev.toNat call.maxDevices.toNat) rest).length).map stored =
        walkRecords (min ndev.toNat call.maxDevices.toNat) rest := by
  obtain ⟨socket,header,requests,accepted,stream⟩ := received
  obtain ⟨serverIp,memory,count,other,greeted,ip,devices,counter,connected,shaken⟩ := requests.asks
  obtain ⟨rfl,sent⟩ := requests.unique connected shaken
  have greeting := call.handshake_sameInput socket
  rw [shaken] at greeting
  have exchange := call.remoteServerListDevices_exchange ip devices counter connected shaken
  have held := answered socket requests
  rw [← greeting.ending,← greeting.stream] at held
  obtain ⟨⟨err,records,next⟩,listed⟩ := Option.isSome_iff_exists.mp
    ((listDevices_returns_iff call.maxDevices.toNat sent).mpr held)
  rw [listed] at exchange
  obtain ⟨stored,holds,done⟩ := exchange
  obtain ⟨rfl,rfl⟩ := listDevices_walk sent accepted (greeting.stream.trans stream) listed
  exact ⟨_,stored,done,rfl,rfl,holds.records⟩

end ListCall

/-- The call returns unless the server goes silent within what it reads. It
writes to its array only; after an accepted reply it succeeds, and what it has
written are the complete records of the stream. -/
theorem list_devices_decodes (call : ListCall) :
    (call.remoteServerListDevices.isSome = true ↔ call.Answered) ∧
    (∀ err after, call.remoteServerListDevices = some (err,after) →
      ∀ i : Nat, call.maxDevices ≤ i → after.devices.map (· i) = call.devices.map (· i)) ∧
    ∀ ndev rest, call.Received ndev rest → call.Answered →
      let records := walkRecords (min ndev.toNat call.maxDevices.toNat) rest
      ∃ after stored, call.remoteServerListDevices = some (.success,after) ∧
        after.deviceCount = some (records.length : Int) ∧ after.devices = some stored ∧
        (List.range records.length).map stored = records := by
  refine ⟨call.remoteServerListDevices_returns,?_,?_⟩
  · intro err after returned
    exact call.remoteServerListDevices_beyond returned
  · intro ndev rest received answered
    exact received.decoded answered

def threeFaced : UsbipUsbDevice := {usbDeviceToUsbip sharedKeyboard.device with bNumInterfaces := 3}

/-- A server announces 2³²-1 devices, of which the caller has room for some, and
sends this much of them. -/
def hostileCall (maxDevices : Int) (ending : StreamEnd) (records : List UInt8) : ListCall where
  serverIp := some shortToken
  serverPort := 3240
  devices := some fun _ => usbDeviceToUsbip sharedKeyboard.device
  deviceCount := some 0
  maxDevices
  token := none
  socket := some {carrying ((usbipPackHeaderBasic ⟨usbipProtoVersion,opRepDevlist,usbipStOk⟩).image ++
    (image32 (htobe32 0xffffffff) ++ records)) with ending}

theorem hostileCall_received (maxDevices : Int) (ending : StreamEnd) (records : List UInt8) :
    (hostileCall maxDevices ending records).Received 0xffffffff records :=
  ⟨_,_,⟨rfl,rfl,rfl,rfl,_,rfl,rfl⟩,rfl,carrying_stream _⟩

/-- A server that hangs up within the first device's interfaces, and one that
has sent all the caller has room for and keeps the connection open. -/
theorem list_devices_decodes_hostile :
    (∃ after stored, (hostileCall 5 .closed ((usbipPackDevice threeFaced).image ++
        [3,1,1,0])).remoteServerListDevices = some (.success,after) ∧
      after.deviceCount = some 1 ∧ after.devices = some stored ∧ stored 0 = threeFaced) ∧
    ∃ after stored, (hostileCall 1 .silent ((usbipPackDevice threeFaced).image ++
        [3,1,1,0,3,1,2,0,8,6,80,0])).remoteServerListDevices = some (.success,after) ∧
      after.deviceCount = some 1 ∧ after.devices = some stored ∧ stored 0 = threeFaced := by
  constructor
  · obtain ⟨_,_,decodes⟩ := list_devices_decodes (hostileCall 5 .closed
      ((usbipPackDevice threeFaced).image ++ [3,1,1,0]))
    obtain ⟨after,stored,returned,count,devices,records⟩ := decodes _ _ (hostileCall_received _ _ _)
      (by rintro _ ⟨_,_,_,⟨⟩,_⟩; exact Or.inl nofun)
    have walked : walkRecords (min (0xffffffff : UInt32).toNat (5 : Int).toNat)
        ((usbipPackDevice threeFaced).image ++ [3,1,1,0]) = [threeFaced] :=
      walkRecords_packed 4 threeFaced [3,1,1,0]
    simp only [hostileCall] at count records
    rw [walked] at count records
    exact ⟨after,stored,returned,count,devices,List.singleton_inj.mp records⟩
  · obtain ⟨_,_,decodes⟩ := list_devices_decodes (hostileCall 1 .silent
      ((usbipPackDevice threeFaced).image ++ [3,1,1,0,3,1,2,0,8,6,80,0]))
    obtain ⟨after,stored,returned,count,devices,records⟩ := decodes _ _ (hostileCall_received _ _ _)
      (by rintro _ ⟨_,_,_,⟨⟩,_⟩; exact Or.inr (by decide +kernel))
    have walked : walkRecords (min (0xffffffff : UInt32).toNat (1 : Int).toNat)
        ((usbipPackDevice threeFaced).image ++ [3,1,1,0,3,1,2,0,8,6,80,0]) = [threeFaced] :=
      walkRecords_packed 0 threeFaced [3,1,1,0,3,1,2,0,8,6,80,0]
    simp only [hostileCall] at count records
    rw [walked] at count records
    exact ⟨after,stored,returned,count,devices,List.singleton_inj.mp records⟩

/-- The reply is accepted and its count read; then the server stops within the
first device's interfaces without hanging up. -/
theorem stalled_server_blocks :
    (hostileCall 5 .silent ((usbipPackDevice threeFaced).image ++ [3,1,1,0])).Received 0xffffffff
      ((usbipPackDevice threeFaced).image ++ [3,1,1,0]) ∧
    (hostileCall 5 .silent ((usbipPackDevice threeFaced).image ++
      [3,1,1,0])).remoteServerListDevices = none := by
  refine ⟨hostileCall_received _ _ _,?_⟩
  rw [← Option.not_isSome_iff_eq_none,ListCall.remoteServerListDevices_returns]
  intro answered
  rcases answered _ ⟨rfl,rfl,rfl,rfl,_,rfl,rfl⟩ with ended | held
  · exact ended rfl
  · exact absurd held (by decide +kernel)

end UsbOverNetwork
