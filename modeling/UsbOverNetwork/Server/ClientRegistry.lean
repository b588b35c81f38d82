import Mathlib.Logic.Function.Basic
import UsbOverNetwork.Library.Runs
import UsbOverNetwork.Server.ClientManager

/-! The list of connected clients under every interleaving of the threads that
edit it. A step is a critical section or a read outside the lock, and memory
that has been freed may be handed out again. -/
namespace UsbOverNetwork
open Runs

/-- The part of `client_manager_add` under the lock. -/
def ClientManager.insert (manager : ClientManager) : Option ClientPtr → ClientManager
  | none => {manager with nextClientId := manager.nextClientId+1}
  | some pointer => ⟨pointer::manager.clients,manager.clientCount+1,manager.nextClientId+1⟩

theorem clientManagerAdd_insert (manager : ClientManager) (socket : Socket) (ipAddress : CString 63)
    (port : UInt16) (alloc : Option ClientPtr) :
    (clientManagerAdd manager socket ipAddress port alloc).2 =
      if manager.clientCount ≥ maxClients then manager else manager.insert alloc := by
  simp only [clientManagerAdd]
  split
  · rfl
  · cases alloc <;> rfl

/-- Who has called `client_manager_remove`: somebody with a pointer,
`client_manager_remove_by_id`, or the loop of `client_manager_disconnect_all`. -/
inductive RemoveCall
  | pointer
  | byId
  | all
deriving DecidableEq

/-- Where a thread is. `testing` and `reading` are the two reads of the list's
head that the loop makes outside the lock. The `id` says which client a removal
is about; no step of it looks there. -/
inductive RegistryCaller
  | idle
  | removing (call : RemoveCall) (id : UInt32) (client : ClientPtr)
  | freeing (call : RemoveCall) (client : ClientPtr)
  | testing
  | reading
  | returned (err : ErrorCode)
deriving DecidableEq

/-- `ids` is the field `id` of the client at each address, `adding` says that
the accepting thread is between its test of the count and the lock. -/
structure Registry where
  manager : ClientManager
  ids : ClientPtr → UInt32
  adding : Bool
  callers : List RegistryCaller

/-- Whoever calls `client_manager_remove` means the client of some id and has
the pointer it once had. -/
inductive RegistryAction
  | addCheck
  | addLocked (alloc : Option ClientPtr)
  | remove (thread : Nat) (client : ClientPtr) (id : UInt32)
  | removeById (thread : Nat) (id : UInt32)
  | disconnectAll (thread : Nat)
  | run (thread : Nat)
deriving DecidableEq

def RegistryAction.begins : RegistryAction → Option Nat
  | .remove thread _ _ => some thread
  | .removeById thread _ => some thread
  | .disconnectAll thread => some thread
  | _ => none

/-- The loop ignores what `client_manager_remove` returns. -/
def RemoveCall.finish : RemoveCall → ErrorCode → RegistryCaller
  | .all,_ => .testing
  | _,err => .returned err

def RegistryCaller.free : RegistryCaller → Bool
  | .idle => true
  | .returned _ => true
  | _ => false

/-- The client is unlinked and `free_client` has not freed it yet. -/
def RegistryCaller.keeps (client : ClientPtr) : RegistryCaller → Bool
  | .freeing _ leaving => leaving = client
  | _ => false

/-- The next step of a thread within its call. Without a client the loop's call
returns `ERR_INVALID_PARAM` before it takes the lock. -/
def RegistryCaller.advance (manager : ClientManager) (ids : ClientPtr → UInt32) :
    RegistryCaller → Option (ClientManager × RegistryCaller)
  | .removing call _ client =>
    match manager.unlink client with
    | some next => some (next,.freeing call client)
    | none => some (manager,call.finish .notFound)
  | .freeing call _ => some (manager,call.finish .success)
  | .testing => some (manager,if manager.clients = [] then .returned .success else .reading)
  | .reading =>
    match manager.clients with
    | [] => some (manager,.testing)
    | head::_ => some (manager,.removing .all (ids head) head)
  | .idle => none
  | .returned _ => none

namespace Registry

/-- After `client_manager_init`; nothing is known of the memory. -/
def start (threads : Nat) (ids : ClientPtr → UInt32) : Registry :=
  ⟨⟨[],0,1⟩,ids,false,List.replicate threads .idle⟩

def find (s : Registry) (id : UInt32) : Option ClientPtr :=
  s.manager.clients.find? fun client => s.ids client = id

/-- The block is in use: the allocator does not hand it out. -/
def live (s : Registry) (client : ClientPtr) : Bool :=
  s.manager.clients.contains client || s.callers.any (RegistryCaller.keeps client)

def begin (s : Registry) (thread : Nat) (caller : RegistryCaller) : Option Registry :=
  if (s.callers[thread]?).any RegistryCaller.free then
    some {s with callers := s.callers.set thread caller}
  else none

def step : RegistryAction → Registry → Option Registry
  | .addCheck,s =>
    if s.adding then none
    else some {s with adding := s.manager.clientCount < maxClients}
  | .addLocked none,s =>
    if s.adding then some {s with manager := s.manager.insert none, adding := false} else none
  | .addLocked (some client),s =>
    if s.adding && !s.live client then
      some {s with
        manager := s.manager.insert (some client)
        ids := Function.update s.ids client s.manager.nextClientId
        adding := false}
    else none
  | .remove thread client id,s => s.begin thread (.removing .pointer id client)
  | .removeById thread id,s => s.begin thread
    (match s.find id with
    | none => .returned .notFound
    | some client => .removing .byId id client)
  | .disconnectAll thread,s => s.begin thread .testing
  | .run thread,s =>
    ((s.callers[thread]?).bind (RegistryCaller.advance s.manager s.ids)).map fun (manager,caller) =>
      {s with manager, callers := s.callers.set thread caller}

def looping : RegistryCaller → Bool
  | .testing => true
  | .reading => true
  | .removing call _ _ => call = .all
  | .freeing call _ => call = .all
  | _ => false

/-- At most so many steps are left to a thread in that loop. A client that
another thread removes saves it more than the step it then takes in vain. -/
def stepsLeft (clients : List ClientPtr) : RegistryCaller → Nat
  | .testing => 4 * clients.length + 1
  | .reading => max 2 (4 * clients.length)
  | .removing _ _ client =>
    if client ∈ clients then 4 * clients.length - 1 else 4 * clients.length + 2
  | .freeing _ _ => 4 * clients.length + 2
  | _ => 0

structure Sound (s : Registry) : Prop where
  counted : s.manager.clientCount = s.manager.clients.length
  capacity : s.manager.clientCount ≤ maxClients
  nonzero : ∀ client ∈ s.manager.clients, s.ids client ≠ 0
  distinct : (s.manager.clients.map s.ids).Nodup
  below : ∀ client ∈ s.manager.clients, s.ids client < s.manager.nextClientId

/-- The count that the accepting thread has tested can only have shrunk since. -/
structure Inv (s : Registry) : Prop extends s.Sound where
  room : s.adding = true → s.manager.clientCount < maxClients
  positive : 0 < s.manager.nextClientId.toNat

def spent (s : Registry) : Nat := s.manager.nextClientId.toNat + (if s.adding then 1 else 0)

def isAdd : RegistryAction → Bool
  | .addCheck => true
  | _ => false

theorem start_inv (threads : Nat) (ids : ClientPtr → UInt32) : (start threads ids).Inv :=
  ⟨⟨rfl,Nat.zero_le _,by simp [start],by simp [start],by simp [start]⟩,by simp [start],show 0 < (1 : UInt32).toNat by decide⟩

section Steps

variable {s next : Registry} {thread : Nat}

theorem advance_manager {manager after : ClientManager} {ids : ClientPtr → UInt32}
    {caller later : RegistryCaller} (taken : caller.advance manager ids = some (after,later)) :
    after = manager ∨ ∃ client, manager.unlink client = some after := by
  cases caller with
  | removing call id client =>
    simp only [RegistryCaller.advance] at taken
    cases unlinked : manager.unlink client with
    | some other =>
      rw [unlinked] at taken
      cases taken
      exact .inr ⟨client,unlinked⟩
    | none =>
      rw [unlinked] at taken
      cases taken
      exact .inl rfl
  | freeing call client =>
    cases taken
    exact .inl rfl
  | testing =>
    cases taken
    exact .inl rfl
  | reading =>
    simp only [RegistryCaller.advance] at taken
    split at taken
    · cases taken
      exact .inl rfl
    · cases taken
      exact .inl rfl
  | idle => cases taken
  | returned err => cases taken

theorem unlink_cases {manager after : ClientManager} {client : ClientPtr}
    (unlinked : manager.unlink client = some after) : client ∈ manager.clients ∧
      after = {manager with
        clients := manager.clients.erase client, clientCount := manager.clientCount - 1} := by
  simp only [ClientManager.unlink] at unlinked
  split at unlinked
  next listed => exact ⟨listed,(Option.some.inj unlinked).symm⟩
  next _ => cases unlinked

theorem step_cases {action : RegistryAction} (stepped : step action s = some next) :
    (action = .addCheck ∧ s.adding = false ∧
      next = {s with adding := s.manager.clientCount < maxClients}) ∨
    (action = .addLocked none ∧ s.adding = true ∧
      next = {s with manager := s.manager.insert none, adding := false}) ∨
    (∃ client, action = .addLocked (some client) ∧ s.adding = true ∧ client ∉ s.manager.clients ∧
      next = {s with
        manager := s.manager.insert (some client)
        ids := Function.update s.ids client s.manager.nextClientId
        adding := false}) ∨
    (∃ thread caller, action.begins = some thread ∧ s.begin thread caller = some next ∧
      ∀ call id client, caller = .removing call id client →
        action = .remove thread client id ∨ s.ids client = id) ∨
    ∃ thread caller after later, action = .run thread ∧ s.callers[thread]? = some caller ∧
      caller.advance s.manager s.ids = some (after,later) ∧
      next = {s with manager := after, callers := s.callers.set thread later} := by
  cases action with
  | addCheck =>
    simp only [step] at stepped
    by_cases adding : s.adding = true
    · rw [if_pos adding] at stepped
      cases stepped
    · rw [if_neg adding] at stepped
      exact .inl ⟨rfl,by simpa using adding,(Option.some.inj stepped).symm⟩
  | addLocked alloc =>
    cases alloc with
    | none =>
      simp only [step] at stepped
      by_cases adding : s.adding = true
      · rw [if_pos adding] at stepped
        exact .inr (.inl ⟨rfl,adding,(Option.some.inj stepped).symm⟩)
      · rw [if_neg adding] at stepped
        cases stepped
    | some client =>
      simp only [step] at stepped
      by_cases allowed : (s.adding && !s.live client) = true
      · rw [if_pos allowed] at stepped
        have facts := allowed
        simp only [live,Bool.and_eq_true,Bool.not_eq_true',Bool.or_eq_false_iff,List.contains_eq_mem,
          decide_eq_false_iff_not] at facts
        exact .inr (.inr (.inl ⟨client,rfl,facts.1,facts.2.1,(Option.some.inj stepped).symm⟩))
      · rw [if_neg allowed] at stepped
        cases stepped
  | remove thread client id =>
    refine .inr (.inr (.inr (.inl ⟨thread,_,rfl,stepped,?_⟩)))
    intro call other meant same
    cases same
    exact .inl rfl
  | removeById thread id =>
    refine .inr (.inr (.inr (.inl ⟨thread,_,rfl,stepped,?_⟩)))
    intro call other client same
    cases found : s.find id with
    | none =>
      rw [found] at same
      cases same
    | some first =>
      rw [found] at same
      cases same
      exact .inr (by simpa using List.find?_some found)
  | disconnectAll thread =>
    refine .inr (.inr (.inr (.inl ⟨thread,_,rfl,stepped,?_⟩)))
    intro call id other same
    cases same
  | run thread =>
    obtain ⟨⟨after,later⟩,advanced,same⟩ := Option.map_eq_some_iff.mp stepped
    obtain ⟨caller,running,taken⟩ := Option.bind_eq_some_iff.mp advanced
    exact .inr (.inr (.inr (.inr ⟨thread,caller,after,later,rfl,running,taken,same.symm⟩)))

theorem begin_callers {caller : RegistryCaller} (begun : s.begin thread caller = some next) :
    next = {s with callers := s.callers.set thread caller} := by
  simp only [begin] at begun
  split at begun
  · exact (Option.some.inj begun).symm
  · cases begun

theorem Sound.unlink (sound : s.Sound) {client : ClientPtr} {after : ClientManager}
    (unlinked : s.manager.unlink client = some after) (callers : List RegistryCaller) :
    ({s with manager := after, callers} : Registry).Sound := by
  obtain ⟨listed,rfl⟩ := unlink_cases unlinked
  have inside : ∀ other ∈ s.manager.clients.erase client, other ∈ s.manager.clients :=
    fun _ => List.mem_of_mem_erase
  constructor
  · rw [List.length_erase_of_mem listed,sound.counted]
  · exact (Nat.sub_le _ _).trans sound.capacity
  · exact fun other member => sound.nonzero other (inside other member)
  · exact sound.distinct.sublist (List.erase_sublist.map s.ids)
  · exact fun other member => sound.below other (inside other member)

theorem next_id (enough : s.manager.nextClientId.toNat + 1 < 2^32) :
    (s.manager.nextClientId + 1).toNat = s.manager.nextClientId.toNat + 1 := by
  rw [UInt32.toNat_add]
  exact Nat.mod_eq_of_lt enough

theorem Sound.insert (sound : s.Sound) (room : s.manager.clientCount < maxClients)
    (positive : 0 < s.manager.nextClientId.toNat) (enough : s.manager.nextClientId.toNat + 1 < 2^32)
    {client : ClientPtr} (fresh : client ∉ s.manager.clients) :
    ({s with
      manager := s.manager.insert (some client)
      ids := Function.update s.ids client s.manager.nextClientId
      adding := false} : Registry).Sound := by
  have ids {other : ClientPtr} (member : other ∈ s.manager.clients) :
      Function.update s.ids client s.manager.nextClientId other = s.ids other :=
    Function.update_of_ne (ne_of_mem_of_not_mem member fresh) _ _
  have same : s.manager.clients.map (Function.update s.ids client s.manager.nextClientId) =
      s.manager.clients.map s.ids := List.map_congr_left fun other member => ids member
  have above := next_id enough
  constructor
  · exact congrArg (· + 1) sound.counted
  · exact room
  · intro other member
    dsimp only
    rcases List.mem_cons.mp member with rfl | old
    · rw [Function.update_self]
      intro zero
      rw [zero] at positive
      exact absurd positive (by decide)
    · rw [ids old]
      exact sound.nonzero other old
  · simp only [ClientManager.insert,List.map_cons,Function.update_self,same]
    refine List.nodup_cons.mpr ⟨?_,sound.distinct⟩
    intro member
    obtain ⟨other,listed,equal⟩ := List.mem_map.mp member
    have less := sound.below other listed
    rw [equal] at less
    exact absurd less (UInt32.lt_irrefl _)
  · intro other member
    simp only [ClientManager.insert,UInt32.lt_iff_toNat_lt,above]
    rcases List.mem_cons.mp member with rfl | old
    · rw [Function.update_self]
      omega
    · rw [ids old]
      have less := UInt32.lt_iff_toNat_lt.mp (sound.below other old)
      omega

theorem step_inv {action : RegistryAction} (inv : s.Inv) (enough : s.spent < 2^32)
    (stepped : step action s = some next) : next.Inv := by
  obtain ⟨sound,room,positive⟩ := inv
  rcases step_cases stepped with ⟨_,_,rfl⟩ | ⟨_,adding,rfl⟩ | ⟨client,_,adding,fresh,rfl⟩ |
    ⟨thread,caller,_,begun,_⟩ | ⟨thread,caller,after,later,_,_,taken,rfl⟩
  · exact ⟨⟨sound.counted,sound.capacity,sound.nonzero,sound.distinct,sound.below⟩,
      fun tested => by simpa using tested,positive⟩
  · have bound : s.manager.nextClientId.toNat + 1 < 2^32 := by
      simpa only [spent,adding,if_true] using enough
    have above := next_id bound
    refine ⟨⟨sound.counted,sound.capacity,sound.nonzero,sound.distinct,?_⟩,by simp,?_⟩
    · intro client member
      have less := UInt32.lt_iff_toNat_lt.mp (sound.below client member)
      simp only [ClientManager.insert,UInt32.lt_iff_toNat_lt,above]
      omega
    · simp only [ClientManager.insert,above]
      omega
  · have bound : s.manager.nextClientId.toNat + 1 < 2^32 := by
      simpa only [spent,adding,if_true] using enough
    refine ⟨sound.insert (room adding) positive bound fresh,by simp,?_⟩
    simp only [ClientManager.insert,next_id bound]
    omega
  · cases begin_callers begun
    exact ⟨⟨sound.counted,sound.capacity,sound.nonzero,sound.distinct,sound.below⟩,room,positive⟩
  · rcases advance_manager taken with rfl | ⟨client,unlinked⟩
    · exact ⟨⟨sound.counted,sound.capacity,sound.nonzero,sound.distinct,sound.below⟩,room,positive⟩
    · refine ⟨sound.unlink unlinked _,?_,?_⟩
      · intro adding
        obtain ⟨_,rfl⟩ := unlink_cases unlinked
        exact Nat.lt_of_le_of_lt (Nat.sub_le _ _) (room adding)
      · obtain ⟨_,rfl⟩ := unlink_cases unlinked
        exact positive

theorem step_spent {action : RegistryAction} (stepped : step action s = some next) :
    next.spent ≤ s.spent + (if isAdd action then 1 else 0) := by
  have succ : (s.manager.nextClientId + 1).toNat ≤ s.manager.nextClientId.toNat + 1 := by
    rw [UInt32.toNat_add]
    exact Nat.mod_le _ _
  rcases step_cases stepped with ⟨rfl,adding,rfl⟩ | ⟨rfl,adding,rfl⟩ | ⟨client,rfl,adding,_,rfl⟩ |
    ⟨thread,caller,_,begun,_⟩ | ⟨thread,caller,after,later,_,_,taken,rfl⟩
  · simp only [spent,adding,isAdd]
    split <;> simp
  · simpa [spent,adding,isAdd,ClientManager.insert] using succ
  · simpa [spent,adding,isAdd,ClientManager.insert] using succ
  · cases begin_callers begun
    exact Nat.le_add_right _ _
  · rcases advance_manager taken with rfl | ⟨client,unlinked⟩
    · exact Nat.le_add_right _ _
    · obtain ⟨_,rfl⟩ := unlink_cases unlinked
      exact Nat.le_add_right _ _

theorem run_inv {actions : List RegistryAction} (run : Run step s actions next) (inv : s.Inv)
    (enough : s.spent + actions.countP isAdd < 2^32) : next.Inv := by
  induction run with
  | nil => exact inv
  | cons state action middle actions final taken _ ih =>
    have first := step_spent taken
    rw [List.countP_cons] at enough
    exact ih (step_inv inv (by omega) taken) (by omega)

/-- No removal goes by an address that meanwhile belongs to another client: the
allocator does not hand out a block whose client a removal under way is about to
unlink, and `client_manager_remove` is not called with the address of a client
that has come after the one that is meant. -/
def Unclaimed : RegistryAction → Registry → Prop
  | .addLocked (some client),s => ∀ call id, .removing call id client ∉ s.callers
  | .remove _ client id,s => client ∈ s.manager.clients → s.ids client = id
  | _,_ => True

/-- The address that a removal goes by leads to the client it is about or out of
the list. -/
def Meant (s : Registry) : Prop :=
  ∀ call id client, .removing call id client ∈ s.callers → client ∈ s.manager.clients →
    s.ids client = id

theorem advance_removing {manager after : ClientManager} {ids : ClientPtr → UInt32}
    {caller : RegistryCaller} {call : RemoveCall} {id : UInt32} {client : ClientPtr}
    (taken : caller.advance manager ids = some (after,.removing call id client)) : ids client = id := by
  cases caller with
  | removing other meant leaving =>
    simp only [RegistryCaller.advance] at taken
    split at taken
    · cases taken
    · cases other <;> cases taken
  | freeing other leaving => cases other <;> cases taken
  | testing =>
    simp only [RegistryCaller.advance] at taken
    split at taken <;> cases taken
  | reading =>
    simp only [RegistryCaller.advance] at taken
    split at taken <;> cases taken
    rfl
  | idle => cases taken
  | returned err => cases taken

theorem step_meant (action : RegistryAction) (s next : Registry) (unclaimed : Unclaimed action s)
    (meant : s.Meant) (stepped : step action s = some next) : next.Meant := by
  intro call id client calling listed
  rcases step_cases stepped with ⟨_,_,rfl⟩ | ⟨_,_,rfl⟩ | ⟨added,rfl,_,_,rfl⟩ |
    ⟨thread,caller,_,begun,found⟩ | ⟨thread,caller,after,later,_,_,taken,rfl⟩
  · exact meant call id client calling listed
  · exact meant call id client calling listed
  · have other : client ≠ added := fun same => unclaimed call id (same ▸ calling)
    have old : client ∈ s.manager.clients := (List.mem_cons.mp listed).resolve_left other
    exact (Function.update_of_ne other _ _).trans (meant call id client calling old)
  · cases begin_callers begun
    rcases List.mem_or_eq_of_mem_set calling with before | same
    · exact meant call id client before listed
    · rcases found call id client same.symm with rfl | looked
      · exact unclaimed listed
      · exact looked
  · have inside : client ∈ s.manager.clients := by
      rcases advance_manager taken with rfl | ⟨leaving,unlinked⟩
      · exact listed
      · obtain ⟨_,rfl⟩ := unlink_cases unlinked
        exact List.mem_of_mem_erase listed
    rcases List.mem_or_eq_of_mem_set calling with before | same
    · exact meant call id client before inside
    · rw [← same] at taken
      exact advance_removing taken

end Steps

section Disconnecting

variable {s next : Registry} {thread : Nat} {caller later : RegistryCaller}
  {manager after : ClientManager} {ids : ClientPtr → UInt32}

/-- While the call lasts nobody is added and its thread does nothing else. -/
def Quiet (thread : Nat) (action : RegistryAction) : Prop :=
  action.begins ≠ some thread ∧ ∀ client, action ≠ .addLocked (some client)

def Disconnecting (thread : Nat) (s : Registry) : Prop :=
  ∃ caller, s.callers[thread]? = some caller ∧
    (looping caller = true ∨ caller = .returned .success ∧ s.manager.clients = [])

def left (thread : Nat) (s : Registry) : Nat :=
  (s.callers[thread]?).elim 0 (stepsLeft s.manager.clients)

theorem advance_returns (loops : looping caller = true) :
    ∃ result, caller.advance manager ids = some result := by
  cases caller with
  | removing call id client =>
    simp only [RegistryCaller.advance]
    split <;> exact ⟨_,rfl⟩
  | freeing call client => exact ⟨_,rfl⟩
  | testing => exact ⟨_,rfl⟩
  | reading =>
    simp only [RegistryCaller.advance]
    split <;> exact ⟨_,rfl⟩
  | idle => cases loops
  | returned err => cases loops

theorem advance_lowers (loops : looping caller = true)
    (taken : caller.advance manager ids = some (after,later)) :
    stepsLeft after.clients later < stepsLeft manager.clients caller ∧
      (looping later = true ∨ later = .returned .success ∧ after.clients = []) := by
  cases caller with
  | removing call id client =>
    cases (of_decide_eq_true loops : call = .all)
    simp only [RegistryCaller.advance] at taken
    by_cases listed : client ∈ manager.clients
    · have positive := List.length_pos_of_mem listed
      simp only [ClientManager.unlink,if_pos listed] at taken
      cases taken
      refine ⟨?_,.inl rfl⟩
      simp only [stepsLeft,if_pos listed,List.length_erase_of_mem listed]
      omega
    · simp only [ClientManager.unlink,if_neg listed] at taken
      cases taken
      refine ⟨?_,.inl rfl⟩
      simp only [stepsLeft,RemoveCall.finish,if_neg listed]
      omega
  | freeing call client =>
    cases (of_decide_eq_true loops : call = .all)
    cases taken
    refine ⟨?_,.inl rfl⟩
    simp only [stepsLeft,RemoveCall.finish]
    omega
  | testing =>
    cases taken
    by_cases empty : manager.clients = []
    · simp [stepsLeft,empty]
    · have positive := List.length_pos_iff.mpr empty
      rw [if_neg empty]
      refine ⟨?_,.inl rfl⟩
      simp only [stepsLeft]
      omega
  | reading =>
    simp only [RegistryCaller.advance] at taken
    split at taken
    next empty =>
      cases taken
      simp [stepsLeft,empty,looping]
    next head rest listed =>
      cases taken
      simp [stepsLeft,listed,looping]
  | idle => cases loops
  | returned err => cases loops

theorem stepsLeft_erase (clients : List ClientPtr) (client : ClientPtr) (caller : RegistryCaller) :
    stepsLeft (clients.erase client) caller ≤ stepsLeft clients caller := by
  by_cases listed : client ∈ clients
  · have length := List.length_erase_of_mem listed
    have positive := List.length_pos_of_mem listed
    cases caller with
    | removing call id other =>
      simp only [stepsLeft,length]
      by_cases stays : other ∈ clients.erase client
      · rw [if_pos stays,if_pos (List.mem_of_mem_erase stays)]
        omega
      · rw [if_neg stays]
        split <;> omega
    | freeing call other =>
      simp only [stepsLeft,length]
      omega
    | testing =>
      simp only [stepsLeft,length]
      omega
    | reading =>
      simp only [stepsLeft,length]
      omega
    | idle => exact le_rfl
    | returned err => exact le_rfl
  · rw [List.erase_of_not_mem listed]

theorem step_disconnecting (action : RegistryAction) (s next : Registry) (quiet : Quiet thread action)
    (busy : Disconnecting thread s) (stepped : step action s = some next) :
    Disconnecting thread next ∧
      left thread next + (if (action = .run thread : Bool) then 1 else 0) ≤ left thread s := by
  obtain ⟨caller,running,stage⟩ := busy
  rcases step_cases stepped with ⟨rfl,_,rfl⟩ | ⟨rfl,_,rfl⟩ | ⟨added,rfl,_⟩ |
    ⟨other,begun,begins,started,_⟩ | ⟨other,mover,after,later,rfl,moving,taken,rfl⟩
  · exact ⟨⟨caller,running,stage⟩,le_rfl⟩
  · exact ⟨⟨caller,running,stage⟩,le_rfl⟩
  · exact absurd rfl (quiet.2 added)
  · have different : other ≠ thread := fun same => quiet.1 (same ▸ begins)
    have elsewhere : action ≠ .run thread := by
      rintro rfl
      cases begins
    cases begin_callers started
    have same : (s.callers.set other begun)[thread]? = some caller := by
      rw [List.getElem?_set_ne different,running]
    refine ⟨⟨caller,same,stage⟩,?_⟩
    simp [left,same,running,elsewhere]
  · by_cases here : other = thread
    · subst here
      cases running.symm.trans moving
      have inside := (List.getElem?_eq_some_iff.mp running).1
      have same : (s.callers.set other later)[other]? = some later := List.getElem?_set_self inside
      have loops : looping caller = true := by
        rcases stage with loops | ⟨rfl,_⟩
        · exact loops
        · cases taken
      obtain ⟨less,onward⟩ := advance_lowers loops taken
      refine ⟨⟨later,same,onward⟩,?_⟩
      simp only [left,same,running,Option.elim_some,decide_true,if_true]
      exact less
    · have same : (s.callers.set other later)[thread]? = some caller := by
        rw [List.getElem?_set_ne here,running]
      have elsewhere : RegistryAction.run other ≠ .run thread := fun equal => here (by injection equal)
      simp only [Disconnecting,left,same,running,elsewhere,decide_false,Bool.false_eq_true,if_false,
        Option.elim_some,Nat.add_zero]
      rcases advance_manager taken with rfl | ⟨leaving,unlinked⟩
      · exact ⟨⟨caller,rfl,stage⟩,le_rfl⟩
      · obtain ⟨listed,rfl⟩ := unlink_cases unlinked
        refine ⟨⟨caller,rfl,stage.imp_right fun done => ⟨done.1,?_⟩⟩,stepsLeft_erase _ _ _⟩
        simp [done.2]

end Disconnecting

/-- A pointer that is not in the list is refused, and nothing else happens. -/
def RefusesUnlisted (s : Registry) : Prop :=
  ∀ thread call id client, s.callers[thread]? = some (.removing call id client) →
    client ∉ s.manager.clients →
      step (.run thread) s = some {s with callers := s.callers.set thread (call.finish .notFound)}

/-- An id that no listed client has is not found, at the lookup. -/
def RefusesUnknown (s : Registry) : Prop :=
  ∀ thread id next, (∀ client ∈ s.manager.clients, s.ids client ≠ id) →
    step (.removeById thread id) s = some next →
      next = {s with callers := s.callers.set thread (.returned .notFound)}

/-- Whoever calls it, a removal unlinks no other client than the one it is about,
and is refused when that one is no longer listed. -/
def RemovesMeant (s : Registry) : Prop :=
  ∀ thread call id client, s.callers[thread]? = some (.removing call id client) →
    (client ∈ s.manager.clients → s.ids client = id) ∧
    ((∀ other ∈ s.manager.clients, s.ids other ≠ id) →
      step (.run thread) s = some {s with callers := s.callers.set thread (call.finish .notFound)})

/-- A thread in `client_manager_disconnect_all` is never stuck there, takes
only so many steps, and leaves an empty list, if nobody is added meanwhile. -/
def DisconnectsAll (s : Registry) : Prop :=
  ∀ thread caller, s.callers[thread]? = some caller → looping caller = true →
    ∃ bound : Nat, ∀ later final,
      GuardedRun step (fun action _ => Quiet thread action) s later final →
        later.countP (· = .run thread) ≤ bound ∧
          ((∃ next, step (.run thread) final = some next) ∨
            final.callers[thread]? = some (.returned .success) ∧ final.manager.clients = [])

theorem refusesUnlisted (s : Registry) : s.RefusesUnlisted := by
  intro thread call id client calling unlisted
  have taken : RegistryCaller.advance s.manager s.ids (.removing call id client) =
      some (s.manager,call.finish .notFound) := by
    simp only [RegistryCaller.advance,ClientManager.unlink,if_neg unlisted]
  simp only [step,calling,Option.bind_some,taken,Option.map_some]

theorem refusesUnknown (s : Registry) : s.RefusesUnknown := by
  intro thread id next unknown stepped
  have none : s.find id = none := by
    refine List.find?_eq_none.mpr fun client member => ?_
    simpa using unknown client member
  simp only [step,none] at stepped
  exact begin_callers stepped

theorem Meant.removes {s : Registry} (meant : s.Meant) : s.RemovesMeant := by
  intro thread call id client calling
  have own := meant call id client (List.mem_of_getElem? calling)
  refine ⟨own,fun gone => ?_⟩
  have unlisted : client ∉ s.manager.clients := fun listed => gone client listed (own listed)
  exact refusesUnlisted s thread call id client calling unlisted

theorem disconnectsAll (s : Registry) : s.DisconnectsAll := by
  intro thread caller running loops
  refine ⟨left thread s,fun later final run => ?_⟩
  obtain ⟨⟨last,stopped,stage⟩,steps⟩ := run.bounded (left thread) (· = .run thread)
    (Disconnecting thread) step_disconnecting ⟨caller,running,.inl loops⟩
  refine ⟨by omega,?_⟩
  rcases stage with busy | ⟨rfl,empty⟩
  · have returns : ∃ result, last.advance final.manager final.ids = some result := advance_returns busy
    obtain ⟨⟨after,onward⟩,taken⟩ := returns
    left
    simp only [step,stopped,Option.bind_some,taken,Option.map_some]
    exact ⟨_,rfl⟩
  · exact .inr ⟨stopped,empty⟩

/-- The registry stays sound and every removal does what it should, as long as
none goes by an address that meanwhile belongs to another client. -/
theorem registry_invariant {threads : Nat} {ids : ClientPtr → UInt32}
    {actions : List RegistryAction} {s : Registry} (run : Run step (start threads ids) actions s)
    (few : actions.countP isAdd < 2^32 - 1) :
    s.Sound ∧ s.RefusesUnlisted ∧ s.RefusesUnknown ∧ s.DisconnectsAll ∧
      (GuardedRun step Unclaimed (start threads ids) actions s → s.RemovesMeant) := by
  have started : (start threads ids).spent = 1 := rfl
  have inv := run_inv run (start_inv threads ids) (by omega)
  refine ⟨inv.toSound,refusesUnlisted s,refusesUnknown s,disconnectsAll s,fun guarded => ?_⟩
  have initially : (start threads ids).Meant := by
    intro call id client calling
    cases List.eq_of_mem_replicate calling
  exact (guarded.invariant Meant step_meant initially).removes

/-- Two clients, of whom the first is removed by one thread while another one
has begun to remove it. -/
def removedTwice (begins : RegistryAction) : List RegistryAction :=
  [.addCheck,.addLocked (some 7),.addCheck,.addLocked (some 9),begins,.remove 1 7 1,.run 1,.run 1]

def unclaimed (action : RegistryAction) (s : Registry) : Bool :=
  match action with
  | .addLocked (some client) => s.callers.all fun caller =>
    match caller with
    | .removing _ _ other => other ≠ client
    | _ => true
  | .remove _ client id => s.ids client = id
  | _ => true

theorem unclaimed_sound (action : RegistryAction) (s : Registry) (checked : unclaimed action s = true) :
    Unclaimed action s := by
  unfold Unclaimed
  split
  next client =>
    intro call id calling
    have different := List.all_eq_true.mp checked _ calling
    simp at different
  next => exact fun _ => of_decide_eq_true checked
  next => trivial

/-- The client of a removal that has begun is already gone. -/
def RefusesTwice (begins : RegistryAction) : Prop :=
  ∃ s call, GuardedRun step Unclaimed (start 2 fun _ => 0) (removedTwice begins) s ∧
    s.manager.clients = [9] ∧ s.Sound ∧ s.callers[0]? = some (.removing call 1 7) ∧
    step (.run 0) s = some {s with callers := s.callers.set 0 (.returned .notFound)}

theorem registry_invariant_twice : RefusesTwice (.removeById 0 1) ∧ RefusesTwice (.remove 0 7 1) := by
  have refuses (begins : RegistryAction)
      (kinds : begins ∈ [RegistryAction.removeById 0 1,.remove 0 7 1]) : RefusesTwice begins := by
    have few : (removedTwice begins).countP isAdd < 2^32 - 1 := by
      revert begins
      decide
    obtain ⟨s,guarded,checked⟩ := guardedRun_of_check step Unclaimed unclaimed unclaimed_sound
      (removedTwice begins) (start 2 fun _ => 0) (fun s => s.manager.clients = [9] ∧ s.ids 9 = 2 ∧
        ∃ call ∈ [RemoveCall.byId,.pointer], s.callers[0]? = some (.removing call 1 7))
      (by clear few; revert begins; decide)
    obtain ⟨clients,id,call,sort,calling⟩ := of_decide_eq_true checked
    obtain ⟨sound,_,_,_,removes⟩ := registry_invariant guarded.run few
    have gone : ∀ other ∈ s.manager.clients, s.ids other ≠ 1 := by
      rw [clients]
      intro other member
      cases List.mem_singleton.mp member
      rw [id]
      decide
    have refused := (removes guarded 0 call 1 7 calling).2 gone
    refine ⟨s,call,guarded,clients,sound,calling,refused.trans ?_⟩
    rcases List.mem_pair.mp sort with rfl | rfl <;> rfl
  exact ⟨refuses _ List.mem_cons_self,refuses _ (List.mem_cons_of_mem _ List.mem_cons_self)⟩

/-- The first client is removed and its memory given to a second one while
another removal of the first is under way: it removes the second and reports
success. -/
def RemovesSecond (begins : RegistryAction) : Prop :=
  ∃ s, Run step (start 2 fun _ => 0) [.addCheck,.addLocked (some 7),begins,.remove 1 7 1,.run 1,
      .run 1,.addCheck,.addLocked (some 7)] s ∧
    s.manager.clients.map s.ids = [2] ∧ ¬s.RemovesMeant ∧
    ∃ after, Run step s [.run 0,.run 0] after ∧ after.manager.clients = [] ∧
      after.callers[0]? = some (.returned .success)

/-- By its id or by its pointer. -/
theorem wrong_client_removed : RemovesSecond (.removeById 0 1) ∧ RemovesSecond (.remove 0 7 1) := by
  have removes (begins : RegistryAction)
      (kinds : begins ∈ [RegistryAction.removeById 0 1,.remove 0 7 1]) : RemovesSecond begins := by
    obtain ⟨s,run,checked⟩ := run_of_check step [.addCheck,.addLocked (some 7),begins,
      .remove 1 7 1,.run 1,.run 1,.addCheck,.addLocked (some 7)] (start 2 fun _ => 0)
      (fun s => s.manager.clients = [7] ∧ s.ids 7 = 2 ∧
        (∃ call ∈ [RemoveCall.byId,.pointer], s.callers[0]? = some (.removing call 1 7)) ∧
        (execute step [.run 0,.run 0] s).any fun after =>
          after.manager.clients = [] ∧ after.callers[0]? = some (.returned .success))
      (by revert begins; decide)
    obtain ⟨clients,id,⟨call,_,calling⟩,finished⟩ := of_decide_eq_true checked
    obtain ⟨after,onward,done⟩ := run_of_check step [.run 0,.run 0] s _ finished
    obtain ⟨gone,success⟩ := of_decide_eq_true done
    refine ⟨s,run,by simp [clients,id],fun means => ?_,after,onward,gone,success⟩
    have own := (means 0 call 1 7 calling).1 (by simp [clients])
    rw [id] at own
    exact absurd own (by decide)
  exact ⟨removes _ List.mem_cons_self,removes _ (List.mem_cons_of_mem _ List.mem_cons_self)⟩

end Registry

end UsbOverNetwork
