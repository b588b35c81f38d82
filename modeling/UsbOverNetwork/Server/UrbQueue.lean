import UsbOverNetwork.Library.LinkedQueue
import UsbOverNetwork.Server.UrbHandler

/-! The URB queue as the program keeps it: entries in memory linked by `next`,
with head, tail and count. It carries out the list operations that the handler
is modelled with. -/
namespace UsbOverNetwork
open LinkedQueue

abbrev EntryAddress := Nat

/-- An `urb_entry_t`: the entry's data and the link to the next one. -/
structure UrbNode where
  entry : UrbEntry
  next : Option EntryAddress

abbrev UrbMemory := EntryAddress → UrbNode

namespace UrbMemory

def entry (memory : UrbMemory) (address : EntryAddress) : UrbEntry := (memory address).entry
def next (memory : UrbMemory) (address : EntryAddress) : Option EntryAddress :=
  (memory address).next

def setNext (memory : UrbMemory) (address : EntryAddress) (next : Option EntryAddress) :
    UrbMemory :=
  Function.update memory address {memory address with next}

theorem write_next (memory : UrbMemory) (address : EntryAddress) (node : UrbNode) :
    UrbMemory.next (Function.update memory address node) =
      Function.update memory.next address node.next := by
  funext other
  exact Function.apply_update (fun _ node => node.next) memory address node other

theorem write_entry (memory : UrbMemory) (address : EntryAddress) (node : UrbNode) :
    UrbMemory.entry (Function.update memory address node) =
      Function.update memory.entry address node.entry := by
  funext other
  exact Function.apply_update (fun _ node => node.entry) memory address node other

@[simp] theorem setNext_next (memory : UrbMemory) (address : EntryAddress)
    (next : Option EntryAddress) :
    (memory.setNext address next).next = Function.update memory.next address next :=
  write_next memory address _

@[simp] theorem setNext_entry (memory : UrbMemory) (address : EntryAddress)
    (next : Option EntryAddress) : (memory.setNext address next).entry = memory.entry := by
  rw [setNext,write_entry]
  exact Function.update_eq_self address memory.entry

end UrbMemory

structure UrbQueue where
  head : Option EntryAddress
  tail : Option EntryAddress
  count : Int
deriving DecidableEq

namespace UrbQueue

/-- The queue after `queue_init`'s `memset`. -/
def zeroed : UrbQueue := ⟨none,none,0⟩

def queuePush (memory : UrbMemory) (queue : UrbQueue) (entry : EntryAddress) :
    UrbMemory × UrbQueue :=
  let memory := memory.setNext entry none
  match queue.tail with
  | some tail => (memory.setNext tail (some entry),⟨queue.head,some entry,queue.count + 1⟩)
  | none => (memory,⟨some entry,some entry,queue.count + 1⟩)

def queuePop (memory : UrbMemory) (queue : UrbQueue) :
    Option EntryAddress × UrbMemory × UrbQueue :=
  match queue.head with
  | none => (none,memory,queue)
  | some entry =>
    let head := memory.next entry
    (some entry,memory.setNext entry none,
      ⟨head,if head = none then none else queue.tail,queue.count - 1⟩)

/-- What the loop of `queue_find_remove` does to the entry it has found. -/
def unlink (memory : UrbMemory) (queue : UrbQueue) (previous : Option EntryAddress)
    (entry : EntryAddress) : UrbMemory × UrbQueue :=
  let next := memory.next entry
  let (memory,head) := match previous with
    | none => (memory,next)
    | some previous => (memory.setNext previous next,queue.head)
  (memory.setNext entry none,
    ⟨head,if queue.tail = some entry then previous else queue.tail,queue.count - 1⟩)

/-- The loop of `queue_find_remove`; `none` when it goes on for longer than `fuel`. -/
def findLoop (memory : UrbMemory) (queue : UrbQueue) (seqnum : UInt32) :
    Nat → Option EntryAddress → Option EntryAddress →
      Option (Option EntryAddress × UrbMemory × UrbQueue)
  | 0,_,_ => none
  | _+1,_,none => some (none,memory,queue)
  | fuel+1,previous,some entry =>
    if (memory.entry entry).seqnum = seqnum then
      some (some entry,unlink memory queue previous entry)
    else findLoop memory queue seqnum fuel (some entry) (memory.next entry)

def queueFindRemove (fuel : Nat) (memory : UrbMemory) (queue : UrbQueue) (seqnum : UInt32) :
    Option (Option EntryAddress × UrbMemory × UrbQueue) :=
  findLoop memory queue seqnum fuel none queue.head

structure Holds (memory : UrbMemory) (queue : UrbQueue) (entries : List EntryAddress) : Prop where
  linked : Represents memory.next queue.head queue.tail entries
  count : queue.count = entries.length

variable {memory : UrbMemory} {queue : UrbQueue} {entries : List EntryAddress}

theorem zeroed_holds : Holds memory zeroed [] := ⟨.empty,rfl⟩

theorem Holds.push (holds : Holds memory queue entries) (entry : EntryAddress)
    (fresh : entry ∉ entries) :
    Holds (queuePush memory queue entry).1 (queuePush memory queue entry).2 (entries ++ [entry]) ∧
      (queuePush memory queue entry).1.entry = memory.entry := by
  have ended := holds.linked.update entry none fresh
  have cleared : Function.update memory.next entry none entry = none := Function.update_self ..
  have counted : queue.count + 1 = ((entries ++ [entry]).length : Int) := by
    rw [holds.count,List.length_append]
    rfl
  rw [queuePush]
  cases tail : queue.tail with
  | some last =>
    rw [tail] at ended
    refine ⟨⟨?_,counted⟩,by simp⟩
    simpa using ended.push entry fresh cleared
  | none =>
    rw [tail] at ended
    have empty := List.getLast?_eq_none_iff.mp ended.last.symm
    subst empty
    refine ⟨⟨?_,counted⟩,by simp⟩
    simpa using Represents.singleton entry cleared

theorem Holds.pop_empty (holds : Holds memory queue []) :
    queuePop memory queue = (none,memory,queue) := by
  have head := holds.linked.path.start
  rw [queuePop,head]
  rfl

theorem Holds.pop {entry : EntryAddress} (holds : Holds memory queue (entry::entries)) :
    (queuePop memory queue).1 = some entry ∧
      Holds (queuePop memory queue).2.1 (queuePop memory queue).2.2 entries ∧
      (queuePop memory queue).2.1.entry = memory.entry := by
  have head := holds.linked.path.start
  have counted : queue.count - 1 = (entries.length : Int) := by
    rw [holds.count,List.length_cons]
    omega
  rw [queuePop,head]
  refine ⟨rfl,⟨?_,counted⟩,by simp⟩
  simpa using holds.linked.pop

theorem findLoop_absent (queue : UrbQueue) (seqnum : UInt32) (rest : List EntryAddress)
    (start previous : Option EntryAddress) (path : Path memory.next start rest none)
    (absent : ∀ entry ∈ rest, (memory.entry entry).seqnum ≠ seqnum) (fuel : Nat)
    (enough : rest.length < fuel) :
    findLoop memory queue seqnum fuel previous start = some (none,memory,queue) := by
  induction rest generalizing start previous fuel with
  | nil =>
    obtain ⟨fuel,rfl⟩ := Nat.exists_eq_add_one_of_ne_zero (Nat.ne_zero_of_lt enough)
    rw [path.start]
    rfl
  | cons entry rest ih =>
    obtain ⟨fuel,rfl⟩ := Nat.exists_eq_add_one_of_ne_zero (Nat.ne_zero_of_lt enough)
    rw [path.1,findLoop,if_neg (absent entry List.mem_cons_self)]
    apply ih _ _ path.2
    · exact fun other listed => absent other (List.mem_cons_of_mem _ listed)
    · exact Nat.lt_of_succ_lt_succ enough

theorem findLoop_present (seqnum : UInt32) (skipped after before : List EntryAddress)
    (entry : EntryAddress) (start : Option EntryAddress)
    (holds : Holds memory queue (before ++ (skipped ++ entry::after)))
    (path : Path memory.next start (skipped ++ entry::after) none)
    (others : ∀ other ∈ skipped, (memory.entry other).seqnum ≠ seqnum)
    (found : (memory.entry entry).seqnum = seqnum) (fuel : Nat) (enough : skipped.length < fuel) :
    ∃ memory' queue',
      findLoop memory queue seqnum fuel before.getLast? start = some (some entry,memory',queue') ∧
      Holds memory' queue' (before ++ (skipped ++ after)) ∧ memory'.entry = memory.entry := by
  induction skipped generalizing before start fuel with
  | nil =>
    obtain ⟨fuel,rfl⟩ := Nat.exists_eq_add_one_of_ne_zero (Nat.ne_zero_of_lt enough)
    have counted : queue.count - 1 = ((before ++ after).length : Int) := by
      rw [holds.count]
      simp only [List.nil_append,List.length_append,List.length_cons]
      omega
    rw [path.1,findLoop,if_pos found]
    rcases List.eq_nil_or_concat' before with rfl | ⟨earlier,previous,rfl⟩
    · refine ⟨_,_,rfl,⟨?_,counted⟩,by simp⟩
      simpa using holds.linked.unlink_first
    · rw [List.getLast?_concat]
      refine ⟨_,_,rfl,⟨?_,counted⟩,by simp⟩
      have linked := holds.linked
      simp only [List.nil_append,List.append_assoc,List.cons_append] at linked
      simpa using linked.unlink_later
  | cons other skipped ih =>
    obtain ⟨fuel,rfl⟩ := Nat.exists_eq_add_one_of_ne_zero (Nat.ne_zero_of_lt enough)
    rw [path.1,findLoop,if_neg (others other List.mem_cons_self)]
    have moved : before ++ (other::skipped ++ entry::after) =
        (before ++ [other]) ++ (skipped ++ entry::after) := by simp
    rw [moved] at holds
    obtain ⟨memory',queue',looped,still,contents⟩ := ih (before ++ [other]) _ holds path.2
      (fun one listed => others one (List.mem_cons_of_mem _ listed)) fuel
      (Nat.lt_of_succ_lt_succ enough)
    rw [List.getLast?_concat] at looped
    exact ⟨memory',queue',looped,by simpa using still,contents⟩

theorem Holds.absent (holds : Holds memory queue entries) (seqnum : UInt32)
    (absent : ∀ entry ∈ entries, (memory.entry entry).seqnum ≠ seqnum) (fuel : Nat)
    (enough : entries.length < fuel) :
    queueFindRemove fuel memory queue seqnum = some (none,memory,queue) :=
  findLoop_absent queue seqnum entries queue.head none holds.linked.path absent fuel enough

end UrbQueue

/-- What the program does with one queue. Entries outside the queue are written
to freely, by the caller or as part of another queue. -/
inductive QueueCall
  | write (address : EntryAddress) (node : UrbNode)
  | push (address : EntryAddress)
  | pop
  | findRemove (seqnum : UInt32)

structure QueueModel where
  contents : EntryAddress → UrbEntry
  entries : List EntryAddress

namespace QueueCall

def run (fuel : Nat) : QueueCall → UrbMemory × UrbQueue →
    Option (Option EntryAddress × UrbMemory × UrbQueue)
  | .write address node,(memory,queue) => some (none,Function.update memory address node,queue)
  | .push address,(memory,queue) => some (none,UrbQueue.queuePush memory queue address)
  | .pop,(memory,queue) => some (UrbQueue.queuePop memory queue)
  | .findRemove seqnum,(memory,queue) => UrbQueue.queueFindRemove fuel memory queue seqnum

def onList : QueueCall → QueueModel → Option EntryAddress × QueueModel
  | .write address node,model =>
    (none,{model with contents := Function.update model.contents address node.entry})
  | .push address,model => (none,{model with entries := model.entries ++ [address]})
  | .pop,model => (model.entries.head?,{model with entries := model.entries.tail})
  | .findRemove seqnum,model =>
    (model.entries.find? fun entry => (model.contents entry).seqnum == seqnum,
      {model with entries := model.entries.eraseP fun entry => (model.contents entry).seqnum == seqnum})

/-- Only what is not in the queue is pushed or written to. -/
def Allowed : QueueCall → QueueModel → Prop
  | .write address _,model => address ∉ model.entries
  | .push address,model => address ∉ model.entries
  | .pop,_ => True
  | .findRemove _,_ => True

end QueueCall

def runCalls (fuel : Nat) : List QueueCall → UrbMemory × UrbQueue →
    Option (List (Option EntryAddress) × UrbMemory × UrbQueue)
  | [],state => some ([],state)
  | call::calls,state =>
    (call.run fuel state).bind fun first =>
      (runCalls fuel calls first.2).map fun rest => (first.1::rest.1,rest.2)

def listCalls : List QueueCall → QueueModel → List (Option EntryAddress) × QueueModel
  | [],model => ([],model)
  | call::calls,model =>
    let first := call.onList model
    let rest := listCalls calls first.2
    (first.1::rest.1,rest.2)

def AllowedCalls : List QueueCall → QueueModel → Prop
  | [],_ => True
  | call::calls,model => call.Allowed model ∧ AllowedCalls calls (call.onList model).2

structure QueueModel.RefinedBy (model : QueueModel) (state : UrbMemory × UrbQueue) : Prop where
  holds : UrbQueue.Holds state.1 state.2 model.entries
  contents : state.1.entry = model.contents

def QueueModel.urbEntries (model : QueueModel) : List UrbEntry := model.entries.map model.contents

theorem urbEntries_push (model : QueueModel) (address : EntryAddress) :
    ((QueueCall.push address).onList model).2.urbEntries =
      queuePush model.urbEntries (model.contents address) := by
  simp [QueueCall.onList,QueueModel.urbEntries,queuePush]

theorem urbEntries_pop (model : QueueModel) :
    queuePop model.urbEntries =
      ((QueueCall.pop.onList model).1.map model.contents,(QueueCall.pop.onList model).2.urbEntries) := by
  obtain ⟨contents,entries⟩ := model
  cases entries with
  | nil => rfl
  | cons entry entries => rfl

theorem urbEntries_findRemove (model : QueueModel) (seqnum : UInt32) :
    queueFindRemove seqnum model.urbEntries =
      (((QueueCall.findRemove seqnum).onList model).1.map model.contents,
        ((QueueCall.findRemove seqnum).onList model).2.urbEntries) := by
  obtain ⟨contents,entries⟩ := model
  induction entries with
  | nil => rfl
  | cons entry entries ih =>
    simp only [QueueModel.urbEntries,QueueCall.onList,List.map_cons,queueFindRemove] at ih ⊢
    by_cases found : (contents entry).seqnum = seqnum
    · simp [found]
    · simp [found,ih]

namespace QueueModel.RefinedBy

variable {model : QueueModel} {state : UrbMemory × UrbQueue}

theorem findRemove (refined : model.RefinedBy state) (seqnum : UInt32) (fuel : Nat)
    (enough : model.entries.length < fuel) :
    ∃ after, (QueueCall.findRemove seqnum).run fuel state =
        some (((QueueCall.findRemove seqnum).onList model).1,after) ∧
      ((QueueCall.findRemove seqnum).onList model).2.RefinedBy after := by
  obtain ⟨memory,queue⟩ := state
  obtain ⟨contents,entries⟩ := model
  obtain ⟨holds,same⟩ := refined
  dsimp only at holds same
  subst same
  simp only [QueueCall.onList,QueueCall.run]
  cases found : entries.find? fun entry => (memory.entry entry).seqnum == seqnum with
  | none =>
    have absent := List.find?_eq_none.mp found
    rw [List.eraseP_of_forall_not absent]
    refine ⟨_,holds.absent seqnum ?_ fuel enough,holds,rfl⟩
    exact fun entry listed => by simpa using absent entry listed
  | some entry =>
    obtain ⟨matched,skipped,after,split,others⟩ := List.find?_eq_some_iff_append.mp found
    subst split
    have removed : (skipped ++ entry::after).eraseP
        (fun entry => (memory.entry entry).seqnum == seqnum) = skipped ++ after := by
      rw [List.eraseP_append_right _ (by simpa using others)]
      exact congrArg (skipped ++ ·) (List.eraseP_cons_of_pos (l := after) matched)
    have short : skipped.length < fuel := by
      simp only [List.length_append,List.length_cons] at enough
      omega
    obtain ⟨memory',queue',looped,still,kept⟩ := UrbQueue.findLoop_present seqnum skipped after []
      entry queue.head holds holds.linked.path (by simpa using others) (by simpa using matched)
      fuel short
    rw [removed]
    exact ⟨_,looped,still,kept⟩

theorem call (refined : model.RefinedBy state) (call : QueueCall) (allowed : call.Allowed model)
    (fuel : Nat) (enough : model.entries.length < fuel) :
    ∃ after, call.run fuel state = some ((call.onList model).1,after) ∧
      (call.onList model).2.RefinedBy after := by
  obtain ⟨memory,queue⟩ := state
  obtain ⟨contents,entries⟩ := model
  have ⟨holds,same⟩ := refined
  dsimp only at holds same
  cases call with
  | write address node =>
    refine ⟨_,rfl,⟨?_,holds.count⟩,?_⟩
    · rw [UrbMemory.write_next]
      exact holds.linked.update address node.next allowed
    · rw [UrbMemory.write_entry,same]
      rfl
  | push address =>
    obtain ⟨still,kept⟩ := holds.push address allowed
    exact ⟨_,rfl,still,kept.trans same⟩
  | pop =>
    cases entries with
    | nil => exact ⟨_,congrArg some holds.pop_empty,holds,same⟩
    | cons entry entries =>
      obtain ⟨first,still,kept⟩ := holds.pop
      exact ⟨_,congrArg some (Prod.ext first rfl),still,kept.trans same⟩
  | findRemove seqnum => exact refined.findRemove seqnum fuel enough

end QueueModel.RefinedBy

theorem onList_length (call : QueueCall) (model : QueueModel) :
    (call.onList model).2.entries.length ≤ model.entries.length + 1 := by
  cases call with
  | write address node => exact Nat.le_succ _
  | push address => exact Nat.le_of_eq List.length_append
  | pop =>
    have shorter := List.length_tail (l := model.entries)
    simp only [QueueCall.onList]
    omega
  | findRemove seqnum => exact Nat.le_succ_of_le List.length_eraseP_le

theorem runCalls_refines (calls : List QueueCall) (model : QueueModel) (state : UrbMemory × UrbQueue)
    (refined : model.RefinedBy state) (allowed : AllowedCalls calls model) (fuel : Nat)
    (enough : model.entries.length + calls.length < fuel) :
    ∃ final, runCalls fuel calls state = some ((listCalls calls model).1,final) ∧
      (listCalls calls model).2.RefinedBy final := by
  induction calls generalizing model state with
  | nil => exact ⟨state,rfl,refined⟩
  | cons call calls ih =>
    rw [List.length_cons] at enough
    obtain ⟨after,first,related⟩ := refined.call call allowed.1 fuel (by omega)
    have longer := onList_length call model
    obtain ⟨final,rest,last⟩ := ih _ after related allowed.2 (by omega)
    refine ⟨final,?_,last⟩
    rw [runCalls,first,Option.bind_some]
    dsimp only
    rw [rest]
    rfl

theorem listCalls_length (calls : List QueueCall) (model : QueueModel) :
    (listCalls calls model).2.entries.length ≤ model.entries.length + calls.length := by
  induction calls generalizing model with
  | nil => exact Nat.le_refl _
  | cons call calls ih =>
    have first := onList_length call model
    have rest := ih (call.onList model).2
    rw [List.length_cons]
    simp only [listCalls]
    omega

/-- However the queue is used, it returns what the list operations return and
stays a list: linked from head to tail, counted, and ending in `NULL`. -/
theorem queue_refines_list (memory : UrbMemory) (calls : List QueueCall)
    (allowed : AllowedCalls calls ⟨memory.entry,[]⟩) (fuel : Nat) (enough : calls.length < fuel) :
    ∃ memory' queue',
      runCalls fuel calls (memory,.zeroed) =
        some ((listCalls calls ⟨memory.entry,[]⟩).1,memory',queue') ∧
      memory'.entry = (listCalls calls ⟨memory.entry,[]⟩).2.contents ∧
      queue'.count = (listCalls calls ⟨memory.entry,[]⟩).2.entries.length ∧
      Path memory'.next queue'.head (listCalls calls ⟨memory.entry,[]⟩).2.entries none ∧
      queue'.tail = (listCalls calls ⟨memory.entry,[]⟩).2.entries.getLast? ∧
      (queue'.tail = none ↔ queue'.head = none) ∧
      ∀ seqnum, (∀ entry ∈ (listCalls calls ⟨memory.entry,[]⟩).2.entries,
          (memory'.entry entry).seqnum ≠ seqnum) →
        UrbQueue.queueFindRemove fuel memory' queue' seqnum = some (none,memory',queue') := by
  have empty : QueueModel.RefinedBy ⟨memory.entry,[]⟩ (memory,.zeroed) := ⟨UrbQueue.zeroed_holds,rfl⟩
  obtain ⟨⟨memory',queue'⟩,ran,holds,contents⟩ :=
    runCalls_refines calls _ _ empty allowed fuel (by simpa using enough)
  have short := listCalls_length calls ⟨memory.entry,[]⟩
  refine ⟨memory',queue',ran,contents,holds.count,holds.linked.path,holds.linked.last,
    holds.linked.tail_none,?_⟩
  intro seqnum absent
  apply holds.absent seqnum absent
  simp only [List.length_nil] at short
  omega

def UrbEntry.poll (seqnum : UInt32) : UrbEntry where
  urb := {UsbUrb.poll with seqnum}
  seqnum := seqnum
  devid := UsbUrb.poll.devid
  submitTime := 0
  inProgress := false
  completed := false
  serial := 0

theorem queue_refines_list_polls :
    ∃ memory queue,
      runCalls 7 [.push 3,.push 4,.push 5,.findRemove 4,.push 4,.pop]
          (fun address => ⟨.poll (UInt32.ofNat address),none⟩,.zeroed) =
        some ([none,none,none,some 4,none,some 3],memory,queue) ∧
      queue.count = 2 ∧ queue.tail = some 4 := by
  obtain ⟨memory,queue,ran,_,count,_,last,_⟩ :=
    queue_refines_list (fun address => ⟨.poll (UInt32.ofNat address),none⟩)
      [.push 3,.push 4,.push 5,.findRemove 4,.push 4,.pop]
      ⟨(by decide : 3 ∉ ([] : List Nat)),(by decide : 4 ∉ [3]),(by decide : 5 ∉ [3,4]),trivial,
        (by decide : 4 ∉ [3,5]),trivial,trivial⟩ 7 (by decide)
  exact ⟨memory,queue,ran,count,last⟩

end UsbOverNetwork
