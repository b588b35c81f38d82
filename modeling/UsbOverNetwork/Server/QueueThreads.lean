import UsbOverNetwork.Library.Critical
import UsbOverNetwork.Server.UrbQueue

/-! The URB queue between its threads, assignment by assignment: however the
threads are interleaved, each call has the effect of the list operation. -/
namespace UsbOverNetwork
open LinkedQueue Runs
open Critical (Outer Status Threads Atomic)

/-- To whom an entry belongs, which the program does not write down. An entry is
`passing` that a thread has given to its call or is given by it. -/
inductive Holder (ι : Type)
  | nobody
  | thread (thread : ι)
  | passing (thread : ι)
  | queue
deriving DecidableEq

inductive QueueOperation
  | push (entry : EntryAddress)
  | pop
  | findRemove (seqnum : UInt32)
deriving DecidableEq

inductive EntryUse
  | create (address : EntryAddress) (node : UrbNode)
  | write (address : EntryAddress) (node : UrbNode)
  | free (address : EntryAddress)

/-- The next statement of `queue_push`, `queue_pop` or `queue_find_remove`. -/
inductive QueuePc
  | clearNext (entry : EntryAddress)
  | link (entry : EntryAddress)
  | setTail (entry : EntryAddress)
  | countUp (entry : EntryAddress)
  | readHead
  | advance (entry : EntryAddress)
  | dropTail (entry : EntryAddress)
  | readFirst (seqnum : UInt32)
  | look (seqnum : UInt32) (previous entry : Option EntryAddress)
  | bypass (previous : Option EntryAddress) (entry : EntryAddress)
  | fixTail (previous : Option EntryAddress) (entry : EntryAddress)
  | countDown (entry : EntryAddress)
  | clear (entry : EntryAddress)
  | unlock (result : Option EntryAddress)
deriving DecidableEq

variable {ι : Type}

abbrev QueueOuter := Outer QueueOperation (Option EntryAddress) EntryUse

structure SharedQueue (ι : Type) where
  memory : UrbMemory
  queue : UrbQueue
  holder : EntryAddress → Holder ι

structure HeldModel (ι : Type) where
  model : QueueModel
  holder : EntryAddress → Holder ι

namespace QueueOperation

def call : QueueOperation → QueueCall
  | .push entry => .push entry
  | .pop => .pop
  | .findRemove seqnum => .findRemove seqnum

def settle (thread : ι) (operation : QueueOperation) (result : Option EntryAddress)
    (holder : EntryAddress → Holder ι) : EntryAddress → Holder ι :=
  match operation,result with
  | .push entry,_ => Function.update holder entry .queue
  | _,some entry => Function.update holder entry (.passing thread)
  | _,none => holder

end QueueOperation

namespace SharedQueue

def step : QueuePc → SharedQueue ι → QueuePc × SharedQueue ι
  | .clearNext entry,s => (.link entry,{s with memory := s.memory.setNext entry none})
  | .link entry,s => (.setTail entry,match s.queue.tail with
    | some tail => {s with memory := s.memory.setNext tail (some entry)}
    | none => {s with queue := {s.queue with head := some entry}})
  | .setTail entry,s => (.countUp entry,{s with queue := {s.queue with tail := some entry}})
  | .countUp _,s => (.unlock none,{s with queue := {s.queue with count := s.queue.count+1}})
  | .readHead,s =>
    match s.queue.head with
    | none => (.unlock none,s)
    | some entry => (.advance entry,s)
  | .advance entry,s =>
    (.dropTail entry,{s with queue := {s.queue with head := s.memory.next entry}})
  | .dropTail entry,s =>
    (.countDown entry,if s.queue.head = none then {s with queue := {s.queue with tail := none}} else s)
  | .readFirst seqnum,s => (.look seqnum none s.queue.head,s)
  | .look _ _ none,s => (.unlock none,s)
  | .look seqnum previous (some entry),s =>
    if (s.memory.entry entry).seqnum = seqnum then (.bypass previous entry,s)
    else (.look seqnum (some entry) (s.memory.next entry),s)
  | .bypass previous entry,s => (.fixTail previous entry,match previous with
    | none => {s with queue := {s.queue with head := s.memory.next entry}}
    | some previous => {s with memory := s.memory.setNext previous (s.memory.next entry)})
  | .fixTail previous entry,s =>
    (.countDown entry,
      if s.queue.tail = some entry then {s with queue := {s.queue with tail := previous}} else s)
  | .countDown entry,s => (.clear entry,{s with queue := {s.queue with count := s.queue.count-1}})
  | .clear entry,s => (.unlock (some entry),{s with memory := s.memory.setNext entry none})
  | .unlock result,s => (.unlock result,s)

end SharedQueue

def queueCode : Critical.Code ι QueueOperation (Option EntryAddress) QueuePc (SharedQueue ι) where
  start
    | .push entry => .clearNext entry
    | .pop => .readHead
    | .findRemove seqnum => .readFirst seqnum
  step _ := SharedQueue.step
  result
    | .unlock result => some result
    | _ => none
  release thread operation result s := {s with holder := operation.settle thread result s.holder}

section Outside

variable [DecidableEq ι]

/-- A thread uses its own entries only, and an entry is created where there is none. -/
def onHolders (thread : ι) : QueueOuter → (EntryAddress → Holder ι) → Option (EntryAddress → Holder ι)
  | .call (.push entry),holder =>
    if holder entry = .thread thread then some (Function.update holder entry (.passing thread))
    else none
  | .call .pop,holder => some holder
  | .call (.findRemove _),holder => some holder
  | .back none,holder => some holder
  | .back (some entry),holder => some (Function.update holder entry (.thread thread))
  | .meanwhile (.create address _),holder =>
    if holder address = .nobody then some (Function.update holder address (.thread thread)) else none
  | .meanwhile (.write address _),holder =>
    if holder address = .thread thread then some holder else none
  | .meanwhile (.free address),holder =>
    if holder address = .thread thread then some (Function.update holder address .nobody) else none

def onMemory : QueueOuter → UrbMemory → UrbMemory
  | .meanwhile (.create address node),memory => Function.update memory address node
  | .meanwhile (.write address node),memory => Function.update memory address node
  | _,memory => memory

def onContents : QueueOuter → (EntryAddress → UrbEntry) → EntryAddress → UrbEntry
  | .meanwhile (.create address node),contents => Function.update contents address node.entry
  | .meanwhile (.write address node),contents => Function.update contents address node.entry
  | _,contents => contents

def SharedQueue.outer (thread : ι) (outer : QueueOuter) (s : SharedQueue ι) : Option (SharedQueue ι) :=
  (onHolders thread outer s.holder).map fun holder => {s with memory := onMemory outer s.memory, holder}

def HeldModel.outer (thread : ι) (outer : QueueOuter) (s : HeldModel ι) : Option (HeldModel ι) :=
  (onHolders thread outer s.holder).map fun holder =>
    ⟨{s.model with contents := onContents outer s.model.contents},holder⟩

end Outside

def HeldModel.perform (thread : ι) (operation : QueueOperation) (s : HeldModel ι) :
    Option EntryAddress × HeldModel ι :=
  let (result,model) := operation.call.onList s.model
  (result,⟨model,operation.settle thread result s.holder⟩)

def touched : QueueOuter → Option EntryAddress
  | .call (.push entry) => some entry
  | .call .pop => none
  | .call (.findRemove _) => none
  | .back result => result
  | .meanwhile (.create address _) => some address
  | .meanwhile (.write address _) => some address
  | .meanwhile (.free address) => some address

namespace QueueOperation

structure Finds (operation : QueueOperation) (model : QueueModel) (before : List EntryAddress)
    (entry : EntryAddress) (rest : List EntryAddress) : Prop where
  listed : model.entries = before ++ entry::rest
  chosen : match operation with
    | .push _ => False
    | .pop => before = []
    | .findRemove seqnum =>
      (∀ other ∈ before, (model.contents other).seqnum ≠ seqnum) ∧ (model.contents entry).seqnum = seqnum

def Misses : QueueOperation → QueueModel → Prop
  | .push _,_ => True
  | .pop,model => model.entries = []
  | .findRemove seqnum,model => ∀ other ∈ model.entries, (model.contents other).seqnum ≠ seqnum

def joined : QueueOperation → List EntryAddress → List EntryAddress
  | .push entry,entries => entries ++ [entry]
  | .pop,entries => entries
  | .findRemove _,entries => entries

variable {operation : QueueOperation} {model : QueueModel} {before rest : List EntryAddress}
  {entry : EntryAddress}

theorem Finds.onList (finds : operation.Finds model before entry rest) :
    operation.call.onList model = (some entry,{model with entries := before ++ rest}) := by
  obtain ⟨contents,entries⟩ := model
  obtain ⟨listed,chosen⟩ := finds
  dsimp only at listed
  subst listed
  cases operation with
  | push pushed => exact chosen.elim
  | pop =>
    dsimp only at chosen
    subst chosen
    rfl
  | findRemove seqnum =>
    obtain ⟨others,here⟩ := chosen
    have matched : ((contents entry).seqnum == seqnum) = true := by simpa using here
    have first : (before ++ entry::rest).find? (fun entry => (contents entry).seqnum == seqnum) =
        some entry := by
      apply List.find?_eq_some_iff_append.mpr
      refine ⟨matched,before,rest,rfl,?_⟩
      intro other passed
      simpa using others other passed
    have removed : (before ++ entry::rest).eraseP (fun entry => (contents entry).seqnum == seqnum) =
        before ++ rest := by
      rw [List.eraseP_append_right _ (by simpa using others)]
      exact congrArg (before ++ ·) (List.eraseP_cons_of_pos (l := rest) matched)
    simp only [call,QueueCall.onList,first,removed]

theorem Misses.onList (misses : operation.Misses model) :
    operation.call.onList model = (none,{model with entries := operation.joined model.entries}) := by
  obtain ⟨contents,entries⟩ := model
  cases operation with
  | push entry => rfl
  | pop =>
    dsimp only [Misses] at misses
    subst misses
    rfl
  | findRemove seqnum =>
    have absent : ∀ entry ∈ entries, ¬((contents entry).seqnum == seqnum) = true := by
      intro entry listed
      simpa using misses entry listed
    simp only [call,QueueCall.onList,joined,List.find?_eq_none.mpr absent,
      List.eraseP_of_forall_not absent]

theorem finds_or_misses (operation : QueueOperation) (model : QueueModel) :
    operation.Misses model ∨ ∃ before entry rest, operation.Finds model before entry rest := by
  obtain ⟨contents,entries⟩ := model
  cases operation with
  | push entry => exact .inl trivial
  | pop =>
    cases entries with
    | nil => exact .inl rfl
    | cons entry rest => exact .inr ⟨[],entry,rest,rfl,rfl⟩
  | findRemove seqnum =>
    cases found : entries.find? fun entry => (contents entry).seqnum == seqnum with
    | none =>
      have absent := List.find?_eq_none.mp found
      exact .inl fun entry listed => by simpa using absent entry listed
    | some entry =>
      obtain ⟨matched,before,rest,split,others⟩ := List.find?_eq_some_iff_append.mp found
      exact .inr ⟨before,entry,rest,split,by simpa using others,by simpa using matched⟩

section Untouched

variable {address : EntryAddress} {value : UrbEntry}

theorem contents_untouched {contents : EntryAddress → UrbEntry} {entries : List EntryAddress}
    (outside : address ∉ entries) (listed : entry ∈ entries) :
    Function.update contents address value entry = contents entry := by
  apply Function.update_of_ne
  intro same
  exact outside (same ▸ listed)

theorem Finds.untouched (finds : operation.Finds model before entry rest)
    (outside : address ∉ model.entries) :
    operation.Finds {model with contents := Function.update model.contents address value}
      before entry rest := by
  obtain ⟨listed,chosen⟩ := finds
  refine ⟨listed,?_⟩
  cases operation with
  | push pushed => exact chosen
  | pop => exact chosen
  | findRemove seqnum =>
    obtain ⟨others,here⟩ := chosen
    rw [listed] at outside
    dsimp only
    constructor
    · intro other passed
      rw [contents_untouched outside (List.mem_append_left _ passed)]
      exact others other passed
    · rw [contents_untouched outside (by simp)]
      exact here

theorem Misses.untouched (misses : operation.Misses model) (outside : address ∉ model.entries) :
    operation.Misses {model with contents := Function.update model.contents address value} := by
  cases operation with
  | push pushed => exact trivial
  | pop => exact misses
  | findRemove seqnum =>
    intro other listed
    dsimp only
    rw [contents_untouched outside listed]
    exact misses other listed

end Untouched

end QueueOperation

section Shape

open UrbQueue (Holds)

/-- What the queue looks like at each statement, where `model` is the list
before the call. -/
def Shape (operation : QueueOperation) (model : QueueModel) (memory : UrbMemory) (queue : UrbQueue) :
    QueuePc → Prop
  | .clearNext entry => operation = .push entry ∧ entry ∉ model.entries ∧
    Holds memory queue model.entries
  | .link entry => operation = .push entry ∧ entry ∉ model.entries ∧
    Holds memory queue model.entries ∧ memory.next entry = none
  | .setTail entry => operation = .push entry ∧ (model.entries ++ [entry]).Nodup ∧
    Path memory.next queue.head (model.entries ++ [entry]) none ∧ queue.count = model.entries.length
  | .countUp entry => operation = .push entry ∧
    Represents memory.next queue.head queue.tail (model.entries ++ [entry]) ∧
    queue.count = model.entries.length
  | .readHead => operation = .pop ∧ Holds memory queue model.entries
  | .advance entry => operation = .pop ∧ Holds memory queue model.entries ∧
    ∃ rest, operation.Finds model [] entry rest
  | .dropTail entry => operation = .pop ∧ model.entries.Nodup ∧
    queue.tail = model.entries.getLast? ∧ queue.count = model.entries.length ∧
    ∃ rest, operation.Finds model [] entry rest ∧ Path memory.next queue.head rest none
  | .readFirst seqnum => operation = .findRemove seqnum ∧ Holds memory queue model.entries
  | .look seqnum previous entry => operation = .findRemove seqnum ∧
    Holds memory queue model.entries ∧ ∃ before rest, model.entries = before ++ rest ∧
      (∀ other ∈ before, (model.contents other).seqnum ≠ seqnum) ∧ previous = before.getLast? ∧
      Path memory.next entry rest none
  | .bypass previous entry => Holds memory queue model.entries ∧
    ∃ before rest, operation.Finds model before entry rest ∧ previous = before.getLast?
  -- The tail is that of the list as it was linked before.
  | .fixTail previous entry => (∃ next head, Represents next head queue.tail model.entries) ∧
    queue.count = model.entries.length ∧ ∃ before rest, operation.Finds model before entry rest ∧
      previous = before.getLast? ∧ Path memory.next queue.head (before ++ rest) none
  | .countDown entry => model.entries.Nodup ∧ queue.count = model.entries.length ∧
    ∃ before rest, operation.Finds model before entry rest ∧
      Represents memory.next queue.head queue.tail (before ++ rest)
  | .clear entry => model.entries.Nodup ∧ ∃ before rest, operation.Finds model before entry rest ∧
    Holds memory queue (before ++ rest)
  | .unlock none => operation.Misses model ∧ Holds memory queue (operation.joined model.entries)
  | .unlock (some entry) => ∃ before rest, operation.Finds model before entry rest ∧
    Holds memory queue (before ++ rest)

variable {operation : QueueOperation} {model : QueueModel} {memory : UrbMemory} {queue : UrbQueue}

namespace Shape

theorem start (operation : QueueOperation) (holds : Holds memory queue model.entries)
    (fresh : ∀ entry, operation = .push entry → entry ∉ model.entries) :
    Shape operation model memory queue ((@queueCode ι).start operation) := by
  cases operation with
  | push entry => exact ⟨rfl,fresh entry rfl,holds⟩
  | pop => exact ⟨rfl,holds⟩
  | findRemove seqnum => exact ⟨rfl,holds⟩

variable {s : SharedQueue ι} {pc : QueuePc}

theorem clearNext_step {entry : EntryAddress}
    (shape : Shape operation model s.memory s.queue (.clearNext entry)) :
    let after := s.step (.clearNext entry)
    Shape operation model after.2.memory after.2.queue after.1 := by
  obtain ⟨rfl,fresh,holds⟩ := shape
  refine ⟨rfl,fresh,⟨?_,holds.count⟩,?_⟩
  · simpa [SharedQueue.step] using holds.linked.update entry none fresh
  · simp [SharedQueue.step]

theorem link_step {entry : EntryAddress}
    (shape : Shape operation model s.memory s.queue (.link entry)) :
    let after := s.step (.link entry)
    Shape operation model after.2.memory after.2.queue after.1 := by
  obtain ⟨rfl,fresh,holds,ended⟩ := shape
  have linked := holds.linked
  simp only [SharedQueue.step]
  cases tail : s.queue.tail with
  | some last =>
    rw [tail] at linked
    have pushed := linked.push entry fresh ended
    refine ⟨rfl,pushed.distinct,?_,holds.count⟩
    simpa using pushed.path
  | none =>
    rw [tail] at linked
    have empty := List.getLast?_eq_none_iff.mp linked.last.symm
    rw [Shape,holds.count,empty]
    exact ⟨rfl,List.nodup_singleton entry,⟨rfl,ended⟩,rfl⟩

theorem setTail_step {entry : EntryAddress}
    (shape : Shape operation model s.memory s.queue (.setTail entry)) :
    let after := s.step (.setTail entry)
    Shape operation model after.2.memory after.2.queue after.1 := by
  obtain ⟨rfl,distinct,path,count⟩ := shape
  refine ⟨rfl,⟨path,?_,distinct⟩,count⟩
  simp [SharedQueue.step]

theorem countUp_step {entry : EntryAddress}
    (shape : Shape operation model s.memory s.queue (.countUp entry)) :
    let after := s.step (.countUp entry)
    Shape operation model after.2.memory after.2.queue after.1 := by
  obtain ⟨rfl,linked,count⟩ := shape
  refine ⟨trivial,linked,?_⟩
  simp [SharedQueue.step,count,QueueOperation.joined]

theorem readHead_step (shape : Shape operation model s.memory s.queue .readHead) :
    let after := s.step .readHead
    Shape operation model after.2.memory after.2.queue after.1 := by
  obtain ⟨rfl,holds⟩ := shape
  have head := holds.linked.path.start
  simp only [SharedQueue.step]
  cases start : s.queue.head with
  | none =>
    have empty : model.entries = [] := List.head?_eq_none_iff.mp (head.symm.trans start)
    exact ⟨empty,holds⟩
  | some first =>
    obtain ⟨rest,split⟩ := List.head?_eq_some_iff.mp (head.symm.trans start)
    exact ⟨rfl,holds,rest,split,rfl⟩

theorem advance_step {entry : EntryAddress}
    (shape : Shape operation model s.memory s.queue (.advance entry)) :
    let after := s.step (.advance entry)
    Shape operation model after.2.memory after.2.queue after.1 := by
  obtain ⟨rfl,holds,rest,finds⟩ := shape
  have path := holds.linked.path
  rw [finds.listed] at path
  exact ⟨rfl,holds.linked.distinct,holds.linked.last,holds.count,rest,finds,path.2⟩

theorem dropTail_step {entry : EntryAddress}
    (shape : Shape operation model s.memory s.queue (.dropTail entry)) :
    let after := s.step (.dropTail entry)
    Shape operation model after.2.memory after.2.queue after.1 := by
  obtain ⟨rfl,distinct,last,count,rest,finds,path⟩ := shape
  have shorter := distinct
  rw [finds.listed] at shorter
  have tail : (if s.queue.head = none then none else s.queue.tail) = rest.getLast? := by
    rw [path.start,last,finds.listed]
    cases rest with
    | nil => rfl
    | cons second rest => rw [List.nil_append,List.getLast?_cons_cons]; rfl
  simp only [SharedQueue.step]
  split
  next none =>
    rw [if_pos none] at tail
    exact ⟨distinct,count,[],rest,finds,path,tail,(List.nodup_cons.mp shorter).2⟩
  next some =>
    rw [if_neg some] at tail
    exact ⟨distinct,count,[],rest,finds,path,tail,(List.nodup_cons.mp shorter).2⟩

theorem look_step {seqnum : UInt32} {previous entry : Option EntryAddress}
    (contents : s.memory.entry = model.contents)
    (shape : Shape operation model s.memory s.queue (.look seqnum previous entry)) :
    let after := s.step (.look seqnum previous entry)
    Shape operation model after.2.memory after.2.queue after.1 := by
  obtain ⟨rfl,holds,before,rest,split,others,last,path⟩ := shape
  cases rest with
  | nil =>
    cases path
    rw [List.append_nil] at split
    subst split
    exact ⟨others,holds⟩
  | cons entry rest =>
    cases path.1
    simp only [SharedQueue.step]
    split
    next here =>
      rw [contents] at here
      exact ⟨holds,before,rest,⟨split,others,here⟩,last⟩
    next different =>
      rw [contents] at different
      have moved : model.entries = (before ++ [entry]) ++ rest := by rw [split]; simp
      refine ⟨rfl,holds,before ++ [entry],rest,moved,?_,by simp,path.2⟩
      intro other passed
      rcases List.mem_append.mp passed with earlier | same
      · exact others other earlier
      · cases List.mem_singleton.mp same
        exact different

theorem bypass_step {previous : Option EntryAddress} {entry : EntryAddress}
    (shape : Shape operation model s.memory s.queue (.bypass previous entry)) :
    let after := s.step (.bypass previous entry)
    Shape operation model after.2.memory after.2.queue after.1 := by
  obtain ⟨holds,before,rest,finds,rfl⟩ := shape
  have path := holds.linked.path
  have distinct := holds.linked.distinct
  rw [finds.listed] at path distinct
  simp only [SharedQueue.step]
  rcases List.eq_nil_or_concat' before with rfl | ⟨earlier,last,rfl⟩
  · exact ⟨⟨_,_,holds.linked⟩,holds.count,[],rest,finds,rfl,path.2⟩
  · rw [List.getLast?_concat]
    refine ⟨⟨_,_,holds.linked⟩,holds.count,earlier ++ [last],rest,finds,by simp,?_⟩
    simp only [List.append_assoc,List.cons_append,List.nil_append] at path distinct ⊢
    simpa using path.bypass distinct

theorem fixTail_step {previous : Option EntryAddress} {entry : EntryAddress}
    (shape : Shape operation model s.memory s.queue (.fixTail previous entry)) :
    let after := s.step (.fixTail previous entry)
    Shape operation model after.2.memory after.2.queue after.1 := by
  obtain ⟨⟨next,head,linked⟩,count,before,rest,finds,rfl,path⟩ := shape
  have distinct := linked.distinct
  rw [finds.listed] at linked
  have tail := Represents.unlink_last before linked
  have shorter : (before ++ rest).Nodup := by
    have sub : (before ++ rest).Sublist (before ++ entry::rest) :=
      (List.sublist_cons_self entry rest).append_left before
    exact sub.nodup linked.distinct
  simp only [SharedQueue.step]
  split
  next same =>
    rw [if_pos same] at tail
    exact ⟨distinct,count,before,rest,finds,path,tail,shorter⟩
  next other =>
    rw [if_neg other] at tail
    exact ⟨distinct,count,before,rest,finds,path,tail,shorter⟩

theorem countDown_step {entry : EntryAddress}
    (shape : Shape operation model s.memory s.queue (.countDown entry)) :
    let after := s.step (.countDown entry)
    Shape operation model after.2.memory after.2.queue after.1 := by
  obtain ⟨distinct,count,before,rest,finds,linked⟩ := shape
  refine ⟨distinct,before,rest,finds,linked,?_⟩
  simp only [SharedQueue.step,count,finds.listed,List.length_append,List.length_cons]
  omega

theorem clear_step {entry : EntryAddress}
    (shape : Shape operation model s.memory s.queue (.clear entry)) :
    let after := s.step (.clear entry)
    Shape operation model after.2.memory after.2.queue after.1 := by
  obtain ⟨distinct,before,rest,finds,holds⟩ := shape
  rw [finds.listed] at distinct
  have outside : entry ∉ before ++ rest := (List.nodup_middle.mp distinct).notMem
  refine ⟨before,rest,finds,?_,holds.count⟩
  simpa [SharedQueue.step] using holds.linked.update entry none outside

theorem step (shape : Shape operation model s.memory s.queue pc)
    (contents : s.memory.entry = model.contents) :
    Shape operation model (s.step pc).2.memory (s.step pc).2.queue (s.step pc).1 := by
  cases pc with
  | clearNext entry => exact shape.clearNext_step
  | link entry => exact shape.link_step
  | setTail entry => exact shape.setTail_step
  | countUp entry => exact shape.countUp_step
  | readHead => exact shape.readHead_step
  | advance entry => exact shape.advance_step
  | dropTail entry => exact shape.dropTail_step
  | readFirst seqnum =>
    obtain ⟨rfl,holds⟩ := shape
    exact ⟨rfl,holds,[],model.entries,rfl,by simp,rfl,holds.linked.path⟩
  | look seqnum previous entry => exact shape.look_step contents
  | bypass previous entry => exact shape.bypass_step
  | fixTail previous entry => exact shape.fixTail_step
  | countDown entry => exact shape.countDown_step
  | clear entry => exact shape.clear_step
  | unlock result => exact shape

theorem unlock {result : Option EntryAddress} (shape : Shape operation model memory queue (.unlock result)) :
    ∃ entries, operation.call.onList model = (result,{model with entries}) ∧ Holds memory queue entries := by
  cases result with
  | none =>
    obtain ⟨misses,holds⟩ := shape
    exact ⟨_,misses.onList,holds⟩
  | some entry =>
    obtain ⟨before,rest,finds,holds⟩ := shape
    exact ⟨_,finds.onList,holds⟩

end Shape

namespace Shape

section Untouched

variable {address : EntryAddress} {node : UrbNode} {entries : List EntryAddress} {pc : QueuePc}

theorem path_untouched {start : Option EntryAddress} (path : Path memory.next start entries none)
    (outside : address ∉ entries) :
    Path (UrbMemory.next (Function.update memory address node)) start entries none := by
  rw [UrbMemory.write_next]
  exact path.update address node.next outside

theorem linked_untouched {head tail : Option EntryAddress}
    (linked : Represents memory.next head tail entries) (outside : address ∉ entries) :
    Represents (UrbMemory.next (Function.update memory address node)) head tail entries := by
  rw [UrbMemory.write_next]
  exact linked.update address node.next outside

theorem holds_untouched (holds : Holds memory queue entries) (outside : address ∉ entries) :
    Holds (Function.update memory address node) queue entries :=
  ⟨linked_untouched holds.linked outside,holds.count⟩

theorem shorter_untouched {before rest : List EntryAddress} {entry : EntryAddress}
    (finds : operation.Finds model before entry rest) (outside : address ∉ model.entries) :
    address ∉ before ++ rest := by
  rw [finds.listed] at outside
  simp only [List.mem_append,List.mem_cons] at outside ⊢
  exact fun listed => outside (listed.elim .inl fun later => .inr (.inr later))

theorem untouched (shape : Shape operation model memory queue pc) (outside : address ∉ model.entries)
    (other : operation ≠ .push address) :
    Shape operation {model with contents := Function.update model.contents address node.entry}
      (Function.update memory address node) queue pc := by
  have pushed {entry : EntryAddress} (pushes : operation = .push entry) :
      address ∉ model.entries ++ [entry] := by
    subst pushes
    simp only [List.mem_append,List.mem_singleton,not_or]
    exact ⟨outside,fun same => other (same ▸ rfl)⟩
  cases pc with
  | clearNext entry =>
    obtain ⟨pushes,fresh,holds⟩ := shape
    exact ⟨pushes,fresh,holds_untouched holds outside⟩
  | link entry =>
    obtain ⟨pushes,fresh,holds,ended⟩ := shape
    refine ⟨pushes,fresh,holds_untouched holds outside,?_⟩
    have different : entry ≠ address := fun same => other (same ▸ pushes)
    rw [UrbMemory.write_next,Function.update_of_ne different]
    exact ended
  | setTail entry =>
    obtain ⟨pushes,distinct,path,count⟩ := shape
    exact ⟨pushes,distinct,path_untouched path (pushed pushes),count⟩
  | countUp entry =>
    obtain ⟨pushes,linked,count⟩ := shape
    exact ⟨pushes,linked_untouched linked (pushed pushes),count⟩
  | readHead =>
    obtain ⟨pops,holds⟩ := shape
    exact ⟨pops,holds_untouched holds outside⟩
  | advance entry =>
    obtain ⟨pops,holds,rest,finds⟩ := shape
    exact ⟨pops,holds_untouched holds outside,rest,finds.untouched outside⟩
  | dropTail entry =>
    obtain ⟨pops,distinct,last,count,rest,finds,path⟩ := shape
    exact ⟨pops,distinct,last,count,rest,finds.untouched outside,
      path_untouched path (shorter_untouched finds outside)⟩
  | readFirst seqnum =>
    obtain ⟨searches,holds⟩ := shape
    exact ⟨searches,holds_untouched holds outside⟩
  | look seqnum previous entry =>
    obtain ⟨searches,holds,before,rest,split,others,last,path⟩ := shape
    have passed : address ∉ before ++ rest := split ▸ outside
    refine ⟨searches,holds_untouched holds outside,before,rest,split,?_,last,
      path_untouched path fun listed => passed (List.mem_append_right _ listed)⟩
    intro earlier listed
    dsimp only
    rw [QueueOperation.contents_untouched passed (List.mem_append_left _ listed)]
    exact others earlier listed
  | bypass previous entry =>
    obtain ⟨holds,before,rest,finds,last⟩ := shape
    exact ⟨holds_untouched holds outside,before,rest,finds.untouched outside,last⟩
  | fixTail previous entry =>
    obtain ⟨old,count,before,rest,finds,last,path⟩ := shape
    exact ⟨old,count,before,rest,finds.untouched outside,last,
      path_untouched path (shorter_untouched finds outside)⟩
  | countDown entry =>
    obtain ⟨distinct,count,before,rest,finds,linked⟩ := shape
    exact ⟨distinct,count,before,rest,finds.untouched outside,
      linked_untouched linked (shorter_untouched finds outside)⟩
  | clear entry =>
    obtain ⟨distinct,before,rest,finds,holds⟩ := shape
    exact ⟨distinct,before,rest,finds.untouched outside,
      holds_untouched holds (shorter_untouched finds outside)⟩
  | unlock result =>
    cases result with
    | none =>
      obtain ⟨misses,holds⟩ := shape
      refine ⟨misses.untouched outside,holds_untouched holds ?_⟩
      cases operation with
      | push entry => exact pushed rfl
      | pop => exact outside
      | findRemove seqnum => exact outside
    | some entry =>
      obtain ⟨before,rest,finds,holds⟩ := shape
      exact ⟨before,rest,finds.untouched outside,
        holds_untouched holds (shorter_untouched finds outside)⟩

end Untouched

end Shape

theorem step_keeps (pc : QueuePc) (s : SharedQueue ι) :
    (s.step pc).2.memory.entry = s.memory.entry ∧ (s.step pc).2.holder = s.holder := by
  cases pc with
  | clearNext entry => simp [SharedQueue.step]
  | link entry => cases tail : s.queue.tail <;> simp [SharedQueue.step,tail]
  | readHead => cases head : s.queue.head <;> simp [SharedQueue.step,head]
  | dropTail entry => by_cases none : s.queue.head = none <;> simp [SharedQueue.step,none]
  | look seqnum previous entry =>
    cases entry with
    | none => simp [SharedQueue.step]
    | some entry => by_cases here : (s.memory.entry entry).seqnum = seqnum <;> simp [SharedQueue.step,here]
  | bypass previous entry => cases previous <;> simp [SharedQueue.step]
  | fixTail previous entry => by_cases same : s.queue.tail = some entry <;> simp [SharedQueue.step,same]
  | clear entry => simp [SharedQueue.step]
  | setTail entry => exact ⟨rfl,rfl⟩
  | countUp entry => exact ⟨rfl,rfl⟩
  | advance entry => exact ⟨rfl,rfl⟩
  | readFirst seqnum => exact ⟨rfl,rfl⟩
  | countDown entry => exact ⟨rfl,rfl⟩
  | unlock result => exact ⟨rfl,rfl⟩

end Shape

section Threads

structure Moves (thread : ι) (outer : QueueOuter) (holder next : EntryAddress → Holder ι) : Prop where
  elsewhere : ∀ address, touched outer ≠ some address → next address = holder address
  mine : ∀ address, touched outer = some address →
    holder address = .nobody ∨ holder address = .thread thread ∨ outer = .back (some address)
  unlisted : ∀ address, touched outer = some address → next address ≠ .queue
  handed : ∀ address, outer = .call (.push address) → next address = .passing thread

theorem moves_update {thread : ι} {outer : QueueOuter} {holder : EntryAddress → Holder ι}
    {address : EntryAddress} {value : Holder ι} (about : touched outer = some address)
    (mine : holder address = .nobody ∨ holder address = .thread thread ∨ outer = .back (some address))
    (unlisted : value ≠ .queue)
    (handed : ∀ other, outer = .call (.push other) → value = .passing thread) :
    Moves thread outer holder (Function.update holder address value) where
  elsewhere other different := by
    apply Function.update_of_ne
    intro same
    subst same
    exact different about
  mine other same := by
    cases Option.some.inj (about.symm.trans same)
    exact mine
  unlisted other same := by
    cases Option.some.inj (about.symm.trans same)
    rw [Function.update_self]
    exact unlisted
  handed other pushes := by
    have value_handed := handed other pushes
    subst pushes
    cases Option.some.inj about
    rw [Function.update_self]
    exact value_handed

theorem moves_none {thread : ι} {outer : QueueOuter} {holder : EntryAddress → Holder ι}
    (about : touched outer = none) : Moves thread outer holder holder where
  elsewhere _ _ := rfl
  mine _ same := absurd (about.symm.trans same) (by simp)
  unlisted _ same := absurd (about.symm.trans same) (by simp)
  handed _ pushes := by
    subst pushes
    cases about

theorem settle_apart {thread : ι} {operation : QueueOperation} {result : Option EntryAddress}
    {holder : EntryAddress → Holder ι} {address : EntryAddress}
    (unpushed : operation ≠ .push address) (kept : result ≠ some address) :
    operation.settle thread result holder address = holder address := by
  have other {entry : EntryAddress} (same : address = entry) (differs : some entry ≠ some address) :
      False := differs (same ▸ rfl)
  cases operation with
  | push entry =>
    apply Function.update_of_ne
    intro same
    subst same
    exact unpushed rfl
  | pop =>
    cases result with
    | none => rfl
    | some entry =>
      apply Function.update_of_ne
      exact fun same => other same kept
  | findRemove seqnum =>
    cases result with
    | none => rfl
    | some entry =>
      apply Function.update_of_ne
      exact fun same => other same kept

abbrev QueueAtomic (ι : Type) := Atomic ι QueueOperation (Option EntryAddress) (HeldModel ι)

/-- The queue's entries are the queue's, and a thread's call and its result are
about an entry that no other thread has. -/
structure Belongs (A : QueueAtomic ι) : Prop where
  listed : ∀ address, A.shared.holder address = .queue ↔ address ∈ A.shared.model.entries
  distinct : A.shared.model.entries.Nodup
  pushing : ∀ thread entry, A.status thread = .waiting (.push entry) →
    A.shared.holder entry = .passing thread
  leaving : ∀ thread entry, A.status thread = .leaving (some entry) →
    A.shared.holder entry = .passing thread

namespace Belongs

variable {A : QueueAtomic ι} {thread : ι} {outer : QueueOuter} {next : EntryAddress → Holder ι}

theorem owned (handed : Belongs A) (ready : A.status thread = outer.before)
    (moves : Moves thread outer A.shared.holder next) {address : EntryAddress}
    (about : touched outer = some address) : A.shared.holder address = .nobody ∨
      A.shared.holder address = .thread thread ∨ A.shared.holder address = .passing thread := by
  rcases moves.mine address about with free | mine | same
  · exact .inl free
  · exact .inr (.inl mine)
  · subst same
    exact .inr (.inr (handed.leaving thread address ready))

theorem outside (handed : Belongs A) (ready : A.status thread = outer.before)
    (moves : Moves thread outer A.shared.holder next) {address : EntryAddress}
    (about : touched outer = some address) : address ∉ A.shared.model.entries := by
  rw [← handed.listed]
  rcases handed.owned ready moves about with free | mine | passing
  · simp [free]
  · simp [mine]
  · simp [passing]

theorem apart (handed : Belongs A) (ready : A.status thread = outer.before)
    (moves : Moves thread outer A.shared.holder next) {address : EntryAddress} {other : ι}
    (different : other ≠ thread) (passing : A.shared.holder address = .passing other) :
    touched outer ≠ some address := by
  intro about
  rcases handed.owned ready moves about with free | mine | same
  · rw [free] at passing
    cases passing
  · rw [mine] at passing
    cases passing
  · rw [same] at passing
    cases passing
    exact different rfl

theorem settle_passing (handed : Belongs A) {operation : QueueOperation}
    (waits : A.status thread = .waiting operation) {result : Option EntryAddress}
    (listed : ∀ entry, result = some entry → A.shared.holder entry = .queue) {other : ι}
    (different : other ≠ thread) {entry : EntryAddress} (passing : A.shared.holder entry = .passing other) :
    operation.settle thread result A.shared.holder entry = .passing other := by
  rw [settle_apart ?_ ?_]
  · exact passing
  · intro pushes
    subst pushes
    rw [handed.pushing thread entry waits] at passing
    cases passing
    exact different rfl
  · intro returned
    rw [listed entry returned] at passing
    cases passing

end Belongs

abbrev QueueThreads (ι : Type) :=
  Threads ι QueueOperation (Option EntryAddress) QueuePc (SharedQueue ι)

/-- What a thread relies on while it is at this point of its call. -/
structure Within (operation : QueueOperation) (pc : QueuePc) (a : HeldModel ι) (s : SharedQueue ι) :
    Prop where
  holder : s.holder = a.holder
  contents : s.memory.entry = a.model.contents
  shape : Shape operation a.model s.memory s.queue pc

structure AtRest (a : HeldModel ι) (s : SharedQueue ι) : Prop where
  holder : s.holder = a.holder
  refined : a.model.RefinedBy (s.memory,s.queue)

namespace QueueThreads

/-- After `queue_init`, where no entry has been created. -/
def initial (memory : UrbMemory) : QueueThreads ι :=
  ⟨⟨memory,.zeroed,fun _ => .nobody⟩,fun _ => .outside,none⟩

def listed (memory : UrbMemory) : QueueAtomic ι :=
  ⟨⟨⟨memory.entry,[]⟩,fun _ => .nobody⟩,fun _ => .outside⟩

theorem initially (memory : UrbMemory) :
    Critical.Related AtRest (fun _ operation pc a s => Within operation pc a s) Belongs
      (listed memory : QueueAtomic ι) (initial memory) := by
  refine ⟨⟨?_,List.nodup_nil,?_,?_⟩,rfl,rfl,UrbQueue.zeroed_holds,rfl⟩
  · simp [listed]
  · simp [listed]
  · simp [listed]

end QueueThreads

variable [DecidableEq ι]

theorem onHolders_moves {thread : ι} {outer : QueueOuter} {holder next : EntryAddress → Holder ι}
    (moved : onHolders thread outer holder = some next) : Moves thread outer holder next := by
  cases outer with
  | call operation =>
    cases operation with
    | push entry =>
      obtain ⟨mine,same⟩ := Option.ite_none_right_eq_some.mp moved
      cases same
      exact moves_update rfl (.inr (.inl mine)) (by simp) fun _ _ => rfl
    | pop =>
      cases moved
      exact moves_none rfl
    | findRemove seqnum =>
      cases moved
      exact moves_none rfl
  | back result =>
    cases result with
    | none =>
      cases moved
      exact moves_none rfl
    | some entry =>
      cases moved
      exact moves_update rfl (.inr (.inr rfl)) (by simp) (by simp)
  | meanwhile act =>
    cases act with
    | create address node =>
      obtain ⟨free,same⟩ := Option.ite_none_right_eq_some.mp moved
      cases same
      exact moves_update rfl (.inl free) (by simp) (by simp)
    | write address node =>
      obtain ⟨mine,same⟩ := Option.ite_none_right_eq_some.mp moved
      cases same
      have written := @moves_update ι thread (.meanwhile (.write address node)) holder address
        (.thread thread) rfl (.inr (.inl mine)) (by simp) (by simp)
      rwa [← mine,Function.update_eq_self] at written
    | free address =>
      obtain ⟨mine,same⟩ := Option.ite_none_right_eq_some.mp moved
      cases same
      exact moves_update rfl (.inr (.inl mine)) (by simp) (by simp)

namespace Belongs

variable {A : QueueAtomic ι} {thread : ι} {outer : QueueOuter} {next : EntryAddress → Holder ι}

theorem kept_outer (handed : Belongs A) (ready : A.status thread = outer.before)
    (moves : Moves thread outer A.shared.holder next) (contents : EntryAddress → UrbEntry) :
    Belongs ⟨⟨{A.shared.model with contents},next⟩,Function.update A.status thread outer.after⟩ where
  listed address := by
    by_cases about : touched outer = some address
    · exact iff_of_false (moves.unlisted address about) (handed.outside ready moves about)
    · show next address = .queue ↔ _
      rw [moves.elsewhere address about]
      exact handed.listed address
  distinct := handed.distinct
  pushing other entry waits := by
    dsimp only at *
    by_cases same : other = thread
    · subst same
      rw [Function.update_self] at waits
      cases outer with
      | call operation =>
        cases waits
        exact moves.handed entry rfl
      | back result => cases waits
      | meanwhile act => cases waits
    · have waited : A.status other = .waiting (.push entry) := by
        rwa [Function.update_of_ne same] at waits
      have passing := handed.pushing other entry waited
      rw [moves.elsewhere entry (handed.apart ready moves same passing)]
      exact passing
  leaving other entry leaves := by
    dsimp only at *
    by_cases same : other = thread
    · subst same
      rw [Function.update_self] at leaves
      cases outer <;> cases leaves
    · have left : A.status other = .leaving (some entry) := by
        rwa [Function.update_of_ne same] at leaves
      have passing := handed.leaving other entry left
      rw [moves.elsewhere entry (handed.apart ready moves same passing)]
      exact passing

theorem kept_others (handed : Belongs A) {operation : QueueOperation}
    (waits : A.status thread = .waiting operation) {result : Option EntryAddress}
    (listed : ∀ entry, result = some entry → A.shared.holder entry = .queue)
    (mine : ∀ entry, result = some entry →
      operation.settle thread result A.shared.holder entry = .passing thread)
    {model : QueueModel} (distinct : model.entries.Nodup)
    (relisted : ∀ address, operation.settle thread result A.shared.holder address = .queue ↔
      address ∈ model.entries) :
    Belongs ⟨⟨model,operation.settle thread result A.shared.holder⟩,
      Function.update A.status thread (.leaving result)⟩ where
  listed := relisted
  distinct := distinct
  pushing other entry pushes := by
    dsimp only at *
    by_cases same : other = thread
    · subst same
      rw [Function.update_self] at pushes
      cases pushes
    · rw [Function.update_of_ne same] at pushes
      exact handed.settle_passing waits listed same (handed.pushing other entry pushes)
  leaving other entry leaves := by
    dsimp only at *
    by_cases same : other = thread
    · subst same
      rw [Function.update_self] at leaves
      cases leaves
      exact mine entry rfl
    · rw [Function.update_of_ne same] at leaves
      exact handed.settle_passing waits listed same (handed.leaving other entry leaves)

theorem kept_leave (handed : Belongs A) {operation : QueueOperation}
    (waits : A.status thread = .waiting operation) :
    Belongs ⟨(A.shared.perform thread operation).2,
      Function.update A.status thread (.leaving (A.shared.perform thread operation).1)⟩ := by
  rcases operation.finds_or_misses A.shared.model with misses | ⟨before,entry,rest,finds⟩
  · simp only [HeldModel.perform,misses.onList]
    apply handed.kept_others waits (by simp) (by simp)
    · cases operation with
      | push entry =>
        have fresh : entry ∉ A.shared.model.entries := by
          rw [← handed.listed,handed.pushing thread entry waits]
          simp
        exact List.nodup_append.mpr ⟨handed.distinct,List.nodup_singleton entry,by
          intro one listed two added
          rw [List.mem_singleton.mp added]
          exact fun same => fresh (same ▸ listed)⟩
      | pop => exact handed.distinct
      | findRemove seqnum => exact handed.distinct
    · intro address
      cases operation with
      | push entry =>
        simp only [QueueOperation.settle,QueueOperation.joined,List.mem_append,List.mem_singleton]
        by_cases same : address = entry
        · simp [same]
        · rw [Function.update_of_ne same,handed.listed]
          simp [same]
      | pop => exact handed.listed address
      | findRemove seqnum => exact handed.listed address
  · have here : A.shared.holder entry = .queue := by
      rw [handed.listed,finds.listed]
      simp
    have settled : operation.settle thread (some entry) A.shared.holder =
        Function.update A.shared.holder entry (.passing thread) := by
      cases operation with
      | push pushed => exact finds.chosen.elim
      | pop => rfl
      | findRemove seqnum => rfl
    have distinct := handed.distinct
    rw [finds.listed] at distinct
    obtain ⟨outside,shorter⟩ := List.nodup_cons.mp (List.nodup_middle.mp distinct)
    simp only [HeldModel.perform,finds.onList]
    apply handed.kept_others waits
    · intro returned same
      cases same
      exact here
    · intro returned same
      cases same
      rw [settled,Function.update_self]
    · exact shorter
    · intro address
      rw [settled]
      by_cases same : address = entry
      · subst same
        rw [Function.update_self]
        exact iff_of_false (by simp) outside
      · rw [Function.update_of_ne same,handed.listed,finds.listed]
        simp [same]

end Belongs

theorem onMemory_entry (outer : QueueOuter) (memory : UrbMemory) :
    (onMemory outer memory).entry = onContents outer memory.entry := by
  cases outer with
  | call operation => rfl
  | back result => rfl
  | meanwhile act =>
    cases act with
    | create address node => exact UrbMemory.write_entry memory address node
    | write address node => exact UrbMemory.write_entry memory address node
    | free address => rfl

theorem Shape.outer {operation : QueueOperation} {model : QueueModel} {memory : UrbMemory}
    {queue : UrbQueue} {pc : QueuePc} (shape : Shape operation model memory queue pc)
    (outer : QueueOuter) (outside : ∀ address, touched outer = some address → address ∉ model.entries)
    (other : ∀ address, touched outer = some address → operation ≠ .push address) :
    Shape operation {model with contents := onContents outer model.contents} (onMemory outer memory)
      queue pc := by
  cases outer with
  | call operation => exact shape
  | back result => exact shape
  | meanwhile act =>
    cases act with
    | create address node => exact shape.untouched (outside address rfl) (other address rfl)
    | write address node => exact shape.untouched (outside address rfl) (other address rfl)
    | free address => exact shape

theorem queue_correct : Critical.Correct (@queueCode ι) SharedQueue.outer
    HeldModel.outer (fun thread operation a => a.perform thread operation) Belongs AtRest
    (fun _ operation pc a s => Within operation pc a s) where
  kept action A B handed stepped := by
    cases action with
    | outer thread outer =>
      obtain ⟨ready,effected⟩ := Option.ite_none_right_eq_some.mp stepped
      obtain ⟨shared,effected,same⟩ := Option.map_eq_some_iff.mp effected
      obtain ⟨holder,moved,whole⟩ := Option.map_eq_some_iff.mp effected
      subst whole same
      exact handed.kept_outer ready (onHolders_moves moved) _
    | enter thread => cases stepped
    | step thread => cases stepped
    | leave thread =>
      simp only [Critical.atomicStep] at stepped
      split at stepped
      next operation waits =>
        cases stepped
        exact handed.kept_leave waits
      next => cases stepped
  enters A s thread operation handed waits rest := by
    refine ⟨rest.holder,rest.refined.contents,Shape.start operation rest.refined.holds ?_⟩
    intro entry pushes
    subst pushes
    rw [← handed.listed,handed.pushing thread entry waits]
    simp
  advances thread operation pc a s within _ := by
    obtain ⟨contents,holder⟩ := step_keeps pc s
    exact ⟨holder.trans within.holder,contents.trans within.contents,within.shape.step within.contents⟩
  leaves thread operation pc a s result within ended := by
    cases pc <;> cases ended
    obtain ⟨entries,listed,holds⟩ := within.shape.unlock
    simp only [HeldModel.perform,listed]
    refine ⟨trivial,?_,holds,within.contents⟩
    exact congrArg (operation.settle thread result) within.holder
  rest_outer A s next thread outer handed ready rest effected := by
    obtain ⟨holder,moved,same⟩ := Option.map_eq_some_iff.mp effected
    subst same
    rw [rest.holder] at moved
    have moves := onHolders_moves moved
    have shape : Shape .pop A.shared.model s.memory s.queue .readHead := ⟨rfl,rest.refined.holds⟩
    have still := shape.outer outer (fun _ => handed.outside ready moves) (by simp)
    refine ⟨⟨_,holder⟩,?_,rfl,still.2,?_⟩
    · simp only [HeldModel.outer,moved,Option.map_some]
    · exact (onMemory_entry outer s.memory).trans (congrArg (onContents outer) rest.refined.contents)
  within_outer A s next thread outer owner operation pc handed ready waits other within effected := by
    obtain ⟨holder,moved,same⟩ := Option.map_eq_some_iff.mp effected
    subst same
    rw [within.holder] at moved
    have moves := onHolders_moves moved
    refine ⟨⟨{A.shared.model with contents := onContents outer A.shared.model.contents},holder⟩,?_,rfl,?_,?_⟩
    · simp only [HeldModel.outer,moved,Option.map_some]
    · exact (onMemory_entry outer s.memory).trans (congrArg (onContents outer) within.contents)
    · apply within.shape.outer outer (fun _ => handed.outside ready moves)
      intro address about pushes
      subst pushes
      exact handed.apart ready moves other (handed.pushing owner address waits) about

namespace QueueThreads

def step := Critical.step (@queueCode ι) SharedQueue.outer

def atomicStep := Critical.atomicStep (@HeldModel.outer ι _)
  (fun thread operation a => a.perform thread operation)

end QueueThreads

/-- The threads may be interleaved at every assignment: they see the calls and
results of a run on the list in which each call is one step, and whenever nobody
is at the queue, it is that list. -/
theorem queue_linearizable (memory : UrbMemory) {actions : List (Critical.Action ι _ _ EntryUse)}
    {final : QueueThreads ι} (run : Run QueueThreads.step (QueueThreads.initial memory) actions final) :
    ∃ list, Run QueueThreads.atomicStep (QueueThreads.listed memory) (actions.filter Critical.Action.shown) list ∧
      list.status = final.status ∧
      (final.inside = none → list.shared.holder = final.shared.holder ∧
        list.shared.model.RefinedBy (final.shared.memory,final.shared.queue)) ∧
      ∀ address, list.shared.holder address = .queue ↔ address ∈ list.shared.model.entries := by
  obtain ⟨list,atomic,related⟩ := queue_correct.refines run (QueueThreads.initially memory)
  refine ⟨list,atomic,related.status,?_,related.known.listed⟩
  intro free
  have inside := related.inside
  simp only [Critical.Inside,free] at inside
  exact ⟨inside.holder.symm,inside.refined⟩

end Threads

/-- One thread creates an entry and pushes it while the other waits to pop. The
first takes its time: the entry comes back before its call has returned. -/
def pushAndPop : List (Critical.Action Bool QueueOperation (Option EntryAddress) EntryUse) :=
  [.outer false (.meanwhile (.create 7 ⟨.poll 7,none⟩)),.outer true (.call .pop),
    .outer false (.call (.push 7)),.enter false,.step false,.step false,.step false,.step false,
    .leave false,.enter true,.step true,.step true,.step true,.step true,.step true,.leave true,
    .outer true (.back (some 7)),.outer false (.back none)]

theorem queue_linearizable_pair :
    ∃ list, Run QueueThreads.atomicStep (QueueThreads.listed fun address => ⟨.poll (UInt32.ofNat address),none⟩)
      [.outer false (.meanwhile (.create 7 ⟨.poll 7,none⟩)),.outer true (.call .pop),
        .outer false (.call (.push 7)),.leave false,.leave true,.outer true (.back (some 7)),
        .outer false (.back none)] list ∧ ∀ address, list.shared.holder address ≠ .queue := by
  obtain ⟨final,run,free⟩ := run_of_check QueueThreads.step pushAndPop
    (QueueThreads.initial fun address => ⟨.poll (UInt32.ofNat address),none⟩)
    (fun final => final.inside.isNone && final.shared.queue.count == 0) rfl
  rw [Bool.and_eq_true,Option.isNone_iff_eq_none,beq_iff_eq] at free
  obtain ⟨list,atomic,_,rest,listed⟩ := queue_linearizable _ run
  have empty := (rest free.1).2.holds.count
  rw [free.2] at empty
  have none : list.shared.model.entries = [] := by
    apply List.eq_nil_of_length_eq_zero
    exact_mod_cast empty.symm
  refine ⟨list,atomic,?_⟩
  intro address
  rw [ne_eq,listed,none]
  exact List.not_mem_nil

section Leaves

variable (thread : ι) (s : SharedQueue ι)

theorem clear_leaves (entry : EntryAddress) : queueCode.Leaves thread (.clear entry) s :=
  .step _ _ rfl (.ended _ _ _ rfl)

theorem countDown_leaves (entry : EntryAddress) : queueCode.Leaves thread (.countDown entry) s :=
  .step _ _ rfl (clear_leaves thread _ entry)

theorem dropTail_leaves (entry : EntryAddress) : queueCode.Leaves thread (.dropTail entry) s :=
  .step _ _ rfl (countDown_leaves thread _ entry)

theorem advance_leaves (entry : EntryAddress) : queueCode.Leaves thread (.advance entry) s :=
  .step _ _ rfl (dropTail_leaves thread _ entry)

theorem fixTail_leaves (previous : Option EntryAddress) (entry : EntryAddress) :
    queueCode.Leaves thread (.fixTail previous entry) s :=
  .step _ _ rfl (countDown_leaves thread _ entry)

theorem bypass_leaves (previous : Option EntryAddress) (entry : EntryAddress) :
    queueCode.Leaves thread (.bypass previous entry) s :=
  .step _ _ rfl (fixTail_leaves thread _ previous entry)

theorem countUp_leaves (entry : EntryAddress) : queueCode.Leaves thread (.countUp entry) s :=
  .step _ _ rfl (.ended _ _ _ rfl)

theorem setTail_leaves (entry : EntryAddress) : queueCode.Leaves thread (.setTail entry) s :=
  .step _ _ rfl (countUp_leaves thread _ entry)

theorem link_leaves (entry : EntryAddress) : queueCode.Leaves thread (.link entry) s :=
  .step _ _ rfl (setTail_leaves thread _ entry)

theorem look_leaves {rest : List EntryAddress} (seqnum : UInt32) (previous entry : Option EntryAddress)
    (path : Path s.memory.next entry rest none) :
    queueCode.Leaves thread (.look seqnum previous entry) s := by
  induction rest generalizing previous entry with
  | nil =>
    cases path
    exact .step _ _ rfl (.ended _ _ _ rfl)
  | cons first rest ih =>
    cases path.1
    apply Critical.Code.Leaves.step
    · rfl
    · simp only [queueCode,SharedQueue.step]
      split
      next here => exact bypass_leaves thread s previous first
      next other => exact ih (some first) _ path.2

theorem Shape.leaves {operation : QueueOperation} {model : QueueModel} {pc : QueuePc}
    (shape : Shape operation model s.memory s.queue pc) : queueCode.Leaves thread pc s := by
  cases pc with
  | clearNext entry => exact .step _ _ rfl (link_leaves thread _ entry)
  | link entry => exact link_leaves thread s entry
  | setTail entry => exact setTail_leaves thread s entry
  | countUp entry => exact countUp_leaves thread s entry
  | readHead =>
    apply Critical.Code.Leaves.step
    · rfl
    · simp only [queueCode,SharedQueue.step]
      cases s.queue.head with
      | none => exact .ended _ _ _ rfl
      | some first => exact advance_leaves thread s first
  | advance entry => exact advance_leaves thread s entry
  | dropTail entry => exact dropTail_leaves thread s entry
  | readFirst seqnum =>
    obtain ⟨_,holds⟩ := shape
    exact .step _ _ rfl (look_leaves thread s seqnum none _ holds.linked.path)
  | look seqnum previous entry =>
    obtain ⟨_,_,_,_,_,_,_,path⟩ := shape
    exact look_leaves thread s seqnum previous entry path
  | bypass previous entry => exact bypass_leaves thread s previous entry
  | fixTail previous entry => exact fixTail_leaves thread s previous entry
  | countDown entry => exact countDown_leaves thread s entry
  | clear entry => exact clear_leaves thread s entry
  | unlock result => exact .ended _ _ _ rfl

end Leaves

/-- Whoever has the mutex gives it back by steps of its own. -/
theorem queue_mutex_returns [DecidableEq ι] (memory : UrbMemory)
    {actions : List (Critical.Action ι _ _ EntryUse)} {reached : QueueThreads ι}
    (run : Run QueueThreads.step (QueueThreads.initial memory) actions reached) {thread : ι}
    {pc : QueuePc} (holds : reached.inside = some (thread,pc)) :
    ∃ turns after, Run QueueThreads.step reached
      (List.replicate turns (.step thread) ++ [.leave thread]) after ∧ after.inside = none := by
  obtain ⟨_,_,related⟩ := queue_correct.refines run (QueueThreads.initially memory)
  have inside := related.inside
  simp only [Critical.Inside,holds] at inside
  obtain ⟨operation,waits,within⟩ := inside
  have leaves := within.shape.leaves thread reached.shared
  obtain ⟨turns,after,run,free⟩ := @Critical.Code.Leaves.released _ _ _ EntryUse _ _ _ _ _ _
    SharedQueue.outer _ _ _ leaves reached.status _ waits
  rw [← holds] at run
  exact ⟨turns,after,run,free⟩

theorem queue_mutex_returns_midway : ∃ reached turns after,
    Run QueueThreads.step (QueueThreads.initial fun address => ⟨.poll (UInt32.ofNat address),none⟩)
      (pushAndPop.take 5) reached ∧ reached.inside = some (false,.link 7) ∧
    Run QueueThreads.step reached (List.replicate turns (.step false) ++ [.leave false]) after ∧
    after.inside = none := by
  obtain ⟨reached,run,held⟩ := run_of_check QueueThreads.step (pushAndPop.take 5)
    (QueueThreads.initial fun address => ⟨.poll (UInt32.ofNat address),none⟩)
    (fun reached => reached.inside == some (false,.link 7)) rfl
  obtain ⟨turns,after,rest,free⟩ := queue_mutex_returns _ run (beq_iff_eq.mp held)
  exact ⟨reached,turns,after,run,beq_iff_eq.mp held,rest,free⟩

end UsbOverNetwork
