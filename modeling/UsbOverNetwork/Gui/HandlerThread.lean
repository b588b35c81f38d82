import UsbOverNetwork.Gui.AcceptThread
import UsbOverNetwork.Server.WholeCalls

/-! How a handler thread of the GUI server comes to the end of its session: it
takes only so many steps, and nothing but a silent peer keeps it waiting. -/
namespace UsbOverNetwork
open Runs

def CallPc.partsLeft : CallPc → Nat
  | .idle _ => 0
  | .checking _ => 5
  | .opening _ => 4
  | .starting _ => 3
  | .updating _ => 2
  | .exporting _ => 1
  | .unlinked => 7
  | .stopping _ => 6
  | .joining _ => 5
  | .cleaning _ => 4
  | .closing _ => 3
  | .unexporting => 2
  | .clearing => 1
  | .gone => 0

namespace CallSystem

variable {s next : CallSystem} {server later : Server} {client after : ClientConnection}
  {pc onward : CallPc} {pointer : ClientPtr}

theorem advance_lowers {outcome : AttachOutcome}
    (advanced : advance server client outcome pc = some (later,after,onward)) :
    onward.partsLeft < pc.partsLeft ∧ after.socket = client.socket := by
  have moved : ThreadMoved 0 server client pc later after onward := advance_moved advanced
  cases moved with
  | transferred => cases advanced
  | attaching => cases advanced
  | unattached => cases advanced
  | detaching => cases advanced
  | unlisted => cases advanced
  | unlinked => cases advanced
  | _ => exact ⟨by simp [CallPc.partsLeft],rfl⟩

theorem advance_linked {outcome : AttachOutcome}
    (advanced : advance server client outcome pc = some (later,after,onward)) :
    onward.linked = pc.linked := by
  have moved : ThreadMoved 0 server client pc later after onward := advance_moved advanced
  rcases moved.linked with ⟨_,same⟩ | ⟨_,_,out⟩
  · exact same
  · subst out
    cases moved
    cases advanced

/-- A worker that was told to stop is not started again. -/
def Halting (server later : Server) : Prop :=
  ∀ (pointer : HandlerPtr) (handler : UrbHandler), server.handlers[pointer]? = some handler →
    handler.running = false →
      ∃ left, later.handlers[pointer]? = some left ∧ left.running = false

theorem halting_set {handlerPointer : HandlerPtr} {handler changed : UrbHandler}
    (found : server.handlers[handlerPointer]? = some handler)
    (halts : handler.running = false → changed.running = false) :
    Halting server (server.setHandler handlerPointer changed) := by
  intro pointer other here halted
  by_cases same : handlerPointer = pointer
  · subst same
    cases found.symm.trans here
    exact ⟨changed,SoleCall.setHandler_found found changed,halts halted⟩
  · refine ⟨other,?_,halted⟩
    rw [Server.setHandler,List.getElem?_set_ne same]
    exact here

theorem ThreadMoved.halting (moved : ThreadMoved pointer server client pc later after onward) :
    Halting server later := by
  cases moved with
  | started busid =>
    intro pointer handler here halted
    exact ⟨handler,(List.getElem?_append_left (List.getElem?_eq_some_iff.mp here).1).trans here,halted⟩
  | stopped _ _ _ _ found => exact halting_set found fun _ => rfl
  | joined _ _ _ _ found => exact halting_set found fun halted => halted
  | cleaned _ _ handler _ found =>
    refine halting_set found fun halted => ?_
    simp only [UrbHandler.cleaned]
    split <;> exact halted
  | _ => exact fun _ handler here halted => ⟨handler,here,halted⟩

theorem step_halting {action : CallAction} (stepped : step action s = some next) :
    Halting s.server next.server := by
  cases step_moved stepped with
  | thread _ _ _ _ _ _ _ _ _ moved => exact moved.halting
  | worked _ pointer handler device outcome found =>
    exact halting_set found fun halted => (urbWorkerStep_flags device outcome handler).running.trans halted
  | _ => exact fun _ handler here halted => ⟨handler,here,halted⟩

/-- What `thread_join` waits for, and what the cleanup after it works on. -/
def Releasing (server : Server) (client : ClientConnection) : CallPc → Prop
  | .joining _ => ∃ pointer handler, client.urbHandler = some pointer ∧
      server.handlers[pointer]? = some handler ∧ handler.running = false
  | .cleaning _ => client.urbHandler ≠ none
  | _ => True

theorem Releasing.keep (releasing : Releasing server client pc) (halting : Halting server later) :
    Releasing later client pc := by
  cases pc with
  | joining release =>
    obtain ⟨handlerPointer,handler,held,here,halted⟩ := releasing
    obtain ⟨left,still,stays⟩ := halting handlerPointer handler here halted
    exact ⟨handlerPointer,left,held,still,stays⟩
  | _ => exact releasing

theorem ThreadMoved.releasing (moved : ThreadMoved pointer server client pc later after onward) :
    Releasing later after onward := by
  cases moved with
  | stopped _ handlerPointer handler held found =>
    exact ⟨handlerPointer,{handler with running := false},held,SoleCall.setHandler_found found _,rfl⟩
  | unstopped _ _ _ held => exact Option.ne_none_iff_exists'.mpr ⟨_,held⟩
  | joined _ _ _ held => exact Option.ne_none_iff_exists'.mpr ⟨_,held⟩
  | unhandled release => cases release <;> trivial
  | cleaned release => cases release <;> trivial
  | _ => trivial

def Joinable (s : CallSystem) : Prop :=
  ∀ (pointer : ClientPtr) (thread : CallThread), s.threads[pointer]? = some thread →
    Releasing s.server thread.client thread.pc

theorem step_joinable {action : CallAction} (joinable : s.Joinable)
    (stepped : step action s = some next) : next.Joinable := by
  have halting := step_halting stepped
  cases step_moved stepped with
  | thread _ pointer client pc server after onward acts here moved =>
    intro other thread found
    rcases thread_set found with ⟨rfl,rfl⟩ | ⟨_,old⟩
    · exact moved.releasing
    · exact (joinable other thread old).keep halting
  | connected socket ipAddress port outcome =>
    intro other thread found
    rcases thread_append found with old | ⟨_,rfl⟩
    · exact (joinable other thread old).keep halting
    · trivial
  | _ => exact fun other thread found => (joinable other thread found).keep halting

/-- A call that has not unlinked its client goes on, unless it waits for the
worker of the client's handler. -/
theorem advance_ready (linked : pc.linked = true) (busy : ∀ result, pc ≠ .idle result)
    (held : ∀ handler, client.urbHandler = some handler → handler < server.handlers.length)
    (releasing : Releasing server client pc) :
    (∀ outcome, ∃ result, advance server client outcome pc = some result) ∨
      ∃ release, pc = .joining release := by
  cases pc with
  | idle result => exact absurd rfl (busy result)
  | checking busid =>
    refine Or.inl fun outcome => ?_
    simp only [advance]
    split <;> exact ⟨_,rfl⟩
  | opening busid =>
    refine Or.inl fun outcome => ?_
    simp only [advance]
    split <;> exact ⟨_,rfl⟩
  | starting busid =>
    refine Or.inl fun outcome => ?_
    simp only [advance]
    split <;> exact ⟨_,rfl⟩
  | stopping release =>
    refine Or.inl fun outcome => ?_
    simp only [advance]
    cases here : client.urbHandler with
    | none => exact ⟨_,rfl⟩
    | some handlerPointer =>
      dsimp only
      rw [List.getElem?_eq_getElem (held handlerPointer here),Option.map_some]
      exact ⟨_,rfl⟩
  | joining release => exact Or.inr ⟨release,rfl⟩
  | cleaning release =>
    refine Or.inl fun outcome => ?_
    obtain ⟨handlerPointer,here⟩ := Option.ne_none_iff_exists'.mp releasing
    simp only [advance,here,Option.bind_eq_bind,Option.bind_some]
    rw [List.getElem?_eq_getElem (held handlerPointer here),Option.bind_some]
    exact ⟨_,rfl⟩
  | closing release =>
    refine Or.inl fun outcome => ?_
    cases release with
    | detach => exact ⟨_,rfl⟩
    | free => cases linked
  | unlinked => cases linked
  | gone => cases linked
  | _ => exact Or.inl fun _ => ⟨_,rfl⟩

end CallSystem

namespace GuiServer

variable {g next : GuiServer} {pointer : ClientPtr}

theorem perform_pcs {call : Option CallAction} (taken : g.perform call = some next) :
    next.pcs = g.pcs := by
  cases call with
  | none => cases taken; rfl
  | some part =>
    obtain ⟨calls,_,rfl⟩ := Option.map_eq_some_iff.mp taken
    rfl

theorem perform_other {call : Option CallAction} (taken : g.perform call = some next)
    (unconnected : ∀ socket ipAddress port outcome,
      call ≠ some (.connect socket ipAddress port outcome))
    (others : ∀ part, call = some part → part.client ≠ some pointer) :
    next.calls.threads[pointer]? = g.calls.threads[pointer]? := by
  cases call with
  | none => cases taken; rfl
  | some part =>
    obtain ⟨calls,moved,rfl⟩ := Option.map_eq_some_iff.mp taken
    cases CallSystem.step_moved moved with
    | connected socket ipAddress port outcome => exact absurd rfl (unconnected _ _ _ _)
    | thread _ mover _ _ _ _ _ acts =>
      refine List.getElem?_set_ne ?_
      rintro rfl
      exact others part rfl acts
    | _ => rfl

theorem perform_thread {thread : CallThread} (here : g.calls.threads[pointer]? = some thread)
    {part : CallAction}
    {move : ClientConnection → CallPc → Option (Server × ClientConnection × CallPc)}
    (acts : CallSystem.step part g.calls = g.calls.moveThread pointer move)
    (taken : g.perform (some part) = some next) :
    ∃ server client pc, move thread.client thread.pc = some (server,client,pc) ∧
      next.calls.threads[pointer]? = some ⟨client,pc⟩ := by
  obtain ⟨calls,moved,rfl⟩ := Option.map_eq_some_iff.mp taken
  rw [acts] at moved
  simp only [CallSystem.moveThread,here,Option.bind_eq_bind,Option.bind_some,
    Option.bind_eq_some_iff] at moved
  obtain ⟨⟨server,client,pc⟩,went,made⟩ := moved
  cases made
  exact ⟨server,client,pc,went,CallSystem.thread_mine here _⟩

theorem perform_call {thread : CallThread} (here : g.calls.threads[pointer]? = some thread)
    {part : Call} (taken : g.perform (some (.call pointer part)) = some next) :
    ∃ server client pc,
      CallSystem.begin g.calls.server pointer thread.client part thread.pc = some (server,client,pc) ∧
      next.calls.threads[pointer]? = some ⟨client,pc⟩ :=
  perform_thread here (show _ = g.calls.moveThread pointer fun client =>
    CallSystem.begin g.calls.server pointer client part from rfl) taken

theorem perform_begin {thread : CallThread} (here : g.calls.threads[pointer]? = some thread)
    {part : Call} (taken : g.perform (some (.call pointer part)) = some next) :
    ∃ result server client pc, thread.pc = .idle result ∧
      CallSystem.begin g.calls.server pointer thread.client part (.idle result) =
        some (server,client,pc) ∧
      next.calls.threads[pointer]? = some ⟨client,pc⟩ := by
  obtain ⟨server,client,pc,begun,there⟩ := perform_call here taken
  cases idle : thread.pc with
  | idle result =>
    rw [idle] at begun
    exact ⟨result,server,client,pc,rfl,begun,there⟩
  | _ =>
    rw [idle] at begun
    cases part <;> cases begun

theorem perform_advance {thread : CallThread} (here : g.calls.threads[pointer]? = some thread)
    {outcome : AttachOutcome} (taken : g.perform (some (.advance pointer outcome)) = some next) :
    ∃ server client pc,
      CallSystem.advance g.calls.server thread.client outcome thread.pc = some (server,client,pc) ∧
      next.calls.threads[pointer]? = some ⟨client,pc⟩ :=
  perform_thread here (show _ = g.calls.moveThread pointer fun client =>
    CallSystem.advance g.calls.server client outcome from rfl) taken

theorem connect_cases {socket : Socket} {ipAddress : CString 63} {port : UInt16}
    {outcome : ConnectOutcome} (stepped : step (.connect socket ipAddress port outcome) g = some next) :
    (¬(g.calls.server.manager.clientCount < maxClients ∧ outcome.alloc = true) ∧
      next.pcs = g.pcs ∧ next.calls.threads = g.calls.threads) ∨
    (g.calls.server.manager.clientCount < maxClients ∧ outcome.alloc = true ∧
      next.pcs = g.pcs ++ [if outcome.handlerData && outcome.thread then .testing else .unserved] ∧
      ∃ client, next.calls.threads = g.calls.threads ++ [⟨client,.idle .success⟩]) := by
  obtain ⟨after,taken,rfl⟩ := Option.map_eq_some_iff.mp stepped
  obtain ⟨calls,moved,rfl⟩ := Option.map_eq_some_iff.mp taken
  simp only [CallSystem.step,clientManagerAdd] at moved
  by_cases room : g.calls.server.manager.clientCount < maxClients
  · rw [if_neg (Nat.not_le_of_lt room)] at moved
    cases alloc : outcome.alloc with
    | false =>
      rw [alloc] at moved
      cases moved
      exact Or.inl ⟨by simp,by simp,rfl⟩
    | true =>
      rw [alloc] at moved
      cases moved
      exact Or.inr ⟨room,rfl,by simp,_,rfl⟩
  · rw [if_pos (Nat.not_lt.mp room)] at moved
    cases moved
    exact Or.inl ⟨fun both => room both.1,by simp,rfl⟩

end GuiServer

def GuiAction.moves (pointer : ClientPtr) : GuiAction → Bool
  | .advance mover _ => mover = pointer
  | _ => false

/-- Where a client can be in its calls while its handler thread is here. -/
def GuiPc.Allows : GuiPc → CallPc → Prop
  | .importing,calling => calling.linked = true
  | .detaching,calling => calling.linked = true
  | .removing,calling => calling.linked = false
  | _,calling => ∃ result, calling = .idle result

/-- A handler thread takes at most so many steps more. Each request takes some
bytes from the stream. -/
def GuiPc.stepsLeft (bytes : Nat) (calling : CallPc) : GuiPc → Nat
  | .unserved => 0
  | .testing => 32 * bytes + 18
  | .receiving => 32 * bytes + 17
  | .handling _ => 32 * bytes + 30
  | .sending _ => 32 * bytes + 19
  | .importing => 32 * bytes + 19 + calling.partsLeft
  | .unsent => 17
  | .detaching => 9 + calling.partsLeft
  | .leaving => 8
  | .removing => calling.partsLeft

def CallThread.stepsLeft (thread : CallThread) (pc : GuiPc) : Nat :=
  pc.stepsLeft thread.client.socket.stream.length thread.pc

namespace GuiServer

variable {g next : GuiServer} {pointer : ClientPtr} {thread : CallThread} {pc onward : GuiPc}
  {call : Option CallAction} {outcome : AttachOutcome}

theorem importReply_onward (server : Server) (client : ClientConnection) (err : ErrorCode) :
    client.socket.SameInput (importReply server client err).2 ∧
      ((importReply server client err).1 = .testing ∨ (importReply server client err).1 = .unsent ∨
        (importReply server client err).1 = .leaving) := by
  have header := sendExact_sameInput client.socket (usbipPackHeaderBasic (importReplyHeader err)).image
  simp only [importReply]
  split
  next socket sent =>
    rw [sent] at header
    split
    next _ =>
      have device := sendExact_sameInput socket (importReplyDevice server client)
      split
      next socket wrote =>
        rw [wrote] at device
        exact ⟨header.trans device,Or.inl rfl⟩
      next _ socket _ wrote =>
        rw [wrote] at device
        exact ⟨header.trans device,Or.inr (Or.inl rfl)⟩
    next _ => exact ⟨header,Or.inr (Or.inr rfl)⟩
  next _ socket _ sent =>
    rw [sent] at header
    exact ⟨header,Or.inr (Or.inr rfl)⟩

/-- A step of the handler thread, and where it leaves the thread and its client's
call: with fewer steps to go, and at a place that fits. -/
def Turns (g next : GuiServer) (pointer : ClientPtr) (thread : CallThread) (pc onward : GuiPc) :
    Prop :=
  ∃ after, next.calls.threads[pointer]? = some after ∧
    after.client.socket.ending = thread.client.socket.ending ∧
    after.stepsLeft onward < thread.stepsLeft pc ∧
    (pc.Allows thread.pc → g.calls.Registered → onward.Allows after.pc)

theorem Turns.quiet (here : g.calls.threads[pointer]? = some thread)
    (taken : g.perform none = some next) (lowers : thread.stepsLeft onward < thread.stepsLeft pc)
    (allows : pc.Allows thread.pc → onward.Allows thread.pc) : g.Turns next pointer thread pc onward := by
  cases taken
  exact ⟨thread,here,rfl,lowers,fun allowed _ => allows allowed⟩

theorem Turns.transfer {socket : Socket} (here : g.calls.threads[pointer]? = some thread)
    (taken : g.perform (some (.call pointer (.transfer socket))) = some next)
    (ending : socket.ending = thread.client.socket.ending)
    (lowers : onward.stepsLeft socket.stream.length thread.pc < thread.stepsLeft pc)
    (allows : ∀ result, onward.Allows (.idle result)) : g.Turns next pointer thread pc onward := by
  obtain ⟨result,server,client,calling,idle,begun,there⟩ := perform_begin here taken
  rw [idle] at lowers
  cases begun
  exact ⟨_,there,ending,lowers,fun _ _ => allows result⟩

theorem Turns.advance (here : g.calls.threads[pointer]? = some thread)
    (taken : g.perform (some (.advance pointer outcome)) = some next)
    (lowers : ∀ bytes (fewer more : CallPc), fewer.partsLeft < more.partsLeft →
      pc.stepsLeft bytes fewer < pc.stepsLeft bytes more)
    (linked : ∀ calling onward : CallPc, onward.linked = calling.linked → pc.Allows calling →
      pc.Allows onward) : g.Turns next pointer thread pc pc := by
  obtain ⟨server,client,calling,advanced,there⟩ := perform_advance here taken
  obtain ⟨fewer,socket⟩ := CallSystem.advance_lowers advanced
  refine ⟨_,there,congrArg Socket.ending socket,?_,fun allowed _ =>
    linked thread.pc calling (CallSystem.advance_linked advanced) allowed⟩
  rw [CallThread.stepsLeft,CallThread.stepsLeft]
  dsimp only
  rw [socket]
  exact lowers _ _ _ fewer

theorem Turns.import {busid : CString 31} (here : g.calls.threads[pointer]? = some thread)
    (taken : g.perform (some (.call pointer (.attach busid))) = some next) :
    g.Turns next pointer thread (.handling (.import busid)) .importing := by
  obtain ⟨_,server,client,calling,_,begun,there⟩ := perform_begin here taken
  cases begun
  refine ⟨_,there,rfl,?_,fun _ _ => rfl⟩
  simp only [CallThread.stepsLeft,GuiPc.stepsLeft,CallPc.partsLeft]
  omega

theorem Turns.detach (here : g.calls.threads[pointer]? = some thread)
    (taken : g.perform (some (.call pointer .detach)) = some next) :
    g.Turns next pointer thread .unsent .detaching := by
  obtain ⟨_,server,client,calling,_,begun,there⟩ := perform_begin here taken
  simp only [CallSystem.begin] at begun
  split at begun <;>
  · cases begun
    refine ⟨_,there,rfl,?_,fun _ _ => rfl⟩
    simp only [CallThread.stepsLeft,GuiPc.stepsLeft,CallPc.partsLeft]
    omega

theorem Turns.remove (here : g.calls.threads[pointer]? = some thread)
    (taken : g.perform (some (.call pointer .remove)) = some next) :
    g.Turns next pointer thread .leaving .removing := by
  obtain ⟨result,server,client,calling,idle,begun,there⟩ := perform_begin here taken
  simp only [CallSystem.begin] at begun
  split at begun
  next unlisted =>
    cases begun
    refine ⟨_,there,rfl,?_,?_⟩
    · simp only [CallThread.stepsLeft,GuiPc.stepsLeft,CallPc.partsLeft]
      omega
    · intro _ registered
      -- nobody but this thread takes the client out of the list
      have listed : pointer ∈ g.calls.server.manager.clients :=
        (registered.listed pointer thread here).mpr (by rw [idle]; rfl)
      simp [ClientManager.unlink,listed] at unlisted
  next manager _ =>
    cases begun
    refine ⟨_,there,rfl,?_,fun _ _ => rfl⟩
    simp only [CallThread.stepsLeft,GuiPc.stepsLeft,CallPc.partsLeft]
    omega

theorem advance_turns (here : g.calls.threads[pointer]? = some thread)
    (handled : g.handlerThread pointer outcome thread pc = some (call,onward))
    (taken : g.perform call = some next) : g.Turns next pointer thread pc onward := by
  cases pc with
  | unserved => cases handled
  | testing =>
    simp only [handlerThread] at handled
    split at handled
    next _ =>
      cases handled
      exact .quiet here taken (by simp [CallThread.stepsLeft,GuiPc.stepsLeft]) fun allowed => allowed
    next _ =>
      cases handled
      exact .quiet here taken (by simp only [CallThread.stepsLeft,GuiPc.stepsLeft]; omega)
        fun allowed => allowed
  | receiving =>
    simp only [handlerThread] at handled
    split at handled
    next _ => cases handled
    next err socket read =>
      cases handled
      refine .transfer here taken (recvRequest_next read).1 ?_ fun result => ⟨result,rfl⟩
      simp only [CallThread.stepsLeft,GuiPc.stepsLeft]
      omega
    next request socket read =>
      cases handled
      obtain ⟨ending,_,eaten⟩ := recvRequest_next read
      have fewer := eaten request rfl
      have size : UsbipHeaderBasic.size = 8 := rfl
      refine .transfer here taken ending ?_ fun result => ⟨result,rfl⟩
      simp only [CallThread.stepsLeft,GuiPc.stepsLeft]
      omega
  | handling request =>
    cases request with
    | devlist =>
      cases handled
      exact .quiet here taken (by simp only [CallThread.stepsLeft,GuiPc.stepsLeft]; omega)
        fun allowed => allowed
    | «import» busid =>
      cases handled
      exact .import here taken
    | unknown =>
      cases handled
      exact .quiet here taken (by simp only [CallThread.stepsLeft,GuiPc.stepsLeft]; omega)
        fun allowed => allowed
  | sending count =>
    have sent := sendDeviceList_sameInput g.calls.server.devices thread.client.socket count
    simp only [handlerThread] at handled
    cases handled
    refine .transfer here taken sent.ending ?_ ?_
    · rw [sent.stream]
      simp only [CallThread.stepsLeft]
      split
      · simp only [GuiPc.stepsLeft]
        omega
      · simp only [GuiPc.stepsLeft]
        omega
    · intro result
      split <;> exact ⟨result,rfl⟩
  | importing =>
    simp only [handlerThread] at handled
    split at handled
    next err idle =>
      cases handled
      obtain ⟨same,onwards⟩ := importReply_onward g.calls.server thread.client err
      refine .transfer here taken same.ending ?_ ?_
      · rw [same.stream]
        simp only [CallThread.stepsLeft]
        rcases onwards with same | same | same <;>
        · rw [same]
          simp only [GuiPc.stepsLeft]
          omega
      · intro result
        rcases onwards with same | same | same <;>
        · rw [same]
          exact ⟨result,rfl⟩
    next _ =>
      cases handled
      refine .advance here taken ?_ ?_
      · intro bytes fewer more less
        simp only [GuiPc.stepsLeft]
        omega
      · intro calling onward same linked
        exact same.trans linked
  | unsent =>
    cases handled
    exact .detach here taken
  | detaching =>
    simp only [handlerThread] at handled
    split at handled
    next result idle =>
      cases handled
      refine .quiet here taken ?_ fun _ => ⟨result,idle⟩
      simp only [CallThread.stepsLeft,GuiPc.stepsLeft]
      omega
    next _ =>
      cases handled
      refine .advance here taken ?_ ?_
      · intro bytes fewer more less
        simp only [GuiPc.stepsLeft]
        omega
      · intro calling onward same linked
        exact same.trans linked
  | leaving =>
    cases handled
    exact .remove here taken
  | removing =>
    cases handled
    refine .advance here taken ?_ ?_
    · intro bytes fewer more less
      exact less
    · intro calling onward same unlinked
      exact same.trans unlinked

/-- The threads are where their clients' calls are, and what a call waits for
exists. -/
structure Staged (g : GuiServer) : Prop where
  registered : g.calls.Registered
  held : g.calls.Held
  joinable : g.calls.Joinable
  length : g.pcs.length = g.calls.threads.length
  allowed : ∀ (pointer : ClientPtr) (thread : CallThread) (pc : GuiPc),
    g.calls.threads[pointer]? = some thread → g.pcs[pointer]? = some pc → pc.Allows thread.pc

theorem start_staged : start.Staged where
  registered := CallSystem.start_registered
  held := fun _ _ found => by cases found
  joinable := fun _ _ found => by cases found
  length := rfl
  allowed := fun _ _ _ found => by cases found

inductive Threads (g : GuiServer) : GuiAction → GuiServer → Prop
  | same (action : GuiAction) (next : GuiServer) (quiet : ∀ pointer, action.moves pointer = false)
      (threads : next.calls.threads = g.calls.threads) (pcs : next.pcs = g.pcs) : Threads g action next
  | joined (action : GuiAction) (next : GuiServer) (client : ClientConnection) (pc : GuiPc)
      (connects : action.connects = true) (started : pc = .testing ∨ pc = .unserved)
      (threads : next.calls.threads = g.calls.threads ++ [⟨client,.idle .success⟩])
      (pcs : next.pcs = g.pcs ++ [pc]) : Threads g action next
  | turned (pointer : ClientPtr) (outcome : AttachOutcome) (next : GuiServer) (thread : CallThread)
      (pc onward : GuiPc) (call : Option CallAction)
      (here : g.calls.threads[pointer]? = some thread) (there : g.pcs[pointer]? = some pc)
      (handled : g.handlerThread pointer outcome thread pc = some (call,onward))
      (turns : g.Turns next pointer thread pc onward) (pcs : next.pcs = g.pcs.set pointer onward)
      (length : next.calls.threads.length = g.calls.threads.length)
      (others : ∀ other, other ≠ pointer → next.calls.threads[other]? = g.calls.threads[other]?) :
      Threads g (.advance pointer outcome) next

theorem perform_nobody {action : GuiAction} (quiet : ∀ pointer, action.moves pointer = false)
    (part : CallAction) (nobody : part.client = none)
    (unconnected : ∀ socket ipAddress port outcome, part ≠ .connect socket ipAddress port outcome)
    (taken : g.perform (some part) = some next) : g.Threads action next := by
  refine .same _ _ quiet (List.ext_getElem? fun pointer => ?_) (perform_pcs taken)
  refine perform_other taken (fun _ _ _ _ same => unconnected _ _ _ _ (Option.some.inj same)) ?_
  rintro _ ⟨⟩
  simp [nobody]

theorem step_threads {action : GuiAction} (stepped : step action g = some next) :
    g.Threads action next := by
  cases action with
  | connect socket ipAddress port result =>
    rcases connect_cases stepped with ⟨_,pcs,threads⟩ | ⟨_,_,pcs,client,threads⟩
    · exact .same _ _ (fun _ => rfl) threads pcs
    · refine .joined _ _ client _ rfl ?_ threads pcs
      split
      · exact Or.inl rfl
      · exact Or.inr rfl
  | advance pointer outcome =>
    have length := GuiListener.gui_length stepped
    simp only [step,Option.bind_eq_bind,Option.bind_eq_some_iff] at stepped
    obtain ⟨thread,here,pc,there,⟨call,onward⟩,handled,after,taken,made⟩ := stepped
    cases made
    have turns : g.Turns after pointer thread pc onward := advance_turns here handled taken
    refine .turned pointer outcome _ thread pc onward call here there handled turns rfl ?_ ?_
    · exact length.resolve_right fun connected => by cases connected.1
    · intro other different
      have mine (part : CallAction) (same : call = some part) : part.client = some pointer :=
        GuiListener.handlerThread_client (handled.trans (by rw [same]))
      have untouched : after.calls.threads[other]? = g.calls.threads[other]? := by
        refine perform_other taken ?_ ?_
        · intro socket ipAddress port result same
          cases mine _ same
        · intro part same acts
          exact different (Option.some.inj (acts.symm.trans (mine part same)))
      exact untouched
  | worker handler outcome => exact perform_nobody (fun _ => rfl) (.worker handler outcome) rfl (by simp) stepped
  | enumerate device alloc => exact perform_nobody (fun _ => rfl) (.enumerate device alloc) rfl (by simp) stepped
  | setShared busid shared => exact perform_nobody (fun _ => rfl) (.setShared busid shared) rfl (by simp) stepped
  | stopServer =>
    cases stepped
    exact .same _ _ (fun _ => rfl) rfl rfl

theorem step_staged (action : GuiAction) (g next : GuiServer) (staged : g.Staged)
    (stepped : step action g = some next) : next.Staged := by
  obtain ⟨registered,held,joinable,length,allowed⟩ := staged
  have calls : next.calls.Registered ∧ next.calls.Held ∧ next.calls.Joinable := by
    rcases step_calls stepped with same | ⟨part,_,moved⟩
    · rw [same]
      exact ⟨registered,held,joinable⟩
    · exact ⟨CallSystem.step_registered part g.calls next.calls registered moved,
        CallSystem.step_held part g.calls next.calls held moved,CallSystem.step_joinable joinable moved⟩
  refine ⟨calls.1,calls.2.1,calls.2.2,?_,?_⟩
  · cases step_threads stepped with
    | same _ _ _ threads pcs => rw [threads,pcs,length]
    | joined _ _ _ _ _ _ threads pcs => rw [threads,pcs,List.length_append,List.length_append,length]; rfl
    | turned _ _ _ _ _ _ _ _ _ _ _ pcs same _ => rw [pcs,List.length_set,same,length]
  · intro pointer thread pc found here
    cases step_threads stepped with
    | same _ _ _ threads pcs =>
      rw [threads] at found
      rw [pcs] at here
      exact allowed pointer thread pc found here
    | joined _ _ client fresh _ started threads pcs =>
      rw [threads] at found
      rw [pcs] at here
      rcases CallSystem.thread_append found with old | ⟨rfl,rfl⟩
      · rw [List.getElem?_append_left (length ▸ (List.getElem?_eq_some_iff.mp old).1)] at here
        exact allowed pointer thread pc old here
      · rw [← length,List.getElem?_concat_length] at here
        cases here
        rcases started with rfl | rfl <;> exact ⟨.success,rfl⟩
    | turned mover outcome _ before place onward _ started there _ turns pcs _ others =>
      rw [pcs] at here
      by_cases same : pointer = mover
      · subst same
        obtain ⟨after,now,_,_,keeps⟩ := turns
        cases found.symm.trans now
        rw [List.getElem?_set_self (List.getElem?_eq_some_iff.mp there).1] at here
        cases here
        exact keeps (allowed pointer before place started there) registered
      · rw [others pointer same] at found
        rw [List.getElem?_set_ne (Ne.symm same)] at here
        exact allowed pointer thread pc found here

end GuiServer

def GuiAction.works : GuiAction → Bool
  | .worker _ _ => true
  | _ => false

namespace GuiServer

/-- The handler thread of this client waits in `recv` for a silent peer, or takes
a step. In `thread_join` it does so once the worker has taken four of its own. -/
def Alive (g : GuiServer) (pointer : ClientPtr) : Prop :=
  (∃ thread, g.calls.threads[pointer]? = some thread ∧ g.pcs[pointer]? = some .receiving ∧
    recvRequest thread.client.socket = none ∧ thread.client.socket.ending = .silent) ∨
  ∃ actions after, actions.length ≤ 4 ∧ (∀ action ∈ actions, action.works = true) ∧
    Run step g actions after ∧ ∀ outcome, ∃ next, step (.advance pointer outcome) after = some next

def stepsLeft (pointer : ClientPtr) (g : GuiServer) : Nat :=
  match g.calls.threads[pointer]?,g.pcs[pointer]? with
  | some thread,some pc => thread.stepsLeft pc
  | _,_ => 0

variable {g next : GuiServer} {pointer : ClientPtr} {thread : CallThread} {pc onward : GuiPc}
  {call : Option CallAction} {outcome : AttachOutcome}

theorem step_stepsLeft {action : GuiAction} (bound : pointer < g.pcs.length)
    (length : g.pcs.length = g.calls.threads.length) (stepped : step action g = some next) :
    next.stepsLeft pointer + (if action.moves pointer then 1 else 0) ≤ g.stepsLeft pointer := by
  cases step_threads stepped with
  | same _ _ quiet threads pcs =>
    rw [stepsLeft,threads,pcs,quiet]
    exact le_rfl
  | joined _ _ client fresh connects _ threads pcs =>
    have quiet : action.moves pointer = false := by
      cases action with
      | connect => rfl
      | _ => cases connects
    rw [stepsLeft,threads,pcs,List.getElem?_append_left bound,
      List.getElem?_append_left (length ▸ bound),quiet]
    exact le_rfl
  | turned mover outcome _ before place onward _ here there _ turns pcs _ others =>
    by_cases same : mover = pointer
    · subst same
      obtain ⟨after,now,_,fewer,_⟩ := turns
      simp only [stepsLeft,now,pcs,List.getElem?_set_self bound,here,there,GuiAction.moves,decide_true,
        if_true]
      exact fewer
    · have quiet : (GuiAction.advance mover outcome).moves pointer = false := decide_eq_false same
      rw [stepsLeft,others pointer (Ne.symm same),pcs,List.getElem?_set_ne same,quiet]
      exact le_rfl

theorem begin_idle (server : Server) (pointer : ClientPtr) (client : ClientConnection) (part : Call) (result : ErrorCode) :
    ∃ begun, CallSystem.begin server pointer client part (.idle result) = some begun := by
  cases part with
  | detach =>
    simp only [CallSystem.begin]
    split <;> exact ⟨_,rfl⟩
  | remove =>
    simp only [CallSystem.begin]
    split <;> exact ⟨_,rfl⟩
  | _ => exact ⟨_,rfl⟩

theorem takes_step (here : g.calls.threads[pointer]? = some thread) (there : g.pcs[pointer]? = some pc)
    (handled : g.handlerThread pointer outcome thread pc = some (call,onward))
    (able : ∃ after, g.perform call = some after) :
    ∃ next, step (.advance pointer outcome) g = some next := by
  obtain ⟨after,taken⟩ := able
  simp only [step,here,there,handled,taken,Option.bind_eq_bind,Option.bind_some]
  exact ⟨_,rfl⟩

theorem takes_call (here : g.calls.threads[pointer]? = some thread) (there : g.pcs[pointer]? = some pc)
    {result : ErrorCode} (idle : thread.pc = .idle result) {part : Call}
    (handled : g.handlerThread pointer outcome thread pc = some (some (.call pointer part),onward)) :
    ∃ next, step (.advance pointer outcome) g = some next := by
  refine takes_step here there handled ?_
  obtain ⟨⟨server,client,calling⟩,begun⟩ := begin_idle g.calls.server pointer thread.client part result
  simp only [perform,CallSystem.step,CallSystem.moveThread,here,idle,begun,Option.bind_eq_bind,
    Option.bind_some,Option.map_some]
  exact ⟨_,rfl⟩

theorem takes_advance (here : g.calls.threads[pointer]? = some thread) (there : g.pcs[pointer]? = some pc)
    {moved : Server × ClientConnection × CallPc}
    (advanced : CallSystem.advance g.calls.server thread.client outcome thread.pc = some moved)
    (handled : g.handlerThread pointer outcome thread pc = some (some (.advance pointer outcome),onward)) :
    ∃ next, step (.advance pointer outcome) g = some next := by
  refine takes_step here there handled ?_
  simp only [perform,CallSystem.step,CallSystem.moveThread,here,advanced,Option.bind_eq_bind,
    Option.bind_some,Option.map_some]
  exact ⟨_,rfl⟩

theorem worker_ends {handlerPointer : HandlerPtr} {handler : UrbHandler}
    (found : g.calls.server.handlers[handlerPointer]? = some handler) (halted : handler.running = false) :
    ∃ actions after ended, actions.length ≤ 4 ∧ (∀ action ∈ actions, action.works = true) ∧
      Run step g actions after ∧ after.pcs = g.pcs ∧ after.calls.threads = g.calls.threads ∧
      after.calls.server.handlers[handlerPointer]? = some ended ∧ ended.worker = .stopped := by
  let joins : Fin 4 → WorkerOutcome := fun _ => ⟨⟨false,false,0,[]⟩,false⟩
  have steps (indices : List (Fin 4)) : ∀ (before : GuiServer) (current : UrbHandler),
      before.calls.server.handlers[handlerPointer]? = some current → current.device = handler.device →
      before.calls.server.device handler.device = g.calls.server.device handler.device →
      ∃ after, Run step before (indices.map fun i => .worker handlerPointer (joins i)) after ∧
        after.pcs = before.pcs ∧ after.calls.threads = before.calls.threads ∧
        after.calls.server.handlers[handlerPointer]? = some (indices.foldl (fun current i =>
          urbWorkerStep (g.calls.server.device handler.device) (joins i) current) current) := by
    induction indices with
    | nil => exact fun before current here _ _ => ⟨before,.nil _,rfl,rfl,here⟩
    | cons i rest ih =>
      intro before current here device same
      let worked := before.calls.server.setHandler handlerPointer
        (urbWorkerStep (g.calls.server.device handler.device) (joins i) current)
      have stepped : step (.worker handlerPointer (joins i)) before =
          some {before with calls := {before.calls with server := worked}} := by
        simp only [step,perform,CallSystem.step,here,Option.map_some,device,same,worked]
      obtain ⟨after,run,pcs,threads,left⟩ := ih
        {before with calls := {before.calls with server := worked}} _
        (SoleCall.setHandler_found here _) ((urbWorkerStep_flags _ (joins i) current).device.trans device)
        same
      exact ⟨after,.cons _ _ _ _ _ stepped run,pcs,threads,left⟩
  obtain ⟨after,run,pcs,threads,left⟩ := steps (List.finRange 4) g handler found rfl rfl
  refine ⟨_,after,_,?_,?_,run,pcs,threads,left,?_⟩
  · rw [List.length_map,List.length_finRange]
  · intro action member
    obtain ⟨i,_,rfl⟩ := List.mem_map.mp member
    rfl
  · exact workerJoin_stopped (g.calls.server.device handler.device) joins handler halted

theorem Alive.now (stepped : ∀ outcome, ∃ next, step (.advance pointer outcome) g = some next) :
    g.Alive pointer :=
  Or.inr ⟨[],g,Nat.zero_le _,fun _ member => (List.not_mem_nil member).elim,.nil _,stepped⟩

theorem Staged.calls (staged : g.Staged) (here : g.calls.threads[pointer]? = some thread)
    (there : g.pcs[pointer]? = some pc) (linked : thread.pc.linked = true)
    (busy : ∀ result, thread.pc ≠ .idle result)
    (handled : ∀ (h : GuiServer) (outcome : AttachOutcome),
      h.handlerThread pointer outcome thread pc = some (some (.advance pointer outcome),pc)) :
    g.Alive pointer := by
  have releasing := staged.joinable pointer thread here
  rcases CallSystem.advance_ready linked busy (staged.held pointer thread here) releasing with
    advances | ⟨release,joining⟩
  · refine .now fun outcome => ?_
    obtain ⟨moved,advanced⟩ := advances outcome
    exact takes_advance here there advanced (handled g outcome)
  · rw [joining] at releasing
    obtain ⟨handlerPointer,handler,held,found,halted⟩ := releasing
    obtain ⟨actions,after,ended,few,works,run,pcs,threads,left,stopped⟩ := worker_ends found halted
    have advanced (outcome : AttachOutcome) :
        CallSystem.advance after.calls.server thread.client outcome thread.pc = some (after.calls.server.setHandler handlerPointer (urbHandlerCancelAll ended),thread.client,
          .cleaning release) := by
      rw [joining]
      simp only [CallSystem.advance,held,left,stopped,Option.bind_eq_bind,Option.bind_some,if_true]
    exact Or.inr ⟨actions,after,few,works,run,fun outcome => takes_advance
      (by rw [threads]; exact here) (by rw [pcs]; exact there) (advanced outcome) (handled after outcome)⟩

theorem Staged.alive (staged : g.Staged) (listed : pointer ∈ g.calls.server.manager.clients)
    (started : g.pcs[pointer]? ≠ some .unserved) : g.Alive pointer := by
  have bound := staged.registered.known pointer listed
  obtain ⟨thread,here⟩ : ∃ thread, g.calls.threads[pointer]? = some thread :=
    ⟨_,List.getElem?_eq_getElem bound⟩
  obtain ⟨pc,there⟩ : ∃ pc, g.pcs[pointer]? = some pc :=
    ⟨_,List.getElem?_eq_getElem (staged.length ▸ bound)⟩
  have linked := (staged.registered.listed pointer thread here).mp listed
  have allowed := staged.allowed pointer thread pc here there
  rw [there] at started
  have quiet {onward : GuiPc}
      (handled : ∀ outcome, g.handlerThread pointer outcome thread pc = some (none,onward)) :
      g.Alive pointer := .now fun outcome => takes_step here there (handled outcome) ⟨g,rfl⟩
  have calls {result : ErrorCode} {part : Call} {onward : GuiPc} (idle : thread.pc = .idle result)
      (handled : ∀ outcome, g.handlerThread pointer outcome thread pc =
        some (some (.call pointer part),onward)) : g.Alive pointer :=
    .now fun outcome => takes_call here there idle (handled outcome)
  cases pc with
  | unserved => exact absurd rfl started
  | testing =>
    by_cases goes : (thread.client.running && g.serverRunning) = true
    · exact quiet fun _ => if_pos goes
    · exact quiet fun _ => if_neg goes
  | receiving =>
    obtain ⟨result,idle⟩ := allowed
    cases read : recvRequest thread.client.socket with
    | none => exact Or.inl ⟨thread,here,there,read,recvRequest_none read⟩
    | some received =>
      obtain ⟨request,socket⟩ := received
      cases request with
      | error err =>
        exact calls idle fun _ => by simp only [handlerThread,read]; rfl
      | ok request =>
        exact calls idle fun _ => by simp only [handlerThread,read]; rfl
  | handling request =>
    obtain ⟨result,idle⟩ := allowed
    cases request with
    | devlist => exact quiet fun _ => rfl
    | «import» busid => exact calls idle fun _ => rfl
    | unknown => exact quiet fun _ => rfl
  | sending count =>
    obtain ⟨result,idle⟩ := allowed
    exact calls idle fun _ => rfl
  | importing =>
    by_cases busy : ∀ result, thread.pc ≠ .idle result
    · exact staged.calls here there linked busy fun h _ => by simp only [handlerThread]
    · obtain ⟨result,idle⟩ := not_forall_not.mp busy
      exact calls idle fun _ => by simp only [handlerThread,idle]; rfl
  | unsent =>
    obtain ⟨result,idle⟩ := allowed
    exact calls idle fun _ => rfl
  | detaching =>
    by_cases busy : ∀ result, thread.pc ≠ .idle result
    · exact staged.calls here there linked busy fun h _ => by simp only [handlerThread]
    · obtain ⟨result,idle⟩ := not_forall_not.mp busy
      exact quiet fun _ => by simp only [handlerThread,idle]; rfl
  | leaving =>
    obtain ⟨result,idle⟩ := allowed
    exact calls idle fun _ => rfl
  | removing =>
    cases linked.symm.trans allowed

/-- The peer's stream comes to an end, or the server has been stopped and the
thread is not in `recv`. -/
def Dismissed (g : GuiServer) (pointer : ClientPtr) : Prop :=
  (∀ thread, g.calls.threads[pointer]? = some thread → thread.client.socket.ending ≠ .silent) ∨
    g.serverRunning = false ∧ g.pcs[pointer]? ≠ some .receiving

/-- The handler thread comes to its call of `client_manager_remove`: it takes
only so many steps and is alive while its client is in the list, and once it is
dismissed its own steps and those of the URB workers unlink the client. -/
structure WillRemove (g : GuiServer) (pointer : ClientPtr) : Prop where
  bounded : ∃ bound, ∀ actions later, Run step g actions later →
    actions.countP (GuiAction.moves pointer) ≤ bound
  alive : ∀ actions later, Run step g actions later →
    pointer ∈ later.calls.server.manager.clients → later.Alive pointer
  leads : ∀ actions later, Run step g actions later → later.Dismissed pointer →
    ∃ own final, (∀ action ∈ own, action.moves pointer = true ∨ action.works = true) ∧
      Run step later own final ∧ pointer ∉ final.calls.server.manager.clients

structure Going (pointer : ClientPtr) (g : GuiServer) : Prop where
  staged : g.Staged
  known : pointer < g.pcs.length
  started : g.pcs[pointer]? ≠ some .unserved

theorem handlerThread_onward
    (handled : g.handlerThread pointer outcome thread pc = some (call,onward)) :
    pc ≠ .unserved ∧ onward ≠ .unserved ∧ (onward = .receiving → g.serverRunning = true) := by
  cases pc with
  | unserved => cases handled
  | testing =>
    simp only [handlerThread] at handled
    split at handled
    next goes =>
      cases handled
      exact ⟨by simp,by simp,fun _ => (Bool.and_eq_true_iff.mp goes).2⟩
    next _ => cases handled; simp
  | receiving =>
    simp only [handlerThread] at handled
    split at handled <;> cases handled <;> simp
  | handling request => cases request <;> (cases handled; simp)
  | sending count =>
    simp only [handlerThread] at handled
    cases handled
    refine ⟨by simp,?_,?_⟩
    · split <;> simp
    · split <;> simp
  | importing =>
    simp only [handlerThread] at handled
    split at handled
    next err _ =>
      cases handled
      rcases (importReply_onward g.calls.server thread.client err).2 with same | same | same <;>
        simp [same]
    next _ => cases handled; simp
  | detaching =>
    simp only [handlerThread] at handled
    split at handled <;> (cases handled; simp)
  | _ => cases handled; simp

theorem step_going (action : GuiAction) (g next : GuiServer) (going : Going pointer g)
    (stepped : step action g = some next) : Going pointer next := by
  obtain ⟨staged,known,started⟩ := going
  have further := step_staged action g next staged stepped
  cases step_threads stepped with
  | same _ _ _ _ pcs => exact ⟨further,pcs ▸ known,pcs ▸ started⟩
  | joined _ _ _ _ _ _ _ pcs =>
    refine ⟨further,?_,?_⟩
    · rw [pcs,List.length_append]
      exact Nat.lt_add_right _ known
    · rw [pcs,List.getElem?_append_left known]
      exact started
  | turned mover outcome _ thread pc onward call _ _ handled _ pcs _ _ =>
    refine ⟨further,?_,?_⟩
    · rw [pcs,List.length_set]
      exact known
    · rw [pcs]
      by_cases same : mover = pointer
      · subst same
        rw [List.getElem?_set_self known]
        exact fun unserved => (handlerThread_onward handled).2.1 (Option.some.inj unserved)
      · rw [List.getElem?_set_ne same]
        exact started

theorem step_serverRunning {action : GuiAction}
    (own : action.moves pointer = true ∨ action.works = true) (stepped : step action g = some next) :
    next.serverRunning = g.serverRunning := by
  have kept {call : Option CallAction} {after : GuiServer} (taken : g.perform call = some after) :
      after.serverRunning = g.serverRunning := by
    cases call with
    | none => cases taken; rfl
    | some part =>
      obtain ⟨calls,_,rfl⟩ := Option.map_eq_some_iff.mp taken
      rfl
  cases action with
  | advance mover outcome =>
    simp only [step,Option.bind_eq_bind,Option.bind_eq_some_iff] at stepped
    obtain ⟨thread,_,pc,_,⟨call,onward⟩,_,after,taken,made⟩ := stepped
    cases made
    have same : after.serverRunning = g.serverRunning := kept taken
    exact same
  | worker handler outcome =>
    have taken : g.perform (some (.worker handler outcome)) = some next := stepped
    exact kept taken
  | _ => rcases own with never | never <;> cases never

theorem step_dismissed {action : GuiAction} (own : action.moves pointer = true ∨ action.works = true)
    (going : Going pointer g) (dismissed : g.Dismissed pointer) (stepped : step action g = some next) :
    next.Dismissed pointer := by
  have running := step_serverRunning own stepped
  cases step_threads stepped with
  | same _ _ _ threads pcs =>
    rw [Dismissed,threads,pcs,running]
    exact dismissed
  | joined _ _ _ _ connects =>
    cases action with
    | connect => rcases own with never | never <;> cases never
    | _ => cases connects
  | turned mover outcome _ thread pc onward call here _ handled turns pcs _ _ =>
    have same : mover = pointer := by
      rcases own with moves | never
      · exact of_decide_eq_true moves
      · cases never
    subst same
    obtain ⟨after,now,ending,_⟩ := turns
    rcases dismissed with ends | ⟨stopped,_⟩
    · refine Or.inl fun other there => ?_
      cases now.symm.trans there
      rw [ending]
      exact ends thread here
    · refine Or.inr ⟨running.trans stopped,?_⟩
      rw [pcs,List.getElem?_set_self going.known]
      intro receiving
      have goes := (handlerThread_onward handled).2.2 (Option.some.inj receiving)
      cases stopped.symm.trans goes

/-- By induction on the steps left: a thread that nothing keeps in `recv` takes
a next step as long as its client is in the list. -/
theorem Going.leads (going : Going pointer g) (dismissed : g.Dismissed pointer) :
    ∃ own final, (∀ action ∈ own, action.moves pointer = true ∨ action.works = true) ∧
      Run step g own final ∧ pointer ∉ final.calls.server.manager.clients := by
  induction left : g.stepsLeft pointer using Nat.strong_induction_on generalizing g with
  | _ steps ih =>
    by_cases listed : pointer ∈ g.calls.server.manager.clients
    · rcases going.staged.alive listed going.started with
        ⟨thread,here,receiving,_,silent⟩ | ⟨actions,after,_,works,run,steps⟩
      · rcases dismissed with ends | ⟨_,elsewhere⟩
        · exact absurd silent (ends thread here)
        · exact absurd receiving elsewhere
      · obtain ⟨next,stepped⟩ := steps CallSystem.granted
        let holds (g : GuiServer) := Going pointer g ∧ g.Dismissed pointer
        have goes (action : GuiAction) (g next : GuiServer)
            (own : action.moves pointer = true ∨ action.works = true) (before : holds g)
            (stepped : step action g = some next) : holds next ∧
              next.stepsLeft pointer + (if action.moves pointer then 1 else 0) ≤ g.stepsLeft pointer :=
          ⟨⟨step_going action g next before.1 stepped,step_dismissed own before.1 before.2 stepped⟩,
            step_stepsLeft before.1.known before.1.staged.length stepped⟩
        have guarded := run.guarded fun action member (_ : GuiServer) =>
          (Or.inr (works action member) : action.moves pointer = true ∨ action.works = true)
        obtain ⟨between,fewer⟩ := guarded.bounded (GuiServer.stepsLeft pointer)
          (GuiAction.moves pointer) holds goes ⟨going,dismissed⟩
        have moves : (GuiAction.advance pointer CallSystem.granted).moves pointer = true := decide_eq_true rfl
        obtain ⟨onward,lower⟩ := goes _ _ _ (Or.inl moves) between stepped
        rw [moves,if_pos rfl] at lower
        obtain ⟨own,final,all,rest,gone⟩ := ih _ (by omega) onward.1 onward.2 rfl
        refine ⟨actions ++ .advance pointer CallSystem.granted::own,final,?_,
          run.append (.cons _ _ _ _ _ stepped rest),gone⟩
        intro action member
        rcases List.mem_append.mp member with early | late
        · exact Or.inr (works action early)
        · rcases List.mem_cons.mp late with rfl | later
          · exact Or.inl moves
          · exact all action later
    · exact ⟨[],g,fun _ member => (List.not_mem_nil member).elim,.nil _,listed⟩

theorem Going.willRemove (going : Going pointer g) : g.WillRemove pointer := by
  have still {actions : List GuiAction} {later : GuiServer} (run : Run step g actions later) :
      Going pointer later := run.invariant (Going pointer) step_going going
  refine ⟨⟨g.stepsLeft pointer,?_⟩,?_,?_⟩
  · intro actions later run
    have bounded := run.bounded (GuiServer.stepsLeft pointer) (GuiAction.moves pointer) (Going pointer)
      step_going (fun _ _ _ before stepped => step_stepsLeft before.known before.staged.length stepped)
      going
    omega
  · exact fun actions later run listed => (still run).staged.alive listed (still run).started
  · exact fun actions later run dismissed => (still run).leads dismissed

theorem unserved_dead (unserved : g.pcs[pointer]? = some .unserved) : ¬g.Alive pointer := by
  rintro (⟨_,_,receiving,_⟩ | ⟨actions,after,_,works,run,steps⟩)
  · cases unserved.symm.trans receiving
  · have guarded := run.guarded fun action member (_ : GuiServer) => works action member
    have waits : after.pcs[pointer]? = some .unserved := by
      refine guarded.invariant (fun g => g.pcs[pointer]? = some .unserved) ?_ unserved
      intro action g next works before stepped
      cases action with
      | worker handler outcome =>
        have taken : g.perform (some (.worker handler outcome)) = some next := stepped
        rw [perform_pcs taken]
        exact before
      | _ => cases works
    obtain ⟨next,stepped⟩ := steps CallSystem.granted
    simp only [step,waits,Option.bind_eq_bind,Option.bind_eq_some_iff] at stepped
    obtain ⟨thread,_,pc,here,_,handled,_⟩ := stepped
    cases here
    cases handled

end GuiServer

end UsbOverNetwork
