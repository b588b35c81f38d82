import UsbOverNetwork.Server.ClientCalls

/-! One client's call with nothing but the workers of the URB handlers in
between: its parts together do what the whole function does. -/
namespace UsbOverNetwork
open Runs

structure SoleCall where
  server : Server
  client : ClientConnection
  pc : CallPc
deriving DecidableEq

inductive SoleAction
  | advance (outcome : AttachOutcome)
  | worker (handler : HandlerPtr) (outcome : WorkerOutcome)
deriving DecidableEq

namespace SoleCall

def step (action : SoleAction) (call : SoleCall) : Option SoleCall :=
  match action with
  | .advance outcome =>
    (CallSystem.advance call.server call.client outcome call.pc).map fun (server,client,pc) =>
      ⟨server,client,pc⟩
  | .worker pointer outcome =>
    (call.server.handlers[pointer]?).map fun handler => {call with
      server := call.server.setHandler pointer
        (urbWorkerStep (call.server.device handler.device) outcome handler)}

def Leads (first last : SoleCall) : Prop := ∃ actions, Run step first actions last

variable {server next : Server} {client after : ClientConnection} {pc onward : CallPc}
  {first middle last : SoleCall} {pointer : HandlerPtr} {handler : UrbHandler}

theorem Leads.refl (call : SoleCall) : Leads call call := ⟨[],.nil _⟩

theorem Leads.trans (head : Leads first middle) (tail : Leads middle last) : Leads first last := by
  obtain ⟨heads,head⟩ := head
  obtain ⟨tails,tail⟩ := tail
  exact ⟨heads ++ tails,head.append tail⟩

theorem leads_advance (outcome : AttachOutcome)
    (advanced : CallSystem.advance server client outcome pc = some (next,after,onward)) :
    Leads ⟨server,client,pc⟩ ⟨next,after,onward⟩ :=
  ⟨_,.single (.advance outcome) (by simp only [step,advanced,Option.map_some])⟩

theorem leads_worker (outcome : WorkerOutcome) (found : server.handlers[pointer]? = some handler) :
    Leads ⟨server,client,pc⟩ ⟨server.setHandler pointer
      (urbWorkerStep (server.device handler.device) outcome handler),client,pc⟩ :=
  ⟨_,.single (.worker pointer outcome) (by simp only [step,found,Option.map_some])⟩

theorem setHandler_found (found : server.handlers[pointer]? = some handler) (changed : UrbHandler) :
    (server.setHandler pointer changed).handlers[pointer]? = some changed := by
  simp only [Server.setHandler]
  rw [List.getElem?_set_self']
  simp [found]

theorem setHandler_twice (changed again : UrbHandler) :
    (server.setHandler pointer changed).setHandler pointer again =
      server.setHandler pointer again := by
  simp only [Server.setHandler,List.set_set]

theorem setHandler_same (found : server.handlers[pointer]? = some handler) :
    server.setHandler pointer handler = server := by
  obtain ⟨bound,here⟩ := List.getElem?_eq_some_iff.mp found
  simp only [Server.setHandler,← here,List.set_getElem_self]

theorem leads_join (joins : Fin 4 → WorkerOutcome) (found : server.handlers[pointer]? = some handler) :
    Leads ⟨server,client,pc⟩ ⟨server.setHandler pointer
      (workerJoin (server.device handler.device) joins handler),client,pc⟩ := by
  have steps (indices : List (Fin 4)) : ∀ current : UrbHandler, current.device = handler.device →
      Leads ⟨server.setHandler pointer current,client,pc⟩ ⟨server.setHandler pointer
        (indices.foldl (fun current i =>
          urbWorkerStep (server.device handler.device) (joins i) current) current),client,pc⟩ := by
    induction indices with
    | nil => exact fun _ _ => .refl _
    | cons i rest ih =>
      intro current device
      have worked : Leads ⟨_,client,pc⟩ _ := leads_worker (joins i) (setHandler_found found current)
      rw [setHandler_twice,device] at worked
      refine worked.trans (ih _ ?_)
      exact (urbWorkerStep_flags _ (joins i) current).device.trans device
  have joined := steps (List.finRange 4) handler rfl
  rw [setHandler_same found] at joined
  exact joined

theorem attach_leads (busid : Busid) (outcome : AttachOutcome) :
    Leads ⟨server,client,.checking busid⟩ ⟨(clientAttachDevice server client busid outcome).2.1,
      (clientAttachDevice server client busid outcome).2.2,
      .idle (clientAttachDevice server client busid outcome).1⟩ := by
  simp only [clientAttachDevice]
  split
  next checked =>
    have opening : Leads ⟨server,client,.checking busid⟩ ⟨server,client,.opening busid⟩ :=
      leads_advance outcome (by simp only [CallSystem.advance,checked])
    split
    next devices opened =>
      have starting : Leads ⟨server,client,.opening busid⟩
          ⟨{server with devices},client,.starting busid⟩ :=
        leads_advance outcome (by simp only [CallSystem.advance,opened])
      split
      next started attached made =>
        have updating : Leads ⟨{server with devices},client,.starting busid⟩
            ⟨started,attached,.updating busid⟩ :=
          leads_advance outcome (by simp only [CallSystem.advance,made])
        have exporting : Leads ⟨started,attached,.updating busid⟩
            ⟨started,attachUpdate attached busid,.exporting busid⟩ := leads_advance outcome rfl
        exact opening.trans (starting.trans (updating.trans (exporting.trans
          (leads_advance outcome rfl))))
      next err stopped left failing failed =>
        refine opening.trans (starting.trans (leads_advance outcome ?_))
        simp only [CallSystem.advance,failed]
    next err devices failing failed =>
      refine opening.trans (leads_advance outcome ?_)
      simp only [CallSystem.advance,failed]
  next failing => exact leads_advance outcome (by simp only [CallSystem.advance])

theorem modify_found (found : server.handlers[pointer]? = some handler)
    (change : UrbHandler → UrbHandler) :
    {server with handlers := server.handlers.modify pointer change} =
      server.setHandler pointer (change handler) := by
  obtain ⟨bound,here⟩ := List.getElem?_eq_some_iff.mp found
  simp only [Server.setHandler,List.modify_eq_take_cons_drop bound,
    List.set_eq_take_append_cons_drop,if_pos bound,here]

theorem setHandler_device (changed : UrbHandler) (busid : Busid) :
    (server.setHandler pointer changed).device busid = server.device busid := rfl

section Release

open CallSystem (granted)

variable (release : Release) (joins : Fin 4 → WorkerOutcome)

theorem stop_leads (held : client.urbHandler = some pointer)
    (found : server.handlers[pointer]? = some handler) (stops : release.stops handler = true) :
    Leads ⟨server,client,.stopping release⟩ ⟨server.setHandler pointer (urbHandlerCancelAll
      (workerJoin (server.device handler.device) joins {handler with running := false})),
      client,.cleaning release⟩ := by
  have stopping : Leads ⟨server,client,.stopping release⟩
      ⟨server.setHandler pointer {handler with running := false},client,.joining release⟩ :=
    leads_advance granted (by
      simp only [CallSystem.advance,held,found,Option.map_some,if_pos stops])
  have joining : Leads ⟨_,client,.joining release⟩ _ :=
    leads_join joins (setHandler_found found {handler with running := false})
  rw [setHandler_twice,setHandler_device] at joining
  refine stopping.trans (joining.trans (leads_advance granted ?_))
  have ended := workerJoin_stopped (server.device handler.device) joins
    {handler with running := false} rfl
  simp only [CallSystem.advance,held,setHandler_found found,Option.bind_eq_bind,Option.bind_some,
    if_pos ended,setHandler_twice]

theorem clean_leads (held : client.urbHandler = some pointer)
    (found : server.handlers[pointer]? = some handler) :
    Leads ⟨server,client,.cleaning release⟩ ⟨server.setHandler pointer handler.cleaned,
      {client with urbHandler := none},.closing release⟩ :=
  leads_advance granted (by
    simp only [CallSystem.advance,held,found,Option.bind_eq_bind,Option.bind_some])

def released (release : Release) (device : Option UsbDevice) (handler : UrbHandler) : UrbHandler :=
  (if release.stops handler then
    urbHandlerCancelAll (workerJoin device joins {handler with running := false})
  else handler).cleaned

theorem release_leads (held : client.urbHandler = some pointer)
    (found : server.handlers[pointer]? = some handler) :
    Leads ⟨server,client,.stopping release⟩
      ⟨server.setHandler pointer (released joins release (server.device handler.device) handler),
        {client with urbHandler := none},.closing release⟩ := by
  simp only [released]
  split
  next stops =>
    have cleaning := clean_leads release held (setHandler_found found (urbHandlerCancelAll
      (workerJoin (server.device handler.device) joins {handler with running := false})))
    rw [setHandler_twice] at cleaning
    exact (stop_leads release joins held found stops).trans cleaning
  next idle =>
    have passing : Leads ⟨server,client,.stopping release⟩ ⟨server,client,.cleaning release⟩ :=
      leads_advance granted (by
        simp only [CallSystem.advance,held,found,Option.map_some,if_neg idle])
    exact passing.trans (clean_leads release held found)

theorem released_detach (device : Option UsbDevice) (handler : UrbHandler) :
    released joins .detach device handler =
      urbHandlerCleanup device joins (urbHandlerStop device joins handler) := by
  have quiet (left : UrbHandler) (ended : left.running = false) :
      urbHandlerCleanup device joins left = left.cleaned := by
    simp only [urbHandlerCleanup,urbHandlerStop,UrbHandler.cleaned,ended]
    cases left.initialized <;> rfl
  simp only [released,urbHandlerStop,Release.stops]
  cases running : handler.running with
  | true =>
    refine (quiet _ ?_).symm
    exact workerJoin_keeps (·.running = false) device joins {handler with running := false}
      (fun handler outcome => (urbWorkerStep_flags device outcome handler).running.trans) rfl
  | false => exact (quiet handler running).symm

theorem released_free (device : Option UsbDevice) (handler : UrbHandler) :
    released joins .free device handler = urbHandlerCleanup device joins handler := by
  by_cases initialized : handler.initialized = true
  · have same := (urbHandlerStop_keeps joins device handler).2.trans initialized
    have stopped : (if Release.free.stops handler then
        urbHandlerCancelAll (workerJoin device joins {handler with running := false})
        else handler) = urbHandlerStop device joins handler := by
      by_cases running : handler.running = true <;>
        simp [Release.stops,urbHandlerStop,running,initialized]
    rw [released,stopped,UrbHandler.cleaned,if_pos same,urbHandlerCleanup,if_neg (by simp [initialized])]
  · simp [released,Release.stops,UrbHandler.cleaned,urbHandlerCleanup,initialized]

theorem detach_leads (held : ∀ pointer, client.urbHandler = some pointer →
      pointer < server.handlers.length) (attached : client.attachedBusid ≠ .empty) :
    Leads ⟨server,client,.stopping .detach⟩ ⟨(clientDetachDevice server client joins).1,
      (clientDetachDevice server client joins).2,.idle .success⟩ := by
  have rest (server : Server) (client : ClientConnection) :
      Leads ⟨server,client,.closing .detach⟩ ⟨detachUnexport (detachDevice server client).1
        (detachDevice server client).2,detachUpdate (detachDevice server client).2,
        .idle .success⟩ :=
    (leads_advance granted rfl).trans ((leads_advance granted rfl).trans (leads_advance granted rfl))
  have stopping : Leads ⟨server,client,.stopping .detach⟩ ⟨(detachHandler server client joins).1,
      (detachHandler server client joins).2,.closing .detach⟩ := by
    simp only [detachHandler]
    split
    next none => exact leads_advance granted (by simp only [CallSystem.advance,none])
    next pointer here =>
      have found := List.getElem?_eq_getElem (held pointer here)
      have cleaned := release_leads .detach joins here found
      rw [released_detach] at cleaned
      rw [stopHandler,modify_found found,cleanupHandler,
        modify_found (setHandler_found found _),setHandler_twice]
      simpa only [setHandler_device,(urbHandlerStop_keeps joins _ _).1] using cleaned
  simp only [clientDetachDevice,if_neg attached]
  exact stopping.trans (rest _ _)

theorem freeClient_elim (server : Server) : freeClient server client joins =
    client.device.elim (client.urbHandler.elim server (cleanupHandler server joins)) fun busid =>
      {client.urbHandler.elim server (cleanupHandler server joins) with
        devices := (client.urbHandler.elim server
          (cleanupHandler server joins)).devices.modifyDevice busid usbCloseDevice} := by
  simp only [freeClient]
  cases client.urbHandler <;> cases client.device <;> rfl

theorem remove_leads (held : ∀ pointer, client.urbHandler = some pointer →
      pointer < server.handlers.length) :
    ∃ after, Leads ⟨server,client,.unlinked⟩ ⟨freeClient
      (if client.attachedBusid ≠ .empty then detachUnexport server client else server) client joins,
      after,.gone⟩ := by
  have stopping : Leads ⟨server,client,.unlinked⟩
      ⟨if client.attachedBusid ≠ .empty then detachUnexport server client else server,
        {client with running := false},.stopping .free⟩ := leads_advance granted rfl
  have same : (if client.attachedBusid ≠ .empty then detachUnexport server client
      else server).handlers = server.handlers := by split <;> rfl
  have closing (server : Server) (left : ClientConnection) (device : left.device = client.device) :
      ∃ after, Leads ⟨server,left,.closing .free⟩ ⟨client.device.elim server fun busid =>
        {server with devices := server.devices.modifyDevice busid usbCloseDevice},after,.gone⟩ := by
    cases here : client.device with
    | none =>
      exact ⟨left,leads_advance granted (by simp only [CallSystem.advance,device,here]; rfl)⟩
    | some busid =>
      exact ⟨_,leads_advance granted (by simp only [CallSystem.advance,device,here]; rfl)⟩
  generalize (if client.attachedBusid ≠ .empty then detachUnexport server client else server) = left
    at stopping same
  rw [freeClient_elim]
  cases here : client.urbHandler with
  | none =>
    have passing : Leads ⟨left,{client with running := false},.stopping .free⟩
        ⟨left,{client with running := false},.closing .free⟩ :=
      leads_advance granted (by simp only [CallSystem.advance,here])
    obtain ⟨after,closed⟩ := closing left {client with running := false} rfl
    exact ⟨after,stopping.trans (passing.trans closed)⟩
  | some pointer =>
    have found := List.getElem?_eq_getElem (same ▸ held pointer here : pointer < left.handlers.length)
    have cleaned := release_leads .free joins
      (show {client with running := false}.urbHandler = some pointer from here) found
    have cleanup := modify_found found fun handler =>
      urbHandlerCleanup (left.device handler.device) joins handler
    rw [released_free,← cleanup] at cleaned
    obtain ⟨after,closed⟩ := closing (cleanupHandler left joins pointer)
      {client with running := false, urbHandler := none} rfl
    exact ⟨after,stopping.trans (cleaned.trans closed)⟩

end Release

end SoleCall

namespace CallSystem

variable {s t : CallSystem} {server next : Server} {client after : ClientConnection}
  {pc onward : CallPc} {pointer : ClientPtr} {result : ErrorCode}

structure Shows (s : CallSystem) (pointer : ClientPtr) (call : SoleCall) (t : CallSystem) : Prop where
  server : t.server = call.server
  threads : t.threads = s.threads.set pointer ⟨call.client,call.pc⟩

theorem Shows.start (here : s.threads[pointer]? = some ⟨client,pc⟩) :
    s.Shows pointer ⟨s.server,client,pc⟩ s := by
  obtain ⟨bound,same⟩ := List.getElem?_eq_some_iff.mp here
  exact ⟨rfl,by rw [← same,List.set_getElem_self]⟩

theorem Shows.thread {call : SoleCall} (bound : pointer < s.threads.length)
    (shows : s.Shows pointer call t) : t.threads[pointer]? = some ⟨call.client,call.pc⟩ := by
  rw [shows.threads,List.getElem?_set_self bound]

theorem moveThread_shows {call : SoleCall} (bound : pointer < s.threads.length)
    (shows : s.Shows pointer call t)
    (move : ClientConnection → CallPc → Option (Server × ClientConnection × CallPc))
    (moved : move call.client call.pc = some (next,after,onward)) :
    ∃ u, t.moveThread pointer move = some u ∧ s.Shows pointer ⟨next,after,onward⟩ u := by
  simp only [moveThread,shows.thread bound,moved,Option.bind_eq_bind,Option.bind_some]
  exact ⟨_,rfl,rfl,by simp only [shows.threads,List.set_set]⟩

def ofSole (pointer : ClientPtr) : SoleAction → CallAction
  | .advance outcome => .advance pointer outcome
  | .worker handler outcome => .worker handler outcome

theorem sole_step {action : SoleAction} {call further : SoleCall} (bound : pointer < s.threads.length)
    (shows : s.Shows pointer call t) (stepped : SoleCall.step action call = some further) :
    ∃ u, step (ofSole pointer action) t = some u ∧ s.Shows pointer further u := by
  cases action with
  | advance outcome =>
    obtain ⟨⟨next,after,onward⟩,advanced,rfl⟩ := Option.map_eq_some_iff.mp stepped
    exact moveThread_shows bound shows (fun client => advance t.server client outcome)
      (shows.server ▸ advanced)
  | worker handlerPointer outcome =>
    obtain ⟨handler,found,rfl⟩ := Option.map_eq_some_iff.mp stepped
    simp only [ofSole,step,shows.server,found,Option.map_some]
    exact ⟨_,rfl,rfl,shows.threads⟩

theorem leads_run {call further : SoleCall} (bound : pointer < s.threads.length)
    (shows : s.Shows pointer call t) (leads : call.Leads further) :
    ∃ actions u, Run step t actions u ∧ s.Shows pointer further u := by
  obtain ⟨_,run⟩ := leads
  refine run.simulate (s.Shows pointer) ?_ shows
  intro action call further t shows stepped
  obtain ⟨u,taken,shown⟩ := sole_step bound shows stepped
  exact ⟨_,u,.single _ taken,shown⟩

theorem call_run (here : s.threads[pointer]? = some ⟨client,pc⟩) (call : Call) {further : SoleCall}
    (begun : begin s.server pointer client call pc = some (next,after,onward))
    (leads : SoleCall.Leads ⟨next,after,onward⟩ further) :
    ∃ actions u, Run step s actions u ∧ s.Shows pointer further u := by
  have bound : pointer < s.threads.length := (List.getElem?_eq_some_iff.mp here).1
  obtain ⟨t,taken,shows⟩ := moveThread_shows bound (.start here)
    (fun client => begin s.server pointer client call) begun
  obtain ⟨actions,u,run,shown⟩ := leads_run bound shows leads
  have stepped : step (.call pointer call) s = some t := taken
  exact ⟨_,u,.cons _ _ _ _ _ stepped run,shown⟩

theorem attach_run (here : s.threads[pointer]? = some ⟨client,.idle result⟩) (busid : Busid)
    (outcome : AttachOutcome) : ∃ actions t, Run step s actions t ∧
      s.Shows pointer ⟨(clientAttachDevice s.server client busid outcome).2.1,
        (clientAttachDevice s.server client busid outcome).2.2,
        .idle (clientAttachDevice s.server client busid outcome).1⟩ t :=
  call_run here (.attach busid) rfl (SoleCall.attach_leads busid outcome)

def Held (s : CallSystem) : Prop :=
  ∀ (pointer : ClientPtr) (thread : CallThread), s.threads[pointer]? = some thread →
    ∀ handler, thread.client.urbHandler = some handler → handler < s.server.handlers.length

theorem ThreadMoved.held (moved : ThreadMoved pointer server client pc next after onward)
    (started : ∀ handler, client.urbHandler = some handler → handler < server.handlers.length) :
    server.handlers.length ≤ next.handlers.length ∧
      ∀ handler, after.urbHandler = some handler → handler < next.handlers.length := by
  cases moved with
  | unstarted => exact ⟨le_refl _,by simp⟩
  | started busid => simp
  | stopped => simpa [Server.setHandler] using started
  | joined => simpa [Server.setHandler] using started
  | cleaned => simp [Server.setHandler]
  | _ => exact ⟨le_refl _,started⟩

theorem step_held (action : CallAction) (s next : CallSystem) (held : s.Held)
    (stepped : step action s = some next) : next.Held := by
  have moved := step_moved stepped
  cases moved with
  | thread _ pointer client pc server after onward _ here moved =>
    obtain ⟨longer,mine⟩ := moved.held (held pointer _ here)
    intro other thread found handler pointed
    rcases thread_set found with ⟨rfl,rfl⟩ | ⟨_,before⟩
    · exact mine handler pointed
    · exact Nat.lt_of_lt_of_le (held other thread before handler pointed) longer
  | connected socket ipAddress port outcome =>
    intro other thread found handler pointed
    rcases thread_append found with before | ⟨_,rfl⟩
    · exact held other thread before handler pointed
    · cases pointed
  | worked _ pointer handler device outcome found =>
    intro other thread here target pointed
    simpa [Server.setHandler] using held other thread here target pointed
  | refused => exact held
  | listed => exact held
  | relisted => exact held

theorem run_held {actions : List CallAction} (run : Run step start actions t) : t.Held :=
  run.invariant Held step_held (by simp [Held,start])

theorem detach_run (here : s.threads[pointer]? = some ⟨client,.idle result⟩) (held : s.Held)
    (joins : Fin 4 → WorkerOutcome) : ∃ actions t, Run step s actions t ∧
      s.Shows pointer ⟨(clientDetachDevice s.server client joins).1,
        (clientDetachDevice s.server client joins).2,.idle .success⟩ t := by
  by_cases empty : client.attachedBusid = .empty
  · have begun : begin s.server pointer client .detach (.idle result) =
        some (s.server,client,.idle .success) := by simp only [begin,if_pos empty]
    simp only [clientDetachDevice,if_pos empty]
    exact call_run here .detach begun (.refl _)
  · have begun : begin s.server pointer client .detach (.idle result) =
        some (s.server,client,.stopping .detach) := by simp only [begin,if_neg empty]
    exact call_run here .detach begun (SoleCall.detach_leads joins (held pointer _ here) empty)

theorem remove_run (here : s.threads[pointer]? = some ⟨client,.idle result⟩) (held : s.Held)
    (joins : Fin 4 → WorkerOutcome) : ∃ actions t after onward, Run step s actions t ∧
      s.Shows pointer ⟨(clientManagerRemove s.server pointer client joins).2,after,onward⟩ t := by
  simp only [clientManagerRemove]
  split
  next absent =>
    have begun : begin s.server pointer client .remove (.idle result) =
        some (s.server,client,.idle .notFound) := by simp only [begin,absent]
    obtain ⟨actions,t,run,shows⟩ := call_run here .remove begun (.refl _)
    exact ⟨actions,t,_,_,run,shows⟩
  next manager unlinked =>
    have begun : begin s.server pointer client .remove (.idle result) =
        some ({s.server with manager},client,.unlinked) := by simp only [begin,unlinked]
    have started : ∀ handler, client.urbHandler = some handler →
        handler < {s.server with manager}.handlers.length := held pointer _ here
    obtain ⟨after,leads⟩ := SoleCall.remove_leads joins started
    obtain ⟨actions,t,run,shows⟩ := call_run here .remove begun leads
    exact ⟨actions,t,_,_,run,shows⟩

end CallSystem

end UsbOverNetwork
