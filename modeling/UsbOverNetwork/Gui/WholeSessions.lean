import UsbOverNetwork.Server.WholeCalls
import UsbOverNetwork.Gui.FrontEnds

/-! A session of the GUI server taken turn by turn is a run of the GUI server
in which no other client comes in between. -/
namespace UsbOverNetwork
open Runs

namespace GuiServer

/-- `h` is `g` with the one handler thread moved on, at `pc` and with its client
at this point of its call. -/
structure Shows (g : GuiServer) (pointer : ClientPtr) (call : SoleCall) (pc : GuiPc)
    (h : GuiServer) : Prop where
  calls : g.calls.Shows pointer call h.calls
  pcs : h.pcs = g.pcs.set pointer pc
  serverRunning : h.serverRunning = g.serverRunning
  held : h.calls.Held

def Reaches (g : GuiServer) (pointer : ClientPtr) (call : SoleCall) (pc : GuiPc) : Prop :=
  ∃ actions h, Run step g actions h ∧ g.Shows pointer call pc h

structure Threaded (g : GuiServer) (pointer : ClientPtr) : Prop where
  calls : pointer < g.calls.threads.length
  pcs : pointer < g.pcs.length

variable {g : GuiServer} {pointer : ClientPtr} {call further : SoleCall} {pc onward : GuiPc}
  {server next : Server} {client after : ClientConnection} {result : ErrorCode}

theorem Reaches.start {calling : CallPc} (held : g.calls.Held)
    (thread : g.calls.threads[pointer]? = some ⟨client,calling⟩) (here : g.pcs[pointer]? = some pc) :
    g.Reaches pointer ⟨g.calls.server,client,calling⟩ pc := by
  obtain ⟨bound,same⟩ := List.getElem?_eq_some_iff.mp here
  refine ⟨[],g,.nil _,.start thread,?_,rfl,held⟩
  rw [← same,List.set_getElem_self]

theorem Reaches.append (reaches : g.Reaches pointer call pc) (action : GuiAction)
    (onwards : ∀ h, g.Shows pointer call pc h →
      ∃ u, step action h = some u ∧ g.Shows pointer further onward u) :
    g.Reaches pointer further onward := by
  obtain ⟨actions,h,run,shows⟩ := reaches
  obtain ⟨u,taken,shown⟩ := onwards h shows
  exact ⟨actions ++ [action],u,run.append (.single action taken),shown⟩

theorem Reaches.quiet (threaded : g.Threaded pointer) (reaches : g.Reaches pointer call pc)
    (outcome : AttachOutcome)
    (handled : ∀ h, g.Shows pointer call pc h →
      h.handlerThread pointer outcome ⟨call.client,call.pc⟩ pc = some (none,onward)) :
    g.Reaches pointer call onward := by
  refine reaches.append (.advance pointer outcome) fun h shows => ?_
  have here : h.pcs[pointer]? = some pc := by rw [shows.pcs,List.getElem?_set_self threaded.pcs]
  simp only [step,shows.calls.thread threaded.calls,here,handled h shows,perform,
    Option.bind_eq_bind,Option.bind_some]
  exact ⟨_,rfl,shows.calls,by simp only [shows.pcs,List.set_set],shows.serverRunning,shows.held⟩

theorem Reaches.part (threaded : g.Threaded pointer) (reaches : g.Reaches pointer call pc)
    (outcome : AttachOutcome) (action : CallAction)
    (handled : ∀ h, g.Shows pointer call pc h →
      h.handlerThread pointer outcome ⟨call.client,call.pc⟩ pc = some (some action,onward))
    (moved : ∀ t, g.calls.Shows pointer call t →
      ∃ u, CallSystem.step action t = some u ∧ g.calls.Shows pointer further u) :
    g.Reaches pointer further onward := by
  refine reaches.append (.advance pointer outcome) fun h shows => ?_
  have here : h.pcs[pointer]? = some pc := by rw [shows.pcs,List.getElem?_set_self threaded.pcs]
  obtain ⟨calls,taken,shown⟩ := moved h.calls shows.calls
  simp only [step,shows.calls.thread threaded.calls,here,handled h shows,perform,taken,
    Option.bind_eq_bind,Option.bind_some,Option.map_some]
  exact ⟨_,rfl,shown,by simp only [shows.pcs,List.set_set],shows.serverRunning,
    CallSystem.step_held action h.calls calls shows.held taken⟩

theorem Reaches.begin (threaded : g.Threaded pointer)
    (reaches : g.Reaches pointer ⟨server,client,.idle result⟩ pc) (part : Call) {calling : CallPc}
    (begun : CallSystem.begin server pointer client part (.idle result) = some (next,after,calling))
    (handled : ∀ h, g.Shows pointer ⟨server,client,.idle result⟩ pc h →
      h.handlerThread pointer CallSystem.granted ⟨client,.idle result⟩ pc =
        some (some (.call pointer part),onward)) :
    g.Reaches pointer ⟨next,after,calling⟩ onward := by
  refine reaches.part threaded CallSystem.granted (.call pointer part) handled fun t shows => ?_
  exact CallSystem.moveThread_shows threaded.calls shows
    (fun client => CallSystem.begin t.server pointer client part) (shows.server ▸ begun)

inductive Waits : GuiPc → Prop
  | importing : Waits .importing
  | detaching : Waits .detaching
  | removing : Waits .removing

theorem Waits.advances (waits : Waits pc) (outcome : AttachOutcome) {thread : CallThread}
    (busy : ∀ result, thread.pc ≠ .idle result) :
    g.handlerThread pointer outcome thread pc = some (some (.advance pointer outcome),pc) := by
  cases waits with
  | removing => rfl
  | _ => simp only [handlerThread]

theorem Reaches.leads (threaded : g.Threaded pointer) (waits : Waits pc)
    (reaches : g.Reaches pointer call pc) (leads : call.Leads further) :
    g.Reaches pointer further pc := by
  obtain ⟨actions,run⟩ := leads
  refine run.invariant (g.Reaches pointer · pc) ?_ reaches
  intro action call further reaches stepped
  cases action with
  | advance outcome =>
    have busy : ∀ result, call.pc ≠ .idle result := by
      intro result idle
      simp [SoleCall.step,idle,CallSystem.advance] at stepped
    exact reaches.part threaded outcome (.advance pointer outcome)
      (fun h _ => waits.advances outcome busy)
      fun t shows => CallSystem.sole_step threaded.calls shows stepped
  | worker handler outcome =>
    refine reaches.append (.worker handler outcome) fun h shows => ?_
    obtain ⟨calls,taken,shown⟩ := CallSystem.sole_step threaded.calls shows.calls stepped
    have worked : CallSystem.step (.worker handler outcome) h.calls = some calls := taken
    simp only [step,perform,worked,Option.map_some]
    exact ⟨_,rfl,shown,shows.pcs,shows.serverRunning,
      CallSystem.step_held _ h.calls calls shows.held worked⟩

theorem Reaches.held (reaches : g.Reaches pointer call pc) (threaded : g.Threaded pointer) :
    ∀ handler, call.client.urbHandler = some handler → handler < call.server.handlers.length := by
  obtain ⟨_,h,_,shows⟩ := reaches
  rw [← shows.calls.server]
  exact shows.held pointer _ (shows.calls.thread threaded.calls)

theorem detach_reaches (threaded : g.Threaded pointer)
    (reaches : g.Reaches pointer ⟨server,client,.idle result⟩ .unsent)
    (joins : Fin 4 → WorkerOutcome) : g.Reaches pointer ⟨(clientDetachDevice server client joins).1,
      (clientDetachDevice server client joins).2,.idle .success⟩ .leaving := by
  have detached : g.Reaches pointer ⟨(clientDetachDevice server client joins).1,
      (clientDetachDevice server client joins).2,.idle .success⟩ .detaching := by
    by_cases empty : client.attachedBusid = .empty
    · simp only [clientDetachDevice,if_pos empty]
      exact reaches.begin threaded .detach (by simp only [CallSystem.begin,if_pos empty])
        fun _ _ => rfl
    · have calling := reaches.begin threaded .detach
        (by simp only [CallSystem.begin,if_neg empty]; rfl) fun _ _ => rfl
      exact calling.leads threaded .detaching
        (SoleCall.detach_leads joins (reaches.held threaded) empty)
  exact detached.quiet threaded CallSystem.granted fun _ _ => rfl

def served (err : ErrorCode) : GuiPc := if err = .success then .testing else .leaving

theorem import_reaches (threaded : g.Threaded pointer) {busid : Busid} {outcome : RequestOutcome}
    {err : ErrorCode}
    (reaches : g.Reaches pointer ⟨server,client,.idle result⟩ (.handling (.import busid)))
    (handled : clientHandleImport server client busid outcome = (err,next,after)) :
    ∃ last, g.Reaches pointer ⟨next,after,.idle last⟩ (served err) := by
  have calling := reaches.begin threaded (.attach busid) rfl fun _ _ => rfl
  have attached := calling.leads threaded .importing (SoleCall.attach_leads busid outcome.attach)
  simp only [clientHandleImport] at handled
  generalize clientAttachDevice server client busid outcome.attach = attach at attached handled
  obtain ⟨answer,started,holder⟩ := attach
  have replied {pc : GuiPc} {socket : Socket}
      (reply : importReply started holder answer = (pc,socket)) :
      g.Reaches pointer ⟨started,{holder with socket},.idle answer⟩ pc := by
    refine attached.begin threaded (.transfer socket) rfl fun h shows => ?_
    simp only [handlerThread,shows.calls.server,reply]
  dsimp only at handled
  split at handled
  next socket sent =>
    split at handled
    next success =>
      split at handled
      next socket wrote =>
        cases handled
        have wrote : sendExact _ (importReplyDevice next holder) = _ := wrote
        have reply : importReply next holder err = (.testing,socket) := by
          simp only [importReply,sent,if_pos success,wrote]
        rw [served,if_pos success]
        exact ⟨_,replied reply⟩
      next failure socket failing failed =>
        cases handled
        have failed : sendExact _ (importReplyDevice started holder) = _ := failed
        have reply : importReply started holder answer = (.unsent,socket) := by
          simp only [importReply,sent,if_pos success,failed]
        exact ⟨_,detach_reaches threaded (replied reply) outcome.joins⟩
    next failure =>
      cases handled
      have reply : importReply next holder err = (.leaving,socket) := by
        simp only [importReply,sent,if_neg failure]
      rw [served,if_neg failure]
      exact ⟨_,replied reply⟩
  next failure socket failing failed =>
    cases handled
    have reply : importReply next holder answer = (.leaving,socket) := by
      simp only [importReply,failed]
    exact ⟨_,replied reply⟩

theorem request_reaches (threaded : g.Threaded pointer) {outcome : RequestOutcome} {err : ErrorCode}
    (reaches : g.Reaches pointer ⟨server,client,.idle result⟩ .testing)
    (running : (client.running && g.serverRunning) = true)
    (handled : clientHandleRequest server client outcome = some (err,next,after)) :
    ∃ last, g.Reaches pointer ⟨next,after,.idle last⟩ (served err) := by
  have receiving : g.Reaches pointer ⟨server,client,.idle result⟩ .receiving :=
    reaches.quiet threaded CallSystem.granted fun h shows => by
      simp only [handlerThread,shows.serverRunning,running,if_true]
  simp only [clientHandleRequest] at handled
  split at handled
  next _ => cases handled
  next failure socket failed =>
    cases handled
    obtain rfl := recvRequest_error failed
    have leaving : g.Reaches pointer ⟨server,{client with socket},.idle result⟩ .leaving :=
      receiving.begin threaded (.transfer socket) rfl fun h shows => by
        simp only [handlerThread,failed]
    exact ⟨result,leaving⟩
  next request socket received =>
    have handling : g.Reaches pointer ⟨server,{client with socket},.idle result⟩ (.handling request) :=
      receiving.begin threaded (.transfer socket) rfl fun h shows => by
        simp only [handlerThread,received]
    cases request with
    | devlist =>
      cases handled
      have sending : g.Reaches pointer _ (.sending (countDevices server.devices)) :=
        handling.quiet threaded CallSystem.granted fun h shows => by
          simp only [handlerThread,shows.calls.server]
      refine ⟨result,sending.begin threaded
        (.transfer (sendDeviceList server.devices socket (countDevices server.devices)).2) rfl
        fun h shows => ?_⟩
      simp only [handlerThread,shows.calls.server]
      rfl
    | «import» busid => exact import_reaches threaded handling (Option.some.inj handled)
    | unknown =>
      cases handled
      exact ⟨result,handling.quiet threaded CallSystem.granted fun _ _ => rfl⟩

theorem connect_step {socket : Socket} {ipAddress : CString 63} {port : UInt16}
    {outcome : ConnectOutcome} {calls : CallSystem}
    (connected : CallSystem.step (.connect socket ipAddress port outcome) g.calls = some calls) :
    step (.connect socket ipAddress port outcome) g = some ⟨calls,
      g.pcs ++ List.replicate (calls.threads.length - g.calls.threads.length)
        (if outcome.handlerData && outcome.thread then .testing else .unserved),g.serverRunning⟩ := by
  simp only [step,perform,connected,Option.map_some]

theorem remove_reaches (threaded : g.Threaded pointer)
    (reaches : g.Reaches pointer ⟨server,client,.idle result⟩ .leaving)
    (joins : Fin 4 → WorkerOutcome) : ∃ after calling,
      g.Reaches pointer ⟨(clientManagerRemove server pointer client joins).2,after,calling⟩
        .removing := by
  simp only [clientManagerRemove]
  split
  next absent =>
    exact ⟨client,.idle .notFound,reaches.begin threaded .remove
      (by simp only [CallSystem.begin,absent]) fun _ _ => rfl⟩
  next manager unlinked =>
    have calling : g.Reaches pointer ⟨{server with manager},client,.unlinked⟩ .removing :=
      reaches.begin threaded .remove (by simp only [CallSystem.begin,unlinked]) fun _ _ => rfl
    obtain ⟨after,leads⟩ := SoleCall.remove_leads joins (calling.held threaded)
    exact ⟨after,_,calling.leads threaded .removing leads⟩

end GuiServer

namespace Gui

open GuiServer (Reaches Threaded served)

structure Serves (s : GuiSession) (g : GuiServer) : Prop where
  server : g.calls.server = s.server
  serverRunning : g.serverRunning = s.serverRunning
  thread : ∃ result, g.calls.threads[s.pointer]? = some ⟨s.client,.idle result⟩
  pc : g.pcs[s.pointer]? = some (if s.removing then .leaving else .testing)
  held : g.calls.Held

structure Accepts (outcomes : CliOutcomes) (server : Server) (g : GuiServer) : Prop where
  server : g.calls.server = server
  serverRunning : g.serverRunning = true
  alloc : ∀ pointer, outcomes.alloc = some pointer → pointer = g.calls.threads.length
  pcs : g.pcs.length = g.calls.threads.length
  held : g.calls.Held

def Seen (outcomes : CliOutcomes) : Gui → GuiServer → Prop
  | .accepted server _ _ _,g => Accepts outcomes server g
  | .serving s,g => Serves s g
  | .finished server,g => g.calls.server = server

variable {outcomes : CliOutcomes} {s : GuiSession} {g : GuiServer}

theorem Serves.threaded (serves : Serves s g) : g.Threaded s.pointer := by
  obtain ⟨_,thread⟩ := serves.thread
  exact ⟨(List.getElem?_eq_some_iff.mp thread).1,(List.getElem?_eq_some_iff.mp serves.pc).1⟩

theorem Serves.reaches (serves : Serves s g) : ∃ result,
    g.Reaches s.pointer ⟨s.server,s.client,.idle result⟩ (if s.removing then .leaving else .testing) := by
  obtain ⟨result,thread⟩ := serves.thread
  exact ⟨result,serves.server ▸ .start serves.held thread serves.pc⟩

theorem serves_of_reaches (after : GuiSession) (result : ErrorCode)
    (threaded : g.Threaded after.pointer)
    (serverRunning : g.serverRunning = after.serverRunning)
    (reaches : g.Reaches after.pointer ⟨after.server,after.client,.idle result⟩
      (if after.removing then .leaving else .testing)) :
    ∃ actions h, Run GuiServer.step g actions h ∧ Serves after h := by
  obtain ⟨actions,h,run,shows⟩ := reaches
  refine ⟨actions,h,run,shows.calls.server,shows.serverRunning.trans serverRunning,
    ⟨result,shows.calls.thread threaded.calls⟩,?_,shows.held⟩
  rw [shows.pcs,List.getElem?_set_self threaded.pcs]

theorem session_seen {next : Gui} (serves : Serves s g)
    (turned : sessionTurn outcomes s = some next) :
    ∃ actions h, Run GuiServer.step g actions h ∧ next.Seen outcomes h := by
  have threaded := serves.threaded
  obtain ⟨result,reaches⟩ := serves.reaches
  simp only [sessionTurn] at turned
  split at turned
  next removing =>
    cases turned
    rw [if_pos removing] at reaches
    obtain ⟨_,_,actions,h,run,shows⟩ := GuiServer.remove_reaches threaded reaches outcomes.removing
    exact ⟨actions,h,run,shows.calls.server⟩
  next staying =>
    rw [if_neg staying] at reaches
    split at turned
    next running =>
      split at turned
      next _ => cases turned
      next err server client handled =>
        cases turned
        rw [← serves.serverRunning] at running
        obtain ⟨last,reached⟩ := GuiServer.request_reaches threaded reaches running handled
        refine serves_of_reaches {s with
          server
          client
          removing := err ≠ .success
          requests := s.requests+1} last threaded serves.serverRunning ?_
        have same : (if decide (err ≠ .success) = true then GuiPc.leaving else .testing) =
            served err := by
          by_cases success : err = .success <;> simp [served,success]
        simp only [same]
        exact reached
    next ending =>
      cases turned
      rw [← serves.serverRunning] at ending
      refine serves_of_reaches {s with removing := true} result threaded serves.serverRunning
        (reaches.quiet threaded CallSystem.granted fun h shows => ?_)
      simp only [GuiServer.handlerThread,shows.serverRunning,if_neg ending,if_true]

theorem accept_seen {server : Server} {socket : Socket} {ipAddress : CString 63} {port : UInt16}
    {next : Gui} (accepts : Accepts outcomes server g)
    (turned : step outcomes .session (.accepted server socket ipAddress port) = some next) :
    ∃ actions h, Run GuiServer.step g actions h ∧ next.Seen outcomes h := by
  obtain ⟨rfl,running,alloc,pcs,held⟩ := accepts
  have fresh : (if outcomes.alloc.isSome then some g.calls.threads.length else none) =
      outcomes.alloc := by
    cases here : outcomes.alloc with
    | none => rfl
    | some pointer => exact congrArg some (alloc pointer here).symm
  simp only [step] at turned
  rcases clientManagerAdd_cases g.calls.server.manager socket ipAddress port outcomes.alloc with
    ⟨err,id,refused⟩ | ⟨pointer,made,added⟩
  · rw [refused] at turned
    cases turned
    have connected : CallSystem.step
        (.connect socket ipAddress port ⟨outcomes.alloc.isSome,true,true⟩) g.calls =
        some {g.calls with server := {g.calls.server with
          manager := {g.calls.server.manager with nextClientId := id}}} := by
      simp only [CallSystem.step,fresh,refused]
    exact ⟨_,_,.single _ (GuiServer.connect_step connected),rfl⟩
  · rw [added] at turned
    cases turned
    obtain rfl := alloc pointer made
    obtain ⟨calls,connected,server,threads⟩ : ∃ calls, CallSystem.step
        (.connect socket ipAddress port ⟨outcomes.alloc.isSome,true,true⟩) g.calls = some calls ∧
        calls.server = {g.calls.server with
          manager := ⟨g.calls.threads.length::g.calls.server.manager.clients,
            g.calls.server.manager.clientCount+1,g.calls.server.manager.nextClientId+1⟩} ∧
        calls.threads = g.calls.threads ++
          [⟨{createClient g.calls.server.manager.nextClientId socket ipAddress port with
            running := true},.idle .success⟩] := by
      simp only [CallSystem.step,fresh,added]
      exact ⟨_,rfl,rfl,rfl⟩
    refine ⟨_,_,.single _ (GuiServer.connect_step connected),server,running,⟨.success,?_⟩,?_,
      CallSystem.step_held _ _ _ held connected⟩
    · simp [threads]
    · simp [threads,← pcs]

theorem step_seen (turn : GuiTurn) (gui next : Gui) (g : GuiServer) (seen : gui.Seen outcomes g)
    (stepped : step outcomes turn gui = some next) :
    ∃ actions h, Run GuiServer.step g actions h ∧ next.Seen outcomes h := by
  cases gui with
  | accepted server socket ipAddress port =>
    cases turn with
    | session => exact accept_seen seen stepped
    | _ => cases stepped
  | serving s =>
    obtain ⟨server,running,thread,pc,held⟩ := seen
    cases turn with
    | session => exact session_seen ⟨server,running,thread,pc,held⟩ stepped
    | worker pointer outcome =>
      obtain ⟨handler,found,rfl⟩ := Option.map_eq_some_iff.mp stepped
      have worked : CallSystem.step (.worker pointer outcome) g.calls = some {g.calls with
          server := s.server.setHandler pointer
            (urbWorkerStep (s.server.device handler.device) outcome handler)} := by
        simp only [CallSystem.step,server,found,Option.map_some]
      refine ⟨[.worker pointer outcome],{g with calls := {g.calls with server := _}},
        .single _ ?_,rfl,running,thread,pc,CallSystem.step_held _ _ _ held worked⟩
      simp only [GuiServer.step,GuiServer.perform,worked,Option.map_some]
    | stopServer =>
      cases stepped
      exact ⟨[.stopServer],{g with serverRunning := false},.single _ rfl,server,rfl,thread,pc,held⟩
  | finished server => cases turn <;> cases stepped

theorem run_seen {gui final : Gui} {turns : List GuiTurn}
    (run : Run (step outcomes) gui turns final) (seen : gui.Seen outcomes g) :
    ∃ actions h, Run GuiServer.step g actions h ∧ final.Seen outcomes h :=
  run.simulate (Seen outcomes) step_seen seen

end Gui

end UsbOverNetwork
