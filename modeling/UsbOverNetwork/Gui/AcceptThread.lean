import UsbOverNetwork.Library.Text
import UsbOverNetwork.Gui.ServerGui
import UsbOverNetwork.Server.MainLoop

/-! The accept thread of the GUI server beside its handler threads, from the
start of the listener on, and what both front ends make of a token that is set
in the environment. -/
namespace UsbOverNetwork
open Runs

inductive AcceptPhase
  | accepting
  | accepted (connection : Nat) (socket : Socket) (ipAddress : CString 63) (port : UInt16)
  | admitted (connection : Nat) (socket : Socket) (ipAddress : CString 63) (port : UInt16)

/-- `numbers` has the connection of each client; like `connections` and `log`
it is read by no modelled code. -/
structure GuiListener where
  gui : GuiServer
  authToken : Token
  phase : AcceptPhase
  connections : Nat
  numbers : List Nat
  log : List GateEvent

inductive ListenerAction
  | accept (socket : Socket) (ipAddress : CString 63) (port : UInt16)
  | authenticate (waits : HandshakeWaits)
  | add (outcome : ConnectOutcome)
  | gui (action : GuiAction)

def GuiAction.connects : GuiAction → Bool
  | .connect _ _ _ _ => true
  | _ => false

def GuiServer.requesting (g : GuiServer) : GuiAction → Option ClientPtr
  | .advance pointer _ =>
    match g.calls.threads[pointer]?,g.pcs[pointer]? with
    | some thread,some .testing =>
      if thread.client.running && g.serverRunning then some pointer else none
    | _,_ => none
  | _ => none

namespace GuiListener

/-- `server_gui_start_server`, with the text of the token field as it reads it:
`GetWindowTextA` and `str_copy` keep what fits into `auth_token`. -/
def startServer (field : Token) : GuiListener :=
  ⟨.start,field.truncate (authTokenMaxLen - 1),.accepting,0,[],[]⟩

/-- `server_gui_init` starts the listener right after creating the field, and
the program never reads the environment. -/
def init : GuiListener := startServer .empty

def step (action : ListenerAction) (s : GuiListener) : Option GuiListener :=
  match action,s.phase with
  | .accept socket ipAddress port,.accepting =>
    if s.gui.serverRunning then some {s with
      phase := .accepted s.connections socket ipAddress port
      connections := s.connections+1}
    else none
  | .authenticate waits,.accepted connection socket ipAddress port =>
    if authIsEnabled (some s.authToken) then
      let (result,socket) := authServerHandshake (some s.authToken) waits socket
      some {s with
        phase := if result = .success then .admitted connection socket ipAddress port else .accepting
        log := .handshake connection s.authToken result::s.log}
    else some {s with phase := .admitted connection socket ipAddress port}
  | .add outcome,.admitted connection socket ipAddress port =>
    (GuiServer.step (.connect socket ipAddress port outcome) s.gui).map fun gui => {s with
      gui
      phase := .accepting
      numbers := s.numbers ++
        List.replicate (gui.calls.threads.length - s.gui.calls.threads.length) connection}
  | .gui action,_ =>
    if action.connects then none
    else (GuiServer.step action s.gui).map fun gui => {s with
      gui
      log := match s.gui.requesting action with
        | some pointer => .request (s.numbers.getD pointer 0)::s.log
        | none => s.log}
  | _,_ => none

theorem perform_length {g after : GuiServer} {call : Option CallAction}
    (taken : g.perform call = some after) :
    after.calls.threads.length = g.calls.threads.length ∨
      (∃ socket ipAddress port outcome, call = some (.connect socket ipAddress port outcome)) ∧
        after.calls.threads.length = g.calls.threads.length + 1 := by
  cases call with
  | none => cases taken; exact Or.inl rfl
  | some part =>
    obtain ⟨calls,moved,rfl⟩ := Option.map_eq_some_iff.mp taken
    cases CallSystem.step_moved moved with
    | connected socket ipAddress port outcome =>
      exact Or.inr ⟨⟨socket,ipAddress,port,outcome,rfl⟩,by simp⟩
    | thread => exact Or.inl (List.length_set ..)
    | _ => exact Or.inl rfl

theorem handlerThread_client {g : GuiServer} {pointer : ClientPtr} {outcome : AttachOutcome}
    {thread : CallThread} {pc onward : GuiPc} {call : CallAction}
    (handled : g.handlerThread pointer outcome thread pc = some (some call,onward)) :
    call.client = some pointer := by
  cases pc with
  | unserved => cases handled
  | testing =>
    simp only [GuiServer.handlerThread] at handled
    split at handled
    · cases handled
    · cases handled
  | receiving =>
    simp only [GuiServer.handlerThread] at handled
    split at handled <;> cases handled <;> rfl
  | handling request =>
    cases request with
    | «import» busid => cases handled; rfl
    | _ => cases handled
  | importing =>
    simp only [GuiServer.handlerThread] at handled
    split at handled <;> cases handled <;> rfl
  | detaching =>
    simp only [GuiServer.handlerThread] at handled
    split at handled
    next _ => cases handled
    next _ => cases handled; rfl
  | _ => cases handled; rfl

theorem gui_length {g next : GuiServer} {action : GuiAction}
    (stepped : GuiServer.step action g = some next) :
    next.calls.threads.length = g.calls.threads.length ∨
      action.connects = true ∧ next.calls.threads.length = g.calls.threads.length + 1 := by
  have other (call : Option CallAction) (after : GuiServer)
      (different : ∀ socket ipAddress port outcome,
        call ≠ some (.connect socket ipAddress port outcome))
      (taken : g.perform call = some after) :
      after.calls.threads.length = g.calls.threads.length := by
    rcases perform_length taken with same | ⟨⟨socket,ipAddress,port,outcome,connect⟩,_⟩
    · exact same
    · exact absurd connect (different socket ipAddress port outcome)
  cases action with
  | connect socket ipAddress port outcome =>
    obtain ⟨after,taken,rfl⟩ := Option.map_eq_some_iff.mp stepped
    exact (perform_length taken).imp_right fun longer => ⟨rfl,longer.2⟩
  | advance pointer outcome =>
    simp only [GuiServer.step,Option.bind_eq_bind,Option.bind_eq_some_iff] at stepped
    obtain ⟨thread,_,pc,_,⟨call,onward⟩,handled,after,taken,made⟩ := stepped
    cases made
    have kept : after.calls.threads.length = g.calls.threads.length := by
      refine other call after ?_ taken
      rintro socket ipAddress port result rfl
      cases handlerThread_client handled
    exact Or.inl kept
  | worker handler outcome => exact Or.inl (other (some (.worker handler outcome)) next (by simp) stepped)
  | enumerate device alloc => exact Or.inl (other (some (.enumerate device alloc)) next (by simp) stepped)
  | setShared busid shared => exact Or.inl (other (some (.setShared busid shared)) next (by simp) stepped)
  | stopServer => cases stepped; exact Or.inl rfl

structure Inv (token : Token) (s : GuiListener) : Prop where
  authToken : s.authToken = token
  admitted : ∀ connection socket ipAddress port,
    s.phase = .admitted connection socket ipAddress port →
      .handshake connection token .success ∈ s.log
  numbered : s.numbers.length = s.gui.calls.threads.length
  known : ∀ connection ∈ s.numbers, .handshake connection token .success ∈ s.log
  gated : Gated token s.log

variable {token : Token}

theorem requesting_client {g : GuiServer} {action : GuiAction} {pointer : ClientPtr}
    (requests : g.requesting action = some pointer) : pointer < g.calls.threads.length := by
  cases action with
  | advance other outcome =>
    simp only [GuiServer.requesting] at requests
    split at requests
    next thread found _ =>
      split at requests
      next _ =>
        cases requests
        exact (List.getElem?_eq_some_iff.mp found).1
      next _ => cases requests
    next _ => cases requests
  | _ => cases requests

theorem step_inv (enabled : token.chars ≠ []) (action : ListenerAction) (s next : GuiListener)
    (inv : s.Inv token) (stepped : step action s = some next) : next.Inv token := by
  obtain ⟨authToken,admitted,numbered,known,gated⟩ := inv
  simp only [step] at stepped
  split at stepped
  next _ socket ipAddress port _ =>
    split at stepped
    next _ => cases stepped; exact ⟨authToken,by simp,numbered,known,gated⟩
    next _ => cases stepped
  next waits connection socket ipAddress port phase =>
    rw [if_pos (authToken ▸ authIsEnabled_some enabled)] at stepped
    cases stepped
    refine ⟨authToken,?_,numbered,fun other member => List.mem_cons_of_mem _ (known other member),
      gated⟩
    intro other _ _ _ here
    split at here
    next success =>
      cases here
      rw [success,authToken]
      exact List.mem_cons_self
    next _ => cases here
  next outcome connection socket ipAddress port phase =>
    obtain ⟨gui,connected,rfl⟩ := Option.map_eq_some_iff.mp stepped
    refine ⟨authToken,by simp,?_,?_,gated⟩
    · rcases gui_length connected with same | ⟨_,longer⟩ <;> simp <;> omega
    · intro other member
      rcases List.mem_append.mp member with old | new
      · exact known other old
      · obtain ⟨_,rfl⟩ := List.mem_replicate.mp new
        exact admitted _ _ _ _ phase
  next action =>
    split at stepped
    next _ => cases stepped
    next unconnected =>
      obtain ⟨gui,moved,rfl⟩ := Option.map_eq_some_iff.mp stepped
      have length : s.numbers.length = gui.calls.threads.length := by
        rcases gui_length moved with same | ⟨connects,_⟩
        · exact numbered.trans same.symm
        · exact absurd connects unconnected
      cases requests : s.gui.requesting action with
      | none => exact ⟨authToken,admitted,length,known,gated⟩
      | some pointer =>
        have bound : pointer < s.numbers.length := numbered ▸ requesting_client requests
        have member : s.numbers.getD pointer 0 ∈ s.numbers := by
          rw [List.getD_eq_getElem?_getD,List.getElem?_eq_getElem bound]
          exact List.getElem_mem bound
        exact ⟨authToken,
          fun other _ _ _ here => List.mem_cons_of_mem _ (admitted other _ _ _ here),length,
          fun other inside => List.mem_cons_of_mem _ (known other inside),known _ member,gated⟩
  next _ _ => cases stepped

theorem run_gated (enabled : token.chars ≠ []) {field : Token}
    (filled : field.truncate (authTokenMaxLen - 1) = token) {actions : List ListenerAction}
    {final : GuiListener} (run : Run step (startServer field) actions final) :
    Gated token final.log := by
  have initially : (startServer field).Inv token :=
    ⟨filled,by simp [startServer],rfl,by simp [startServer],trivial⟩
  exact (run.invariant (Inv token) (step_inv enabled) initially).gated

end GuiListener

/-- With a token in the environment, no front end that has taken this token
handles a request of an unauthenticated connection: the command line server
without another one as its argument, and the GUI with it in the field. -/
theorem requests_gated (token : Token) (enabled : token.chars ≠ []) :
    (∀ (server : Server) (keyArg : Option Token) (actions : List MainAction) (final : MainLoop),
      (∀ arg, keyArg = some arg → arg.chars = [] ∨ arg = token) →
      Run MainLoop.step (.start server keyArg (some token)) actions final →
      Gated token final.log) ∧
    ∀ (field : Token) (actions : List ListenerAction) (final : GuiListener),
      field.truncate (authTokenMaxLen - 1) = token →
      Run GuiListener.step (.startServer field) actions final → Gated token final.log :=
  ⟨fun _ _ _ _ agrees run => MainLoop.run_gated enabled agrees run,
    fun _ _ _ filled run => GuiListener.run_gated enabled filled run⟩

def secret : Token := ⟨Text.ascii "secret123",by decide⟩

def patient : HandshakeWaits := ⟨⟨fun _ => 0,fun _ _ => true⟩,⟨fun _ => 0,fun _ _ => true⟩⟩

def member : Socket :=
  ⟨RecvEvent.unread (buildHandshake 69 (some secret) ++ importRequest sharedKeyboard.busid) [],
    .closed,[],[]⟩

theorem requests_gated_member :
    (∃ final, Run MainLoop.step (.start Cli.keyboardServer none (some secret))
      [.accept member .empty 0,.authenticate patient,.session Cli.willing,.session Cli.willing] final ∧
      final.log = [.request 0,.handshake 0 secret .success] ∧ Gated secret final.log) ∧
    ∃ final, Run GuiListener.step (.startServer secret)
      [.accept member .empty 0,.authenticate patient,.add ⟨true,true,true⟩,
        .gui (.advance 0 CallSystem.granted)] final ∧
      final.log = [.request 0,.handshake 0 secret .success] ∧ Gated secret final.log := by
  have gated := requests_gated secret (by decide)
  constructor
  · obtain ⟨final,run,checked⟩ := run_of_check MainLoop.step
      [.accept member .empty 0,.authenticate patient,.session Cli.willing,.session Cli.willing]
      (.start Cli.keyboardServer none (some secret))
      (fun final => decide (final.log = [.request 0,.handshake 0 secret .success])) (by decide +kernel)
    exact ⟨final,run,of_decide_eq_true checked,gated.1 _ none _ final (by simp) run⟩
  · obtain ⟨final,run,checked⟩ := run_of_check GuiListener.step
      [.accept member .empty 0,.authenticate patient,.add ⟨true,true,true⟩,
        .gui (.advance 0 CallSystem.granted)] (.startServer secret)
      (fun final => decide (final.log = [.request 0,.handshake 0 secret .success])) (by decide +kernel)
    exact ⟨final,run,of_decide_eq_true checked,gated.2 secret _ final (by decide) run⟩

/-- The GUI server does not look at the environment, and its field is empty when
it starts to listen: whoever connects is served. -/
theorem gui_not_gated : ∃ final, Run GuiListener.step .init
    [.accept Cli.visitor .empty 0,.authenticate patient,.add ⟨true,true,true⟩,
      .gui (.advance 0 CallSystem.granted)] final ∧
    final.log = [.request 0] ∧ ¬Gated secret final.log := by
  obtain ⟨final,run,checked⟩ := run_of_check GuiListener.step
    [.accept Cli.visitor .empty 0,.authenticate patient,.add ⟨true,true,true⟩,
      .gui (.advance 0 CallSystem.granted)] .init
    (fun final => decide (final.log = [.request 0])) (by decide +kernel)
  have log : final.log = [.request 0] := of_decide_eq_true checked
  refine ⟨final,run,log,?_⟩
  rw [log]
  simp [Gated]

end UsbOverNetwork
