import UsbOverNetwork.Common.Auth
import UsbOverNetwork.Server.Main

/-! The main loop of the command line server: connections one after the other,
each authenticated before its session if a token is set. -/
namespace UsbOverNetwork
open Runs

/-- What a server did for its connections, which are numbered as they come:
the handshakes and their results, and the calls of `client_handle_request`. -/
inductive GateEvent
  | handshake (connection : Nat) (token : Token) (result : ErrorCode)
  | request (connection : Nat)
deriving DecidableEq

/-- In a log, newest first, every request comes after a successful handshake
with this token on its connection. -/
def Gated (token : Token) : List GateEvent → Prop
  | [] => True
  | .handshake _ _ _::earlier => Gated token earlier
  | .request connection::earlier =>
    .handshake connection token .success ∈ earlier ∧ Gated token earlier

inductive MainPhase
  | accepting
  | accepted (connection : Nat) (socket : Socket) (ipAddress : CString 63) (port : UInt16)
  | session (connection : Nat) (cli : Cli)
  | ended

/-- The server is in the session while there is one. `connections` and `log`
are read by no modelled code. -/
structure MainLoop where
  server : Server
  authToken : Option Token
  running : Bool
  phase : MainPhase
  connections : Nat
  log : List GateEvent

inductive MainAction
  | accept (socket : Socket) (ipAddress : CString 63) (port : UInt16)
  | leave
  | authenticate (waits : HandshakeWaits)
  | session (outcomes : CliOutcomes)
  | worker (outcomes : CliOutcomes) (outcome : WorkerOutcome)
  | signal

def Cli.requesting : Cli → Bool
  | .serving s => s.pc = .loop && s.client.state = .connected && s.serverRunning
  | _ => false

namespace MainLoop

/-- As `server_init` leaves it: the token is resolved before the loop starts. -/
def start (server : Server) (keyArg env : Option Token) : MainLoop :=
  ⟨server,some (authGetToken keyArg env),true,.accepting,0,[]⟩

def resume (s : MainLoop) (connection : Nat) : Cli → MainLoop
  | .accepted server socket ipAddress port =>
    {s with phase := .session connection (.accepted server socket ipAddress port)}
  | .serving session =>
    {s with phase := .session connection (.serving {session with serverRunning := s.running})}
  | .finished server => {s with server, phase := .accepting}

def step (action : MainAction) (s : MainLoop) : Option MainLoop :=
  match action,s.phase with
  | .accept socket ipAddress port,.accepting =>
    if s.running then some {s with
      phase := .accepted s.connections socket ipAddress port
      connections := s.connections+1}
    else none
  | .leave,.accepting => if s.running then none else some {s with phase := .ended}
  | .authenticate waits,.accepted connection socket ipAddress port =>
    match s.authToken.filter (·.chars ≠ []) with
    | none => some {s with phase := .session connection (.accepted s.server socket ipAddress port)}
    | some token =>
      let (result,socket) := authServerHandshake (some token) waits socket
      some {s with
        phase := if result = .success
          then .session connection (.accepted s.server socket ipAddress port) else .accepting
        log := .handshake connection token result::s.log}
  | .session outcomes,.session connection cli =>
    (Cli.step outcomes .session cli).map fun next =>
      {s with log := if cli.requesting then .request connection::s.log else s.log}.resume
        connection next
  | .worker outcomes outcome,.session connection cli =>
    (Cli.step outcomes (.worker outcome) cli).map (s.resume connection)
  | .signal,.session connection cli => some ({s with running := false}.resume connection cli)
  | .signal,_ => some {s with running := false}
  | _,_ => none

structure Inv (token : Token) (s : MainLoop) : Prop where
  authToken : s.authToken = some token
  admitted : ∀ connection cli, s.phase = .session connection cli →
    .handshake connection token .success ∈ s.log
  gated : Gated token s.log

variable {token : Token} {s : MainLoop}

theorem Inv.resume (inv : s.Inv token) {connection : Nat}
    (admitted : .handshake connection token .success ∈ s.log) (cli : Cli) :
    (s.resume connection cli).Inv token := by
  cases cli with
  | accepted => exact ⟨inv.authToken,by rintro _ _ ⟨⟩; exact admitted,inv.gated⟩
  | serving session => exact ⟨inv.authToken,by rintro _ _ ⟨⟩; exact admitted,inv.gated⟩
  | finished server => exact ⟨inv.authToken,by simp [MainLoop.resume],inv.gated⟩

theorem step_inv (enabled : token.chars ≠ []) (action : MainAction) (s next : MainLoop)
    (inv : s.Inv token) (stepped : step action s = some next) : next.Inv token := by
  obtain ⟨authToken,admitted,gated⟩ := inv
  simp only [step] at stepped
  split at stepped
  next _ socket ipAddress port _ =>
    split at stepped
    next _ => cases stepped; exact ⟨authToken,by simp,gated⟩
    next _ => cases stepped
  next _ _ =>
    split at stepped
    next _ => cases stepped
    next _ => cases stepped; exact ⟨authToken,by simp,gated⟩
  next waits connection socket ipAddress port phase =>
    have filtered : s.authToken.filter (·.chars ≠ []) = some token := by
      simp [authToken,Option.filter,enabled]
    rw [filtered] at stepped
    cases stepped
    refine ⟨authToken,?_,gated⟩
    intro other cli here
    split at here
    next success =>
      cases here
      simp [success]
    next _ => cases here
  next outcomes connection cli phase =>
    have before := admitted connection cli phase
    obtain ⟨after,_,rfl⟩ := Option.map_eq_some_iff.mp stepped
    split
    next _ =>
      have logged : Inv token {s with log := .request connection::s.log} :=
        ⟨authToken,fun _ _ here => List.mem_cons_of_mem _ (admitted _ _ here),before,gated⟩
      exact logged.resume (List.mem_cons_of_mem _ before) after
    next _ => exact Inv.resume ⟨authToken,admitted,gated⟩ before after
  next outcomes outcome connection cli phase =>
    obtain ⟨after,_,rfl⟩ := Option.map_eq_some_iff.mp stepped
    exact Inv.resume ⟨authToken,admitted,gated⟩ (admitted connection cli phase) after
  next connection cli phase =>
    cases stepped
    have stopped : Inv token {s with running := false} := ⟨authToken,admitted,gated⟩
    exact stopped.resume (admitted connection cli phase) cli
  next _ _ _ => cases stepped; exact ⟨authToken,admitted,gated⟩
  next _ _ => cases stepped

/-- If neither the argument nor the environment says otherwise, no request is
handled before a handshake with the token. -/
theorem run_gated (enabled : token.chars ≠ []) {server : Server} {keyArg : Option Token}
    (agrees : ∀ arg, keyArg = some arg → arg.chars = [] ∨ arg = token)
    {actions : List MainAction} {final : MainLoop}
    (run : Run step (start server keyArg (some token)) actions final) : Gated token final.log := by
  have initially : (start server keyArg (some token)).Inv token :=
    ⟨congrArg some (authGetToken_env enabled agrees),by simp [start],trivial⟩
  exact (run.invariant (Inv token) (step_inv enabled) initially).gated

end MainLoop

end UsbOverNetwork
