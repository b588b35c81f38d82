import UsbOverNetwork.Server.MainLoop
import UsbOverNetwork.Server.Noninterference

/-! Two main loops side by side. What relates sessions on two servers turn by
turn relates all that the two programs do, connection after connection. -/
namespace UsbOverNetwork
open Runs

/-- A relation between sessions that they start with on related servers, that
every turn of both keeps and that leaves related servers in the end. -/
structure SessionSimulation (servers : Server → Server → Prop) (sessions : Cli → Cli → Prop) :
    Prop where
  starts : ∀ {server other}, servers server other → ∀ socket ipAddress port,
    sessions (.accepted server socket ipAddress port) (.accepted other socket ipAddress port)
  step : ∀ {outcomes turn cli seen next}, sessions cli seen → Cli.step outcomes turn cli = some next →
    ∃ after, Cli.step outcomes turn seen = some after ∧ sessions next after
  sent : ∀ {cli seen}, sessions cli seen → seen.sent = cli.sent
  accepted : ∀ {server socket ipAddress port seen},
    sessions (.accepted server socket ipAddress port) seen →
      ∃ other, seen = .accepted other socket ipAddress port
  serving : ∀ {s seen}, sessions (.serving s) seen → ∃ other, seen = .serving other ∧
    ∀ serverRunning, sessions (.serving {s with serverRunning}) (.serving {other with serverRunning})
  finished : ∀ {server seen}, sessions (.finished server) seen →
    ∃ other, seen = .finished other ∧ servers server other

inductive MainPhase.Related (sessions : Cli → Cli → Prop) : MainPhase → MainPhase → Prop
  | accepting : Related sessions .accepting .accepting
  | accepted (mine theirs : Nat) (socket ipAddress port) :
      Related sessions (.accepted mine socket ipAddress port) (.accepted theirs socket ipAddress port)
  | session (mine theirs : Nat) (cli seen : Cli) (same : sessions cli seen) :
      Related sessions (.session mine cli) (.session theirs seen)
  | ended : Related sessions .ended .ended

def MainPhase.sent : MainPhase → Option (List UInt8)
  | .accepted _ socket _ _ => some socket.sent
  | .session _ cli => cli.sent
  | _ => none

def MainPhase.waiting : MainPhase → Bool
  | .accepting => true
  | _ => false

def MainPhase.forwarding : MainPhase → Bool
  | .session _ (.serving s) => s.urbSession.isSome
  | _ => false

namespace MainLoop

structure Related (servers : Server → Server → Prop) (sessions : Cli → Cli → Prop)
    (s seen : MainLoop) : Prop where
  server : servers s.server seen.server
  authToken : seen.authToken = s.authToken
  running : seen.running = s.running
  phase : s.phase.Related sessions seen.phase

variable {servers : Server → Server → Prop} {sessions : Cli → Cli → Prop}

theorem resume_related (simulation : SessionSimulation servers sessions) (s seen : MainLoop)
    (server : servers s.server seen.server) (authToken : seen.authToken = s.authToken)
    (running : seen.running = s.running) {cli left : Cli} (same : sessions cli left) (mine theirs : Nat) :
    Related servers sessions (s.resume mine cli) (seen.resume theirs left) := by
  cases cli with
  | accepted before socket ipAddress port =>
    obtain ⟨other,rfl⟩ := simulation.accepted same
    exact ⟨server,authToken,running,.session _ _ _ _ same⟩
  | serving session =>
    obtain ⟨other,rfl,flagged⟩ := simulation.serving same
    refine ⟨server,authToken,running,?_⟩
    simp only [MainLoop.resume,running]
    exact .session _ _ _ _ (flagged s.running)
  | finished after =>
    obtain ⟨other,rfl,left⟩ := simulation.finished same
    exact ⟨left,authToken,running,.accepting⟩

theorem step_related (simulation : SessionSimulation servers sessions) (action : MainAction)
    (s next seen : MainLoop) (same : Related servers sessions s seen) (stepped : step action s = some next) :
    ∃ after, step action seen = some after ∧ Related servers sessions next after := by
  obtain ⟨server,authToken,running,phase,connections,log⟩ := s
  obtain ⟨other,token,flag,there,others,events⟩ := seen
  obtain ⟨related,tokens,flags,phases⟩ := same
  simp only at related tokens flags phases
  subst tokens flags
  cases phases with
  | accepting =>
    cases action with
    | accept socket ipAddress port =>
      simp only [step] at stepped ⊢
      split at stepped
      next going =>
        rw [if_pos going]
        cases stepped
        exact ⟨_,rfl,related,rfl,rfl,.accepted _ _ _ _ _⟩
      next _ => cases stepped
    | leave =>
      simp only [step] at stepped ⊢
      split at stepped
      next _ => cases stepped
      next stopped =>
        rw [if_neg stopped]
        cases stepped
        exact ⟨_,rfl,related,rfl,rfl,.ended⟩
    | signal =>
      cases stepped
      exact ⟨_,rfl,related,rfl,rfl,.accepting⟩
    | _ => cases stepped
  | accepted mine theirs socket ipAddress port =>
    cases action with
    | authenticate waits =>
      simp only [step] at stepped ⊢
      split at stepped
      next _ =>
        cases stepped
        exact ⟨_,rfl,related,rfl,rfl,.session _ _ _ _ (simulation.starts related _ _ _)⟩
      next token _ =>
        cases stepped
        refine ⟨_,rfl,related,rfl,rfl,?_⟩
        simp only
        split
        · exact .session _ _ _ _ (simulation.starts related _ _ _)
        · exact .accepting
    | signal =>
      cases stepped
      exact ⟨_,rfl,related,rfl,rfl,.accepted _ _ _ _ _⟩
    | _ => cases stepped
  | session mine theirs cli left same =>
    cases action with
    | session outcomes =>
      simp only [step] at stepped ⊢
      obtain ⟨after,taken,rfl⟩ := Option.map_eq_some_iff.mp stepped
      obtain ⟨reached,again,matched⟩ := simulation.step same taken
      rw [again]
      refine ⟨_,rfl,?_⟩
      apply resume_related simulation
      · exact related
      · rfl
      · rfl
      · exact matched
    | worker outcomes outcome =>
      simp only [step] at stepped ⊢
      obtain ⟨after,taken,rfl⟩ := Option.map_eq_some_iff.mp stepped
      obtain ⟨reached,again,matched⟩ := simulation.step same taken
      rw [again]
      exact ⟨_,rfl,resume_related simulation _ _ related (by rfl) (by rfl) matched _ _⟩
    | signal =>
      cases stepped
      exact ⟨_,rfl,resume_related simulation _ _ related (by rfl) (by rfl) same _ _⟩
    | _ => cases stepped
  | ended =>
    cases action with
    | signal =>
      cases stepped
      exact ⟨_,rfl,related,rfl,rfl,.ended⟩
    | _ => cases stepped

theorem Related.sent (simulation : SessionSimulation servers sessions) {s seen : MainLoop}
    (same : Related servers sessions s seen) : seen.phase.sent = s.phase.sent := by
  obtain ⟨_,_,_,phases⟩ := same
  revert phases
  generalize s.phase = phase
  generalize seen.phase = there
  intro phases
  cases phases with
  | session mine theirs cli left same => exact simulation.sent same
  | _ => rfl

/-- Whatever one of two related programs does, the other can do as well, and it
sends the same bytes. -/
theorem related_run (simulation : SessionSimulation servers sessions) {s seen final : MainLoop}
    {actions : List MainAction} (same : Related servers sessions s seen) (run : Run step s actions final) :
    ∃ other, Run step seen actions other ∧ other.phase.sent = final.phase.sent := by
  obtain ⟨other,matched,last⟩ := run.lockstep _ (step_related simulation) same
  exact ⟨other,matched,last.sent simulation⟩

end MainLoop

end UsbOverNetwork
